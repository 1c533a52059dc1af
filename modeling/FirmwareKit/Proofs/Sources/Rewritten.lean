import FirmwareKit.Proofs.Files.Directories
import FirmwareKit.Proofs.Sources.Gathered

/-! Sources that are not rewritten. Where nothing but the bytes of other files changes, the walk
keeps the same files and finds the same uses in them. Where only the directories and the links are
the same, the walk is still barred at the same places and for the same reasons. -/

namespace FirmwareKit.Sources

open Files Node

variable {f g : Files} {base : Path} {extensions : List String} {ignores : List Glob}

theorem isKept_iff {files : Files} {names : List String} :
    IsKept files base extensions ignores names ↔
      ((files.node? base).bind (Node.at? names)).isSome = true ∧
        keeps files base extensions ignores names = true := by
  rw [IsKept, ← toOption_find]
  cases files.find .target base <;> simp [Except.toOption]

theorem dirBelow_iff {files : Files} (hroot : files.root.Proper) {names : List String} :
    DirBelow files base names ↔
      ((files.node? base).bind (Node.at? names)).any Node.isDir = true := by
  simp only [DirBelow, reached_iff hroot, Option.any_eq_true, ← toOption_find]
  cases files.find .target base <;> simp [Except.toOption]

section Rewritten

variable {places : List String → Prop}

theorem isKept_rewritten (h : RewrittenAt places f g) (names : List String) :
    IsKept g base extensions ignores names ↔ IsKept f base extensions ignores names := by
  rw [isKept_iff, isKept_iff, h.isSome_below, keeps, keeps, ignored, ignored,
    (h.sameKind _).isFile_eq, h.isNamed_eq]

theorem isBarred_rewritten (h : RewrittenAt places f g) (hf : f.root.Proper)
    (hg : g.root.Proper) (names : List String) :
    IsBarred g base names ↔ IsBarred f base names := by
  refine isBarred_congr (fun names => ?_) (fun names _ => ?_) names
  · rw [dirBelow_iff hf, dirBelow_iff hg,
      h.any_below base names Node.isDir isDir_bare fun _ _ => rfl]
  · constructor
    · rintro ⟨inside, hlist⟩
      obtain ⟨inside', hlist', -⟩ := h.symm.exists_list hlist
      exact ⟨inside', hlist'⟩
    · rintro ⟨inside, hlist⟩
      obtain ⟨inside', hlist', -⟩ := h.exists_list hlist
      exact ⟨inside', hlist'⟩

/-- The walk keeps the same files. -/
theorem scan_rewritten (h : RewrittenAt places f g) (hf : f.root.Proper) (hg : g.root.Proper) :
    scan g base extensions ignores = scan f base extensions ignores :=
  scan_congr hf hg (isKept_rewritten h)
    (skipped_congr hf hg (h.sameKind base).isThere_eq (isBarred_rewritten h hf hg) _ _)

theorem usages_rewritten {extractor : Extractor} {race : Nat} {paths : List Path}
    {us : List Usage} (h : RewrittenAt places f g)
    (hpaths : ∀ path ∈ paths, ∀ place, f.place? path = some place → ¬ places place)
    (hus : usages f extractor race paths = .ok us) : usages g extractor race paths = .ok us := by
  rw [usages_congr (f := f) fun path hpath => ?_]
  · exact hus
  · obtain ⟨text, hread⟩ := (usages_eq_ok_iff.1 hus).1 path hpath
    rw [hread, h.readText_eq (hpaths path hpath) hread]

end Rewritten

/-! ### Trees with the same directories -/

/-- What bars the walk is the same in both trees. -/
theorem list_error_of_isBarred {names : List String} {fault : Files.Fault} (hf : f.root.Proper)
    (hplaces : f.SamePlaces g) (h : IsBarred f base names)
    (hlist : f.list (joinNames base names) = .error fault) :
    g.list (joinNames base names) = .error fault := by
  obtain ⟨node, hmet, hdir, -⟩ := h
  cases hmet with
  | base found => exact hplaces.list_error hdir found hlist
  | @entry names entries name _ dir listed entry =>
    have hreached := (met_iff.1 dir).1
    have hname : IsName name := ((hreached.entry entry).proper hf).2 name (by simp)
    obtain ⟨inside, hlisted⟩ := listed
    have hthere : f.isThere (joinNames base names) = true := by
      cases hfind : f.find .target (joinNames base names) with
      | error => simp [list, hfind] at hlisted
      | ok => exact isThere_iff_find.2 ⟨_, hfind⟩
    have hfind := find_of_isThere hf hreached (by simp) hthere
    have hproper := (hreached.proper hf).1
    cases hproper with | dir _ nodup
    rw [joinNames_concat] at hlist ⊢
    exact hplaces.list_join_error hname hfind (lookup_of_mem nodup entry) hdir hlist

/-- The walk from a directory is barred alike if the directories are the same. -/
theorem sameBars_of_isDir (hf : f.root.Proper) (hg : g.root.Proper) (hplaces : f.SamePlaces g)
    (hdir : f.isDir base = true) : SameBars f g base := by
  obtain ⟨place, hplace, hat⟩ := isDir_iff.1 hdir
  have hbelow (names : List String) : DirBelow g base names ↔ DirBelow f base names := by
    rw [dirBelow_iff hf, dirBelow_iff hg, node?, node?, hplaces.place?_eq, hplace,
      Option.bind_some, Option.bind_some, ← at?_append, ← at?_append, hplaces.any_isDir_eq]
  exact sameBars_of_isBarred_iff hf hg (isThere_of_isDir hdir)
    (isThere_of_isDir (by rw [hplaces.isDir_eq, hdir]))
    (isBarred_congr hbelow fun names _ => hplaces.exists_list_iff _) fun names fault =>
      list_error_of_isBarred hf hplaces

end FirmwareKit.Sources
