import FirmwareKit.Command.Check
import FirmwareKit.Proofs.Sources.Gathered
import FirmwareKit.Proofs.Usage.Extraction

/-! The uses in the sources of a project. A use has a place, and the uses that a check
gathers are all there are, in the order of their places. -/

namespace FirmwareKit.Check

open Sources Usage

/-- A place in the sources of a project: the names that lead to a file, a line and a column. -/
structure Place where
  names : List String
  line : Nat
  column : Nat
  deriving DecidableEq, Repr

/-- In an earlier file of the walk, or earlier in the same file. -/
def Place.Before (a b : Place) : Prop :=
  a.names < b.names ∨
    a.names = b.names ∧ (a.line < b.line ∨ a.line = b.line ∧ a.column < b.column)

theorem Place.Before.asymm {a b : Place} (h : a.Before b) : ¬ b.Before a := by
  rcases h with hlt | ⟨heq, h⟩
  · rintro (hlt' | ⟨heq', -⟩)
    · exact lt_asymm hlt hlt'
    · rw [heq'] at hlt
      exact lt_irrefl _ hlt
  · rintro (hlt' | ⟨-, h'⟩)
    · rw [heq] at hlt'
      exact lt_irrefl _ hlt'
    · omega

/-- The walk of the project keeps the file that names lead to. -/
def Project.Keeps (p : Project) (files : Files) (names : List String) : Prop :=
  IsKept files p.root p.config.sourceExtensions p.ignores names

/-- A kept file has the use at the place: there one of the leftmost call readings of a line without
the marker starts. -/
inductive IsUse (files : Files) (p : Project) : Place → Usage → Prop
  | reading {names : List String} {text : String} {i : Nat} {line : List Char}
      {rs : List Reading} {r : Reading}
      (kept : p.Keeps files names)
      (readable : files.readText (joinNames p.root names) = .ok text)
      (isLine : (Text.lines text.toList)[i]? = some line)
      (unmarked : ¬ p.config.exemptionMarker.toList <:+: line)
      (leftmost : Leftmost p.config.callName.toList line 0 rs)
      (found : r ∈ rs) :
    IsUse files p ⟨names, i + 1, r.start + 1⟩ (r.usage (joinNames p.root names).text (i + 1) line)

/-- The place of a use in the file that names lead to. -/
def placeOf (names : List String) (u : Usage) : Place :=
  ⟨names, u.context.location.line, u.context.location.column⟩

/-- The uses in the files that names lead to, with their places. -/
def usesAt (files : Files) (p : Project) (names : List String) : List (Place × Usage) :=
  (usesIn files p.extractor (joinNames p.root names)).map fun u => (placeOf names u, u)

variable {race : Nat} {files : Files} {p : Project}

theorem isUse_iff {place : Place} {u : Usage} :
    IsUse files p place u ↔ ∃ names, p.Keeps files names ∧ (place, u) ∈ usesAt files p names := by
  constructor
  · rintro @⟨names, text, i, line, rs, r, kept, readable, isLine, unmarked, leftmost, found⟩
    have hu : r.usage (joinNames p.root names).text (i + 1) line ∈
        usesIn files p.extractor (joinNames p.root names) := by
      rw [usesIn, readable]
      exact p.extractor.mem_usages_iff _ |>.2
        ⟨i, line, rs, r, isLine, unmarked, leftmost, found, rfl⟩
    exact ⟨names, kept, List.mem_map_of_mem hu⟩
  · rintro ⟨names, kept, hmem⟩
    obtain ⟨v, hv, heq⟩ := List.mem_map.1 hmem
    cases heq
    unfold usesIn at hv
    split at hv
    · cases hv
    · next text readable =>
      obtain ⟨i, line, rs, r, isLine, unmarked, leftmost, found, rfl⟩ :=
        p.extractor.mem_usages_iff _ |>.1 hv
      exact .reading kept readable isLine unmarked leftmost found

/-- A place has at most one use. -/
theorem IsUse.unique {place : Place} {u v : Usage} (hu : IsUse files p place u)
    (hv : IsUse files p place v) : u = v := by
  obtain @⟨names, text, i, line, rs, r, -, readable, isLine, -, leftmost, found⟩ := hu
  generalize hplace : (⟨names, i + 1, r.start + 1⟩ : Place) = place at hv
  obtain @⟨_, _, _, _, _, r', -, readable', isLine', -, leftmost', found'⟩ := hv
  obtain ⟨rfl, hline, hcolumn⟩ := Place.mk.inj hplace
  obtain rfl := Nat.succ.inj hline
  rw [readable, Except.ok.injEq] at readable'
  subst readable'
  rw [isLine, Option.some.injEq] at isLine'
  subst isLine'
  obtain rfl := leftmost.unique leftmost'
  rw [leftmost.eq_of_start found found' (Nat.succ.inj hcolumn)]

theorem usesAt_pairwise (files : Files) (p : Project) (names : List String) :
    (usesAt files p names).Pairwise fun a b => a.1.Before b.1 := by
  rw [usesAt, List.pairwise_map, usesIn]
  split
  · exact .nil
  · exact (p.extractor.usages_ordered _ _).imp fun hbefore => .inr ⟨rfl, hbefore⟩

theorem names_of_mem_usesAt {names : List String} {x : Place × Usage}
    (h : x ∈ usesAt files p names) : x.1.names = names := by
  obtain ⟨u, -, rfl⟩ := List.mem_map.1 h
  rfl

/-- A check gathers all uses, in the order of their places. -/
theorem exists_placed {us : List Usage} (hroot : files.root.Proper)
    (h : usages files p.extractor race
      (scan files p.root p.config.sourceExtensions p.ignores).files = .ok us) :
    ∃ placed : List (Place × Usage), us = placed.map Prod.snd ∧
      (placed.Pairwise fun a b => a.1.Before b.1) ∧
      ∀ place u, (place, u) ∈ placed ↔ IsUse files p place u := by
  obtain ⟨places, hordered, hmem, hfiles⟩ :=
    scan_files hroot p.root p.config.sourceExtensions p.ignores
  refine ⟨places.flatMap (usesAt files p), ?_, ?_, fun place u => ?_⟩
  · rw [(usages_eq_ok_iff.1 h).2, hfiles, List.flatMap_map, List.map_flatMap]
    simp only [usesAt, List.map_map, Function.comp_def, List.map_id']
  · rw [List.pairwise_flatMap]
    refine ⟨fun names _ => usesAt_pairwise files p names, hordered.imp fun hlt x hx y hy => ?_⟩
    left
    rw [names_of_mem_usesAt hx, names_of_mem_usesAt hy]
    exact hlt
  · rw [List.mem_flatMap, isUse_iff]
    simp only [hmem]
    rfl

end FirmwareKit.Check
