import FirmwareKit.Proofs.Issue.Findings
import FirmwareKit.Proofs.Sources.Gathered
import FirmwareKit.Proofs.Usage.Extraction

/-! Lines that are exempt. A marker takes away the uses on the lines that hold it and changes no
other use. The issues about a key are made at its first use, for the same tables whichever use that
is; so a marker moves them to the first use that it leaves, and takes them away if it leaves
none. -/

namespace FirmwareKit

open Text

/-- The use stands on a line that holds the marker. -/
def Usage.IsMarked (marker : String) (u : Usage) : Prop :=
  marker.toList <:+: u.context.sourceLine.toList

instance (marker : String) (u : Usage) : Decidable (u.IsMarked marker) :=
  decidable_of_iff _ occurs_iff

/-! ### Uses on marked lines -/

namespace Extractor

variable {callName marker other : String} {line : List Char}

theorem onLine_filter (file : String) (number : Nat) (hfree : ¬ other.toList <:+: line) :
    (Extractor.mk callName marker).onLine file number line =
      ((Extractor.mk callName other).onLine file number line).filter
        fun u => ¬ u.IsMarked marker := by
  have hother : ¬ (Extractor.mk callName other).isExempt line = true :=
    (isExempt_iff _).not.2 hfree
  have hline : ∀ u ∈ (Extractor.mk callName other).onLine file number line,
      u.IsMarked marker ↔ (Extractor.mk callName marker).isExempt line = true := by
    intro u hu
    rw [onLine, if_neg hother] at hu
    obtain ⟨found, -, rfl⟩ := List.mem_map.1 hu
    rw [isExempt_iff, Usage.IsMarked, String.toList_ofList]
  by_cases hmarker : (Extractor.mk callName marker).isExempt line = true
  · rw [onLine, if_pos hmarker, eq_comm, List.filter_eq_nil_iff]
    intro u hu
    simp [(hline u hu).2 hmarker]
  · have hall : ((Extractor.mk callName other).onLine file number line).filter
        (fun u => ¬ u.IsMarked marker) = (Extractor.mk callName other).onLine file number line := by
      rw [List.filter_eq_self]
      intro u hu
      simp [(hline u hu).not.2 hmarker]
    rw [hall, onLine, onLine, if_neg hmarker, if_neg hother]

/-- A marker takes away the uses on the lines that hold it, and no others. -/
theorem usages_filter (file : String) {content : String}
    (hfree : ∀ line ∈ lines content.toList, ¬ other.toList <:+: line) :
    (Extractor.mk callName marker).usages file content =
      ((Extractor.mk callName other).usages file content).filter
        fun u => ¬ u.IsMarked marker := by
  rw [usages_eq, usages_eq, List.filter_flatMap]
  refine List.flatMap_congr fun ⟨line, n⟩ hmem => ?_
  obtain ⟨-, hget⟩ := List.mk_mem_zipIdx_iff_le_and_getElem?_sub.1 hmem
  exact onLine_filter file n (hfree line (List.mem_of_getElem? hget))

end Extractor

namespace Sources

variable {callName marker other : String} {files : Files} {race : Nat} {paths : List Path}

/-- The marker occurs in no line of the files. -/
def IsFree (files : Files) (paths : List Path) (marker : String) : Prop :=
  ∀ path ∈ paths, ∀ text, files.readText path = .ok text →
    ∀ line ∈ lines text.toList, ¬ marker.toList <:+: line

theorem usages_filter (hfree : IsFree files paths other) :
    usages files (Extractor.mk callName marker) race paths =
      (usages files (Extractor.mk callName other) race paths).map
        (List.filter fun u => ¬ u.IsMarked marker) := by
  have huses : paths.flatMap (usesIn files (Extractor.mk callName marker)) =
      (paths.flatMap (usesIn files (Extractor.mk callName other))).filter
        fun u => ¬ u.IsMarked marker := by
    rw [List.filter_flatMap]
    refine List.flatMap_congr fun path hpath => ?_
    rw [usesIn, usesIn]
    cases hread : files.readText path with
    | error fault => rfl
    | ok text => exact Extractor.usages_filter path.text (hfree path hpath text hread)
  -- which files cannot be read does not depend on the extractor
  rw [usages, usages, huses]
  cases (paths.filterMap (failure? files))[race %
    (paths.filterMap (failure? files)).length]? <;> rfl

end Sources

/-! ### The issues about one key -/

namespace Issue

variable {tables : List Table} {key : String}

/-- The first use of a key is the only one that is chosen. -/
theorem filter_chosenFrom (key : String) (before us : List Usage) :
    ((chosenFrom isFirstUse before us).filter fun x => x.1.key = key).map Prod.fst =
      if ∃ v ∈ before, v.key = key then [] else (us.find? fun u => u.key = key).toList := by
  induction us generalizing before with
  | nil => simp [chosenFrom]
  | cons u us ih =>
    have hfirst : isFirstUse before u = true ↔ ¬ ∃ v ∈ before, v.key = u.key := by
      simp [isFirstUse]
    have hmore := ih (before ++ [u])
    rw [chosenFrom_cons]
    by_cases hkey : u.key = key
    · rw [if_pos ⟨u, by simp, hkey⟩] at hmore
      rw [List.find?_cons_of_pos (by simpa using hkey), ← hkey]
      rw [← hkey] at hmore
      split_ifs with hnew hold hold
      · exact absurd hold (hfirst.1 hnew)
      · rw [List.filter_cons_of_pos (by simp), List.map_cons, hmore]
        rfl
      · exact hmore
      · exact absurd (hfirst.2 hold) hnew
    · have hbefore : (∃ v ∈ before ++ [u], v.key = key) ↔ ∃ v ∈ before, v.key = key := by
        simp [hkey]
      rw [List.find?_cons_of_neg (by simpa using hkey)]
      simp only [hbefore] at hmore
      rw [← hmore]
      split_ifs with hnew
      · rw [List.filter_cons_of_neg (by simpa using hkey)]
      · rfl

/-- The issues about a key are those of its first use. -/
theorem filter_missing (tables : List Table) (us : List Usage) (key : String) :
    (missing tables us).filter (fun i => i.key = key) =
      (us.find? fun u => u.key = key).toList.flatMap fun u =>
        (chosen (isFirstLacking key) tables).map fun x => between u x.1 := by
  have hfirst := filter_chosenFrom key [] us
  rw [if_neg (by simp)] at hfirst
  rw [missing_eq, ← hfirst, List.flatMap_map]
  show List.filter _ ((chosenFrom isFirstUse [] us).flatMap _) = _
  induction chosenFrom isFirstUse [] us with
  | nil => rfl
  | cons x more ih =>
    rw [List.flatMap_cons, List.filter_append, ih, List.filter_map, List.filter_cons]
    by_cases hkey : x.1.key = key
    · have hkeep : (chosen (isFirstLacking x.1.key) tables).filter
          ((fun i => decide (i.key = key)) ∘ fun y => between x.1 y.1) =
          chosen (isFirstLacking x.1.key) tables := by
        rw [List.filter_eq_self]
        intro y _
        exact decide_eq_true hkey
      rw [hkeep, if_pos (decide_eq_true hkey), List.flatMap_cons, hkey]
    · have hdrop : (chosen (isFirstLacking x.1.key) tables).filter
          ((fun i => decide (i.key = key)) ∘ fun y => between x.1 y.1) = [] := by
        rw [List.filter_eq_nil_iff]
        intro y _
        simpa [between] using hkey
      rw [hdrop, if_neg (by simpa using hkey)]
      rfl

/-- Without some of the uses, the issues about a key are those found with all of them, moved to the
first use of the key that is left. -/
theorem filter_missing_filter (tables : List Table) (us : List Usage) (keep : Usage → Prop)
    [DecidablePred keep] (key : String) :
    (missing tables (us.filter fun u => keep u)).filter (fun i => i.key = key) =
      match us.find? fun u => keep u ∧ u.key = key with
      | none => []
      | some u => ((missing tables us).filter fun i => i.key = key).map
          ({· with context := u.context}) := by
  have hfind : (us.filter fun u => keep u).find? (fun u => u.key = key) =
      us.find? fun u => keep u ∧ u.key = key := by
    rw [List.find?_filter]
    simp
  rw [filter_missing, hfind]
  cases hleft : us.find? fun u => keep u ∧ u.key = key with
  | none => rfl
  | some u =>
    -- a use of the key is left, so there is a first one
    have hu := List.find?_some hleft
    have hex : (us.find? fun u => u.key = key).isSome := by
      rw [List.find?_isSome]
      exact ⟨u, List.mem_of_find?_eq_some hleft, by simp_all⟩
    obtain ⟨v, hv⟩ := Option.isSome_iff_exists.1 hex
    have hkeys : u.key = v.key := by
      have := List.find?_some hv
      simp_all
    rw [filter_missing, hv]
    simp [between, hkeys]

/-- An issue is gone when no use of its key is left. -/
theorem forall_ne_iff_of_mem_missing {us : List Usage} {keep : Usage → Prop}
    [DecidablePred keep] {i : Issue} (hi : i ∈ missing tables us) :
    (∀ j ∈ missing tables (us.filter fun u => keep u), ¬ (j.key = i.key ∧ j.table = i.table)) ↔
      ∀ u ∈ us, u.key = i.key → ¬ keep u := by
  have hsame := filter_missing_filter tables us keep i.key
  cases hleft : us.find? fun u => keep u ∧ u.key = i.key with
  | none =>
    rw [hleft] at hsame
    have hnone : ∀ u ∈ us, u.key = i.key → ¬ keep u := by
      simpa [imp_not_comm] using hleft
    refine iff_of_true (fun j hj hij => ?_) hnone
    exact List.filter_eq_nil_iff.1 hsame j hj (decide_eq_true hij.1)
  | some u =>
    rw [hleft] at hsame
    have hu : keep u ∧ u.key = i.key := by simpa using List.find?_some hleft
    refine iff_of_false (fun hgone => ?_) fun hnone =>
      hnone u (List.mem_of_find?_eq_some hleft) hu.2 hu.1
    have hmoved : {i with context := u.context} ∈
        (missing tables (us.filter fun u => keep u)).filter fun j => j.key = i.key := by
      rw [hsame]
      exact List.mem_map_of_mem (List.mem_filter.2 ⟨hi, decide_eq_true rfl⟩)
    exact hgone _ (List.mem_filter.1 hmoved).1 ⟨rfl, rfl⟩

/-- A marker is a filter of lines. Of the uses found with a marker that is nowhere in the text it
leaves, in their order, those whose line does not hold it; so an issue found without it is gone when
it leaves no use of the key, and is otherwise reported, for the same table, at the first it
leaves. -/
theorem marker_filters (callName marker other : String) :
    (∀ file content : String, (∀ line ∈ lines content.toList, ¬ other.toList <:+: line) →
      (Extractor.mk callName marker).usages file content =
        ((Extractor.mk callName other).usages file content).filter fun u => ¬ u.IsMarked marker) ∧
    ∀ (files : Files) (race : Nat) (paths : List Path) (tables : List Table),
      Sources.IsFree files paths other →
      Sources.usages files ⟨callName, marker⟩ race paths =
        (Sources.usages files ⟨callName, other⟩ race paths).map
          (List.filter fun u => ¬ u.IsMarked marker) ∧
      ∀ all kept, Sources.usages files ⟨callName, other⟩ race paths = .ok all →
        Sources.usages files ⟨callName, marker⟩ race paths = .ok kept →
        (∀ i ∈ missing tables all,
          (∀ j ∈ missing tables kept, ¬ (j.key = i.key ∧ j.table = i.table)) ↔
            ∀ u ∈ all, u.key = i.key → u.IsMarked marker) ∧
        ∀ key, (missing tables kept).filter (fun i => i.key = key) =
          match all.find? fun u => ¬ u.IsMarked marker ∧ u.key = key with
          | none => []
          | some u => ((missing tables all).filter fun i => i.key = key).map
              ({· with context := u.context}) := by
  refine ⟨fun file _ hfree => Extractor.usages_filter file hfree,
    fun files race paths tables hfree =>
      ⟨Sources.usages_filter hfree, fun all kept hall hkept => ?_⟩⟩
  have hfilter : kept = all.filter fun u => ¬ u.IsMarked marker := by
    rw [Sources.usages_filter hfree, hall] at hkept
    exact (Except.ok.inj hkept).symm
  subst hfilter
  refine ⟨fun i hi => ?_, filter_missing_filter tables all _⟩
  rw [forall_ne_iff_of_mem_missing hi]
  simp only [not_not]

/-- Two files; of one key the first use is on a marked line, of another the only one. -/
def marked : Files where
  root := .dir
    [("a.c", .file "tr(\"k\") //ok\ntr(\"ok\")\n".toByteArray),
     ("b.c", .file "tr(\"j\") tr(\"k\")".toByteArray)]
  cwd := []

theorem marked_readText :
    marked.readText ⟨"/a.c"⟩ = .ok "tr(\"k\") //ok\ntr(\"ok\")\n" ∧
      marked.readText ⟨"/b.c"⟩ = .ok "tr(\"j\") tr(\"k\")" := by
  constructor <;> refine Files.readText_of_find ?_ <;>
    simp +decide [Files.find, Files.locate, Files.piecesOf, Path.pieces, Files.resolve, marked,
      Files.start, Node.at?, Node.child?, Node.lookup]

theorem marked_isFree : Sources.IsFree marked [⟨"/a.c"⟩, ⟨"/b.c"⟩] "?" := by
  obtain ⟨ha, hb⟩ := marked_readText
  simp only [Sources.IsFree, List.forall_mem_cons, ha, hb, Except.ok.injEq, forall_eq',
    ← occurs_iff]
  exact ⟨by decide +kernel, by decide +kernel, by simp⟩

/-- The uses of the keys in the marked files, when no line is exempt. -/
def markedUsages : List Usage :=
  [⟨"k", ⟨⟨"/a.c", 1, 1⟩, "tr(\"k\") //ok"⟩⟩, ⟨"ok", ⟨⟨"/a.c", 2, 1⟩, "tr(\"ok\")"⟩⟩,
   ⟨"j", ⟨⟨"/b.c", 1, 1⟩, "tr(\"j\") tr(\"k\")"⟩⟩,
   ⟨"k", ⟨⟨"/b.c", 1, 9⟩, "tr(\"j\") tr(\"k\")"⟩⟩]

theorem marked_usages (race : Nat) :
    Sources.usages marked ⟨"tr", "?"⟩ race [⟨"/a.c"⟩, ⟨"/b.c"⟩] = .ok markedUsages := by
  obtain ⟨ha, hb⟩ := marked_readText
  have hfirst : (Extractor.mk "tr" "?").usages "/a.c" "tr(\"k\") //ok\ntr(\"ok\")\n" =
      markedUsages.take 2 := by decide +kernel
  have hmore : (Extractor.mk "tr" "?").usages "/b.c" "tr(\"j\") tr(\"k\")" =
      markedUsages.drop 2 := by decide +kernel
  refine Sources.usages_eq_ok_iff.2 ⟨?_, ?_⟩
  · simp [ha, hb]
  · simp only [List.flatMap_cons, List.flatMap_nil, Sources.usesIn, ha, hb, hfirst, hmore,
      List.append_nil, List.take_append_drop]

theorem marker_filters_marked :
    Sources.IsFree marked [⟨"/a.c"⟩, ⟨"/b.c"⟩] "?" ∧
      Sources.usages marked ⟨"tr", "ok"⟩ 0 [⟨"/a.c"⟩, ⟨"/b.c"⟩] = .ok (markedUsages.drop 2) ∧
      missing [⟨"e", ⟨"/e"⟩, ["j"]⟩] markedUsages =
        [⟨"k", ⟨"/e"⟩, ⟨⟨"/a.c", 1, 1⟩, "tr(\"k\") //ok"⟩⟩,
         ⟨"ok", ⟨"/e"⟩, ⟨⟨"/a.c", 2, 1⟩, "tr(\"ok\")"⟩⟩] ∧
      (missing [⟨"e", ⟨"/e"⟩, ["j"]⟩] (markedUsages.drop 2)).filter (fun i => i.key = "k") =
        [⟨"k", ⟨"/e"⟩, ⟨⟨"/b.c", 1, 9⟩, "tr(\"j\") tr(\"k\")"⟩⟩] ∧
      (∀ j ∈ missing [⟨"e", ⟨"/e"⟩, ["j"]⟩] (markedUsages.drop 2),
        ¬ (j.key = "ok" ∧ j.table = ⟨"/e"⟩)) := by
  obtain ⟨-, hfiles⟩ := marker_filters "tr" "ok" "?"
  obtain ⟨hkept, hissues⟩ :=
    hfiles marked 0 [⟨"/a.c"⟩, ⟨"/b.c"⟩] [⟨"e", ⟨"/e"⟩, ["j"]⟩] marked_isFree
  have hdrop : Sources.usages marked ⟨"tr", "ok"⟩ 0 [⟨"/a.c"⟩, ⟨"/b.c"⟩] =
      .ok (markedUsages.drop 2) := by
    have hfilter : markedUsages.filter (fun u => ¬ u.IsMarked "ok") = markedUsages.drop 2 := by
      decide +kernel
    rw [hkept, marked_usages, Except.map, hfilter]
  obtain ⟨hgone, hmoved⟩ := hissues _ _ (marked_usages 0) hdrop
  have hall : missing [⟨"e", ⟨"/e"⟩, ["j"]⟩] markedUsages =
      [⟨"k", ⟨"/e"⟩, ⟨⟨"/a.c", 1, 1⟩, "tr(\"k\") //ok"⟩⟩,
       ⟨"ok", ⟨"/e"⟩, ⟨⟨"/a.c", 2, 1⟩, "tr(\"ok\")"⟩⟩] := by
    decide +kernel
  refine ⟨marked_isFree, hdrop, hall, (hmoved "k").trans ?_, ?_⟩
  · rw [hall]
    decide +kernel
  · exact (hgone ⟨"ok", ⟨"/e"⟩, ⟨⟨"/a.c", 2, 1⟩, "tr(\"ok\")"⟩⟩ (by simp [hall])).2
      (by decide +kernel)

end Issue

end FirmwareKit
