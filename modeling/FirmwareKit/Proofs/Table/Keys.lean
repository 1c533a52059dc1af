import FirmwareKit.Proofs.Json.Values
import FirmwareKit.Proofs.Table.Listing

/-! The keys of a table. A table that is read from an object has the names of its members for keys,
however they are spelled and whatever their values are. A file that can be read has a name for its
table, if that is a text, since a path leads to a file by its last name. -/

namespace FirmwareKit

/-! ### Paths to files -/

/-- What follows the last slash of a text is its last piece. -/
theorem Path.append_of_getLast?_pieces {s piece : List Char}
    (h : (pieces s).getLast? = some piece) :
    ∃ before, (before = [] ∨ before.getLast? = some '/') ∧ s = before ++ piece := by
  by_cases hslash : '/' ∈ s
  · obtain ⟨back, front, heq, hback⟩ := List.eq_append_cons_of_mem (List.mem_reverse.2 hslash)
    have hs : s = (front.reverse ++ ['/']) ++ back.reverse := by
      rw [← List.reverse_reverse s, heq]
      simp
    have hpieces : pieces s = pieces front.reverse ++ [back.reverse] := by
      rw [hs, List.append_assoc, List.singleton_append, pieces_append_slash,
        pieces_of_not_mem (s := back.reverse) (by simpa using hback)]
    rw [hpieces, List.getLast?_concat] at h
    cases h
    exact ⟨_, .inr (by simp), hs⟩
  · rw [pieces_of_not_mem hslash] at h
    cases h
    exact ⟨[], .inl rfl, rfl⟩

namespace Files

open Node

/-- What leads to a file ends in a name. -/
theorem exists_last_of_resolve {root n : Node} {links : Nat} {here pieces names : List String}
    (hhere : root.DirAt here) (hn : n.isFile = true)
    (h : resolve root .target links here pieces = .ok (names, some n)) :
    ∃ name, pieces.getLast? = some name ∧ name ≠ "" ∧ name ≠ "." ∧ name ≠ ".." := by
  have hcons {name piece : String} {rest : List String} (h : rest.getLast? = some name) :
      (piece :: rest).getLast? = some name := by
    rw [List.getLast?_cons, h]
    rfl
  fun_induction resolve root .target links here pieces with
  | case1 =>
    obtain ⟨entries, hat⟩ := hhere
    rw [Except.ok.injEq, Prod.mk.injEq, hat] at h
    cases h.2
    cases hn
  | case2 _ _ _ ih | case3 _ _ _ ih =>
    obtain ⟨name, hlast, hname⟩ := ih hhere h
    exact ⟨name, hcons hlast, hname⟩
  | case4 _ _ _ ih =>
    obtain ⟨name, hlast, hname⟩ := ih hhere.dropLast h
    exact ⟨name, hcons hlast, hname⟩
  | case9 _ here name rest hempty hdot hdots _ _ entries hat ih =>
    obtain ⟨last, hlast, hname⟩ := ih ⟨entries, by rw [at?_concat, hat]⟩ h
    exact ⟨last, hcons hlast, hname⟩
  | case10 _ here name hempty hdot hdots | case12 _ here name hempty hdot hdots =>
    exact ⟨name, rfl, hempty, hdot, hdots⟩
  | case14 =>
    cases h
    cases hn
  | case19 here name rest hempty hdot hdots _ _ target _ _ _ _ ih =>
    by_cases hrest : rest = []
    · subst hrest
      exact ⟨name, rfl, hempty, hdot, hdots⟩
    · have hbase : root.DirAt (if (Path.mk target).isAbsolute then [] else here) := by
        split
        · exact hhere.root
        · exact hhere
      obtain ⟨last, hlast, hname⟩ := ih hbase h
      rw [List.getLast?_append_of_ne_nil _ hrest] at hlast
      exact ⟨last, hcons hlast, hname⟩
  | case7 => cases h
  | case16 _ _ _ _ _ _ _ _ _ _ _ hentry => simp at hentry
  | case5 | case6 | case8 | case11 | case13 | case15 | case17 | case18 => cases h

/-- A path that a text is read from has a name. -/
theorem exists_fileName?_of_readText {files : Files} {path : Path} {text : String}
    (hground : files.Grounded) (h : files.readText path = .ok text) :
    ∃ name, path.fileName? = some name := by
  obtain ⟨n, hfind, hn⟩ : ∃ n, files.find .target path = .ok n ∧ n.isFile = true := by
    unfold readText readBytes at h
    cases hfind : files.find .target path with
    | error fault =>
      rw [hfind] at h
      cases h
    | ok node =>
      rw [hfind] at h
      cases node with
      | file | unnamed => exact ⟨_, rfl, rfl⟩
      | dir | link | locked => cases h
  obtain ⟨names, hlocate⟩ := find_eq_ok.1 hfind
  rw [locate_eq_resolve hlocate] at hlocate
  have hbase : files.root.DirAt (if path.isAbsolute then [] else files.cwd) := by
    split
    · exact hground.root
    · exact hground
  obtain ⟨name, hlast, hempty, hdot, hdots⟩ := exists_last_of_resolve hbase hn hlocate
  rw [piecesOf, List.getLast?_map, Option.map_eq_some_iff] at hlast
  obtain ⟨piece, hpiece, rfl⟩ := hlast
  have hslash : '/' ∉ piece :=
    Path.slash_not_mem_of_mem_pieces (List.mem_of_getLast? hpiece)
  obtain ⟨before, hbefore, htext⟩ := Path.append_of_getLast?_pieces hpiece
  refine ⟨String.ofList piece, Path.fileName?_of_append ?_ hbefore ?_⟩
  · exact ⟨hempty, hdot, hdots, by rwa [String.toList_ofList]⟩
  · rw [String.toList_ofList, htext]

end Files

namespace Table

open Json

variable {files : Files} {path : Path} {text : String} {before t after : List Char}

/-- A table knows exactly its keys. Of a file that holds an object, written in any way and not too
deep, a table is read that contains the names of the members, and nothing else, unless the file has
a name that is no text; a file that holds a value of another kind, or anything behind its value, is
refused. -/
theorem read_knows_keys (hground : files.Grounded) (hread : files.readText path = .ok text)
    (htext : text.toList = before ++ (t ++ after)) (hbefore : Spaces before) :
    (∀ members : List (String × Value), Writes IsInteger 127 t (.object members) → Spaces after →
      (files.isNamed path = true → ∃ table, read files path = .ok table ∧
        ∀ key, table.contains key = true ↔ key ∈ members.map Prod.fst) ∧
      (files.isNamed path = false → read files path = .error (.tableUnnamed path))) ∧
    (IsValue t → ¬ IsObject t ∨ ¬ Spaces after →
      ∃ error, read files path = .error (.tableMalformed path error)) := by
  constructor
  · intro members hwritten hafter
    obtain ⟨name, hname⟩ := Files.exists_fileName?_of_readText hground hread
    have hkeys := parse_names_of_writes hwritten hbefore hafter htext
    refine ⟨fun hnamed => ?_, fun hunnamed => ?_⟩
    · refine ⟨⟨name, path, members.map Prod.fst⟩, ?_, fun key => List.contains_iff_mem⟩
      simp only [read, hread, hkeys, nameOf?, if_pos hnamed, hname]
    · simp [read, hread, hkeys, nameOf?, hunnamed]
  · intro ht hrefused
    obtain ⟨error, herror⟩ := exists_parse_names_error ht hbefore htext hrefused
    refine ⟨error, ?_⟩
    simp only [read, hread, herror]

/-! ### A table with escapes -/

theorem spellsAll_pair : SpellsAll "\\ud83d\\uDE00".toList "😀".toList :=
  .cons (.pair (show hexFour? 'd' '8' '3' 'd' = some 0xd83d by decide)
    (show hexFour? 'D' 'E' '0' '0' = some 0xde00 by decide) (by decide) (by decide)) .nil

theorem spellsAll_hex : SpellsAll "\\u006b".toList "k".toList :=
  .cons (.hex (show hexFour? '0' '0' '6' 'b' = some 0x6b by decide) (by decide) (by decide)) .nil

/-- A member whose name is one character, written as a pair of surrogates. -/
def pairMember : NamedMember where
  quoted := "\\ud83d\\uDE00".toList
  beforeColon := [' ']
  afterColon := ['\n']
  value := "\x7b\"x\":-2\x7d".toList
  quotable := spellsAll_pair.isQuotable
  spaces_beforeColon := by simp [Spaces, isSpace]
  spaces_afterColon := by simp [Spaces, isSpace]
  name := "😀"
  spelled := spellsAll_pair

/-- A member whose name is an escaped letter. -/
def hexMember : NamedMember where
  quoted := "\\u006b".toList
  beforeColon := []
  afterColon := []
  value := "[null]".toList
  quotable := spellsAll_hex.isQuotable
  spaces_beforeColon := spaces_nil
  spaces_afterColon := spaces_nil
  name := "k"
  spelled := spellsAll_hex

/-- An object with a name that is written twice, and another one inside. -/
def escapedText : List Char :=
  "\x7b\"k\":1, \"\\u006b\":[null],\"\\ud83d\\uDE00\" :\n\x7b\"x\":-2\x7d\x7d".toList

theorem writes_escapedText : Writes IsInteger 127 escapedText
    (.object [("k", .number (.unsigned 1)), ("k", .array [.null]),
      ("😀", .object [("x", .number (.negative 2))])]) := by
  have hone : Writes IsInteger 126 ['1'] (.number (.unsigned 1)) :=
    .scalar (.number (.unsigned (n := 1) (by decide)))
  have hlist : Writes IsInteger 126 hexMember.value (.array [.null]) :=
    @Writes.array _ 125 [(['n', 'u', 'l', 'l'], .null)] _
      (by simpa using .scalar .null) (.row (.last spaces_nil spaces_nil))
  have htwo : Writes IsInteger 125 ['-', '2'] (.number (.negative 2)) :=
    .scalar (.number (.negative (n := 2) (by decide) (by decide)))
  have hobject : Writes IsInteger 126 pairMember.value
      (.object [("x", .number (.negative 2))]) :=
    @Writes.object _ 125 [(.written "x" ['-', '2'], .number (.negative 2))] _
      (List.forall_mem_singleton.2 htwo) (.row (.last spaces_nil spaces_nil))
  exact @Writes.object _ 126
    [(.written "k" ['1'], .number (.unsigned 1)), (hexMember, .array [.null]),
      (pairMember, .object [("x", .number (.negative 2))])] _
    (by simpa using ⟨hone, hlist, hobject⟩)
    (.row (.cons spaces_nil spaces_nil (.cons spaces_blank spaces_nil
      (.last spaces_nil spaces_nil))))

/-- A file with the object alone, and one with a bracket too many behind it. -/
def escaped : Files where
  root := .dir
    [("e", .file (String.ofList (escapedText ++ ['\n'])).toByteArray),
     ("f", .file (String.ofList (escapedText ++ ['}'])).toByteArray)]
  cwd := []

theorem escaped_readText :
    escaped.readText ⟨"/e"⟩ = .ok (String.ofList (escapedText ++ ['\n'])) ∧
      escaped.readText ⟨"/f"⟩ = .ok (String.ofList (escapedText ++ ['}'])) := by
  constructor <;> refine Files.readText_of_find ?_ <;>
    simp +decide [Files.find, Files.locate, Files.start, Files.piecesOf, Path.pieces,
      Files.resolve, escaped, Node.at?, Node.child?, Node.lookup]

theorem escaped_isNamed : escaped.isNamed ⟨"/e"⟩ = true := by
  simp +decide [Files.isNamed, Files.find, Files.locate, Files.start, Files.piecesOf, Path.pieces,
    Files.resolve, escaped, Node.at?, Node.child?, Node.lookup]

theorem read_knows_keys_escaped :
    escaped.Grounded ∧ escaped.isNamed ⟨"/e"⟩ = true ∧
      escaped.readText ⟨"/e"⟩ = .ok (String.ofList (escapedText ++ ['\n'])) ∧
      (∃ table, read escaped ⟨"/e"⟩ = .ok table ∧ table.contains "k" = true ∧
        table.contains "😀" = true ∧ ¬ table.contains "x" = true) ∧
      escaped.readText ⟨"/f"⟩ = .ok (String.ofList (escapedText ++ ['}'])) ∧
      ∃ error, read escaped ⟨"/f"⟩ = .error (.tableMalformed ⟨"/f"⟩ error) := by
  obtain ⟨he, hf⟩ := escaped_readText
  have hground : escaped.Grounded := ⟨_, rfl⟩
  have htext (after : List Char) : (String.ofList (escapedText ++ after)).toList =
      [] ++ (escapedText ++ after) := String.toList_ofList
  have hvalue : IsValue escapedText :=
    writes_escapedText.isValue fun _ _ h => h.isNumeral.1
  obtain ⟨hnamed, -⟩ := (read_knows_keys hground he (htext _) spaces_nil).1 _
    writes_escapedText (by simp [Spaces, isSpace])
  obtain ⟨table, htable, hkeys⟩ := hnamed escaped_isNamed
  have hrefused := (read_knows_keys hground hf (htext _) spaces_nil).2 hvalue
    (.inr (by simp [Spaces, isSpace]))
  refine ⟨hground, escaped_isNamed, he, ⟨table, htable, ?_⟩, hf, hrefused⟩
  simp only [hkeys]
  decide +kernel

end Table

end FirmwareKit
