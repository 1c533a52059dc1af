import FirmwareKit.Config.Reader
import FirmwareKit.Proofs.Json.Record

/-! The spellings of settings. Settings and the patch entries in them are records of named fields,
which an object gives in any order and a list in their order. Only an entry's sentinel and the
fields of the settings have defaults. -/

namespace FirmwareKit

open Json

namespace PatchEntry

/-- The fields of a patch entry. -/
def slots : List (Slot Draft PatchEntry) :=
  [.string ["dependencyDir"] dependencyDir none Draft.dependencyDir
      (fun s d => { d with dependencyDir := some s }) fun _ _ => rfl,
   .string ["target"] target none Draft.target
      (fun s d => { d with target := some s }) fun _ _ => rfl,
   .string ["patch"] patch none Draft.patch
      (fun s d => { d with patch := some s }) fun _ _ => rfl,
   .string ["sentinel"] sentinel (some defaultSentinel) Draft.sentinel
      (fun s d => { d with sentinel := some s }) fun _ _ => rfl]

theorem hasSlots : shape.HasSlots slots where
  apart := by
    simp only [slots, List.pairwise_cons, List.forall_mem_cons]
    and_intros
    all_goals first | exact ⟨by simp [Slot.string], fun _ _ => rfl, fun _ _ => rfl⟩ | simp
  start := by simp [slots, Slot.string, shape]
  member := by
    simp only [slots, List.forall_mem_cons]
    refine ⟨?_, ?_, ?_, ?_, by simp⟩ <;>
    · rintro name hname d
      obtain rfl := List.mem_singleton.1 hname
      exact ⟨_, rfl⟩
  ignored name hname d := by
    simp only [slots, Slot.string, List.forall_mem_cons, List.mem_singleton] at hname
    simp only [shape, Draft.member]
    split <;> simp_all
  inOrder := rfl
  finish d a := by
    obtain ⟨dependencyDir, target, patch, sentinel⟩ := d
    obtain ⟨_, _, _, _⟩ := a
    cases dependencyDir <;> cases target <;> cases patch <;> cases sentinel <;>
      simp [slots, Slot.string, shape, Draft.finish]
  exists_finish d hd := by
    obtain ⟨dependencyDir, target, patch, sentinel⟩ := d
    simp only [slots, Slot.string, List.forall_mem_cons] at hd
    cases dependencyDir <;> cases target <;> cases patch <;>
      simp_all [shape, Draft.finish]
  finishInOrder n d a hn := by
    simp only [shape, Draft.finishInOrder]
    split
    · next hlt =>
      -- fewer than three values leave the patch absent
      have hdrop : slots.drop 2 ⊆ slots.drop n := List.drop_subset_drop_left slots (by omega)
      have hpatch : d.patch = none := hn _ (hdrop List.mem_cons_self)
      cases hdir : d.dependencyDir <;> cases htarget : d.target <;>
        simp [Draft.finish, hdir, htarget, hpatch]
    · rfl

/-- The fields of a patch entry, with the meaning of their values. -/
def fields : List (NamedField PatchEntry) := slots.map Slot.toNamedField

/-- The patch entry of a JSON text. -/
def parse (text : String) : Except Json.Error PatchEntry :=
  Json.parse shape.reader text

end PatchEntry

namespace Config

/-- The fields of the settings. -/
def slots : List (Slot Draft Config) :=
  [.string ["langRoot", "langDir"] langRoot (some default.langRoot) Draft.langRoot
      (fun s d => { d with langRoot := some s }) fun _ _ => rfl,
   .string ["langExtension"] langExtension (some default.langExtension) Draft.langExtension
      (fun s d => { d with langExtension := some s }) fun _ _ => rfl,
   .list ["sourceExtensions"] Reader.string_reads sourceExtensions (some default.sourceExtensions)
      Draft.sourceExtensions (fun l d => { d with sourceExtensions := some l }) fun _ _ => rfl,
   .list ["ignores"] Reader.string_reads ignores (some default.ignores) Draft.ignores
      (fun l d => { d with ignores := some l }) fun _ _ => rfl,
   .string ["callName"] callName (some default.callName) Draft.callName
      (fun s d => { d with callName := some s }) fun _ _ => rfl,
   .string ["exemptionMarker"] exemptionMarker (some default.exemptionMarker)
      Draft.exemptionMarker (fun s d => { d with exemptionMarker := some s }) fun _ _ => rfl,
   .list ["patches"] PatchEntry.hasSlots.reads patches (some default.patches) Draft.patches
      (fun l d => { d with patches := some l }) fun _ _ => rfl]

theorem hasSlots : shape.HasSlots slots where
  apart := by
    simp only [slots, List.pairwise_cons, List.forall_mem_cons]
    and_intros
    all_goals first
      | exact ⟨by simp [Slot.string, Slot.list], fun _ _ => rfl, fun _ _ => rfl⟩
      | simp
  start := by simp [slots, Slot.string, Slot.list, shape]
  member := by
    simp only [slots, List.forall_mem_cons]
    refine ⟨?langRoot, ?_, ?_, ?_, ?_, ?_, ?_, by simp⟩
    case langRoot =>
      intro name hname d
      rcases List.mem_pair.1 hname with rfl | rfl <;> exact ⟨_, rfl⟩
    all_goals
      intro name hname d
      obtain rfl := List.mem_singleton.1 hname
      exact ⟨_, rfl⟩
  ignored name hname d := by
    simp only [slots, Slot.string, Slot.list, List.forall_mem_cons, List.mem_singleton,
      List.mem_pair, not_or] at hname
    simp only [shape, Draft.member]
    split <;> simp_all
  inOrder := rfl
  finish d a := by
    obtain ⟨_, _, _, _, _, _, _⟩ := a
    simp [slots, Slot.string, Slot.list, shape, Draft.finish, Option.getD_eq_iff]
  exists_finish d _ := ⟨d.finish, rfl⟩
  finishInOrder _ _ _ _ := Iff.rfl

/-- The fields of the settings, with the meaning of their values. -/
def fields : List (NamedField Config) := slots.map Slot.toNamedField

/-- The patches of settings are what the elements of the only list of patches are read as. -/
theorem patches_of_parse {ms : List NamedMember} {m : NamedMember} {ps : List (List Char)}
    {text : String} {c : Config} (ht : IsObjectText ms text) (hm : m ∈ ms)
    (hname : m.name = "patches") (hvalues : ∀ p ∈ ps, IsValue p)
    (h : Enclosed '[' ']' ps m.value) (hparse : parse text = .ok c) :
    List.Forall₂ (fun p e => PatchEntry.parse (String.ofList p) = .ok e) ps c.patches := by
  have hdescribes : Describes fields ms c := (hasSlots.lawful.object ht).1 hparse
  have hmem : slots[6].toNamedField ∈ fields := List.mem_map_of_mem (List.getElem_mem _)
  have hgiven : m.value ∈ slots[6].given ms :=
    List.mem_map_of_mem (List.mem_filter.2 ⟨hm, by simp [hname, slots, Slot.list]⟩)
  rcases hdescribes _ hmem with ⟨hnone, -⟩ | ⟨t, hone, hmeans⟩
  · simp [hnone] at hgiven
  · obtain rfl : m.value = t := by simpa [hone] using hgiven
    exact (PatchEntry.hasSlots.reads.isList_iff hvalues h).1 hmeans

/-- All spellings of settings mean the same, and so do all spellings of the patch entries in
them. -/
theorem parse_lawful :
    Lawful fields parse ∧ Lawful PatchEntry.fields PatchEntry.parse ∧
      ∀ {ms : List NamedMember} {m : NamedMember} {ps : List (List Char)} {text : String}
        {c : Config}, IsObjectText ms text → m ∈ ms → m.name = "patches" →
        (∀ p ∈ ps, IsValue p) → Enclosed '[' ']' ps m.value → parse text = .ok c →
          List.Forall₂ (fun p e => PatchEntry.parse (String.ofList p) = .ok e) ps c.patches :=
  ⟨hasSlots.lawful, PatchEntry.hasSlots.lawful, patches_of_parse⟩

/-- The text of a patch entry in order, without its sentinel. -/
def entryInOrder : List Char := "[\"d\",\"t\",\"p\"]".toList

theorem isValue_entryInOrder : IsValue entryInOrder := by
  have hitems : ∀ p ∈ ["d", "t", "p"].map writeString, IsValue p := by simp [isValue_writeString]
  exact .array hitems <| .row <| .cons spaces_nil spaces_nil <| .cons spaces_nil spaces_nil <|
    .last spaces_nil spaces_nil

/-- A list with that entry, and behind it the second name of the language directory. -/
def membersAliased : List NamedMember :=
  [.written "patches" ('[' :: (entryInOrder ++ [']'])), .written "langDir" (writeString "a")]

theorem isObjectText_membersAliased : IsObjectText membersAliased
    "\x7b\"patches\":[[\"d\",\"t\",\"p\"]],\"langDir\":\"a\"\x7d" where
  values := by
    simp only [membersAliased, List.forall_mem_cons]
    have hitems : ∀ p ∈ [entryInOrder], IsValue p := by simpa using isValue_entryInOrder
    exact ⟨.array hitems (.row (.last spaces_nil spaces_nil)), isValue_writeString "a", by simp⟩
  spelled := ⟨[], _, [], spaces_nil, spaces_nil,
    .row (.cons spaces_nil spaces_nil (.last spaces_nil spaces_nil)), rfl⟩

theorem parse_lawful_aliased :
    parse "\x7b\"patches\":[[\"d\",\"t\",\"p\"]],\"langDir\":\"a\"\x7d" =
        .ok { default with
          langRoot := "a"
          patches := [⟨"d", "t", "p", PatchEntry.defaultSentinel⟩] } ∧
      List.Forall₂ (fun p e => PatchEntry.parse (String.ofList p) = .ok e) [entryInOrder]
        [⟨"d", "t", "p", PatchEntry.defaultSentinel⟩] ∧
      ∃ e, PatchEntry.parse "\x7b\"target\":\"t\"\x7d" = .error e := by
  have hentry : ∀ p ∈ [entryInOrder], IsValue p := by simpa using isValue_entryInOrder
  have hlist : Enclosed '[' ']' [entryInOrder] ('[' :: (entryInOrder ++ [']'])) :=
    .row (.last spaces_nil spaces_nil)
  have hdescribes : Describes fields membersAliased { default with
      langRoot := "a", patches := [⟨"d", "t", "p", PatchEntry.defaultSentinel⟩] } := by
    simp only [Describes, fields, slots, List.map_cons, List.forall_mem_cons]
    exact ⟨.inr ⟨_, rfl, _, spellsAll_flatMap _, rfl⟩, .inl ⟨rfl, rfl⟩, .inl ⟨rfl, rfl⟩,
      .inl ⟨rfl, rfl⟩, .inl ⟨rfl, rfl⟩, .inl ⟨rfl, rfl⟩,
      .inr ⟨_, rfl, _, hentry, hlist, .cons rfl .nil⟩, by simp⟩
  have hparse := (parse_lawful.1.object isObjectText_membersAliased).2 hdescribes
  have htarget : IsObjectText [.written "target" (writeString "t")]
      "\x7b\"target\":\"t\"\x7d" :=
    ⟨by simpa [NamedMember.written] using isValue_writeString "t", [], _, [], spaces_nil,
      spaces_nil, .row (.last spaces_nil spaces_nil), rfl⟩
  exact ⟨hparse,
    parse_lawful.2.2 isObjectText_membersAliased List.mem_cons_self rfl hentry hlist hparse,
    parse_lawful.2.1.missing htarget List.mem_cons_self rfl rfl⟩

end Config

end FirmwareKit
