import Mathlib.Data.List.Forall2
import FirmwareKit.Config.Reader
import FirmwareKit.Config.Writer
import FirmwareKit.Proofs.Json.Written

/-! Settings that are written are read back as they were, whatever their texts and lists hold.
A field that is written is never taken for an absent one. -/

namespace FirmwareKit

open Json

variable {δ α : Type} {depth : Nat}

/-- The reader of a string field takes what is written behind its name. -/
theorem takes_stringField (name s : String) (set : String → δ) :
    (Reader.field name none .string set).Takes
      (':' :: ([' '] ++ (Value.string s).write depth)) (set s) := by
  rw [Value.write]
  exact (takes_writeString s).field spaces_blank

/-- The reader of a list field takes what is written behind its name, if it reads the elements
that are written. -/
theorem takes_listField {item : Reader α} {toValue : α → Value} (name : String) (as : List α)
    (set : List α → δ) (h : ∀ a ∈ as, item.Takes ((toValue a).write (depth + 1)) a) :
    (Reader.field name none (.list item) set).Takes
      (':' :: ([' '] ++ (Value.array (as.map toValue)).write depth)) (set as) :=
  have hall : List.Forall₂ (fun (v : Value) a => item.Takes (v.write (depth + 1)) a)
      (as.map toValue) as :=
    List.forall₂_map_left_iff.2 (List.forall₂_same.2 h)
  (takes_writeItems hall).field spaces_blank

theorem takes_stringsField (name : String) (l : List String) (set : List String → δ) :
    (Reader.field name none (.list .string) set).Takes
      (':' :: ([' '] ++ (Value.array (l.map .string)).write depth)) (set l) := by
  refine takes_listField name l set fun s _ => ?_
  rw [Value.write]
  exact takes_writeString s

/-- The reader of an entry takes what is written for it. -/
theorem PatchEntry.takes_toValue (depth : Nat) (e : PatchEntry) :
    shape.reader.Takes (e.toValue.write depth) e := by
  let d : Draft := ⟨e.dependencyDir, e.target, e.patch, e.sentinel⟩
  refine Leads.takes shape (d := d) ?_ (by simp) rfl
  exact
    .cons (takes_stringField "dependencyDir" _ _) <|
    .cons (takes_stringField "target" _ _) <|
    .cons (takes_stringField "patch" _ _) <|
    .cons (takes_stringField "sentinel" _ _) .nil

namespace Config

/-- The reader of settings takes what is written for them. -/
theorem takes_toValue (depth : Nat) (c : Config) :
    shape.reader.Takes (c.toValue.write depth) c := by
  let d : Draft := ⟨c.langRoot, c.langExtension, c.sourceExtensions, c.ignores, c.callName,
    c.exemptionMarker, c.patches⟩
  refine Leads.takes shape (d := d) ?_ (by simp) rfl
  exact
    .cons (takes_stringField "langRoot" _ _) <|
    .cons (takes_stringField "langExtension" _ _) <|
    .cons (takes_stringsField "sourceExtensions" _ _) <|
    .cons (takes_stringsField "ignores" _ _) <|
    .cons (takes_stringField "callName" _ _) <|
    .cons (takes_stringField "exemptionMarker" _ _) <|
    .cons (takes_listField "patches" _ _ fun e _ => e.takes_toValue _) .nil

/-- White space around written settings does not matter. -/
theorem parse_spaced {before after : List Char} (hbefore : Spaces before) (hafter : Spaces after)
    (c : Config) : parse (String.ofList (before ++ (c.toValue.write 0 ++ after))) = .ok c :=
  (c.takes_toValue 0).parse_eq hbefore hafter

/-- Written settings are read back as they were. -/
theorem parse_pretty (c : Config) : parse c.pretty = .ok c := by
  have h := parse_spaced spaces_nil spaces_nil c
  rwa [List.append_nil, List.nil_append] at h

end Config

end FirmwareKit
