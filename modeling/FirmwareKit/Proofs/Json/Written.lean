import FirmwareKit.Proofs.Json.Layout

/-! Written values are read back. The writer puts every element and member on a line of its
own, which is one of the layouts that are read alike. -/

namespace FirmwareKit.Json

variable {α : Type} {depth : Nat}

theorem takes_writeString (s : String) : Reader.string.Takes (writeString s) s := by
  have h := (spellsAll_flatMap s.toList).takes
  rwa [String.ofList_toList] at h

/-! ### Lists -/

section Lists

variable {item : Reader α} {texts : List (List Char)} {as : List α} {after : List Char}

theorem exists_elements (depth : Nat) (h : List.Forall₂ item.Takes texts as) (hne : texts ≠ [])
    (hafter : Spaces after) :
    ∃ t, onLines depth texts ++ after = newLine depth ++ t ∧ Elements item as t := by
  induction h with
  | nil => exact absurd rfl hne
  | @cons text a texts as takes more ih =>
    cases more with
    | nil =>
      refine ⟨text ++ after, ?_, .last takes hafter⟩
      rw [onLines, List.append_assoc]
    | cons next more =>
      obtain ⟨t, heq, helements⟩ := ih (by simp)
      refine ⟨_, ?_, .cons takes spaces_nil (spaces_newLine depth) helements⟩
      rw [onLines, ← heq, List.append_assoc, List.append_assoc, List.nil_append, List.cons_append]
      simp

/-- A written list is read back if its elements are. -/
theorem takes_writeItems {values : List Value}
    (h : List.Forall₂ (fun (v : Value) a => item.Takes (v.write (depth + 1)) a) values as) :
    (Reader.list item).Takes ((Value.array values).write depth) as := by
  have htexts : List.Forall₂ item.Takes (Value.writeItems (depth + 1) values) as := by
    induction h with
    | nil => exact .nil
    | cons takes _ ih => exact .cons takes ih
  cases h with
  | nil => exact takes_emptyList item spaces_nil
  | cons takes more =>
    obtain ⟨t, heq, helements⟩ := exists_elements (depth + 1) htexts
      (by simp [Value.writeItems]) (spaces_newLine depth)
    have htakes := helements.takes (spaces_newLine (depth + 1))
    rw [← List.append_assoc (newLine _), ← heq] at htakes
    rw [Value.write, bracketed, if_neg (by simp [Value.writeItems])]
    simpa using htakes

end Lists

/-! ### Objects -/

/-- Written members lead from `a` to another value, one after the other. -/
inductive Leads (member : α → String → Reader α) (depth : Nat) :
    α → List (String × Value) → α → Prop
  | nil {a : α} : Leads member depth a [] a
  | cons {a b c : α} {name : String} {v : Value} {more : List (String × Value)}
      (takes : (member a name).Takes (':' :: ([' '] ++ v.write depth)) b)
      (leads : Leads member depth b more c) :
    Leads member depth a ((name, v) :: more) c

section Objects

variable {member : α → String → Reader α} {values : List (String × Value)} {a b : α}

theorem Leads.exists_members {after : List Char} (h : Leads member depth a values b)
    (hne : values ≠ []) (hafter : Spaces after) :
    ∃ t, onLines depth (Value.writeMembers depth values) ++ after = newLine depth ++ t ∧
      Members member a t b := by
  induction h with
  | nil => exact absurd rfl hne
  | @cons a b c name v more takes leads ih =>
    have hname := spellsAll_flatMap name.toList
    rw [← String.ofList_toList (s := name)] at takes
    cases leads with
    | nil =>
      refine ⟨_, ?_, .last hname spaces_nil takes hafter⟩
      simp [Value.writeMembers, onLines, writeString]
    | cons takes' leads' =>
      obtain ⟨t, heq, hmembers⟩ := ih (by simp)
      refine ⟨_, ?_, .cons hname spaces_nil takes spaces_nil (spaces_newLine depth) hmembers⟩
      rw [← heq]
      simp [Value.writeMembers, onLines, writeString]

/-- A written object is read back if its members lead to a draft that can be completed. -/
theorem Leads.takes {δ : Type} (shape : Shape δ α) {d : δ}
    (h : Leads shape.member (depth + 1) shape.start values d) (hne : values ≠ [])
    (hfinish : shape.finish d = .ok a) :
    shape.reader.Takes ((Value.object values).write depth) a := by
  obtain ⟨t, heq, hmembers⟩ := h.exists_members hne (spaces_newLine depth)
  have htakes := hmembers.takes (spaces_newLine (depth + 1)) hfinish
  rw [← List.append_assoc (newLine _), ← heq] at htakes
  have hparts : (Value.writeMembers (depth + 1) values).isEmpty = false := by
    obtain ⟨⟨_, _⟩, _, rfl⟩ := List.exists_cons_of_ne_nil hne
    rfl
  rw [Value.write, bracketed, hparts]
  simpa using htakes

end Objects

end FirmwareKit.Json
