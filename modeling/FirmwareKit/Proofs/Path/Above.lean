import Mathlib.Data.List.TakeWhile
import FirmwareKit.Proofs.Path.Names

/-! Going up from a path. Its parts are its names and, before them, the dot that starts a
relative path. The directory above lacks the last part. So there are as many directories above as
there are parts, each with the parts that come first, and the last is the root or the empty
path. -/

namespace FirmwareKit.Path

/-- The components of a text other than the root, with the dot that starts a relative path. -/
def parts (s : List Char) : List (List Char) :=
  (if (pieces s).head? = some ['.'] then [['.']] else []) ++ components s

/-- The path after going to the directory above some times; none if there are not as many. -/
def up (p : Path) : Nat → Option Path
  | 0 => some p
  | n + 1 => p.parent?.bind fun q => q.up n

/-! ### Trimmed paths -/

/-- A path with its end trimmed does not end in a piece that stands for nothing. -/
theorem trimEnd_ne (r rest : List Char) : trimEnd r ≠ '.' :: '/' :: rest := by
  fun_induction trimEnd r with
  | case1 _ ih => exact ih
  | case2 _ ih => exact ih
  | case3 r _ h => exact fun heq => h rest heq

theorem trimEnd_suffix (r : List Char) : trimEnd r <:+ r := by
  fun_induction trimEnd r with
  | case1 _ ih => exact ih.trans (List.suffix_cons _ _)
  | case2 _ ih => exact ih.trans (List.suffix_cons _ _)
  | case3 => exact List.suffix_rfl

/-- A trimmed path with a slash ends in a component, and what stands before it is trimmed to the
path above. -/
theorem exists_last_of_slash {r : List Char} (hslash : '/' ∈ trimEnd r) :
    ∃ last rest, trimEnd r = last.reverse ++ '/' :: rest ∧ IsComponent last ∧
      above (trimEnd r) = trimEnd rest := by
  obtain ⟨front, rest, heq, hfront⟩ := List.eq_append_cons_of_mem hslash
  have hlast : IsComponent front.reverse := by
    refine ⟨fun h => ?_, fun h => ?_, by simpa using hfront⟩
    · obtain rfl := List.reverse_eq_nil_iff.1 h
      exact head?_trimEnd r (by rw [heq]; rfl)
    · obtain rfl := List.reverse_eq_iff.1 h
      exact trimEnd_ne r rest heq
  have hdrop : (trimEnd r).dropWhile (· != '/') = '/' :: rest := by
    rw [heq, List.dropWhile_append_of_pos fun c hc => by
      rw [bne_iff_ne]
      rintro rfl
      exact hfront hc]
    simp
  refine ⟨front.reverse, rest, by rw [List.reverse_reverse, heq], hlast, ?_⟩
  rw [above, hdrop, trimEnd]

/-! ### Parts -/

@[simp] theorem parts_nil : parts [] = [] := rfl

theorem parts_append_slash (s t : List Char) : parts (s ++ '/' :: t) = parts s ++ components t := by
  rw [parts, parts, pieces_append_slash, List.head?_append_of_ne_nil _ (pieces_ne_nil s),
    components_append_slash, List.append_assoc]

/-- A text without slashes is one part, even if it is a dot. -/
theorem parts_of_not_mem {s : List Char} (hne : s ≠ []) (h : '/' ∉ s) : parts s = [s] := by
  rw [parts, components, pieces_of_not_mem h]
  by_cases hdot : s = ['.']
  · subst hdot
    rfl
  · simp [hne, hdot]

theorem parts_trimEnd (r : List Char) : parts (trimEnd r).reverse = parts r.reverse := by
  fun_induction trimEnd r with
  | case1 rest ih => rw [ih, List.reverse_cons, parts_append_slash, components_nil, List.append_nil]
  | case2 rest ih =>
    rw [ih, List.reverse_cons, List.reverse_cons, List.reverse_cons, parts_append_slash,
      List.append_assoc, List.singleton_append, parts_append_slash]
    rfl
  | case3 => rfl

/-- The path above a trimmed path that is not empty has all parts but the last. -/
theorem parts_above {r : List Char} (hne : trimEnd r ≠ []) :
    ∃ last, parts (trimEnd r).reverse = parts (above (trimEnd r)).reverse ++ [last] := by
  by_cases hslash : '/' ∈ trimEnd r
  · obtain ⟨last, rest, heq, hlast, habove⟩ := exists_last_of_slash hslash
    refine ⟨last, ?_⟩
    rw [habove, parts_trimEnd rest, heq, List.reverse_append, List.reverse_cons, List.append_assoc,
      List.singleton_append, List.reverse_reverse, parts_append_slash,
      components_of_isComponent hlast]
  · -- the only part may be the dot, which is no component
    have habove : above (trimEnd r) = [] := by
      rw [above, List.dropWhile_eq_nil_iff.2 fun c hc => by
        rw [bne_iff_ne]
        rintro rfl
        exact hslash hc]
      rfl
    refine ⟨(trimEnd r).reverse, ?_⟩
    rw [habove, parts_of_not_mem (List.reverse_ne_nil_iff.2 hne) (by simpa using hslash)]
    rfl

theorem parts_ne_nil {r : List Char} (hne : trimEnd r ≠ []) : parts (trimEnd r).reverse ≠ [] := by
  obtain ⟨last, hlast⟩ := parts_above hne
  rw [hlast]
  exact List.concat_ne_nil _ _

/-! ### The directory above -/

theorem parent?_eq_none_iff {p : Path} : p.parent? = none ↔ parts p.text.toList = [] := by
  have htrim := parts_trimEnd p.text.toList.reverse
  rw [List.reverse_reverse] at htrim
  unfold parent?
  split
  · next heq =>
    rw [heq] at htrim
    exact iff_of_true rfl htrim.symm
  · next hne =>
    refine iff_of_false ?_ (htrim ▸ parts_ne_nil fun h => hne h)
    split <;> exact Option.some_ne_none _

/-- The root starts an absolute path, the empty path any other. -/
theorem start_prefix (p : Path) :
    (if p.isAbsolute then "/" else "").toList <+: p.text.toList := by
  cases hp : p.isAbsolute with
  | false => exact List.nil_prefix
  | true =>
    obtain ⟨rest, htext⟩ := exists_toList_of_isAbsolute hp
    exact ⟨rest, htext.symm⟩

/-- The directory above is a start of the path that lacks the last part. If no part is left, it is
the root or the empty path. -/
theorem parent?_parts {p q : Path} (h : p.parent? = some q) :
    (∃ last, parts p.text.toList = parts q.text.toList ++ [last]) ∧
      q.text.toList <+: p.text.toList ∧ q.isAbsolute = p.isAbsolute ∧
      (parts q.text.toList = [] → q.text = if p.isAbsolute then "/" else "") := by
  have htrim := parts_trimEnd p.text.toList.reverse
  rw [List.reverse_reverse] at htrim
  unfold parent? at h
  split at h
  · cases h
  · next hne =>
    obtain ⟨last, hlast⟩ := parts_above fun h => hne h
    rw [htrim] at hlast
    split at h
    · next habove =>
      cases h
      rw [habove] at hlast
      refine ⟨⟨last, hlast.trans ?_⟩, start_prefix p, ?_, fun _ => rfl⟩
      all_goals cases p.isAbsolute <;> rfl
    · next up hup =>
      -- what stands above is trimmed as well, so it has parts
      cases h
      have hsuffix : above (trimEnd p.text.toList.reverse) <:+ p.text.toList.reverse :=
        ((trimEnd_suffix _).trans (List.dropWhile_suffix _)).trans (trimEnd_suffix _)
      obtain ⟨more, hmore⟩ := List.reverse_prefix.2 hsuffix
      rw [List.reverse_reverse] at hmore
      have hne : above (trimEnd p.text.toList.reverse) ≠ [] := fun h => hup h
      refine ⟨⟨last, by rw [hlast, String.toList_ofList]⟩, ?_, ?_, fun hparts => ?_⟩
      · rw [String.toList_ofList]
        exact ⟨more, hmore⟩
      · have hhead : ((above (trimEnd p.text.toList.reverse)).reverse ++ more).head? =
            (above (trimEnd p.text.toList.reverse)).reverse.head? :=
          List.head?_append_of_ne_nil _ (List.reverse_ne_nil_iff.2 hne)
        rw [isAbsolute, isAbsolute, String.toList_ofList, ← hhead, hmore]
      · rw [String.toList_ofList] at hparts
        exact absurd hparts (parts_ne_nil hne)

theorem parts_of_isAbsolute {p : Path} (hp : p.isAbsolute = true) :
    parts p.text.toList = components p.text.toList := by
  obtain ⟨rest, htext⟩ := exists_toList_of_isAbsolute hp
  rw [parts, htext, pieces, if_pos rfl]
  rfl

/-- The directory above an absolute path has its names but the last, and its text starts the text
of the path. -/
theorem parent?_spec {p q : Path} (hp : p.isAbsolute = true) (h : p.parent? = some q) :
    q.isAbsolute = true ∧ (∃ last, p.names = q.names ++ [last]) ∧
      q.text.toList <+: p.text.toList := by
  obtain ⟨⟨last, hparts⟩, htext, hq, -⟩ := parent?_parts h
  rw [hp] at hq
  rw [parts_of_isAbsolute hp, parts_of_isAbsolute hq] at hparts
  refine ⟨hq, ⟨String.ofList last, ?_⟩, htext⟩
  rw [names_eq, names_eq, hparts, List.map_append]
  rfl

theorem names_of_parent?_eq_none {p : Path} (h : p.parent? = none) : p.names = [] := by
  obtain ⟨-, hcomponents⟩ := List.append_eq_nil_iff.1 (parent?_eq_none_iff.1 h)
  rw [names_eq, hcomponents]
  rfl

/-- From the directory above, a joined path gets no longer. -/
theorem size_join_parent?_le {p q : Path} {name : String} (hp : p.isAbsolute = true)
    (hname : name.toList.head? ≠ some '/') (h : p.parent? = some q) :
    (q.join name).text.utf8ByteSize ≤ (p.join name).text.utf8ByteSize := by
  obtain ⟨hq, -, more, htext⟩ := parent?_spec hp h
  have hmore : (String.ofList more).utf8ByteSize ≠ 0 := by
    have hlt := length_of_parent? h
    rw [← htext, List.length_append] at hlt
    rw [ne_eq, String.utf8ByteSize_eq_zero_iff, String.ofList_eq_empty_iff]
    rintro rfl
    simp at hlt
  have hsize : p.text.utf8ByteSize = q.text.utf8ByteSize + (String.ofList more).utf8ByteSize := by
    rw [show p.text = q.text ++ String.ofList more from String.ext (by simp [htext]),
      String.utf8ByteSize_append]
  obtain ⟨sizeq, hle, -, hjoin⟩ := exists_size_join (text_ne_empty hq)
  obtain ⟨sizep, -, hge, hjoin'⟩ := exists_size_join (text_ne_empty hp)
  rw [hjoin name hname, hjoin' name hname]
  omega

/-! ### All directories above -/

/-- Of an absolute path all directories above are absolute, and their names and texts start its
own. -/
theorem mem_ancestors {p q : Path} (hp : p.isAbsolute = true) (h : q ∈ p.ancestors) :
    q.isAbsolute = true ∧ q.names <+: p.names ∧ q.text.toList <+: p.text.toList := by
  fun_induction ancestors p with
  | case1 p =>
    obtain rfl := List.mem_singleton.1 h
    exact ⟨hp, List.prefix_rfl, List.prefix_rfl⟩
  | case2 p parent hparent ih =>
    obtain ⟨habsolute, ⟨last, hnames⟩, htext⟩ := parent?_spec hp hparent
    rcases List.mem_cons.1 h with rfl | h
    · exact ⟨hp, List.prefix_rfl, List.prefix_rfl⟩
    · obtain ⟨hq, hqNames, hqText⟩ := ih habsolute h
      rw [hnames]
      exact ⟨hq, hqNames.trans (List.prefix_append _ _), hqText.trans htext⟩

theorem getElem?_ancestors (p : Path) (n : Nat) : p.ancestors[n]? = p.up n := by
  fun_induction ancestors p generalizing n with
  | case1 p hnone =>
    cases n with
    | zero => rfl
    | succ n => rw [up, hnone]; rfl
  | case2 p q hparent ih =>
    cases n with
    | zero => rfl
    | succ n => rw [List.getElem?_cons_succ, ih, up, hparent, Option.bind_some]

theorem length_ancestors (p : Path) : p.ancestors.length = (parts p.text.toList).length + 1 := by
  fun_induction ancestors p with
  | case1 p hnone => rw [parent?_eq_none_iff.1 hnone]; rfl
  | case2 p q hparent ih =>
    obtain ⟨⟨last, hparts⟩, -, -⟩ := parent?_parts hparent
    rw [List.length_cons, ih, hparts, List.length_append, List.length_singleton]

/-- One can go up as often as there are parts. -/
theorem exists_up_iff (p : Path) (n : Nat) :
    (∃ q, p.up n = some q) ↔ n ≤ (parts p.text.toList).length := by
  simp only [← getElem?_ancestors]
  rw [← Option.ne_none_iff_exists', ne_eq, List.getElem?_eq_none_iff, length_ancestors,
    Nat.not_le, Nat.lt_succ_iff]

/-- Going up leaves a start of the path with the parts that come first. Where none are left, it is
the root or the empty path, unless it is the path that was started from. -/
theorem up_parts {p q : Path} {n : Nat} (h : p.up n = some q) :
    parts q.text.toList =
        (parts p.text.toList).take ((parts p.text.toList).length - n) ∧
      q.text.toList <+: p.text.toList ∧ q.isAbsolute = p.isAbsolute ∧
      (parts q.text.toList = [] → q = p ∨ q.text = if p.isAbsolute then "/" else "") := by
  induction n generalizing p with
  | zero =>
    cases h
    exact ⟨List.take_length.symm, List.prefix_rfl, rfl, fun _ => .inl rfl⟩
  | succ n ih =>
    obtain ⟨above, habove, hq⟩ := Option.bind_eq_some_iff.1 h
    obtain ⟨⟨last, hlast⟩, htext, habsolute, hend⟩ := parent?_parts habove
    obtain ⟨hparts, hstart, hq, hends⟩ := ih hq
    refine ⟨?_, hstart.trans htext, hq.trans habsolute, fun hnil => .inr ?_⟩
    · rw [hparts, hlast, List.length_append, List.length_singleton, Nat.add_sub_add_right,
        List.take_append_of_le_length (Nat.sub_le _ _)]
    · rcases hends hnil with rfl | htext
      · exact hend hnil
      · rw [htext, habsolute]

end FirmwareKit.Path
