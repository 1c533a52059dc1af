import Mathlib.Data.List.Basic
import FirmwareKit.Path

/-! The names of a path. They are its pieces between slashes, without those that stand for
nothing. Joining a name adds it, and an absolute path has the names of the directory it is read
from and then its own. -/

namespace FirmwareKit.Path

/-! ### Pieces -/

theorem pieces_ne_nil (s : List Char) : pieces s ≠ [] := by
  fun_cases pieces s <;> simp

theorem pieces_append_slash (s t : List Char) : pieces (s ++ '/' :: t) = pieces s ++ pieces t := by
  induction s with
  | nil => simp [pieces]
  | cons c s ih =>
    rw [List.cons_append, pieces, pieces]
    split
    · rw [ih, List.cons_append]
    · rw [ih]
      obtain ⟨piece, more, heq⟩ := List.exists_cons_of_ne_nil (pieces_ne_nil s)
      simp [heq]

theorem pieces_of_not_mem {s : List Char} (h : '/' ∉ s) : pieces s = [s] := by
  induction s with
  | nil => rfl
  | cons c s ih =>
    obtain ⟨hc, hs⟩ := not_or.1 (List.mem_cons.not.1 h)
    rw [pieces, if_neg (Ne.symm hc), ih hs]

theorem slash_not_mem_of_mem_pieces {s piece : List Char} (h : piece ∈ pieces s) : '/' ∉ piece := by
  induction s generalizing piece with
  | nil =>
    obtain rfl := List.mem_singleton.1 h
    simp
  | cons c s ih =>
    rw [pieces] at h
    split at h
    · rcases List.mem_cons.1 h with rfl | h
      · simp
      · exact ih h
    · next hc =>
      obtain ⟨first, more, heq⟩ := List.exists_cons_of_ne_nil (pieces_ne_nil s)
      rw [heq] at h ih
      rcases List.mem_cons.1 h with rfl | h
      · exact List.mem_cons.not.2 (not_or.2 ⟨Ne.symm hc, ih List.mem_cons_self⟩)
      · exact ih (List.mem_cons_of_mem _ h)

/-! ### Components -/

/-- The pieces of a text that stand for something. -/
def components (s : List Char) : List (List Char) :=
  (pieces s).filter fun piece => piece != [] && piece != ['.']

theorem names_eq (p : Path) : p.names = (components p.text.toList).map String.ofList := rfl

@[simp] theorem components_nil : components [] = [] := rfl

theorem components_append_slash (s t : List Char) :
    components (s ++ '/' :: t) = components s ++ components t := by
  rw [components, pieces_append_slash, List.filter_append]
  rfl

@[simp] theorem components_append_slash_nil (s : List Char) :
    components (s ++ ['/']) = components s := by
  rw [components_append_slash, components_nil, List.append_nil]

/-- A text that is one name of a path. -/
def IsComponent (name : List Char) : Prop :=
  name ≠ [] ∧ name ≠ ['.'] ∧ '/' ∉ name

theorem components_of_isComponent {name : List Char} (h : IsComponent name) :
    components name = [name] := by
  rw [components, pieces_of_not_mem h.2.2, List.filter_cons_of_pos (by simp [h.1, h.2.1])]
  rfl

theorem isComponent_of_mem {s name : List Char} (h : name ∈ components s) : IsComponent name := by
  obtain ⟨hmem, hkept⟩ := List.mem_filter.1 h
  rw [Bool.and_eq_true, bne_iff_ne, bne_iff_ne] at hkept
  exact ⟨hkept.1, hkept.2, slash_not_mem_of_mem_pieces hmem⟩

theorem isComponent_of_mem_names {p : Path} {name : String} (h : name ∈ p.names) :
    IsComponent name.toList := by
  obtain ⟨piece, hpiece, rfl⟩ := List.mem_map.1 h
  rw [String.toList_ofList]
  exact isComponent_of_mem hpiece

/-- Names with slashes between them are the components of what they form. -/
theorem components_intercalate {names : List (List Char)} (h : ∀ name ∈ names, IsComponent name) :
    components (['/'].intercalate names) = names := by
  match names with
  | [] => rfl
  | [name] =>
    rw [List.intercalate_singleton]
    exact components_of_isComponent (h name List.mem_cons_self)
  | name :: next :: names =>
    obtain ⟨hname, hnames⟩ := List.forall_mem_cons.1 h
    rw [List.intercalate_cons_cons, List.append_assoc, List.singleton_append,
      components_append_slash, components_of_isComponent hname, components_intercalate hnames,
      List.singleton_append]

theorem mem_of_mem_intercalate {names : List (List Char)} {c : Char}
    (h : c ∈ ['/'].intercalate names) : c = '/' ∨ ∃ name ∈ names, c ∈ name := by
  match names with
  | [] => cases h
  | [name] =>
    rw [List.intercalate_singleton] at h
    exact .inr ⟨name, List.mem_cons_self, h⟩
  | name :: next :: names =>
    rw [List.intercalate_cons_cons, List.append_assoc, List.mem_append, List.mem_append] at h
    rcases h with h | h | h
    · exact .inr ⟨name, List.mem_cons_self, h⟩
    · exact .inl (List.mem_singleton.1 h)
    · refine (mem_of_mem_intercalate h).imp_right ?_
      rintro ⟨other, hother, h⟩
      exact ⟨other, List.mem_cons_of_mem _ hother, h⟩

/-- Joining puts a slash between a path and a name, unless the path ends in one. -/
theorem exists_toList_join {base : Path} (hbase : base.text ≠ "") :
    ∃ front, (base.text.toList = front ∨ base.text.toList = front ++ ['/']) ∧
      ∀ other : String, other.toList.head? ≠ some '/' →
        (base.join other).text.toList = front ++ '/' :: other.toList := by
  by_cases hlast : base.text.toList.getLast? = some '/'
  · obtain ⟨front, heq⟩ := List.getLast?_eq_some_iff.1 hlast
    refine ⟨front, .inr heq, fun other h => ?_⟩
    rw [join, if_neg (by simp [hbase, h]), if_pos hlast]
    simp [heq]
  · refine ⟨base.text.toList, .inl rfl, fun other h => ?_⟩
    rw [join, if_neg (by simp [hbase, h]), if_neg hlast]
    simp

theorem names_join {base : Path} {other : String} (hbase : base.text ≠ "")
    (h : other.toList.head? ≠ some '/') :
    (base.join other).names = base.names ++ (components other.toList).map String.ofList := by
  obtain ⟨front, hfront, htext⟩ := exists_toList_join hbase
  rw [names_eq, names_eq, htext other h, components_append_slash, List.map_append]
  rcases hfront with heq | heq
  · rw [heq]
  · rw [heq, components_append_slash_nil]

theorem names_join_name {base : Path} {name : String} (hbase : base.text ≠ "")
    (h : IsComponent name.toList) : (base.join name).names = base.names ++ [name] := by
  rw [names_join hbase fun hhead => h.2.2 (List.mem_of_head? hhead), components_of_isComponent h]
  simp

theorem text_join_ne_empty {base : Path} {other : String} (hbase : base.text ≠ "")
    (h : other.toList.head? ≠ some '/') : (base.join other).text ≠ "" := by
  obtain ⟨front, -, htext⟩ := exists_toList_join hbase
  intro hempty
  have hjoin := htext other h
  rw [hempty] at hjoin
  simp at hjoin

theorem names_foldl_join {base : Path} {names : List String} (hbase : base.text ≠ "")
    (hnames : ∀ name ∈ names, IsComponent name.toList) :
    (names.foldl join base).names = base.names ++ names := by
  induction names generalizing base with
  | nil => exact (List.append_nil _).symm
  | cons name names ih =>
    obtain ⟨hname, hnames⟩ := List.forall_mem_cons.1 hnames
    have hhead : name.toList.head? ≠ some '/' := fun hhead => hname.2.2 (List.mem_of_head? hhead)
    rw [List.foldl_cons, ih (text_join_ne_empty hbase hhead) hnames, names_join_name hbase hname,
      List.append_assoc, List.singleton_append]

theorem text_prefix_join {base : Path} {other : String} (hbase : base.text ≠ "")
    (h : other.toList.head? ≠ some '/') :
    base.text.toList <+: (base.join other).text.toList := by
  obtain ⟨front, hfront, htext⟩ := exists_toList_join hbase
  rw [htext other h]
  rcases hfront with heq | heq
  · exact ⟨'/' :: other.toList, by rw [heq]⟩
  · exact ⟨other.toList, by rw [heq, List.append_assoc, List.singleton_append]⟩

theorem isAbsolute_join {base : Path} {other : String} (hbase : base.text ≠ "")
    (h : other.toList.head? ≠ some '/') : (base.join other).isAbsolute = base.isAbsolute := by
  obtain ⟨more, heq⟩ := text_prefix_join hbase h
  rw [isAbsolute, isAbsolute, ← heq, List.head?_append_of_ne_nil _ (by simpa using hbase)]

/-- Joining adds no characters but those of the other path and a slash. -/
theorem mem_of_mem_join {base : Path} {other : String} {c : Char}
    (h : c ∈ (base.join other).text.toList) :
    c = '/' ∨ c ∈ base.text.toList ∨ c ∈ other.toList := by
  unfold join at h
  split at h
  · exact .inr (.inr h)
  · split at h
    · rw [String.toList_append, List.mem_append] at h
      exact .inr h
    · rw [String.toList_append, String.toList_append, List.mem_append, List.mem_append] at h
      rcases h with (h | h) | h
      · exact .inr (.inl h)
      · exact .inl (by simpa using h)
      · exact .inr (.inr h)

theorem text_ne_empty {p : Path} (h : p.isAbsolute = true) : p.text ≠ "" := by
  intro hempty
  rw [isAbsolute, hempty] at h
  simp at h

theorem exists_toList_of_isAbsolute {p : Path} (h : p.isAbsolute = true) :
    ∃ rest, p.text.toList = '/' :: rest := by
  rw [isAbsolute, beq_iff_eq] at h
  exact List.head?_eq_some_iff.1 h

/-- A path that goes on from an absolute one is absolute. -/
theorem isAbsolute_of_start {p q : Path} (hp : p.isAbsolute = true)
    (h : p.text.toList <+: q.text.toList) : q.isAbsolute = true := by
  obtain ⟨more, htext⟩ := h
  obtain ⟨rest, heq⟩ := exists_toList_of_isAbsolute hp
  rw [isAbsolute, ← htext, heq]
  rfl

/-! ### Absolute readings -/

/-- A path that goes on from a directory by names. -/
theorem foldl_join_spec {base : Path} {names : List String} (hbase : base.isAbsolute = true)
    (hnames : ∀ name ∈ names, IsComponent name.toList) :
    (names.foldl join base).isAbsolute = true ∧
      ∀ c ∈ (names.foldl join base).text.toList,
        c = '/' ∨ c ∈ base.text.toList ∨ ∃ name ∈ names, c ∈ name.toList := by
  induction names generalizing base with
  | nil => exact ⟨hbase, fun c hc => .inr (.inl hc)⟩
  | cons name names ih =>
    obtain ⟨hname, hnames⟩ := List.forall_mem_cons.1 hnames
    have hhead : name.toList.head? ≠ some '/' := fun hhead => hname.2.2 (List.mem_of_head? hhead)
    have hprefix := text_prefix_join (text_ne_empty hbase) hhead
    obtain ⟨habsolute, hchars⟩ := ih (isAbsolute_of_start hbase hprefix) hnames
    refine ⟨habsolute, fun c hc => ?_⟩
    rcases hchars c hc with hslash | hc | ⟨other, hother, hc⟩
    · exact .inl hslash
    · rcases mem_of_mem_join hc with hslash | hc | hc
      · exact .inl hslash
      · exact .inr (.inl hc)
      · exact .inr (.inr ⟨name, List.mem_cons_self, hc⟩)
    · exact .inr (.inr ⟨other, List.mem_cons_of_mem _ hother, hc⟩)

theorem mem_of_mem_pieces {s piece : List Char} {c : Char} (h : piece ∈ pieces s) (hc : c ∈ piece) :
    c ∈ s := by
  induction s generalizing piece with
  | nil =>
    obtain rfl := List.mem_singleton.1 h
    exact hc
  | cons d s ih =>
    rw [pieces] at h
    split at h
    · rcases List.mem_cons.1 h with rfl | h
      · cases hc
      · exact List.mem_cons_of_mem _ (ih h hc)
    · obtain ⟨first, more, heq⟩ := List.exists_cons_of_ne_nil (pieces_ne_nil s)
      rw [heq] at h ih
      rcases List.mem_cons.1 h with rfl | h
      · rcases List.mem_cons.1 hc with rfl | hc
        · exact List.mem_cons_self
        · exact List.mem_cons_of_mem _ (ih List.mem_cons_self hc)
      · exact List.mem_cons_of_mem _ (ih (List.mem_cons_of_mem _ h) hc)

theorem mem_text_of_mem_names {p : Path} {name : String} {c : Char} (h : name ∈ p.names)
    (hc : c ∈ name.toList) : c ∈ p.text.toList := by
  obtain ⟨piece, hpiece, rfl⟩ := List.mem_map.1 h
  rw [String.toList_ofList] at hc
  exact mem_of_mem_pieces (List.mem_of_mem_filter hpiece) hc

theorem root_spec {here p : Path} (hhere : here.isAbsolute = true) :
    (root here p).isAbsolute = true ∧
      (root here p).names = (if p.isAbsolute then [] else here.names) ∧
      ∀ c ∈ (root here p).text.toList, c = '/' ∨ c ∈ here.text.toList := by
  unfold root
  split
  · next h => exact ⟨rfl, by simp [isAbsolute, h]; rfl, by simp⟩
  · next h => exact ⟨rfl, by simp [isAbsolute, h]; rfl, by simp⟩
  · next h => exact ⟨rfl, by simp [isAbsolute, h]; rfl, by simp⟩
  · next h =>
    refine ⟨hhere, ?_, fun c hc => .inr hc⟩
    rw [if_neg]
    intro hp
    obtain ⟨rest, heq⟩ := exists_toList_of_isAbsolute hp
    exact h rest heq

/-- An absolute reading has the names of the directory it is read from, unless the path is absolute
itself, and then those of the path. -/
theorem absolute?_spec {here p q : Path} (hhere : here.isAbsolute = true)
    (h : absolute? here p = some q) :
    q.isAbsolute = true ∧ q.names = (if p.isAbsolute then [] else here.names) ++ p.names ∧
      ∀ c ∈ q.text.toList, c = '/' ∨ c ∈ here.text.toList ∨ c ∈ p.text.toList := by
  obtain ⟨hroot, hrootNames, hrootChars⟩ := root_spec (p := p) hhere
  have hcomponents : ∀ name ∈ p.names, IsComponent name.toList := fun _ h =>
    isComponent_of_mem_names h
  have hnames := names_foldl_join (text_ne_empty hroot) hcomponents
  obtain ⟨hbody, hchars⟩ := foldl_join_spec hroot hcomponents
  have hbodyChars : ∀ c ∈ (p.names.foldl join (root here p)).text.toList,
      c = '/' ∨ c ∈ here.text.toList ∨ c ∈ p.text.toList := by
    intro c hc
    rcases hchars c hc with hslash | hc | ⟨name, hname, hc⟩
    · exact .inl hslash
    · exact (hrootChars c hc).imp_right .inl
    · exact .inr (.inr (mem_text_of_mem_names hname hc))
  rw [hrootNames] at hnames
  rw [absolute?] at h
  split at h
  · cases h
  · cases h
    split
    · -- the slash at the end adds no name
      refine ⟨isAbsolute_of_start hbody (text_prefix_join (text_ne_empty hbody) (by simp)), ?_,
        fun c hc => ?_⟩
      · rw [names_join (text_ne_empty hbody) (by simp), hnames]
        simp
      · rcases mem_of_mem_join hc with hslash | hc | hc
        · exact .inl hslash
        · exact hbodyChars c hc
        · simp at hc
    · exact ⟨hbody, hnames, hbodyChars⟩

/-- The size of a joined path is that of the path without a slash at its end, of the slash and of
the name. -/
theorem exists_size_join {base : Path} (hbase : base.text ≠ "") :
    ∃ size, size ≤ base.text.utf8ByteSize ∧ base.text.utf8ByteSize ≤ size + 1 ∧
      ∀ other : String, other.toList.head? ≠ some '/' →
        (base.join other).text.utf8ByteSize = size + 1 + other.utf8ByteSize := by
  obtain ⟨front, hfront, htext⟩ := exists_toList_join hbase
  have hslash : "/".utf8ByteSize = 1 := by decide
  have hbaseSize : base.text.utf8ByteSize = (String.ofList front).utf8ByteSize ∨
      base.text.utf8ByteSize = (String.ofList front).utf8ByteSize + 1 := by
    rcases hfront with heq | heq
    · rw [← heq, String.ofList_toList]
      exact .inl rfl
    · rw [show base.text = String.ofList front ++ "/" from String.ext (by simp [heq]),
        String.utf8ByteSize_append, hslash]
      exact .inr rfl
  refine ⟨(String.ofList front).utf8ByteSize, by omega, by omega, fun other h => ?_⟩
  rw [show (base.join other).text = String.ofList front ++ "/" ++ other from
    String.ext (by simp [htext other h]), String.utf8ByteSize_append, String.utf8ByteSize_append,
    hslash]

theorem size_join_le {base : Path} {name other : String} (hbase : base.text ≠ "")
    (hname : name.toList.head? ≠ some '/') (hother : other.toList.head? ≠ some '/')
    (h : name.utf8ByteSize ≤ other.utf8ByteSize) :
    (base.join name).text.utf8ByteSize ≤ (base.join other).text.utf8ByteSize := by
  obtain ⟨size, -, -, hjoin⟩ := exists_size_join hbase
  rw [hjoin name hname, hjoin other hother]
  omega

theorem size_le_join (base : Path) {other : String} (h : other.toList.head? ≠ some '/') :
    base.text.utf8ByteSize ≤ (base.join other).text.utf8ByteSize := by
  by_cases hbase : base.text = ""
  · rw [hbase]
    exact Nat.zero_le _
  · obtain ⟨size, -, hle, hjoin⟩ := exists_size_join hbase
    rw [hjoin other h]
    omega

end FirmwareKit.Path
