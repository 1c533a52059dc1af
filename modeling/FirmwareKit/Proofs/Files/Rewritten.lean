import FirmwareKit.Proofs.Files.Place

/-! Files that are rewritten. Where nothing but the bytes of some files changes, every path
leads to the same place and to the same kind of thing, directories list the same names, and
all other files keep their text. A tree with its directories listed in another order is such a
tree in which no file is rewritten. -/

namespace FirmwareKit.Files

open Node

/-! ### Contents by place -/

theorem readText_eq_ok {f : Files} {p : Path} {text : String} :
    f.readText p = .ok text ↔ ∃ place n bytes, f.place? p = some place ∧
      f.root.at? place = some n ∧ n.bytes? = some bytes ∧
      String.fromUTF8? bytes = some text := by
  have hnode : (∃ place n bytes, f.place? p = some place ∧ f.root.at? place = some n ∧
      n.bytes? = some bytes ∧ String.fromUTF8? bytes = some text) ↔
      ∃ n bytes, f.node? p = some n ∧ n.bytes? = some bytes ∧
        String.fromUTF8? bytes = some text := by
    simp only [node?, Option.bind_eq_some_iff]
    grind
  rw [hnode, ← toOption_find, readText, readBytes]
  cases f.find .target p with
  | error e => simp [Except.toOption]
  | ok n =>
    cases n with
    | link | dir | locked => simp [Except.toOption, bytes?]
    | file bytes | unnamed bytes =>
      cases htext : String.fromUTF8? bytes <;> simp [Except.toOption, bytes?, htext]

theorem list_eq_ok {f : Files} {p : Path} {names : List String} :
    f.list p = .ok names ↔ ∃ place entries, f.place? p = some place ∧
      f.root.at? place = some (.dir entries) ∧ entries.map (·.1) = names := by
  have hnode : (∃ place entries, f.place? p = some place ∧ f.root.at? place = some (.dir entries) ∧
      entries.map (·.1) = names) ↔
      ∃ entries, f.node? p = some (.dir entries) ∧ entries.map (·.1) = names := by
    simp only [node?, Option.bind_eq_some_iff]
    grind
  rw [hnode, ← toOption_find, list]
  cases f.find .target p with
  | error e => simp [Except.toOption]
  | ok n => cases n <;> simp [Except.toOption]

/-- The trees differ at most in the bytes of the files at some places. -/
structure RewrittenAt (places : List String → Prop) (f g : Files) : Prop where
  cwd_eq : g.cwd = f.cwd
  elsewhere : ∀ names, ¬ places names →
    (g.root.at? names).map bare = (f.root.at? names).map bare
  files : ∀ names, places names → ∃ old new,
    f.root.at? names = some (.file old) ∧ g.root.at? names = some (.file new)

namespace RewrittenAt

variable {places : List String → Prop} {f g : Files} {p : Path}

theorem symm (h : RewrittenAt places f g) : RewrittenAt places g f where
  cwd_eq := h.cwd_eq.symm
  elsewhere names hnames := (h.elsewhere names hnames).symm
  files names hnames := by
    obtain ⟨old, new, hold, hnew⟩ := h.files names hnames
    exact ⟨new, old, hnew, hold⟩

/-- At every place there is the same, or a file in both trees. -/
theorem at?_cases (h : RewrittenAt places f g) (names : List String) :
    (g.root.at? names).map bare = (f.root.at? names).map bare ∨
      ∃ old new, f.root.at? names = some (.file old) ∧ g.root.at? names = some (.file new) := by
  by_cases hplace : places names
  · exact .inr (h.files names hplace)
  · exact .inl (h.elsewhere names hplace)

theorem samePlaces (h : RewrittenAt places f g) : f.SamePlaces g where
  cwd_eq := h.cwd_eq
  guide?_eq names := by
    rcases h.at?_cases names with hbare | ⟨old, new, hold, hnew⟩
    · rw [guide?_eq_bare, guide?_eq_bare, hbare]
    · rw [guide?, guide?, hold, hnew]
      rfl

theorem isSome_at? (h : RewrittenAt places f g) (names : List String) :
    (g.root.at? names).isSome = (f.root.at? names).isSome := by
  rcases h.at?_cases names with hbare | ⟨old, new, hold, hnew⟩
  · simpa using congrArg Option.isSome hbare
  · rw [hold, hnew]
    rfl

/-- Below what a path leads to, no test tells the trees apart that does not look into files. -/
theorem any_below (h : RewrittenAt places f g) (p : Path) (names : List String)
    (test : Node → Bool) (hbare : ∀ n, test n.bare = test n)
    (hfile : ∀ old new, test (.file new) = test (.file old)) :
    ((g.node? p).bind (at? names)).any test = ((f.node? p).bind (at? names)).any test := by
  rw [node?, node?, h.samePlaces.place?_eq]
  cases f.place? p with
  | none => rfl
  | some place =>
    rw [Option.bind_some, Option.bind_some, ← at?_append, ← at?_append]
    rcases h.at?_cases (place ++ names) with heq | ⟨old, new, hold, hnew⟩
    · simpa [Option.any_map, Function.comp_def, hbare] using congrArg (Option.any test) heq
    · simpa [hold, hnew] using hfile old new

/-- The same names lead to something there. -/
theorem isSome_below (h : RewrittenAt places f g) (p : Path) (names : List String) :
    ((g.node? p).bind (at? names)).isSome = ((f.node? p).bind (at? names)).isSome := by
  simpa using h.any_below p names (fun _ => true) (fun _ => rfl) fun _ _ => rfl

theorem any_node? (h : RewrittenAt places f g) (test : Node → Bool)
    (hbare : ∀ n, test n.bare = test n) (hfile : ∀ old new, test (.file new) = test (.file old)) :
    (g.node? p).any test = (f.node? p).any test := by
  simpa [at?] using h.any_below p [] test hbare hfile

theorem sameKind (h : RewrittenAt places f g) (p : Path) : f.SameKind g p where
  isThere_eq := by
    rw [isThere_eq, isThere_eq]
    simpa using h.any_node? (fun _ => true) (fun _ => rfl) fun _ _ => rfl
  isFile_eq := by
    rw [isFile_eq, isFile_eq]
    exact h.any_node? Node.isFile isFile_bare fun _ _ => rfl
  isDir_eq := by
    rw [isDir_eq, isDir_eq]
    exact h.any_node? Node.isDir isDir_bare fun _ _ => rfl

/-- An entry is called by a text in both trees or in none. -/
theorem isNamed_eq (h : RewrittenAt places f g) (p : Path) : g.isNamed p = f.isNamed p := by
  have hunnamed (names : List String) : (∃ bytes, g.root.at? names = some (.unnamed bytes)) ↔
      ∃ bytes, f.root.at? names = some (.unnamed bytes) := by
    rcases h.at?_cases names with hbare | ⟨old, new, hold, hnew⟩
    · cases hf : f.root.at? names with
      | none => simp_all
      | some n =>
        obtain ⟨m, hm, heq⟩ := Option.map_eq_some_iff.1 (hbare.trans (by rw [hf]; rfl))
        rw [hm]
        cases n <;> cases m <;> simp_all [bare, emptyDir]
    · simp [hold, hnew]
  rw [← Bool.not_inj_iff, Bool.eq_iff_iff, Bool.not_eq_true', Bool.not_eq_true',
    isNamed_eq_false_iff, isNamed_eq_false_iff, h.samePlaces.locate_eq (by decide)]
  simp only [exists_and_left, hunnamed]

theorem at?_eq_of_bytes? {names : List String} {n : Node} {bytes : ByteArray}
    (h : RewrittenAt places f g) (hplace : ¬ places names) (hat : f.root.at? names = some n)
    (hn : n.bytes? = some bytes) : g.root.at? names = some n := by
  have hbare := h.elsewhere names hplace
  rw [hat] at hbare
  obtain ⟨m, hm, heq⟩ := Option.map_eq_some_iff.1 hbare
  rw [hm, eq_of_bare_eq (isFile_of_bytes? hn) heq]

theorem readText_eq {text : String} (h : RewrittenAt places f g)
    (hp : ∀ place, f.place? p = some place → ¬ places place) (hread : f.readText p = .ok text) :
    g.readText p = .ok text := by
  obtain ⟨place, n, bytes, hplace, hat, hn, htext⟩ := readText_eq_ok.1 hread
  exact readText_eq_ok.2 ⟨place, n, bytes, by rw [h.samePlaces.place?_eq, hplace],
    h.at?_eq_of_bytes? (hp place hplace) hat hn, hn, htext⟩

/-- A directory lists the same names, in whatever order. -/
theorem exists_list {names : List String} (h : RewrittenAt places f g)
    (hlist : f.list p = .ok names) :
    ∃ names', g.list p = .ok names' ∧ ∀ name, name ∈ names' ↔ name ∈ names := by
  obtain ⟨place, entries, hplace, hat, rfl⟩ := list_eq_ok.1 hlist
  have hdir : g.root.DirAt place := by
    rw [← guide?_eq_emptyDir_iff, h.samePlaces.guide?_eq, guide?_eq_emptyDir_iff]
    exact ⟨entries, hat⟩
  obtain ⟨entries', hat'⟩ := hdir
  refine ⟨_, list_eq_ok.2 ⟨place, entries', by rw [h.samePlaces.place?_eq, hplace], hat', rfl⟩,
    fun name => ?_⟩
  have hsome := h.isSome_at? (place ++ [name])
  rw [at?_concat, at?_concat, hat, hat'] at hsome
  rw [← isSome_lookup_iff, ← isSome_lookup_iff]
  exact Bool.eq_iff_iff.1 hsome

end RewrittenAt

end FirmwareKit.Files

namespace FirmwareKit

/-! ### Directories listed in another order -/

namespace Node

/-- The trees differ in the order alone in which their directories have their entries. -/
inductive Reordered : Node → Node → Prop
  | refl (n : Node) : Reordered n n
  | perm {entries entries' : List (String × Node)} (h : entries.Perm entries') :
    Reordered (dir entries) (dir entries')
  | inside {front back : List (String × Node)} {name : String} {n n' : Node} (h : Reordered n n') :
    Reordered (dir (front ++ (name, n) :: back)) (dir (front ++ (name, n') :: back))
  | trans {a b c : Node} (hab : Reordered a b) (hbc : Reordered b c) : Reordered a c

theorem lookup_eq_of_perm {entries entries' : List (String × Node)} (h : entries.Perm entries')
    (hnodup : (entries.map (·.1)).Nodup) (name : String) :
    lookup name entries' = lookup name entries := by
  have hnodup' := ((h.map (·.1)).nodup_iff).1 hnodup
  ext n
  exact ⟨fun hn => lookup_of_mem hnodup (h.mem_iff.2 (mem_of_lookup hn)),
    fun hn => lookup_of_mem hnodup' (h.mem_iff.1 (mem_of_lookup hn))⟩

theorem lookup_append (name : String) (front back : List (String × Node)) :
    lookup name (front ++ back) = (lookup name front).or (lookup name back) := by
  induction front with
  | nil => rfl
  | cons e front ih =>
    obtain ⟨first, node⟩ := e
    rw [List.cons_append, lookup, lookup]
    split
    · rfl
    · exact ih

/-- The order of entries matters neither to a proper tree nor to what stands at its places. -/
theorem Reordered.spec {a b : Node} (h : Reordered a b) (ha : a.Proper) :
    b.Proper ∧ ∀ names, (b.at? names).map bare = (a.at? names).map bare := by
  induction h with
  | refl => exact ⟨ha, fun _ => rfl⟩
  | trans _ _ ihab ihbc =>
    obtain ⟨hb, hab⟩ := ihab ha
    obtain ⟨hc, hbc⟩ := ihbc hb
    exact ⟨hc, fun names => (hbc names).trans (hab names)⟩
  | perm h =>
    cases ha with | dir _ nodup isName below
    refine ⟨.dir _ (((h.map (·.1)).nodup_iff).1 nodup) (fun e he => isName e (h.mem_iff.2 he))
      fun e he => below e (h.mem_iff.2 he), fun names => ?_⟩
    cases names with
    | nil => rfl
    | cons name names => rw [at?, at?, child?, child?, lookup_eq_of_perm h nodup]
  | @inside front back key n n' _ ih =>
    cases ha with | dir _ nodup isName below
    obtain ⟨hn', hat⟩ := ih (below (key, n) (by simp))
    have hnames : (front ++ (key, n') :: back).map (·.1) =
        (front ++ (key, n) :: back).map (·.1) := by
      simp
    have hmem {e : String × Node} (he : e ∈ front ++ (key, n') :: back) :
        e = (key, n') ∨ e ∈ front ++ (key, n) :: back := by
      simp only [List.mem_append, List.mem_cons] at he ⊢
      tauto
    refine ⟨.dir _ (hnames ▸ nodup) (fun e he => ?_) (fun e he => ?_), fun names => ?_⟩
    · rcases hmem he with rfl | he
      · exact isName (key, n) (by simp)
      · exact isName e he
    · rcases hmem he with rfl | he
      · exact hn'
      · exact below e he
    · cases names with
      | nil => rfl
      | cons name names =>
        rw [at?, at?, child?, child?, lookup_append, lookup_append, lookup, lookup]
        cases lookup name front with
        | some => rfl
        | none =>
          by_cases hkey : key = name
          · rw [if_pos hkey, if_pos hkey]
            exact hat names
          · rw [if_neg hkey, if_neg hkey]

end Node

end FirmwareKit
