import FirmwareKit.Proofs.Files.Access

/-! Where paths lead. A path leads to a place, which is given by the names from the root.
Only directories and links decide on the way there, so a file that is made, changed or
removed moves no path to another place, and is seen by the paths alone that lead to it. -/

namespace FirmwareKit

namespace Node

/-- The node without what is below it. -/
def bare : Node → Node
  | dir _ => emptyDir
  | n => n

/-- The bytes of a file. -/
def bytes? : Node → Option ByteArray
  | file bytes | unnamed bytes => some bytes
  | _ => none

/-- What decides on the way of a path: a directory, a link, or a locked directory. -/
def guide : Node → Option Node
  | file _ | unnamed _ => none
  | link target => some (link target)
  | dir _ => some emptyDir
  | locked => some locked

/-- What leads paths on at a place. -/
def guide? (root : Node) (names : List String) : Option Node :=
  (root.at? names).bind guide

/-- There is a directory at the place. -/
def DirAt (root : Node) (names : List String) : Prop :=
  ∃ entries, root.at? names = some (dir entries)

/-- There is a file at the place, or nothing. -/
def FileAt (root : Node) (names : List String) : Prop :=
  ∀ n, root.at? names = some n → n.isFile = true

/-! ### What stands at a place -/

theorem at?_append (root : Node) (names more : List String) :
    root.at? (names ++ more) = (root.at? names).bind (at? more) := by
  induction names generalizing root with
  | nil => rfl
  | cons name names ih =>
    rw [List.cons_append, at?, at?, Option.bind_assoc]
    exact congrArg _ (funext ih)

theorem at?_concat (root : Node) (names : List String) (name : String) :
    root.at? (names ++ [name]) = (root.at? names).bind (child? name) := by
  have hchild : at? [name] = child? name := by
    funext n
    rw [at?]
    cases n.child? name <;> rfl
  rw [at?_append, hchild]

/-- What has something below it is a directory. -/
theorem dirAt_of_append {root n : Node} {names : List String} {name : String} {more : List String}
    (h : root.at? (names ++ name :: more) = some n) : root.DirAt names := by
  rw [at?_append, Option.bind_eq_some_iff] at h
  obtain ⟨m, hm, hat⟩ := h
  obtain ⟨child, hchild, -⟩ := Option.bind_eq_some_iff.1 hat
  cases m with
  | file | link | locked | unnamed => cases hchild
  | dir entries => exact ⟨entries, hm⟩

theorem FileAt.at?_append_eq_none {root : Node} {names : List String} {name : String}
    {more : List String} (h : root.FileAt names) : root.at? (names ++ name :: more) = none := by
  rw [Option.eq_none_iff_forall_not_mem]
  intro n hn
  obtain ⟨_, hdir⟩ := dirAt_of_append hn
  exact Bool.false_ne_true (h _ hdir)

theorem DirAt.dropLast {root : Node} {names : List String} (h : root.DirAt names) :
    root.DirAt names.dropLast := by
  rcases names.eq_nil_or_concat with rfl | ⟨front, name, rfl⟩
  · exact h
  · obtain ⟨entries, hat⟩ := h
    rw [List.concat_eq_append, List.dropLast_concat]
    rw [List.concat_eq_append] at hat
    exact dirAt_of_append hat

theorem DirAt.root {root : Node} {names : List String} (h : root.DirAt names) : root.DirAt [] := by
  cases names with
  | nil => exact h
  | cons name names =>
    obtain ⟨entries, hat⟩ := h
    rw [← List.nil_append (name :: names)] at hat
    exact dirAt_of_append hat

theorem isFile_of_bytes? {n : Node} {bytes : ByteArray} (h : n.bytes? = some bytes) :
    n.isFile = true := by
  cases n with
  | file | unnamed => rfl
  | link | dir | locked => cases h

/-- A file is told by its bare node. -/
theorem eq_of_bare_eq {n m : Node} (hn : n.isFile = true) (h : m.bare = n.bare) : m = n := by
  cases n with
  | link | dir | locked => cases hn
  | file | unnamed =>
    cases m with
    | dir => cases h
    | file | link | locked | unnamed => exact h

theorem guide_bare (n : Node) : n.bare.guide = n.guide := by
  cases n <;> rfl

theorem guide?_eq_bare (root : Node) (names : List String) :
    root.guide? names = ((root.at? names).map bare).bind guide := by
  rw [Option.bind_map]
  exact congrArg _ (funext fun n => (guide_bare n).symm)

@[simp] theorem isFile_bare (n : Node) : n.bare.isFile = n.isFile := by
  cases n <;> rfl

@[simp] theorem isDir_bare (n : Node) : n.bare.isDir = n.isDir := by
  cases n <;> rfl

theorem guide?_eq_none_iff {root : Node} {names : List String} :
    root.guide? names = none ↔ root.FileAt names := by
  unfold guide? FileAt
  cases root.at? names with
  | none => simp
  | some n => cases n <;> simp [guide, isFile]

theorem guide?_eq_emptyDir_iff {root : Node} {names : List String} :
    root.guide? names = some emptyDir ↔ root.DirAt names := by
  unfold guide? DirAt
  cases root.at? names with
  | none => simp
  | some n => cases n <;> simp [guide, emptyDir]

theorem guide?_eq_link_iff {root : Node} {names : List String} {target : String} :
    root.guide? names = some (link target) ↔ root.at? names = some (link target) := by
  unfold guide?
  cases root.at? names with
  | none => simp
  | some n => cases n <;> simp [guide, emptyDir]

theorem guide?_eq_locked_iff {root : Node} {names : List String} :
    root.guide? names = some locked ↔ root.at? names = some locked := by
  unfold guide?
  cases root.at? names with
  | none => simp
  | some n => cases n <;> simp [guide, emptyDir]

/-! ### A file put into a tree -/

theorem lookup_alterEntry (name other : String) (f : Option Node → Node)
    (entries : List (String × Node)) :
    lookup other (alterEntry name (fun old => some (f old)) entries) =
      if other = name then some (f (lookup name entries)) else lookup other entries := by
  induction entries with
  | nil =>
    by_cases h : other = name
    · simp [alterEntry, lookup, h]
    · simp [alterEntry, lookup, h, Ne.symm h]
  | cons e entries ih =>
    obtain ⟨first, node⟩ := e
    by_cases hfirst : first = name
    · subst hfirst
      by_cases h : other = first
      · simp [alterEntry, lookup, h]
      · simp [alterEntry, lookup, h, Ne.symm h]
    · by_cases h : other = name
      · subst h
        simp [alterEntry, lookup, hfirst, ih]
      · simp [alterEntry, lookup, hfirst, ih, h]

theorem at?_insert_cons (entries : List (String × Node)) (name : String) (names : List String)
    (new : Node) (other : String) (more : List String) :
    (insert (dir entries) (name :: names) new).at? (other :: more) =
      if other = name then (((lookup name entries).getD emptyDir).insert names new).at? more
      else (dir entries).at? (other :: more) := by
  rw [insert, at?, child?, lookup_alterEntry]
  split <;> rfl

theorem at?_insert_self {root : Node} {names : List String} {name : String} (new : Node)
    (h : root.DirAt names) :
    (root.insert (names ++ [name]) new).at? (names ++ [name]) = some new := by
  induction names generalizing root with
  | nil =>
    obtain ⟨entries, hat⟩ := h
    cases hat
    rw [List.nil_append, at?_insert_cons, if_pos rfl]
    rfl
  | cons first names ih =>
    obtain ⟨below, hat⟩ := h
    obtain ⟨child, hchild, hbelow⟩ := Option.bind_eq_some_iff.1 hat
    cases root with
    | file | link | locked | unnamed => cases hchild
    | dir entries =>
      rw [List.cons_append, at?_insert_cons, if_pos rfl, show lookup first entries = _ from hchild]
      exact ih ⟨below, hbelow⟩

/-- A file put into a directory, in the place of a file or where nothing was, is all that is new. -/
theorem at?_insert_of_ne {root : Node} {names : List String} {name : String} {bytes : ByteArray}
    {other : List String} (h : root.DirAt names) (hfile : root.FileAt (names ++ [name]))
    (hne : other ≠ names ++ [name]) :
    ((root.insert (names ++ [name]) (.file bytes)).at? other).map bare =
      (root.at? other).map bare := by
  induction names generalizing root other with
  | nil =>
    obtain ⟨entries, hat⟩ := h
    cases hat
    match other with
    | [] => rfl
    | next :: more =>
      rw [List.nil_append, at?_insert_cons]
      split
      · next heq =>
        -- nothing is below a file, the new one or the old one
        subst heq
        obtain ⟨below, more, rfl⟩ : ∃ below more', more = below :: more' :=
          List.exists_cons_of_ne_nil (by rintro rfl; exact hne rfl)
        have hold : (dir entries).at? ([next] ++ below :: more) = none :=
          FileAt.at?_append_eq_none hfile
        rw [List.singleton_append] at hold
        rw [hold]
        rfl
      · rfl
  | cons first names ih =>
    obtain ⟨below, hat⟩ := h
    obtain ⟨child, hchild, hbelow⟩ := Option.bind_eq_some_iff.1 hat
    cases root with
    | file | link | locked | unnamed => cases hchild
    | dir entries =>
      have hlookup : lookup first entries = some child := hchild
      match other with
      | [] => rfl
      | next :: more =>
        rw [List.cons_append, at?_insert_cons]
        split
        · next heq =>
          subst heq
          have hat? (names : List String) :
              (dir entries).at? (next :: names) = child.at? names := by
            rw [at?, child?, hlookup, Option.bind_some]
          rw [hlookup, Option.getD_some, hat?]
          refine ih ⟨below, hbelow⟩ (fun n hn => hfile n ?_) fun heq => hne (by rw [heq]; rfl)
          rw [List.cons_append, hat?, hn]
        · rfl

/-! ### A file taken out of a tree -/

theorem lookup_alterEntry_of_ne {name other : String} (f : Option Node → Option Node)
    (entries : List (String × Node)) (h : other ≠ name) :
    lookup other (alterEntry name f entries) = lookup other entries := by
  induction entries with
  | nil =>
    cases hf : f none <;> simp [alterEntry, lookup, hf, Ne.symm h]
  | cons e entries ih =>
    obtain ⟨first, node⟩ := e
    by_cases hfirst : first = name
    · subst hfirst
      cases hf : f (some node) <;> simp [alterEntry, lookup, hf, Ne.symm h]
    · simp [alterEntry, lookup, hfirst, ih]

theorem lookup_alterEntry_map (name : String) (f : Node → Node) (entries : List (String × Node)) :
    lookup name (alterEntry name (Option.map f) entries) = (lookup name entries).map f := by
  induction entries with
  | nil => rfl
  | cons e entries ih =>
    obtain ⟨first, node⟩ := e
    by_cases hfirst : first = name
    · simp [alterEntry, lookup, hfirst]
    · simp [alterEntry, lookup, hfirst, ih]

/-- What is taken out of a directory is all that is gone. -/
theorem at?_erase_of_not_prefix {root : Node} {names : List String} {name : String}
    {other : List String} (h : root.DirAt names) (hnot : ¬ names ++ [name] <+: other) :
    ((root.erase (names ++ [name])).at? other).map bare = (root.at? other).map bare := by
  induction names generalizing root other with
  | nil =>
    obtain ⟨entries, hat⟩ := h
    cases hat
    cases other with
    | nil => rfl
    | cons next more =>
      have hne : next ≠ name := by
        rintro rfl
        exact hnot (List.cons_prefix_cons.2 ⟨rfl, List.nil_prefix⟩)
      rw [List.nil_append, erase, at?, at?, child?, child?]
      exact congrArg (fun n => (Option.bind n (at? more)).map bare)
        (lookup_alterEntry_of_ne _ entries hne)
  | cons first names ih =>
    obtain ⟨below, hat⟩ := h
    obtain ⟨child, hchild, hbelow⟩ := Option.bind_eq_some_iff.1 hat
    cases root with
    | file | link | locked | unnamed => cases hchild
    | dir entries =>
      have hlookup : lookup first entries = some child := hchild
      have herase : (dir entries).erase (first :: (names ++ [name])) =
          dir (alterEntry first (Option.map (·.erase (names ++ [name]))) entries) := by
        rw [erase]
        · rfl
        · simp
      rw [List.cons_append] at hnot ⊢
      rw [herase]
      cases other with
      | nil => rfl
      | cons next more =>
        rw [at?, at?, child?, child?]
        by_cases hnext : next = first
        · subst hnext
          rw [lookup_alterEntry_map, hlookup]
          exact ih ⟨below, hbelow⟩ fun hprefix => hnot (List.cons_prefix_cons.2 ⟨rfl, hprefix⟩)
        · rw [lookup_alterEntry_of_ne _ _ hnext]

end Node

namespace Files

open Node

/-! ### The place that a path leads to -/

/-- The place that a path leads to, through all links; there need not be anything yet. -/
def place? (f : Files) (p : Path) : Option (List String) :=
  (f.locate .target p).toOption.map (·.1)

/-- What a path leads to. -/
def node? (f : Files) (p : Path) : Option Node :=
  (f.place? p).bind (f.root.at? ·)

/-- Both paths denote the same file: they are written alike, or lead to the same place. -/
def SameFile (f : Files) (p q : Path) : Prop :=
  p = q ∨ ∃ names, f.place? p = some names ∧ f.place? q = some names

/-- The working directory is a directory. -/
def Grounded (f : Files) : Prop :=
  f.root.DirAt f.cwd

/-- Every path leads to the same place in both trees, since directories and links are the same. -/
structure SamePlaces (f g : Files) : Prop where
  cwd_eq : g.cwd = f.cwd
  guide?_eq : ∀ names, g.root.guide? names = f.root.guide? names

/-- The trees differ at most in the file at a place, which is made, gets other bytes, or is
removed. -/
structure FileChanged (place : List String) (f g : Files) : Prop where
  cwd_eq : g.cwd = f.cwd
  elsewhere : ∀ names, names ≠ place → (g.root.at? names).map bare = (f.root.at? names).map bare
  before : f.root.FileAt place
  after : g.root.FileAt place

/-- A path leads to a file, to a directory or to nothing in both trees. -/
structure SameKind (f g : Files) (p : Path) : Prop where
  isThere_eq : g.isThere p = f.isThere p
  isFile_eq : g.isFile p = f.isFile p
  isDir_eq : g.isDir p = f.isDir p

theorem resolve_at? {root : Node} {aim : Aim} {links : Nat} {here pieces names : List String}
    {n : Option Node} (h : resolve root aim links here pieces = .ok (names, n)) :
    n = root.at? names := by
  fun_induction resolve root aim links here pieces with
  | case1 => cases h; rfl
  | case2 _ _ _ ih | case3 _ _ _ ih | case4 _ _ _ ih => exact ih h
  | case7 _ _ _ _ _ _ _ hat | case10 _ _ _ _ _ _ _ _ hat | case12 _ _ _ _ _ _ _ _ hat
  | case14 _ _ _ _ _ _ _ _ _ hat | case16 _ _ _ _ _ _ _ _ _ _ hat =>
    cases h
    rw [at?_concat, hat]
  | case9 _ _ _ _ _ _ _ _ _ _ _ ih => exact ih h
  | case19 _ _ _ _ _ _ _ _ _ _ _ _ _ ih => exact ih h
  | case5 | case6 | case8 | case11 | case13 | case15 | case17 | case18 => cases h

/-- A path that is followed through all links leads to a directory, which may be locked, or to a
file or a free place in a directory. -/
theorem resolve_ends {root : Node} {aim : Aim} {links : Nat} {here pieces names : List String}
    {n : Option Node} (haim : aim ≠ .entry) (hhere : root.DirAt here)
    (h : resolve root aim links here pieces = .ok (names, n)) :
    root.DirAt names ∨ root.at? names = some .locked ∨
      root.FileAt names ∧ ∃ front name, names = front ++ [name] ∧ root.DirAt front := by
  fun_induction resolve root aim links here pieces with
  | case1 =>
    cases h
    exact .inl hhere
  | case2 _ _ _ ih | case3 _ _ _ ih => exact ih hhere h
  | case4 _ _ _ ih => exact ih hhere.dropLast h
  | case7 _ here name _ _ _ _ hat =>
    cases h
    refine .inr (.inr ⟨fun n hn => ?_, here, name, rfl, hhere⟩)
    rw [at?_concat, hat] at hn
    cases hn
  | case10 _ here name _ _ _ _ bytes hat | case12 _ here name _ _ _ _ bytes hat =>
    cases h
    refine .inr (.inr ⟨fun n hn => ?_, here, name, rfl, hhere⟩)
    rw [at?_concat, hat] at hn
    cases hn
    rfl
  | case14 _ _ _ _ _ _ _ _ _ hat =>
    cases h
    exact .inr (.inl (by rw [at?_concat, hat]))
  | case9 _ here name _ _ _ _ _ _ entries hat ih =>
    exact ih ⟨entries, by rw [at?_concat, hat]⟩ h
  | case19 here _ _ _ _ _ _ _ target _ _ _ _ ih =>
    refine ih ?_ h
    split
    · exact hhere.root
    · exact hhere
  | case16 _ _ _ _ _ _ _ _ _ _ _ hentry => simp [haim] at hentry
  | case5 | case6 | case8 | case11 | case13 | case15 | case17 | case18 => cases h

/-- A file is made where its path leads to. -/
theorem resolve_target_of_newFile {root : Node} {links : Nat} {here pieces : List String}
    {place : List String × Option Node} (h : resolve root .newFile links here pieces = .ok place) :
    resolve root .target links here pieces = .ok place := by
  have haim (rest : List String) :
      ¬ (decide (Aim.target = .newFile) && rest != [] && rest.all (· == "")) = true := by simp
  fun_induction resolve root .newFile links here pieces with
  | case1 => rw [resolve]; exact h
  | case2 _ _ _ ih | case3 _ _ _ ih | case4 _ _ _ ih => rw [resolve]; exact ih h
  | case7 _ _ _ _ _ _ hlen hat =>
    rw [resolve, if_neg (haim _), if_neg hlen, hat]
    · exact h
    all_goals assumption
  | case9 _ _ _ _ _ _ _ _ hlen _ hat ih =>
    rw [resolve, if_neg (haim _), if_neg hlen, hat]
    · exact ih h
    all_goals assumption
  | case10 _ _ _ _ _ _ hlen _ hat | case12 _ _ _ _ _ _ hlen _ hat =>
    rw [resolve, if_neg (haim _), if_neg hlen, hat]
    · exact h
    all_goals assumption
  | case14 _ _ _ _ _ _ _ _ hlen hat hlast =>
    rw [resolve, if_neg (haim _), if_neg hlen, hat]
    · exact (if_pos hlast).trans h
    all_goals assumption
  | case16 _ _ _ _ _ _ _ _ _ _ _ hentry => simp at hentry
  | case19 _ _ rest _ _ _ _ hlen target hat _ links hempty ih =>
    rw [resolve, if_neg (haim _), if_neg hlen, hat]
    · simpa [hempty] using ih h
    all_goals assumption
  | case5 | case6 | case8 | case11 | case13 | case15 | case17 | case18 => cases h

/-! ### What decides where a path leads -/

section Name

variable {root : Node} {aim : Aim} {links : Nat} {here rest : List String} {name : String}

/-- The next name of a path is looked up where the path has come to. -/
theorem resolve_step (haim : aim ≠ .newFile) (hempty : name ≠ "") (hdot : name ≠ ".")
    (hdots : name ≠ "..") (hlen : ¬ maxName < name.utf8ByteSize) :
    resolve root aim links here (name :: rest) =
      match root.at? (here ++ [name]) with
      | none => if rest = [] then .ok (here ++ [name], none) else .error .notFound
      | some (.dir _) => resolve root aim links (here ++ [name]) rest
      | some (.file bytes) =>
        if rest = [] then .ok (here ++ [name], some (.file bytes)) else .error .notDirectory
      | some (.unnamed bytes) =>
        if rest = [] then .ok (here ++ [name], some (.unnamed bytes)) else .error .notDirectory
      | some .locked =>
        if rest.all (· == "") then .ok (here ++ [name], some .locked)
        else .error .permissionDenied
      | some (.link target) =>
        if rest = [] && aim = .entry then .ok (here ++ [name], some (.link target))
        else
          match links with
          | 0 => .error .tooManyLinks
          | links + 1 =>
            if target.isEmpty then .error .notFound
            else
              resolve root aim links (if (Path.mk target).isAbsolute then [] else here)
                (piecesOf target ++ rest) := by
  rw [at?_concat, resolve]
  · refine (if_neg (by simp [haim])).trans ((if_neg hlen).trans ?_)
    cases (root.at? here).bind (child? name) with
    | none => rfl
    | some n =>
      cases n with
      | file | dir | locked | unnamed => rfl
      | link target => cases links <;> rfl
  all_goals assumption

/-- A path that is followed to its end is followed through its last link as well. -/
theorem resolve_name (hempty : name ≠ "") (hdot : name ≠ ".") (hdots : name ≠ "..")
    (hlen : ¬ maxName < name.utf8ByteSize) :
    resolve root .target links here (name :: rest) =
      match root.at? (here ++ [name]) with
      | none => if rest = [] then .ok (here ++ [name], none) else .error .notFound
      | some (.dir _) => resolve root .target links (here ++ [name]) rest
      | some (.file bytes) =>
        if rest = [] then .ok (here ++ [name], some (.file bytes)) else .error .notDirectory
      | some (.unnamed bytes) =>
        if rest = [] then .ok (here ++ [name], some (.unnamed bytes)) else .error .notDirectory
      | some .locked =>
        if rest.all (· == "") then .ok (here ++ [name], some .locked)
        else .error .permissionDenied
      | some (.link target) =>
        match links with
        | 0 => .error .tooManyLinks
        | links + 1 =>
          if target.isEmpty then .error .notFound
          else
            resolve root .target links (if (Path.mk target).isAbsolute then [] else here)
              (piecesOf target ++ rest) := by
  rw [resolve_step (by decide) hempty hdot hdots hlen]
  cases root.at? (here ++ [name]) with
  | none => rfl
  | some n =>
    cases n with
    | file | dir | locked | unnamed => rfl
    | link target => exact if_neg (by simp)

theorem place_of_fileAt (haim : aim ≠ .newFile) (hempty : name ≠ "") (hdot : name ≠ ".")
    (hdots : name ≠ "..") (hlen : ¬ maxName < name.utf8ByteSize)
    (h : root.FileAt (here ++ [name])) :
    (resolve root aim links here (name :: rest)).toOption.map (·.1) =
      if rest = [] then some (here ++ [name]) else none := by
  rw [resolve_step haim hempty hdot hdots hlen]
  cases hat : root.at? (here ++ [name]) with
  | none => by_cases hrest : rest = [] <;> simp [hrest, Except.toOption]
  | some n =>
    cases n with
    | file | unnamed => by_cases hrest : rest = [] <;> simp [hrest, Except.toOption]
    | link | dir | locked => cases h _ hat

end Name

/-- Where a path starts depends on what leads on from the working directory. -/
theorem start_eq_guide (f : Files) (p : Path) :
    f.start p =
      if p.isAbsolute then .ok []
      else
        match f.root.guide? f.cwd with
        | some (.dir _) => .ok f.cwd
        | some .locked => .error .permissionDenied
        | _ => .error .notFound := by
  unfold start guide?
  cases f.root.at? f.cwd with
  | none => rfl
  | some n => cases n <;> rfl

/-- Where a path leads depends on the directories and the links alone. -/
theorem resolve_place {a b : Node} {aim : Aim} (haim : aim ≠ .newFile)
    (hguide : ∀ names, b.guide? names = a.guide? names) (links : Nat)
    (here pieces : List String) :
    (resolve b aim links here pieces).toOption.map (·.1) =
      (resolve a aim links here pieces).toOption.map (·.1) := by
  have hfile {here : List String} {name : String} {n : Option Node}
      (hat : (a.at? here).bind (child? name) = n) (hn : ∀ m, n = some m → m.isFile = true) :
      b.FileAt (here ++ [name]) := by
    rw [← guide?_eq_none_iff, hguide, guide?_eq_none_iff]
    intro m hm
    exact hn m (by rw [← hat, ← at?_concat, hm])
  have hlink {here : List String} {name target : String}
      (hat : (a.at? here).bind (child? name) = some (.link target)) :
      b.at? (here ++ [name]) = some (.link target) := by
    rw [← guide?_eq_link_iff, hguide, guide?_eq_link_iff, at?_concat, hat]
  have hlocked {here : List String} {name : String}
      (hat : (a.at? here).bind (child? name) = some .locked) :
      b.at? (here ++ [name]) = some .locked := by
    rw [← guide?_eq_locked_iff, hguide, guide?_eq_locked_iff, at?_concat, hat]
  fun_induction resolve a aim links here pieces with
  | case1 => rw [resolve]; rfl
  | case2 _ _ _ ih | case3 _ _ _ ih | case4 _ _ _ ih => rw [resolve]; exact ih
  | case5 _ _ _ _ _ _ _ hnew => simp [haim] at hnew
  | case6 _ _ _ _ _ _ _ _ hlen =>
    rw [resolve, if_neg (by simp [haim]), if_pos hlen]
    all_goals assumption
  | case7 _ _ _ hempty hdot hdots hlen hat =>
    rw [place_of_fileAt haim hempty hdot hdots hlen (hfile hat (by simp))]
    rfl
  | case8 _ _ _ _ hempty hdot hdots _ hlen hat hrest =>
    rw [place_of_fileAt haim hempty hdot hdots hlen (hfile hat (by simp)), if_neg hrest]
    rfl
  | case9 _ _ _ _ hempty hdot hdots _ hlen entries hat ih =>
    have hdir : a.DirAt _ := ⟨entries, by rw [at?_concat, hat]⟩
    rw [← guide?_eq_emptyDir_iff, ← hguide, guide?_eq_emptyDir_iff] at hdir
    obtain ⟨_, hdir⟩ := hdir
    rw [resolve_step haim hempty hdot hdots hlen, hdir]
    exact ih
  | case10 _ _ _ hempty hdot hdots hlen bytes hat
  | case12 _ _ _ hempty hdot hdots hlen bytes hat =>
    rw [place_of_fileAt haim hempty hdot hdots hlen (hfile hat (by simp [Node.isFile]))]
    rfl
  | case11 _ _ _ _ hempty hdot hdots _ hlen bytes hat hrest
  | case13 _ _ _ _ hempty hdot hdots _ hlen bytes hat hrest =>
    rw [place_of_fileAt haim hempty hdot hdots hlen (hfile hat (by simp [Node.isFile])),
      if_neg hrest]
    rfl
  | case14 _ _ _ _ hempty hdot hdots _ hlen hat hlast =>
    rw [resolve_step haim hempty hdot hdots hlen, hlocked hat]
    simp only [hlast, if_true]
  | case15 _ _ _ _ hempty hdot hdots _ hlen hat hlast =>
    rw [resolve_step haim hempty hdot hdots hlen, hlocked hat]
    simp only [hlast]
    rfl
  | case16 _ _ _ _ hempty hdot hdots _ hlen target hat hentry =>
    rw [resolve_step haim hempty hdot hdots hlen, hlink hat]
    simp only [hentry, if_true]
  | case17 _ _ _ hempty hdot hdots _ hlen target hat hentry =>
    rw [resolve_step haim hempty hdot hdots hlen, hlink hat]
    simp only [hentry]
    rfl
  | case18 _ _ _ hempty hdot hdots _ hlen target hat hentry links htarget =>
    rw [resolve_step haim hempty hdot hdots hlen, hlink hat]
    simp only [hentry]
    simp [htarget, Except.toOption]
  | case19 _ _ _ hempty hdot hdots _ hlen target hat hentry links htarget ih =>
    rw [resolve_step haim hempty hdot hdots hlen, hlink hat]
    simp only [hentry]
    simpa [htarget] using ih

theorem SameKind.trans {f g h : Files} {p : Path} (hfg : f.SameKind g p) (hgh : g.SameKind h p) :
    f.SameKind h p where
  isThere_eq := hgh.isThere_eq.trans hfg.isThere_eq
  isFile_eq := hgh.isFile_eq.trans hfg.isFile_eq
  isDir_eq := hgh.isDir_eq.trans hfg.isDir_eq

namespace SamePlaces

variable {f g h : Files}

theorem refl (f : Files) : f.SamePlaces f := ⟨rfl, fun _ => rfl⟩

theorem trans (hfg : f.SamePlaces g) (hgh : g.SamePlaces h) : f.SamePlaces h where
  cwd_eq := hgh.cwd_eq.trans hfg.cwd_eq
  guide?_eq names := (hgh.guide?_eq names).trans (hfg.guide?_eq names)

theorem start_eq (hfg : f.SamePlaces g) (p : Path) : g.start p = f.start p := by
  rw [start_eq_guide, start_eq_guide, hfg.cwd_eq, hfg.guide?_eq]

theorem locate_eq {aim : Aim} (haim : aim ≠ .newFile) (hfg : f.SamePlaces g) (p : Path) :
    (g.locate aim p).toOption.map (·.1) = (f.locate aim p).toOption.map (·.1) := by
  unfold locate
  split
  · rfl
  split
  · rfl
  split
  · rfl
  rw [hfg.start_eq]
  split
  · rfl
  · exact resolve_place haim hfg.guide?_eq _ _ _

theorem place?_eq (hfg : f.SamePlaces g) (p : Path) : g.place? p = f.place? p :=
  hfg.locate_eq (by decide) p

theorem sameFile_iff (hfg : f.SamePlaces g) {p q : Path} : g.SameFile p q ↔ f.SameFile p q := by
  simp only [SameFile, hfg.place?_eq]

theorem grounded (hfg : f.SamePlaces g) (hf : f.Grounded) : g.Grounded := by
  unfold Grounded at hf ⊢
  rw [← guide?_eq_emptyDir_iff] at hf ⊢
  rw [hfg.guide?_eq, hfg.cwd_eq, hf]

end SamePlaces

/-- What a path leads to is what stands at its place. -/
theorem toOption_find (f : Files) (p : Path) :
    (f.find .target p).toOption = f.node? p := by
  unfold find node? place?
  cases hlocate : f.locate .target p with
  | error e => rfl
  | ok found =>
    obtain ⟨names, n⟩ := found
    have hn : n = f.root.at? names := by
      rw [locate_eq_resolve hlocate] at hlocate
      exact resolve_at? hlocate
    cases n with
    | none => exact hn
    | some n => exact hn

theorem isThere_eq (f : Files) (p : Path) :
    f.isThere p = (f.node? p).isSome := by
  rw [isThere, toOption_find]

/-- Of a file that two paths denote, both say whether it is there. -/
theorem SameFile.isThere_eq {f : Files} {p q : Path} (h : f.SameFile p q) :
    f.isThere p = f.isThere q := by
  rcases h with rfl | ⟨names, hp, hq⟩
  · rfl
  · rw [Files.isThere_eq, Files.isThere_eq, node?, node?, hp, hq]

theorem isFile_eq (f : Files) (p : Path) :
    f.isFile p = (f.node? p).any Node.isFile := by
  rw [← toOption_find, isFile]
  cases f.find .target p <;> rfl

theorem isDir_eq (f : Files) (p : Path) :
    f.isDir p = (f.node? p).any Node.isDir := by
  rw [← toOption_find, isDir]
  cases f.find .target p <;> rfl

/-- What is called by no text is an entry of that kind. -/
theorem isNamed_eq_false_iff {f : Files} {p : Path} :
    f.isNamed p = false ↔ ∃ place bytes, (f.locate .entry p).toOption.map (·.1) = some place ∧
      f.root.at? place = some (.unnamed bytes) := by
  unfold isNamed find
  cases hlocate : f.locate .entry p with
  | error e => simp [Except.toOption]
  | ok found =>
    obtain ⟨place, n⟩ := found
    have hn : n = f.root.at? place := by
      rw [locate_eq_resolve hlocate] at hlocate
      exact resolve_at? hlocate
    cases n with
    | none => simp [Except.toOption, ← hn]
    | some n => cases n <;> simp [Except.toOption, ← hn]

/-- A place is a directory, which may be locked, or a file or a free place in a directory. -/
theorem place?_ends {f : Files} {p : Path} {names : List String} (hf : f.Grounded)
    (h : f.place? p = some names) :
    f.root.DirAt names ∨ f.root.at? names = some .locked ∨
      f.root.FileAt names ∧ ∃ front name, names = front ++ [name] ∧ f.root.DirAt front := by
  unfold place? at h
  cases hlocate : f.locate .target p with
  | error e =>
    rw [hlocate] at h
    cases h
  | ok found =>
    rw [hlocate] at h
    cases h
    rw [locate_eq_resolve hlocate] at hlocate
    refine resolve_ends (by simp) ?_ hlocate
    split
    · exact hf.root
    · exact hf

/-- What is somewhere has a place. -/
theorem isThere_iff {f : Files} {p : Path} :
    f.isThere p = true ↔ ∃ place n, f.place? p = some place ∧ f.root.at? place = some n := by
  rw [isThere_eq, Option.isSome_iff_exists]
  constructor
  · rintro ⟨n, h⟩
    obtain ⟨place, hplace, hat⟩ := Option.bind_eq_some_iff.1 h
    exact ⟨place, n, hplace, hat⟩
  · rintro ⟨place, n, hplace, hat⟩
    exact ⟨n, Option.bind_eq_some_iff.2 ⟨place, hplace, hat⟩⟩

theorem isThere_of_isFile {f : Files} {p : Path} (h : f.isFile p = true) : f.isThere p = true := by
  rw [isFile_eq] at h
  rw [isThere_eq]
  exact Option.isSome_of_any h

/-! ### Files that change -/

namespace FileChanged

variable {place : List String} {f g : Files}

/-- No path is led to another place by a file. -/
theorem samePlaces (h : FileChanged place f g) : f.SamePlaces g where
  cwd_eq := h.cwd_eq
  guide?_eq names := by
    by_cases hplace : names = place
    · subst hplace
      rw [guide?_eq_none_iff.2 h.before, guide?_eq_none_iff.2 h.after]
    · rw [guide?_eq_bare, guide?_eq_bare, h.elsewhere names hplace]

/-- Paths that lead elsewhere see the same. -/
theorem sameKind (h : FileChanged place f g) {p : Path} (hp : f.place? p ≠ some place) :
    f.SameKind g p := by
  have hbare : (g.node? p).map bare = (f.node? p).map bare := by
    rw [node?, node?, h.samePlaces.place?_eq]
    cases hplace : f.place? p with
    | none => rfl
    | some names => exact h.elsewhere names fun heq => hp (by rw [hplace, heq])
  constructor
  · simpa [isThere_eq] using congrArg Option.isSome hbare
  · simpa [isFile_eq, Option.any_map] using congrArg (Option.any Node.isFile) hbare
  · simpa [isDir_eq, Option.any_map] using congrArg (Option.any Node.isDir) hbare

/-- What is new is the file at the place. -/
theorem isThere_or (h : FileChanged place f g) {p : Path} (hp : g.isThere p = true) :
    f.isThere p = true ∨ f.place? p = some place := by
  by_cases hplace : f.place? p = some place
  · exact .inr hplace
  · rw [(h.sameKind hplace).isThere_eq] at hp
    exact .inl hp

/-- What is gone was the file at the place. -/
theorem isThere_of_ne (h : FileChanged place f g) {p : Path} (hp : f.isThere p = true)
    (hplace : f.place? p ≠ some place) : g.isThere p = true := by
  rw [(h.sameKind hplace).isThere_eq, hp]

end FileChanged

/-- A file is put into the place of a file, or where nothing was. -/
theorem fileChanged_insert {f : Files} {names : List String} {name : String} {bytes : ByteArray}
    (hdir : f.root.DirAt names) (hfile : f.root.FileAt (names ++ [name])) :
    FileChanged (names ++ [name]) f
      { f with root := f.root.insert (names ++ [name]) (.file bytes) } where
  cwd_eq := rfl
  elsewhere _ := at?_insert_of_ne hdir hfile
  before := hfile
  after n hn := by
    rw [at?_insert_self _ hdir] at hn
    cases hn
    rfl

/-- A file is taken away, and no other has its name. -/
theorem fileChanged_erase {f : Files} {names : List String} {name : String}
    (hdir : f.root.DirAt names) (hfile : f.root.FileAt (names ++ [name]))
    (hgone : (f.root.erase (names ++ [name])).at? (names ++ [name]) = none) :
    FileChanged (names ++ [name]) f { f with root := f.root.erase (names ++ [name]) } where
  cwd_eq := rfl
  elsewhere other hne := by
    by_cases hprefix : names ++ [name] <+: other
    · -- nothing is below a file, nor below one that is gone
      obtain ⟨more, rfl⟩ := hprefix
      obtain ⟨next, more, rfl⟩ : ∃ next more', more = next :: more' :=
        List.exists_cons_of_ne_nil (by rintro rfl; simp at hne)
      rw [hfile.at?_append_eq_none, at?_append, hgone]
      rfl
    · exact at?_erase_of_not_prefix hdir hprefix
  before := hfile
  after n hn := by
    rw [hgone] at hn
    cases hn

/-- Writing changes the file that the path leads to, and nothing else. -/
theorem exists_fileChanged_of_write {f g : Files} {p : Path} {bytes : ByteArray} (hf : f.Grounded)
    (h : f.write p bytes = .ok g) :
    ∃ place, f.place? p = some place ∧ FileChanged place f g ∧
      g.root.at? place = some (.file bytes) := by
  unfold write at h
  split at h
  · cases h
  · cases h
  · cases h
  next names n hnotDir hnotLocked hlocate =>
    cases h
    have hresolve := hlocate
    rw [locate_eq_resolve hlocate] at hresolve
    have htarget : f.locate .target p = .ok (names, n) := by
      rw [locate_eq_resolve hlocate]
      exact resolve_target_of_newFile hresolve
    have hn : n = f.root.at? names := resolve_at? hresolve
    have hplace : f.place? p = some names := by rw [place?, htarget]; rfl
    rcases place?_ends hf hplace with ⟨entries, hdir⟩ | hlocked | ⟨hfile, front, name, rfl, hdir⟩
    · exact absurd (hn.trans hdir) (hnotDir entries)
    · exact absurd (hn.trans hlocked) hnotLocked
    · exact ⟨_, hplace, fileChanged_insert hdir hfile, at?_insert_self _ hdir⟩

end Files

end FirmwareKit
