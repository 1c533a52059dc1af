import Mathlib
import FirmwareKit.Config.Validation
import FirmwareKit.Host.Environment
import FirmwareKit.Proofs.Files.Place
import FirmwareKit.Proofs.Patch.Visits
import FirmwareKit.Text.Line

/-! Runs on a tree of files. Where a command changes nothing but the file it is told to patch, a
visit moves no path to another place; all that it can make is the file of its sentinel, and
all that it can remove is its target. -/

namespace FirmwareKit.Patch

open Files (SamePlaces FileChanged)

/-- The system, with what its programs do left open. -/
def systemWith (program : ShellCommand → Files → Reply Files) : Environment Files :=
  { Host.environment with execute := program }

example : systemWith Host.execute = Host.environment := rfl

/-- The command of a patch changes nothing but the target, which gets other bytes or is removed. -/
def ChangesTarget (program : ShellCommand → Files → Reply Files) : Prop :=
  ∀ (s : Spec) (f : Files) place, f.Grounded → f.isFile s.target = true →
    f.place? s.target = some place → FileChanged place f (program s.command f).state

/-- Every path leads to the same place in both trees, and they differ at most in the files that
were made and the files that were lost. -/
structure Altered (made lost : Path → Prop) (f g : Files) : Prop where
  samePlaces : f.SamePlaces g
  made_of_isThere : ∀ p, g.isThere p = true → f.isThere p = true ∨ made p
  lost_of_isThere : ∀ p, f.isThere p = true → g.isThere p = true ∨ lost p

namespace Altered

variable {made lost : Path → Prop} {f g h : Files}

theorem refl (f : Files) : Altered made lost f f :=
  ⟨.refl f, fun _ => .inl, fun _ => .inl⟩

theorem trans (hfg : Altered made lost f g) (hgh : Altered made lost g h) :
    Altered made lost f h where
  samePlaces := hfg.samePlaces.trans hgh.samePlaces
  made_of_isThere p hp := (hgh.made_of_isThere p hp).elim (hfg.made_of_isThere p) .inr
  lost_of_isThere p hp := (hfg.lost_of_isThere p hp).elim (hgh.lost_of_isThere p) .inr

theorem imp {made' lost' : Path → Prop} (h : Altered made lost f g)
    (hmade : ∀ p, made p → made' p) (hlost : ∀ p, lost p → lost' p) : Altered made' lost' f g where
  samePlaces := h.samePlaces
  made_of_isThere p hp := (h.made_of_isThere p hp).imp_right (hmade p)
  lost_of_isThere p hp := (h.lost_of_isThere p hp).imp_right (hlost p)

end Altered

/-! ### The two calls -/

section Calls

variable {made : Path → Prop} {f g : Files}

theorem fileAt_of_isFile {p : Path} {place : List String} (hfile : f.isFile p = true)
    (hplace : f.place? p = some place) : f.root.FileAt place := by
  intro n hn
  rwa [Files.isFile_eq, Files.node?, hplace, Option.bind_some, hn, Option.any_some] at hfile

/-- A file that changes may be lost, but none is made in its stead. -/
theorem altered_of_target {p : Path} {place : List String} (hfile : f.isFile p = true)
    (hplace : f.place? p = some place) (h : FileChanged place f g) :
    Altered made (fun q => f.SameFile p q ∧ g.isThere q = false) f g where
  samePlaces := h.samePlaces
  made_of_isThere q hq := by
    refine .inl ((h.isThere_or hq).elim id fun hqplace => ?_)
    have hthere := Files.isThere_of_isFile hfile
    rw [Files.isThere_eq, Files.node?, hplace] at hthere
    rwa [Files.isThere_eq, Files.node?, hqplace]
  lost_of_isThere q hq := by
    by_cases hqplace : f.place? q = some place
    · rw [← Bool.not_eq_true]
      exact (em (g.isThere q = true)).imp_right fun hgone => ⟨.inr ⟨place, hplace, hqplace⟩, hgone⟩
    · exact .inl (h.isThere_of_ne hq hqplace)

/-- A file that is written may be made, and nothing is lost. -/
theorem altered_of_write {p : Path} {bytes : ByteArray} (hf : f.Grounded)
    (h : f.write p bytes = .ok g) : Altered (f.SameFile p) (fun _ => False) f g := by
  obtain ⟨place, hplace, hchanged, hat⟩ := Files.exists_fileChanged_of_write hf h
  refine ⟨hchanged.samePlaces, fun q hq => ?_, fun q hq => .inl ?_⟩
  · exact (hchanged.isThere_or hq).imp_right fun hqplace => .inr ⟨place, hplace, hqplace⟩
  · by_cases hqplace : f.place? q = some place
    · exact Files.isThere_iff.2 ⟨place, _, by rw [hchanged.samePlaces.place?_eq, hqplace], hat⟩
    · exact hchanged.isThere_of_ne hq hqplace

theorem isThere_of_write {p : Path} {bytes : ByteArray} (hf : f.Grounded)
    (h : f.write p bytes = .ok g) : g.isThere p = true := by
  obtain ⟨place, hplace, hchanged, hat⟩ := Files.exists_fileChanged_of_write hf h
  exact Files.isThere_iff.2 ⟨place, _, by rw [hchanged.samePlaces.place?_eq, hplace], hat⟩

theorem altered_execute {program : ShellCommand → Files → Reply Files}
    (hprogram : ChangesTarget program) (hf : f.Grounded) {s : Spec}
    (ho : s.obstacle? f = none) :
    Altered made (fun p => f.SameFile s.target p ∧ (program s.command f).state.isThere p = false)
      f (program s.command f).state := by
  obtain ⟨hfile, -⟩ := Spec.obstacle?_eq_none_iff.1 ho
  obtain ⟨place, _, hplace, -⟩ := Files.isThere_iff.1 (Files.isThere_of_isFile hfile)
  exact altered_of_target hfile hplace (hprogram s f place hf hfile hplace)

/-- A sentinel that cannot be made leaves no trace. -/
theorem state_touch_of_error {p : Path} {e : Failure} (h : (Host.touch p f).outcome = .error e) :
    (Host.touch p f).state = f := by
  unfold Host.touch at h ⊢
  cases hwrite : f.write p .empty with
  | error fault => rfl
  | ok g =>
    rw [hwrite] at h
    cases h

theorem write_of_touch {p : Path} (h : (Host.touch p f).outcome = .ok ()) :
    f.write p .empty = .ok (Host.touch p f).state := by
  unfold Host.touch at h ⊢
  cases hwrite : f.write p .empty with
  | error fault =>
    rw [hwrite] at h
    cases h
  | ok g => rfl

theorem samePlaces_touch (hf : f.Grounded) (p : Path) : f.SamePlaces (Host.touch p f).state := by
  cases h : (Host.touch p f).outcome with
  | error e =>
    rw [state_touch_of_error h]
    exact .refl f
  | ok => exact (altered_of_write hf (write_of_touch h)).samePlaces

/-- Only the paths of its file see that a sentinel is made. -/
theorem sameKind_touch (hf : f.Grounded) {p q : Path} (hq : ¬ f.SameFile p q) :
    f.SameKind (Host.touch p f).state q := by
  cases h : (Host.touch p f).outcome with
  | error e =>
    rw [state_touch_of_error h]
    exact ⟨rfl, rfl, rfl⟩
  | ok =>
    obtain ⟨place, hplace, hchanged, -⟩ := Files.exists_fileChanged_of_write hf (write_of_touch h)
    exact hchanged.sameKind fun hqplace => hq (.inr ⟨place, hplace, hqplace⟩)

end Calls

/-- An environment whose states are the trees with a property that its calls keep. -/
def Environment.within (env : Environment Files) (P : Files → Prop)
    (hexecute : ∀ command f, P f → P (env.execute command f).state)
    (htouch : ∀ path f, P f → P (env.touch path f).state) : Environment {f : Files // P f} where
  files := Subtype.val
  execute command f :=
    let reply := env.execute command f.1
    ⟨⟨reply.state, hexecute command f.1 f.2⟩, reply.notices, reply.outcome⟩
  touch path f :=
    let reply := env.touch path f.1
    ⟨⟨reply.state, htouch path f.1 f.2⟩, reply.notices, reply.outcome⟩

/-! ### Visits -/

section Visits

variable {program : ShellCommand → Files → Reply Files}

/-- What a visit makes is its sentinel, if it is applied then, and what it loses is its target, if
the command removes it. -/
theorem Legal.altered {v : Visit Files} (h : Legal (systemWith program) v)
    (hprogram : ChangesTarget program) (hv : v.reached.Grounded) :
    Altered (fun p => v.outcome = .ok .applied ∧ v.reached.SameFile v.spec.sentinel p)
      (fun p => v.reached.SameFile v.spec.target p ∧
        (program v.spec.command v.reached).state.isThere p = false) v.reached v.left := by
  cases h with
  | skipped | blocked => exact .refl _
  | refused s st e _ ho =>
    exact altered_execute hprogram hv ho
  | unmarked s st e _ ho _ ht =>
    have hstate : (Host.touch s.sentinel (program s.command st).state).state =
        (program s.command st).state := state_touch_of_error ht
    change Altered _ _ st (Host.touch s.sentinel (program s.command st).state).state
    rw [hstate]
    exact altered_execute hprogram hv ho
  | marked s st _ ho _ ht =>
    have hran : Altered (st.SameFile s.sentinel) _ st _ :=
      altered_execute hprogram hv ho
    have htouched := altered_of_write (hran.samePlaces.grounded hv) (write_of_touch ht)
    have hboth := hran.trans
      (htouched.imp (fun p => hran.samePlaces.sameFile_iff.1) fun p => False.elim)
    exact hboth.imp (fun p hp => ⟨rfl, hp⟩) fun p => id

/-- A patch that was applied has its sentinel. -/
theorem Legal.isThere_sentinel {v : Visit Files} (h : Legal (systemWith program) v)
    (hprogram : ChangesTarget program) (hv : v.reached.Grounded) {o : Outcome}
    (ho : v.outcome = .ok o) : v.left.isThere v.spec.sentinel = true := by
  cases h with
  | skipped s st ha => exact ha
  | blocked | refused | unmarked => cases ho
  | marked s st _ hobstacle _ ht =>
    have hran : Altered (fun _ => False) _ st _ :=
      altered_execute hprogram hv hobstacle
    exact isThere_of_write (hran.samePlaces.grounded hv) (write_of_touch ht)

end Visits

/-! ### A program and a project -/

/-- What a hunk for the start of a text makes of the lines there. -/
def patched : List (List Char) → List (List Char) → Option (List (List Char))
  | [], rest => some rest
  | ('+' :: line) :: hunk, rest => (patched hunk rest).map (line :: ·)
  | ('-' :: line) :: hunk, first :: rest => if line = first then patched hunk rest else none
  | (' ' :: line) :: hunk, first :: rest =>
    if line = first then (patched hunk rest).map (line :: ·) else none
  | _, _ => none

/-- What a diff with one hunk, for the start of a text, makes of the text. -/
def patchedBy (diff text : String) : Option String :=
  match Text.lines diff.toList with
  | _ :: _ :: _ :: hunk =>
    (patched hunk (Text.lines text.toList)).map fun lines =>
      String.ofList (lines.flatMap (· ++ ['\n']))
  | _ => none

/-- A program that carries out such a diff, and removes a target that is left without text. -/
def patching (command : ShellCommand) (f : Files) : Reply Files :=
  match command.args with
  | [target, patch] =>
    match f.place? ⟨target⟩, f.readText ⟨target⟩, f.readText ⟨patch⟩ with
    | some place, .ok text, .ok diff =>
      let less := f.root.erase place
      match patchedBy diff text with
      | none => ⟨f, [], .error (.commandFailed command (.exited 1))⟩
      | some text =>
        let notices := [.say ("patching file " ++ target)]
        if text.isEmpty && (less.at? place).isNone then ⟨{ f with root := less }, notices, .ok ()⟩
        else ⟨{ f with root := f.root.insert place (.file text.toByteArray) }, notices, .ok ()⟩
    | _, _, _ => ⟨f, [], .error (.commandFailed command (.exited 2))⟩
  | _ => ⟨f, [], .error (.commandFailed command (.exited 2))⟩

theorem patching_changesTarget : ChangesTarget patching := by
  intro s f place hf hfile hplace
  have hat := fileAt_of_isFile hfile hplace
  have hdir : ∃ front name, place = front ++ [name] ∧ f.root.DirAt front := by
    rcases Files.place?_ends hf hplace with ⟨entries, hnode⟩ | hnode | ⟨-, hends⟩
    · exact absurd (hat _ hnode) Bool.false_ne_true
    · exact absurd (hat _ hnode) Bool.false_ne_true
    · exact hends
  obtain ⟨front, name, rfl, hdir⟩ := hdir
  have hsame : FileChanged (front ++ [name]) f f := ⟨rfl, fun _ _ => rfl, hat, hat⟩
  simp only [patching, Spec.command]
  rw [show f.place? ⟨s.target.text⟩ = _ from hplace]
  split
  · next heq _ _ =>
    cases heq
    split
    · exact hsame
    · split
      · next hgone =>
        rw [Bool.and_eq_true, Option.isNone_iff_eq_none] at hgone
        exact Files.fileChanged_erase hdir hat hgone.2
      · exact Files.fileChanged_insert hdir hat
  · exact hsame

/-- A program that does nothing. -/
def idle (_ : ShellCommand) (f : Files) : Reply Files := ⟨f, [], .ok ()⟩

/-- A diff that puts a line in front of one like it. -/
def growth : String := "--- t\n+++ t\n@@ -1 +1,2 @@\n+a\n a\n"

/-- Two targets, and a diff for both. -/
def sampleFiles : Files where
  root := .dir
    [("t", .file "a\n".toByteArray), ("u", .file "a\nb\n".toByteArray),
     ("p", .file growth.toByteArray)]
  cwd := []

theorem sampleFiles_grounded : sampleFiles.Grounded := ⟨_, rfl⟩

theorem sampleFiles_place? :
    sampleFiles.place? ⟨"/a"⟩ = some ["a"] ∧ sampleFiles.place? ⟨"/b"⟩ = some ["b"] ∧
      sampleFiles.place? ⟨"/t"⟩ = some ["t"] ∧ sampleFiles.place? ⟨"/u"⟩ = some ["u"] ∧
      sampleFiles.place? ⟨"/p"⟩ = some ["p"] :=
  ⟨by cbv, by cbv, by cbv, by cbv, by cbv⟩

/-- The sample, among the trees in which paths lead where they lead in it. -/
def sampleStart : {f : Files // sampleFiles.SamePlaces f} := ⟨sampleFiles, .refl sampleFiles⟩

/-- Settings with these patches. -/
def settings (patches : List PatchEntry) : Config := { Config.default with patches }

/-- The patches of settings, in a project at the root directory. -/
def resolved (c : Config) : List Spec := c.patches.map (Spec.resolve ⟨"/"⟩)

/-- Settings may have any patches. -/
theorem settings_validate (patches : List PatchEntry) : (settings patches).validate = .ok () := by
  have hdefault : Config.default.validate = .ok () := by decide +kernel
  exact hdefault

/-- Settings with two patches, each with its own sentinel. -/
def ownSentinels : Config := settings [⟨"/", "t", "p", "a"⟩, ⟨"/", "u", "p", "b"⟩]

/-- The first patch of these settings. -/
def markedSpec : Spec := ⟨⟨"/"⟩, ⟨"/t"⟩, ⟨"/p"⟩, ⟨"/a"⟩⟩

end FirmwareKit.Patch
