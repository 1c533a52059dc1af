import FirmwareKit.Failure
import FirmwareKit.Notice

/-! Applying patches once. A patch whose sentinel exists is left alone; any other one
needs its target and its patch file, then its command is run, and then its
sentinel is made. All that changes the world goes through an environment, whose
calls are logged. A list of patches is applied in order up to the first
failure. -/

namespace FirmwareKit.Patch

/-- An action asked of an environment. -/
inductive Call where
  | execute (command : ShellCommand)
  | touch (path : Path)
  deriving DecidableEq, Repr

/-- What an action leaves behind: a new state, what it printed, and whether it succeeded. -/
structure Reply (σ : Type) where
  state : σ
  notices : List Notice
  outcome : Except Failure Unit

/-- A world with a state, its files, and the two actions that can change it. -/
structure Environment (σ : Type) where
  files : σ → Files
  execute : ShellCommand → σ → Reply σ
  touch : Path → σ → Reply σ

/-- The course of some steps: the calls made, what was printed, the state at the end and the
outcome. -/
structure Course (σ α : Type) where
  calls : List Call
  notices : List Notice
  state : σ
  outcome : Except Failure α

/-- The sentinel exists. -/
def Spec.isApplied (s : Spec) (files : Files) : Bool :=
  files.isThere s.sentinel

/-- What keeps a patch from being tried: its target or its patch file is no file. -/
def Spec.obstacle? (s : Spec) (files : Files) : Option Failure :=
  if !files.isFile s.target then some (.targetMissing s.target)
  else if !files.isFile s.patch then some (.patchMissing s.patch)
  else none

/-- What is printed in front of the command of a verbose run. -/
def Spec.announcement (s : Spec) : List Notice :=
  [.say ("Origin " ++ s.target.text), .say ("Patch " ++ s.patch.text), .say s.command.display]

variable {σ : Type}

/-- Applies one patch unless its sentinel exists. -/
def apply (env : Environment σ) (verbose : Bool) (s : Spec) (state : σ) : Course σ Outcome :=
  let files := env.files state
  if s.isApplied files then ⟨[], [], state, .ok .alreadyApplied⟩
  else
    match s.obstacle? files with
    | some failure => ⟨[], [], state, .error failure⟩
    | none =>
      let start := if verbose then s.announcement else []
      let ran := env.execute s.command state
      match ran.outcome with
      | .error e => ⟨[.execute s.command], start ++ ran.notices, ran.state, .error e⟩
      | .ok () =>
        let touched := env.touch s.sentinel ran.state
        ⟨[.execute s.command, .touch s.sentinel], start ++ ran.notices ++ touched.notices,
          touched.state, touched.outcome.map fun () => .applied⟩

/-- Applies patches in order up to the first failure. -/
def applyAll (env : Environment σ) (verbose : Bool) :
    List Spec → σ → Course σ (List (Spec × Outcome))
  | [], state => ⟨[], [], state, .ok []⟩
  | s :: specs, state =>
    match apply env verbose s state with
    | ⟨calls, notices, state, .error e⟩ => ⟨calls, notices, state, .error e⟩
    | ⟨calls, notices, state, .ok outcome⟩ =>
      let more := applyAll env verbose specs state
      ⟨calls ++ more.calls, notices ++ more.notices, more.state,
        more.outcome.map ((s, outcome) :: ·)⟩

end FirmwareKit.Patch
