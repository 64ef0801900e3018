import FenceCheck.Workbench

namespace FenceCheck

/-!
# Staged files

A fragment is written to a file of its own while it is compiled. Whatever happens then,
also if the write fails, the file is removed, with a bounded number of attempts. A file
that is gone already counts as removed.
-/

inductive StagingError
  | write (path : Path) (fault : Fault)
  | remove (path : Path) (attempts : Nat) (fault : Fault)
  deriving DecidableEq, Repr

def StagingError.message : StagingError → String
  | .write path fault => s!"Failed to write staged fragment {path.text}: {fault.message}"
  | .remove path attempts fault =>
      s!"Failed to remove staged fragment {path.text} after {attempts} attempts: {fault.message}"

structure Stager where
  dir : Path
  extension : String
  /-- How often removal is tried again after the first attempt. -/
  retries : Nat
  deriving DecidableEq, Repr

namespace Stager

def defaultRetries : Nat := 19

/-- At least one attempt is made. -/
def retriesOfAttempts (attempts : Nat) : Nat := attempts - 1

def fileName (s : Stager) (id : Nat) : String :=
  s!"snippet-{id}." ++ s.extension

def path (s : Stager) (id : Nat) : Path :=
  s.dir.join ⟨s.fileName id⟩

/-- Why a deletion leaves a file behind, if it does. -/
def obstacle? : Except Fault Unit → Option Fault
  | .ok () => none
  | .error fault => if fault = .notFound then none else some fault

variable {σ : Type} (w : Workbench σ)

/-- Remove a staged file. `attempt` is the number of the attempt at hand, after which
`retries` more may follow. -/
def removal (path : Path) (attempt : Nat) : Nat → σ → Trace × σ
  | retries, env =>
      let (result, env) := w.delete path env
      let tried := Trace.doing (.delete path result)
      match obstacle? result, retries with
      | none, _ =>
          (tried ++ .logging (Log.debug .staging s!"Removed staged fragment {path.text}"), env)
      | some fault, 0 =>
          let e := StagingError.remove path attempt fault
          (tried ++ .logging (Log.error .staging e.message), env)
      | some fault, retries + 1 =>
          let (more, env) := removal path (attempt + 1) retries env
          (tried ++ .logging (Log.warn .staging
            s!"Couldn't remove {path.text} (attempt {attempt}): {fault.message}") ++ more, env)

def release (s : Stager) (id : Nat) (env : σ) : Trace × σ :=
  removal w (s.path id) 1 s.retries env

/-- Write the text of a fragment to its file. If that fails, what was written is removed. -/
def stage (s : Stager) (id : Nat) (text : String) (env : σ) :
    Except StagingError Unit × Trace × σ :=
  let path := s.path id
  let (result, env) := w.write path text env
  let written := Trace.doing (.write path text result)
  match result with
  | .ok () =>
      (.ok (), written ++ .logging (Log.debug .staging s!"Staged fragment {id} at {path.text}"), env)
  | .error fault =>
      let (removed, env) := s.release w id env
      (.error (.write path fault), written ++ removed, env)

end Stager

def workspaceMarkers : List String := [".snipcheck.toml", ".git"]

/-- The nearest directory from `start` upward that holds a marker. -/
def workspaceRoot? (holds : Path → Bool) (start : Path) : Option Path :=
  start.ancestors.find? fun dir => workspaceMarkers.any fun m => holds (dir.join ⟨m⟩)

/-- The directory in which the fragments of a document are staged: a given one, else the
root of its workspace, else its own directory. -/
def stagingDir (holds : Path → Bool) (given : Option Path) (document : Path) : Path :=
  match given with
  | some dir => dir
  | none =>
      let parent :=
        match document.parent? with
        | some p => if p.text = "" then ⟨"."⟩ else p
        | none => ⟨"."⟩
      (workspaceRoot? holds parent).getD parent

end FenceCheck
