import FenceCheck.Config
import FenceCheck.Disk
import FenceCheck.Text.Search

namespace FenceCheck

/-!
# Compiler runs

A run ends with an exit code and two texts, or it never took place and says why. Only a
run that took place and exited with zero is clean; any other has something to read.
-/

structure CompilerRun where
  /-- The exit code; minus one if a signal ended the run or it never took place. -/
  exitCode : Int
  stdout : String
  stderr : String
  spawnError : Option String
  deriving DecidableEq, Repr

namespace CompilerRun

def clean : CompilerRun := ⟨0, "", "", none⟩

def neverRan (message : String) : CompilerRun := ⟨-1, "", "", some message⟩

def succeeded (r : CompilerRun) : Bool :=
  r.spawnError.isNone && r.exitCode == 0

/-- What to read of a run: why it did not take place, nothing if it is clean, else what
it wrote as errors, or its output if that is blank. -/
def report? (r : CompilerRun) : Option String :=
  match r.spawnError with
  | some message => some message
  | none =>
      if r.exitCode = 0 then none
      else
        match Text.trim r.stderr.toList with
        | [] => some r.stdout
        | errors => some (String.ofList errors)

theorem report?_eq_none_iff (r : CompilerRun) : r.report? = none ↔ r.succeeded = true := by
  unfold report? succeeded
  cases r.spawnError with
  | some message => simp
  | none =>
      by_cases h : r.exitCode = 0
      · simp [h]
      · simp only [h, if_false]
        split <;> simp [h]

end CompilerRun

inductive CompilerError
  | emptyCommand
  | spawn (command : String) (fault : Fault)
  | timeout (command : String) (limit : Nat)
  deriving DecidableEq, Repr

def CompilerError.message : CompilerError → String
  | .emptyCommand => "Empty compiler command"
  | .spawn command fault => s!"Failed to spawn '{command}': {fault.message}"
  | .timeout command limit => s!"Compiler '{command}' timed out after {limit}ms"

/-- What running a program came to. -/
structure Finished where
  /-- The exit code, unless a signal ended the program. -/
  code : Option Int
  stdout : ByteArray
  stderr : ByteArray
  elapsed : Nat

/-- Runs a program with arguments on a disk. A program that takes longer than the limit, in
milliseconds, does nothing after it; a limit of zero is none. -/
abbrev Launcher :=
  (limit : Nat) → Disk → (command : String) → (args : List String) →
    Except Fault Finished × Disk

/-- A command ready to take a source file as its last argument. -/
structure Invocation where
  command : String
  args : List String
  timeout : Nat
  deriving DecidableEq, Repr

namespace Invocation

/-- Stands for the workspace root in arguments. -/
def rootVariable : List Char := "$\x7bworkspaceRoot\x7d".toList

def expand (root arg : String) : String :=
  String.ofList (Text.replaceAll rootVariable root.toList arg.toList)

def ofConfig (c : CompilerConfig) (root : String) : Invocation where
  command := c.command
  args := c.args.map (expand root) ++ c.includePaths.map fun dir => c.includeFlag ++ expand root dir
  timeout := c.timeout

/-- What a launched program came to, against the time limit. -/
def judge (i : Invocation) : Except Fault Finished → Except CompilerError CompilerRun
  | .error fault => .error (.spawn i.command fault)
  | .ok f =>
      if i.timeout ≠ 0 ∧ i.timeout ≤ f.elapsed then .error (.timeout i.command i.timeout)
      else .ok ⟨f.code.getD (-1), Text.decodeLossy f.stdout, Text.decodeLossy f.stderr, none⟩

def compile (launch : Launcher) (i : Invocation) (source : Path) (d : Disk) :
    CompilerRun × List Log.Record × Disk :=
  let failed (e : CompilerError) : CompilerRun × List Log.Record :=
    (.neverRan e.message, [Log.error .compiler e.message])
  if i.command = "" then
    let (run, log) := failed .emptyCommand
    (run, log, d)
  else
    let begun := Log.debug .compiler s!"Running {i.command} {Text.quoteList i.args} {source.text}"
    let (result, d) := launch i.timeout d i.command (i.args ++ [source.text])
    match i.judge result with
    | .error e =>
        let (run, log) := failed e
        (run, begun :: log, d)
    | .ok run =>
        let ended :=
          if run.succeeded then Log.debug .compiler s!"Compiled {source.text} cleanly"
          else Log.debug .compiler s!"Compiler exited with {run.exitCode} for {source.text}"
        (run, [begun, ended], d)

end Invocation

end FenceCheck
