import FenceCheck.Board
import FenceCheck.Staging

namespace FenceCheck

/-!
# Check passes

A pass over a document stages, compiles and reads every fragment that is to be compiled.
It ends early when a fragment cannot be staged. In any case the board then shows what
the pass found, and nothing of an earlier pass.
-/

structure Summary where
  /-- The regions found, in any language. -/
  fragments : Nat
  /-- The fragments given to the compiler. -/
  compiled : Nat
  /-- The runs that did not take place. -/
  compilerFailures : Nat
  diagnostics : Nat
  deriving DecidableEq, Repr

namespace Summary

def zero : Summary := ⟨0, 0, 0, 0⟩

def add (s t : Summary) : Summary :=
  ⟨s.fragments + t.fragments, s.compiled + t.compiled, s.compilerFailures + t.compilerFailures,
    s.diagnostics + t.diagnostics⟩

end Summary

inductive CheckError
  | read (path : Path) (fault : Fault)
  | staging (e : StagingError)
  deriving DecidableEq, Repr

def CheckError.message : CheckError → String
  | .read path fault => s!"Failed to read {path.text}: {fault.message}"
  | .staging e => e.message

structure Checker where
  config : Config
  /-- Where fragments are staged, if that is given. -/
  dir : Option Path
  retries : Nat
  deriving Repr

namespace Checker

/-- A checker for a workspace, to whose root a staging directory is relative. -/
def ofConfig (config : Config) (root : Path) : Checker where
  config := config
  dir := config.stagingDir.map fun dir => root.join ⟨dir⟩
  retries := Stager.defaultRetries

/-- What the passes over some fragments came to. -/
structure Gathered where
  compiled : Nat
  compilerFailures : Nat
  diagnostics : List Diagnostic
  failure : Option StagingError

namespace Gathered

def nothing : Gathered := ⟨0, 0, [], none⟩

def failed (e : StagingError) : Gathered := ⟨0, 0, [], some e⟩

def afterRun (run : CompilerRun) (found : List Diagnostic) (g : Gathered) : Gathered :=
  ⟨g.compiled + 1, g.compilerFailures + (if run.spawnError.isSome then 1 else 0),
    found ++ g.diagnostics, g.failure⟩

def summary (g : Gathered) (fragments : Nat) : Summary :=
  ⟨fragments, g.compiled, g.compilerFailures, g.diagnostics.length⟩

end Gathered

def stager (c : Checker) (dir : Path) : Stager := ⟨dir, c.config.extension, c.retries⟩

/-- What a run's report is about. -/
def subject (c : Checker) (d : Document) (f : Fragment) (staged : Path) : Subject :=
  ⟨d, Anchor.ofMode c.config.anchorMode f.startLine staged.text, c.config.sourceTag,
    c.config.fatalPolicy⟩

def found (c : Checker) (d : Document) (f : Fragment) (staged : Path) (run : CompilerRun) :
    Logged (List Diagnostic) :=
  match run.report? with
  | none => ([], [])
  | some text => (c.subject d f staged).read text

variable {σ : Type} (w : Workbench σ)

/-- Stage, compile and read one fragment, and remove its file. -/
def checkFragment (c : Checker) (s : Stager) (d : Document) (f : Fragment) (env : σ) :
    Except StagingError (CompilerRun × List Diagnostic) × Trace × σ :=
  let (staged, writing, env) := s.stage w f.id f.text env
  match staged with
  | .error e => (.error e, writing, env)
  | .ok () =>
      let (run, running, env) := w.compile (s.path f.id) env
      let (ds, reading) := c.found d f (s.path f.id) run
      let (removing, env) := s.release w f.id env
      (.ok (run, ds), writing ++ ⟨[.compile (s.path f.id)], running ++ reading⟩ ++ removing, env)

/-- Check fragments in order up to the first that cannot be staged. -/
def checkFragments (c : Checker) (s : Stager) (d : Document) :
    List Fragment → σ → Gathered × Trace × σ
  | [], env => (.nothing, .empty, env)
  | f :: fs, env =>
      let (result, first, env) := c.checkFragment w s d f env
      match result with
      | .error e =>
          let aborted := Log.error .pass s!"Aborting check of {d.identity}: {e.message}"
          (.failed e, first ++ .logging aborted, env)
      | .ok (run, ds) =>
          let (rest, more, env) := c.checkFragments s d fs env
          (rest.afterRun run ds, first ++ more, env)

structure Outcome (σ : Type) where
  result : Except CheckError Summary
  board : Board
  trace : Trace
  env : σ

def checkDocument (c : Checker) (d : Document) (b : Board) (env : σ) : Outcome σ :=
  let fragments := Fragment.extract c.config.target d.text d.identity
  let s := c.stager (stagingDir (w.holds · env) c.dir ⟨d.identity⟩)
  let (g, trace, env) := c.checkFragments w s d (fragments.filter Fragment.isCompilable) env
  let summary := g.summary fragments.length
  let checked := Log.debug .pass (s!"Checked {d.identity}: {summary.fragments} fragment(s), " ++
    s!"{summary.compiled} compiled, {summary.diagnostics} diagnostic(s)")
  { result := match g.failure with
      | some e => .error (.staging e)
      | none => .ok summary
    board := (b.clear d.identity).set d.identity g.diagnostics
    trace := ⟨[], fragments.map Fragment.record⟩ ++ trace ++ .logging checked
    env := env }

def checkFile (c : Checker) (p : Path) (b : Board) (env : σ) : Outcome σ :=
  match w.readText p env with
  | .error fault => ⟨.error (.read p fault), b, .empty, env⟩
  | .ok text => c.checkDocument w ⟨(Path.absolute w.cwd p).text, text⟩ b env

end Checker

end FenceCheck
