import FenceCheck.Cli.Arguments
import FenceCheck.Cli.Screen
import FenceCheck.Config.Locate
import FenceCheck.Config.Schema
import FenceCheck.Discovery

namespace FenceCheck.Cli

/-!
# Commands

Commands work on a disk and leave a screen. Only the closing line of a check depends on
the time that it took, which is therefore asked for last.
-/

def configFailure (e : ConfigError) : String :=
  "Failed to load configuration: " ++ e.message ++
    match e.cause? with
    | some fault => ": " ++ fault.message
    | none => ""

/-! ## Checking -/

/-- A document as it is named on the screen: below the working directory without it. -/
def shownName (cwd : Path) (document : String) : String :=
  match cwd.relativeTo? ⟨document⟩ with
  | some p => p.text
  | none => document

/-- What a check that could begin came to. -/
structure Report where
  files : Nat
  /-- What each document on the board is called, and what was found in it. -/
  results : List (String × List Diagnostic)
  summary : Summary
  exitCode : Nat
  notices : List Notice

namespace Report

def ofBatch {σ : Type} (cwd : Path) (files : Nat) (log : List Log.Record) (b : Batch σ) :
    Report where
  files := files
  results := b.board.entries.map fun e => (shownName cwd e.1, e.2)
  summary := b.summary
  exitCode := b.exitCode
  notices := log.map .record ++ b.notices

/-- The texts of the documents that have something to show. -/
def listings (m : Manner) (format : Format) (r : Report) : List String :=
  (r.results.filter fun e => !e.2.isEmpty).map fun e =>
    Output.document format m.coloured e.1 e.2

def stdout (m : Manner) (format : Format) (quiet : Bool) (elapsed : Nat) (r : Report) : String :=
  match format with
  | .json => Output.jsonAll r.results ++ "\n"
  | _ =>
      let closing := if quiet then none
        else Output.summary? format m.coloured r.files r.summary.diagnostics elapsed
      String.join ((r.listings m format ++ closing.toList).map (· ++ "\n"))

def stderr (m : Manner) (r : Report) : String :=
  String.join (r.notices.map m.notice) ++
    if r.summary.compilerFailures = 0 then ""
    else m.failure ("the compiler could not be run for " ++
      s!"{r.summary.compilerFailures} snippet(s); check `[compiler] command`")

def screen (m : Manner) (format : Format) (quiet : Bool) (elapsed : Nat) (r : Report) : Screen :=
  ⟨r.exitCode, r.stdout m format quiet elapsed, r.stderr m⟩

end Report

/-- What a check needs once the configuration is known. -/
structure Plan where
  config : Config
  projectRoot : Path
  files : List Path

namespace CheckRequest

/-- The configuration with what the command line says instead. -/
def settle (r : CheckRequest) (c : Config) : Config :=
  { c with
    compiler := { c.compiler with command := r.compiler.getD c.compiler.command }
    stagingDir := r.stagingDir.or c.stagingDir }

def plan (r : CheckRequest) (d : Disk) : Logged (Except String Plan) :=
  match Config.load d r.config with
  | (.error e, log) => (.error (configFailure e), log)
  | (.ok l, loading) =>
      let origin := match l.file with
        | some p => [Log.debug .command s!"Using config file {p.text}"]
        | none => []
      let (found, finding) := Discovery.documents d r.respectful r.paths
      let log := loading ++ origin ++ finding
      match found with
      | .error e => (.error ("Failed to collect files: " ++ e.message), log)
      | .ok files => (.ok ⟨r.settle l.config, l.projectRoot, files⟩, log)

end CheckRequest

namespace Plan

def checker (p : Plan) : Checker := .ofConfig p.config p.projectRoot

def workbench (p : Plan) (launch : Launcher) (d : Disk) : Workbench Disk :=
  .ofDisk launch (.ofConfig p.config.compiler p.projectRoot.text) d.cwdPath

def carryOut (p : Plan) (launch : Launcher) (d : Disk) : Batch Disk :=
  (Batch.start d).checkAll (p.workbench launch d) p.checker p.files

end Plan

/-- What a command comes to, but for the time. -/
inductive Result
  | screen (s : Screen)
  | report (m : Manner) (format : Format) (quiet : Bool) (r : Report)

def Result.show (elapsed : Nat) : Result → Screen
  | screen s => s
  | report m format quiet r => r.screen m format quiet elapsed

def check (launch : Launcher) (m : Manner) (r : CheckRequest) (d : Disk) : Result × Disk :=
  match r.plan d with
  | (.error text, log) => (.screen (m.failed log text), d)
  | (.ok p, log) =>
      let b := p.carryOut launch d
      (.report m r.format r.quiet (.ofBatch d.cwdPath p.files.length log b), b.env)

/-! ## The other commands -/

/-- The configuration as a document that names where it came from. -/
def configText (origin : String) (c : Config) : String :=
  "# Source: " ++ origin ++ "\n" ++ c.sheet.print ++ "\n"

def defaultOrigin : String := "built-in defaults"

def showConfig (m : Manner) (file : Option Path) (defaults : Bool) (d : Disk) : Screen :=
  if defaults then ⟨0, configText defaultOrigin .default, ""⟩
  else
    match Config.load d file with
    | (.error e, log) => m.failed log (configFailure e)
    | (.ok l, log) =>
        ⟨0, configText ((l.file.map Path.text).getD defaultOrigin) l.config, m.records log⟩

def showSchema : Screen := ⟨0, Config.schema.print ++ "\n", ""⟩

/-! ## All of it -/

def name : String := "snipcheck"

def version : String := "0.1.0"

def usage : String :=
  "Check the code fences of Markdown files with a compiler\n\n" ++
  s!"Usage: {name} [OPTIONS] <COMMAND>\n\n" ++
  "Commands:\n" ++
  "  check   Compile the snippets in Markdown files and report diagnostics\n" ++
  "  config  Show the effective configuration as TOML\n" ++
  "  schema  Print the JSON schema of the configuration file\n" ++
  "  help    Print this message\n\n" ++
  "Options:\n" ++
  "  -v, --verbose  Show debug logging\n" ++
  "  -h, --help     Print help\n" ++
  "  -V, --version  Print version\n"

def Refusal.screen (r : Refusal) : Screen :=
  match r with
  | .wantsVersion => ⟨0, s!"{name} {version}\n", ""⟩
  | .wantsHelp => ⟨0, usage, ""⟩
  | .missingCommand => ⟨2, "", usage⟩
  | r => ⟨2, "", "error: " ++ r.reason ++ "\n\nFor more information, try \x27--help\x27.\n"⟩

def run (launch : Launcher) (coloured : Bool) (args : List String) (d : Disk) : Result × Disk :=
  match Request.read args with
  | .error r => (.screen r.screen, d)
  | .ok request =>
      let m : Manner := ⟨request.verbose, coloured⟩
      match request.action with
      | .check r => check launch m r d
      | .config file defaults => (.screen (showConfig m file defaults d), d)
      | .schema => (.screen showSchema, d)

end FenceCheck.Cli
