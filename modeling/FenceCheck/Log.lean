namespace FenceCheck

/-!
# Log records

A record names its level and the part of the program that wrote it. Records are
values that the operations return beside their results.
-/

namespace Log

inductive Level
  | error
  | warn
  | debug
  deriving DecidableEq, Repr

inductive Topic
  | config
  | discovery
  | command
  | fragments
  | staging
  | compiler
  | report
  | pass
  deriving DecidableEq, Repr

structure Record where
  level : Level
  topic : Topic
  text : String
  deriving DecidableEq, Repr

def error (topic : Topic) (text : String) : Record := ⟨.error, topic, text⟩

def warn (topic : Topic) (text : String) : Record := ⟨.warn, topic, text⟩

def debug (topic : Topic) (text : String) : Record := ⟨.debug, topic, text⟩

def Level.name : Level → String
  | .error => "ERROR"
  | .warn => "WARN"
  | .debug => "DEBUG"

/-- The name under which a part of the program logs. -/
def Topic.target : Topic → String
  | .config => "snipcheck_lib::config::loading"
  | .discovery => "snipcheck_lib::discovery"
  | .command => "snipcheck::commands::check"
  | .fragments => "snipcheck_lib::snippets::extractor"
  | .staging => "snipcheck_lib::snippets::stager"
  | .compiler => "snipcheck_lib::snippets::compiler"
  | .report => "snipcheck_lib::snippets::parser"
  | .pass => "snipcheck_lib::snippets::processor"

/-- Whether a record is shown: debugging records only when asked for. -/
def Record.isShown (verbose : Bool) (r : Record) : Bool :=
  verbose || r.level != .debug

def Record.brief (r : Record) : String :=
  r.level.name ++ ": " ++ r.text

end Log

/-- A result with the records logged on the way. -/
abbrev Logged (α : Type) := α × List Log.Record

end FenceCheck
