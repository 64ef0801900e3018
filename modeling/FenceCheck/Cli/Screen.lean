import FenceCheck.Batch
import FenceCheck.Output.Style

namespace FenceCheck.Cli

/-!
# Screens

A screen is what a command leaves to see: an exit code, and two texts.
-/

structure Screen where
  exitCode : Nat
  stdout : String
  stderr : String
  deriving DecidableEq, Repr

structure Manner where
  verbose : Bool
  coloured : Bool
  deriving DecidableEq, Repr

namespace Manner

/-- A piece of a log record's head in a colour. -/
def tint (m : Manner) (codes : List String) (s : String) : String :=
  if m.coloured then
    String.join (codes.map fun c => String.ofList (Style.sequence c)) ++ s ++
      String.ofList Style.reset
  else s

def levelCodes : Log.Level → List String
  | .error => ["1", "31"]
  | .warn => ["33"]
  | .debug => ["34"]

/-- Level names are brought to one width. -/
def levelName (l : Log.Level) : String :=
  l.name ++ String.ofList (List.replicate (5 - l.name.length) ' ')

/-- Further lines of a record stand below the first, four blanks in. -/
def indented (s : String) : String :=
  String.intercalate "\n    " (s.splitOn "\n")

/-- The lines of a log record, if it is to be shown. -/
def record (m : Manner) (r : Log.Record) : String :=
  if r.isShown m.verbose then
    m.tint ["90"] "[" ++ m.tint (levelCodes r.level) (levelName r.level) ++ " " ++
      r.topic.target ++ m.tint ["90"] "]" ++ " " ++ indented r.text ++ "\n"
  else ""

def records (m : Manner) (log : List Log.Record) : String :=
  String.join (log.map m.record)

def failure (m : Manner) (text : String) : String :=
  Style.apply m.coloured .failure "Error" ++ ": " ++ text ++ "\n"

def notice (m : Manner) : Notice → String
  | .record r => m.record r
  | .failure e => m.failure e.message

def failed (m : Manner) (log : List Log.Record) (text : String) : Screen :=
  ⟨2, "", m.records log ++ m.failure text⟩

end Manner

end FenceCheck.Cli
