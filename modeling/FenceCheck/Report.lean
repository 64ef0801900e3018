import FenceCheck.Anchor
import FenceCheck.Diagnostic
import FenceCheck.Log
import FenceCheck.Report.Line
import FenceCheck.Text.Lines

namespace FenceCheck

/-!
# Reading a compiler's report

A report is read line by line. Errors and warnings open a diagnostic. Notes and lines
of no known kind belong to the newest diagnostic: a note about the document becomes a
related place, anything else extends the message. The first line of no known kind
names the translation unit, and an empty line closes it.
-/

/-- What to do with a fatal error that names no place. -/
inductive FatalPolicy
  | skip
  | documentStart
  deriving DecidableEq, Repr, Inhabited

structure Subject where
  document : Document
  anchor : Anchor
  source : String
  fatalPolicy : FatalPolicy
  deriving Repr

structure Scan where
  /-- The open translation unit; empty when none is open. -/
  openUnit : String
  /-- The diagnostics so far, the newest first. -/
  newestFirst : List Diagnostic
  deriving DecidableEq, Repr

namespace Scan

def start : Scan := ⟨"", []⟩

def diagnostics (s : Scan) : List Diagnostic :=
  s.newestFirst.reverse

def newest? (s : Scan) : Option Diagnostic :=
  s.newestFirst.head?

def push (s : Scan) (d : Diagnostic) : Scan :=
  { s with newestFirst := d :: s.newestFirst }

/-- The newest diagnostic changed, if there is one. -/
def amend (s : Scan) (f : Diagnostic → Diagnostic) : Scan :=
  { s with newestFirst := s.newestFirst.modifyHead f }

end Scan

namespace Subject

def place (r : Subject) (l : Location) : Nat × Nat :=
  (r.anchor.documentLine l.line, l.column.getD 1 - 1)

def position (r : Subject) (l : Location) : Position :=
  r.document.positionAt (r.place l).1 (r.place l).2

/-- What is logged about a location: that its line is not one of the document's. -/
def positionLog (r : Subject) (l : Location) : List Log.Record :=
  let line := (r.place l).1
  if line = 0 ∨ r.document.lineCount < line then
    [Log.warn .report s!"Line {line} from {l.file} is outside {r.document.identity}, clamping"]
  else []

def diagnostic (r : Subject) (severity : Severity) (position : Position) (message : String) :
    Diagnostic :=
  .point severity position message r.source

/-- Open a diagnostic at a location. -/
def found (r : Subject) (s : Scan) (severity : Severity) (l : Location) (message : String) :
    Logged Scan :=
  (s.push (r.diagnostic severity (r.position l) message), r.positionLog l)

def isInDocument (r : Subject) (l : Location) : Bool :=
  r.anchor.namesDocument l.file r.document.identity

def note (r : Subject) (s : Scan) (l : Location) (message text : String) : Logged Scan :=
  let inside := r.isInDocument l
  let looked := if inside then r.positionLog l else []
  match s.newest? with
  | none =>
      (s, looked ++ [Log.error .report s!"Note without a preceding diagnostic, dropped: {text}"])
  | some _ =>
      if inside then
        (s.amend (·.addRelated ⟨r.position l, message⟩),
          looked ++ [Log.debug .report s!"Found related location: {text}"])
      else
        (s.amend (·.addLine text), [Log.debug .report s!"Found note outside the document: {text}"])

/-- A line of no known kind. -/
def other (s : Scan) (line : String) : Logged Scan :=
  if s.openUnit = "" then
    ({ s with openUnit := line }, [Log.debug .report s!"Found new translation unit: {line}"])
  else if line = "" then
    ({ s with openUnit := "" }, [Log.debug .report s!"Found end of translation unit {s.openUnit}"])
  else
    match s.newest? with
    | some _ => (s.amend (·.addLine line), [])
    | none =>
        (s, [Log.error .report s!"Continuation without a preceding diagnostic, dropped: {line}"])

def fatal (r : Subject) (s : Scan) (location : Option Location) (text : String) : Logged Scan :=
  match location, r.fatalPolicy with
  | some l, _ => r.found s .error l text
  | none, .skip =>
      (s, [Log.warn .report s!"Fatal error without a location is not reported: {text}"])
  | none, .documentStart =>
      (s.push (r.diagnostic .error (r.document.positionAt 1 0) text), [])

def noting (entry : Log.Record) (result : Logged Scan) : Logged Scan :=
  (result.1, entry :: result.2)

def step (r : Subject) (s : Scan) (line : String) : Logged Scan :=
  match ReportLine.classify line with
  | some (.error l message) =>
      noting (Log.debug .report s!"Found error line: {line}") (r.found s .error l message)
  | some (.fatal l text) =>
      noting (Log.debug .report s!"Found fatal error line: {line}") (r.fatal s l text)
  | some (.warning l message) =>
      noting (Log.debug .report s!"Found warning line: {line}") (r.found s .warning l message)
  | some (.note l message text) => r.note s l message text
  | some (.unknown l category message) =>
      noting (Log.warn .report s!"Unrecognized diagnostic category '{category}': {line}")
        (r.found s .error l message)
  | none => other s line

def run (r : Subject) : Scan → List String → Logged Scan
  | s, [] => (s, [])
  | s, line :: more =>
      let one := r.step s line
      let rest := r.run one.1 more
      (rest.1, one.2 ++ rest.2)

/-- The lines of a report. A carriage return at the end of a line is not part of it. -/
def reportLines (text : String) : List String :=
  (Text.lines text.toList).map fun line => String.ofList (Text.bare line)

/-- The diagnostics of a report, in the order in which the compiler gave them. -/
def read (r : Subject) (text : String) : Logged (List Diagnostic) :=
  let done := r.run .start (reportLines text)
  (done.1.diagnostics, done.2)

end Subject

end FenceCheck
