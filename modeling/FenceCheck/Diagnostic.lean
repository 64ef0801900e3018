import FenceCheck.Document

namespace FenceCheck

/-!
# Diagnostics

What a compiler said about a document, at a point of it.
-/

inductive Severity
  | error
  | warning
  | information
  deriving DecidableEq, Repr

/-- A stretch of a document. Diagnostics mark points. -/
structure Span where
  start : Position
  stop : Position
  deriving DecidableEq, Repr

def Span.point (p : Position) : Span := ⟨p, p⟩

/-- A second place that a diagnostic speaks of. -/
structure Related where
  position : Position
  message : String
  deriving DecidableEq, Repr

structure Diagnostic where
  severity : Severity
  span : Span
  message : String
  related : List Related
  source : String
  deriving DecidableEq, Repr

namespace Diagnostic

def defaultSource : String := "markdownsnippetchecker"

def point (severity : Severity) (position : Position) (message source : String) : Diagnostic :=
  ⟨severity, .point position, message, [], source⟩

/-- The number of the line, from one. -/
def line (d : Diagnostic) : Nat := d.span.start.line + 1

/-- The number of the column, from one. -/
def column (d : Diagnostic) : Nat := d.span.start.column + 1

def addLine (d : Diagnostic) (line : String) : Diagnostic :=
  { d with message := d.message ++ "\n" ++ line }

def addRelated (d : Diagnostic) (r : Related) : Diagnostic :=
  { d with related := d.related ++ [r] }

end Diagnostic

end FenceCheck
