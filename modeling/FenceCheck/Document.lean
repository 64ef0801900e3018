import FenceCheck.Document.LineTable

namespace FenceCheck

/-!
# Documents and positions

A document is a text under a name. A position counts lines and columns from zero,
columns in characters, and carries the byte offset. Every position that a document
gives out is one of its own.
-/

structure Position where
  line : Nat
  column : Nat
  offset : Nat
  deriving DecidableEq, Repr, Inhabited

structure Document where
  /-- The name that compilers echo, normally the absolute path. -/
  identity : String
  text : String
  deriving DecidableEq, Repr

namespace Document

def table (d : Document) : List Line :=
  lineTable d.text.toList

def lineCount (d : Document) : Nat :=
  d.table.length

theorem lineCount_pos (d : Document) : 0 < d.lineCount :=
  LineTable.length_pos _

/-- The nearest number of a line that exists. -/
def clampLine (d : Document) (line : Nat) : Nat :=
  min (max line 1) d.lineCount

/-- The position of a column, counted from zero, in a line, counted from one. Both
are moved into the document. -/
def positionAt (d : Document) (line column : Nat) : Position :=
  let n := d.clampLine line - 1
  let l := d.table.getD n ⟨0, []⟩
  let k := min column l.text.length
  ⟨n, k, l.start + byteOffset l.text k⟩

end Document

end FenceCheck
