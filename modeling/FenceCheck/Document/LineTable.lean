import FenceCheck.Text.Lines
import FenceCheck.Text.Utf8

namespace FenceCheck

/-!
# Line tables

The lines of a text with the byte offsets where they start. Lines are numbered from
one. A line's text leaves out the line feed and one carriage return in front of it.
-/

structure Line where
  start : Nat
  /-- Everything up to the line feed. -/
  raw : List Char
  deriving DecidableEq, Repr

namespace Line

def text (l : Line) : List Char :=
  Text.bare l.raw

def stop (l : Line) : Nat :=
  l.start + Text.byteLength l.text

end Line

namespace LineTable

def tabulate : Nat → List (List Char) → List Line
  | _, [] => []
  | offset, raw :: more => ⟨offset, raw⟩ :: tabulate (offset + Text.byteLength raw + 1) more

@[simp] theorem length_tabulate (offset : Nat) (raws : List (List Char)) :
    (tabulate offset raws).length = raws.length := by
  induction raws generalizing offset with
  | nil => rfl
  | cons raw more ih => simp [tabulate, ih]

@[simp] theorem map_raw_tabulate (offset : Nat) (raws : List (List Char)) :
    (tabulate offset raws).map Line.raw = raws := by
  induction raws generalizing offset with
  | nil => rfl
  | cons raw more ih => simp [tabulate, ih]

end LineTable

/-- The lines of a text, in order; there is always one. -/
def lineTable (s : List Char) : List Line :=
  LineTable.tabulate 0 (Text.lines s)

namespace LineTable

theorem ne_nil (s : List Char) : lineTable s ≠ [] := by
  intro h
  have := congrArg List.length h
  simp [lineTable, Text.cells_ne_nil] at this

theorem length_pos (s : List Char) : 0 < (lineTable s).length :=
  List.length_pos_iff.2 (ne_nil s)

/-- The number of the line that holds the byte `offset`; past the end it is the last
line. Every line that starts no later counts. -/
def lineOf (table : List Line) (offset : Nat) : Nat :=
  table.countP fun l => l.start ≤ offset

def line? (table : List Line) : Nat → Option Line
  | 0 => none
  | n + 1 => table[n]?

def start? (table : List Line) (n : Nat) : Option Nat :=
  (line? table n).map Line.start

def range? (table : List Line) (n : Nat) : Option (Nat × Nat) :=
  (line? table n).map fun l => (l.start, l.stop)

end LineTable

/-- The byte offset of the character at `column`, or of the end of the text. -/
def byteOffset (s : List Char) (column : Nat) : Nat :=
  Text.byteLength (s.take column)

end FenceCheck
