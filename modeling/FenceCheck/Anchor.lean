import FenceCheck.FileName
import FenceCheck.Text.Numeral

namespace FenceCheck

/-!
# Anchoring a fragment to its document

A staged fragment keeps its place in the document in one of two ways. A line
directive on its first line makes the compiler count and name as the document
does. Without one the staged file counts from its own first line, and the line of
the fence is added when a position is read back.
-/

namespace Anchor

inductive Mode
  | lineDirective
  | firstLineOffset
  deriving DecidableEq, Repr, Inhabited

/-- The directive that makes the next line `line` of `identity`. -/
def directive (line : Nat) (identity : String) : String :=
  s!"#line {line} \"" ++ FileName.forward identity ++ "\""

/-- The text that stands for the opening fence on `startLine`. -/
def Mode.marker (mode : Mode) (startLine : Nat) (identity : String) : String :=
  match mode with
  | .lineDirective => directive (startLine + 1) identity
  | .firstLineOffset => ""

end Anchor

/-- How the lines of one staged fragment map back to its document. -/
inductive Anchor
  | lineDirective
  | firstLineOffset (startLine : Nat) (stagedPath : String)
  deriving DecidableEq, Repr

namespace Anchor

def ofMode (mode : Mode) (startLine : Nat) (stagedPath : String) : Anchor :=
  match mode with
  | .lineDirective => .lineDirective
  | .firstLineOffset => .firstLineOffset startLine stagedPath

/-- The line of the document for a line that the compiler reports. A compiler may report any
number of 64 bits, and a sum that they do not hold starts over from zero. -/
def documentLine (a : Anchor) (line : Nat) : Nat :=
  match a with
  | .lineDirective => line
  | .firstLineOffset startLine _ => (startLine + line) % Text.word64Bound - 1

/-- Whether a name in the compiler's output means the document. -/
def namesDocument (a : Anchor) (file identity : String) : Bool :=
  match a with
  | .lineDirective => FileName.same file identity
  | .firstLineOffset _ stagedPath =>
      FileName.same file stagedPath || FileName.same file identity

end Anchor

end FenceCheck
