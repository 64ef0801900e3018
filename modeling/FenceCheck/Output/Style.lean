import FenceCheck.Text.Search

namespace FenceCheck

/-!
# Styled text

On a terminal a piece of text is put between an escape sequence for its style and one
that resets all styles. A reset inside the text is followed by the style again.
-/

inductive Style
  | path
  | number
  | failure
  | caution
  | notice
  | good
  deriving DecidableEq, Repr

namespace Style

/-- Paths are blue and underlined, numbers cyan, errors red and bold, warnings yellow and
bold, information blue and bold; what is good is green. -/
def codes : Style → String
  | path => "4;34"
  | number => "36"
  | failure => "1;31"
  | caution => "1;33"
  | notice => "1;34"
  | good => "32"

def escapeChar : Char := Char.ofNat 27

def sequence (codes : String) : List Char :=
  escapeChar :: '[' :: codes.toList ++ ['m']

def reset : List Char := sequence "0"

def paint (style : Style) (s : List Char) : List Char :=
  let begin := sequence style.codes
  begin ++ Text.replaceAll reset (reset ++ begin) s ++ reset

def apply (coloured : Bool) (style : Style) (s : String) : String :=
  if coloured then String.ofList (paint style s.toList) else s

end Style

end FenceCheck
