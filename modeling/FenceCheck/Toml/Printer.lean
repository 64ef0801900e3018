import FenceCheck.Text.Numeral
import FenceCheck.Text.Search

namespace FenceCheck.Toml

/-!
# Printing settings

A setting is a text, a number or a list of texts. A text is written in the plainest
form of string that holds it: a basic string, a literal one, the same over several
lines, and a basic string with escapes only when nothing else will do. Lists of two or
more texts have one on each line.
-/

inductive Setting
  | text (s : String)
  | number (n : Nat)
  | texts (items : List String)
  deriving DecidableEq, Repr

namespace Printer

def isControl (c : Char) : Bool :=
  (c.toNat < 32 && c != '\t' && c != '\n') || c.toNat == 127

/-- Whether a character stands three times in a row. -/
def hasRun (c : Char) (s : List Char) : Bool :=
  (Text.split? [c, c, c] s).isSome

inductive Form
  | basic
  | literal
  | basicLines
  | literalLines
  | escaped
  deriving DecidableEq, Repr

def form (s : List Char) : Form :=
  if s.any isControl then .escaped
  else if !s.contains '\\' && !s.contains '"' && !s.contains '\n' then .basic
  else if !s.contains '\x27' && !s.contains '\n' then .literal
  else if !s.contains '\\' && !hasRun '"' s then .basicLines
  else if !hasRun '\x27' s then .literalLines
  else .escaped

/-- A code point of at most two digits in hexadecimal, written with four. -/
def unicodeEscape (c : Char) : List Char :=
  let digits := (Nat.toDigits 16 c.toNat).map Char.toUpper
  "\\u".toList ++ List.replicate (4 - digits.length) '0' ++ digits

/-- A character of a basic string other than a quotation mark. -/
def escape (multiline : Bool) (c : Char) : List Char :=
  if c = '\\' then ['\\', '\\']
  else if c = '\t' then ['\\', 't']
  else if c = '\n' then (if multiline then ['\n'] else ['\\', 'n'])
  else if c.toNat = 8 then ['\\', 'b']
  else if c.toNat = 12 then ['\\', 'f']
  else if c = '\r' then ['\\', 'r']
  else if isControl c then unicodeEscape c
  else [c]

/-- The inside of a basic string. Over several lines only every third quotation mark in
a row is escaped; `quotes` counts those before. -/
def body (multiline : Bool) : Nat → List Char → List Char
  | _, [] => []
  | quotes, c :: s =>
      if c = '"' then
        if multiline && quotes < 2 then '"' :: body multiline (quotes + 1) s
        else '\\' :: '"' :: body multiline 0 s
      else escape multiline c ++ body multiline 0 s

def basicQuotes : List Char := ['"', '"', '"']

def literalQuotes : List Char := ['\x27', '\x27', '\x27']

/-- A text between quotes of the long forms, which begin on a line of their own if the
text has several. -/
def long (quotes s inside : List Char) : List Char :=
  quotes ++ (if s.contains '\n' then ['\n'] else []) ++ inside ++ quotes

def string (s : List Char) : List Char :=
  match form s with
  | .basic => '"' :: body false 0 s ++ ['"']
  | .literal => '\x27' :: s ++ ['\x27']
  | .basicLines => long basicQuotes s (body true 0 s)
  | .literalLines => long literalQuotes s s
  | .escaped =>
      if s.contains '\n' then long basicQuotes s (body true 0 s)
      else '"' :: body false 0 s ++ ['"']

def list : List String → List Char
  | [] => "[]".toList
  | [s] => '[' :: string s.toList ++ [']']
  | items =>
      "[\n".toList ++
        items.flatMap (fun s => "    ".toList ++ string s.toList ++ ",\n".toList) ++ [']']

def setting : Setting → List Char
  | .text s => string s.toList
  | .number n => Text.decimal n
  | .texts items => list items

def line (entry : String × Setting) : List Char :=
  entry.1.toList ++ " = ".toList ++ setting entry.2 ++ ['\n']

/-- A headed group of settings, after an empty line. -/
def group (g : String × List (String × Setting)) : List Char :=
  "\n[".toList ++ g.1.toList ++ "]\n".toList ++ g.2.flatMap line

end Printer

/-- A document: settings, and groups of settings under headers. -/
structure Sheet where
  settings : List (String × Setting)
  groups : List (String × List (String × Setting))
  deriving DecidableEq, Repr

def Sheet.print (d : Sheet) : String :=
  String.ofList (d.settings.flatMap Printer.line ++ d.groups.flatMap Printer.group)

end FenceCheck.Toml
