import FenceCheck.Toml.Scalar

namespace FenceCheck.Toml

/-!
# Quoted strings

Basic strings have escapes and literal strings have none; each has a form for several
lines. The readers start after the opening quotes and return what they read and what
follows the closing quotes.
-/

namespace Quotation

/-- A character that a string may hold as it is, other than a line break. -/
def isPlain (c : Char) : Bool :=
  c == '\t' || (32 ≤ c.toNat && c.toNat != 127)

/-- The character of a number in hexadecimal, if it is one. -/
def scalar? (digits : List Char) : Option Char :=
  if digits.all Scalar.isHex then
    let n := Scalar.valueIn 16 digits
    if n.isValidChar then some (Char.ofNat n) else none
  else none

/-- The character of an escape of one letter. -/
def escaped? (c : Char) : Option Char :=
  if c = 'b' then some (Char.ofNat 8)
  else if c = 't' then some '\t'
  else if c = 'n' then some '\n'
  else if c = 'f' then some (Char.ofNat 12)
  else if c = 'r' then some '\r'
  else if c = 'e' then some (Char.ofNat 27)
  else if c = '"' then some '"'
  else if c = '\\' then some '\\'
  else none

/-- Put a character, if there is one, in front of what was read. -/
def prepend (c : Option Char) (read : Option (List Char × List Char)) :
    Option (List Char × List Char) :=
  match c, read with
  | some c, some (text, rest) => some (c :: text, rest)
  | _, _ => none

def basic : List Char → Option (List Char × List Char)
  | [] => none
  | '"' :: s => some ([], s)
  | '\\' :: 'x' :: a :: b :: s => prepend (scalar? [a, b]) (basic s)
  | '\\' :: 'u' :: a :: b :: c :: d :: s => prepend (scalar? [a, b, c, d]) (basic s)
  | '\\' :: 'U' :: a :: b :: c :: d :: e :: f :: g :: h :: s =>
      prepend (scalar? [a, b, c, d, e, f, g, h]) (basic s)
  | '\\' :: c :: s => prepend (escaped? c) (basic s)
  | c :: s => if isPlain c && c != '\\' then prepend (some c) (basic s) else none

def literal : List Char → Option (List Char × List Char)
  | [] => none
  | c :: s =>
      if c = '\x27' then some ([], s)
      else if isPlain c then prepend (some c) (literal s)
      else none

def isSpace (c : Char) : Bool :=
  c == ' ' || c == '\t'

def startsLine : List Char → Bool
  | '\n' :: _ => true
  | '\r' :: '\n' :: _ => true
  | _ => false

/-- Whether only spaces stand before the end of the line. -/
def endsLine (s : List Char) : Bool :=
  startsLine (s.dropWhile isSpace)

/-- A basic string of several lines. While `folding`, after a backslash at the end of a
line, spaces and line breaks are passed over. -/
def basicLines (folding : Bool) : List Char → Option (List Char × List Char)
  | [] => none
  | '"' :: '"' :: '"' :: '"' :: '"' :: s => some (['"', '"'], s)
  | '"' :: '"' :: '"' :: '"' :: s => some (['"'], s)
  | '"' :: '"' :: '"' :: s => some ([], s)
  | '\r' :: '\n' :: s =>
      if folding then basicLines true s
      else prepend (some '\r') (prepend (some '\n') (basicLines false s))
  | '\\' :: 'x' :: a :: b :: s => prepend (scalar? [a, b]) (basicLines false s)
  | '\\' :: 'u' :: a :: b :: c :: d :: s => prepend (scalar? [a, b, c, d]) (basicLines false s)
  | '\\' :: 'U' :: a :: b :: c :: d :: e :: f :: g :: h :: s =>
      prepend (scalar? [a, b, c, d, e, f, g, h]) (basicLines false s)
  | '\\' :: s =>
      if endsLine s then basicLines true s
      else
        match s with
        | [] => none
        | c :: r => prepend (escaped? c) (basicLines false r)
  | c :: s =>
      if folding && (isSpace c || c == '\n') then basicLines true s
      else if isPlain c || c == '\n' then prepend (some c) (basicLines false s)
      else none

def literalLines : List Char → Option (List Char × List Char)
  | [] => none
  | '\x27' :: '\x27' :: '\x27' :: '\x27' :: '\x27' :: s => some (['\x27', '\x27'], s)
  | '\x27' :: '\x27' :: '\x27' :: '\x27' :: s => some (['\x27'], s)
  | '\x27' :: '\x27' :: '\x27' :: s => some ([], s)
  | '\r' :: '\n' :: s => prepend (some '\r') (prepend (some '\n') (literalLines s))
  | c :: s => if isPlain c || c == '\n' then prepend (some c) (literalLines s) else none

/-- A line break right after the opening quotes is not part of the string. -/
def dropBreak : List Char → List Char
  | '\n' :: s => s
  | '\r' :: '\n' :: s => s
  | s => s

/-- A string that may have several lines. -/
def string? : List Char → Option (List Char × List Char)
  | '"' :: '"' :: '"' :: s => basicLines false (dropBreak s)
  | '\x27' :: '\x27' :: '\x27' :: s => literalLines (dropBreak s)
  | '"' :: s => basic s
  | '\x27' :: s => literal s
  | _ => none

end Quotation

end FenceCheck.Toml
