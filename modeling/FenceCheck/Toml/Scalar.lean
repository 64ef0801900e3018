import FenceCheck.Text.Numeral
import FenceCheck.Toml.Value

namespace FenceCheck.Toml

/-!
# Scalars without quotes

Booleans, numbers and dates are words of letters, digits and a few signs. An integer
must fit in 64 bits with its sign, and a finite number with a fraction must not be
too large for double precision.
-/

namespace Scalar

/-- Digits with single underscores between them, freed of those. -/
def digits? (isDigit : Char → Bool) : List Char → Option (List Char)
  | [] => none
  | [c] => if isDigit c then some [c] else none
  | c :: '_' :: s => if isDigit c then (digits? isDigit s).map (c :: ·) else none
  | c :: s => if isDigit c then (digits? isDigit s).map (c :: ·) else none

def isHex (c : Char) : Bool :=
  c.isDigit || ('a' ≤ c && c ≤ 'f') || ('A' ≤ c && c ≤ 'F')

def isOctal (c : Char) : Bool :=
  '0' ≤ c && c ≤ '7'

def isBinary (c : Char) : Bool :=
  c == '0' || c == '1'

def hexValue (c : Char) : Nat :=
  if c.isDigit then c.toNat - 48 else if 'a' ≤ c then c.toNat - 87 else c.toNat - 55

def valueIn (base : Nat) (digits : List Char) : Nat :=
  digits.foldl (fun n d => base * n + hexValue d) 0

def signed (s : List Char) : Bool × List Char :=
  match s with
  | '-' :: r => (true, r)
  | '+' :: r => (false, r)
  | r => (false, r)

/-- Decimal digits without a leading zero. -/
def wholeDigits? (s : List Char) : Option (List Char) :=
  match digits? Char.isDigit s with
  | some ('0' :: _ :: _) => none
  | found => found

def inRange (n : Int) : Bool :=
  -Int.pow 2 63 ≤ n && n < Int.pow 2 63

def ofMagnitude? (negative : Bool) (n : Nat) : Option Value :=
  let i : Int := if negative then -(n : Int) else n
  if inRange i then some (.integer i) else none

def integer? (s : List Char) : Option Value :=
  match s with
  | '0' :: 'x' :: r => (digits? isHex r).bind fun ds => ofMagnitude? false (valueIn 16 ds)
  | '0' :: 'o' :: r => (digits? isOctal r).bind fun ds => ofMagnitude? false (valueIn 8 ds)
  | '0' :: 'b' :: r => (digits? isBinary r).bind fun ds => ofMagnitude? false (valueIn 2 ds)
  | _ =>
      let (negative, r) := signed s
      (wholeDigits? r).bind fun ds => ofMagnitude? negative (valueIn 10 ds)

/-- The least magnitude that rounds to infinity in double precision. -/
def floatBound : Nat := Nat.pow 2 1024 - Nat.pow 2 970

/-- Whether `n · 10 ^ (up - down)` stays below the bound. Numbers with many more digits
or far greater exponents than the bound need no multiplication. -/
def isFinite (n up down : Nat) : Bool :=
  if n = 0 then true
  else if up < down then
    let places := down - up
    if 400 + (Nat.toDigits 10 n).length < places then true
    else n < floatBound * Nat.pow 10 places
  else if 400 < up - down then false
  else n * Nat.pow 10 (up - down) < floatBound

/-- An exponent: whether it is negative, and its digits. -/
def exponent? (s : List Char) : Option (Bool × List Char) :=
  let (negative, r) := signed s
  (digits? Char.isDigit r).map fun ds => (negative, ds)

def isExponentMark (c : Char) : Bool :=
  c == 'e' || c == 'E'

/-- The digits after a point; there must be some if there is a point. -/
def fraction? (s : List Char) : Option (List Char) :=
  match s with
  | [] => some []
  | '.' :: r => digits? Char.isDigit r
  | _ => none

def float? (s : List Char) : Option Value :=
  let (_, r) := signed s
  if r = "inf".toList ∨ r = "nan".toList then some (.float (String.ofList s))
  else
    let mantissa := r.takeWhile (!isExponentMark ·)
    let power := r.dropWhile (!isExponentMark ·)
    let whole := mantissa.takeWhile (· != '.')
    let part := mantissa.dropWhile (· != '.')
    if part = [] ∧ power = [] then none
    else
      match wholeDigits? whole, fraction? part with
      | some ws, some fs =>
          let n := valueIn 10 (ws ++ fs)
          match power with
          | [] => if isFinite n 0 fs.length then some (.float (String.ofList s)) else none
          | _ :: e =>
              (exponent? e).bind fun (negative, ds) =>
                let k := valueIn 10 ds
                let finite :=
                  if negative then isFinite n 0 (fs.length + k) else isFinite n k fs.length
                if finite then some (.float (String.ofList s)) else none
      | _, _ => none

/-- Exactly two digits, and what follows. -/
def twoDigits? : List Char → Option (Nat × List Char)
  | a :: b :: s =>
      if a.isDigit && b.isDigit then some (Text.digitsValue [a, b], s) else none
  | _ => none

def isLeap (year : Nat) : Bool :=
  year % 4 == 0 && (year % 100 != 0 || year % 400 == 0)

def monthLength (year month : Nat) : Nat :=
  if month = 2 then (if isLeap year then 29 else 28)
  else if month = 4 ∨ month = 6 ∨ month = 9 ∨ month = 11 then 30
  else 31

def afterDate? : List Char → Option (List Char)
  | a :: b :: c :: d :: '-' :: s =>
      if [a, b, c, d].all Char.isDigit then
        match twoDigits? s with
        | some (month, '-' :: r) =>
            match twoDigits? r with
            | some (day, rest) =>
                let year := Text.digitsValue [a, b, c, d]
                if 1 ≤ month && month ≤ 12 && 1 ≤ day && day ≤ monthLength year month then
                  some rest
                else none
            | none => none
        | _ => none
      else none
  | _ => none

/-- What follows the seconds of a time, or the time itself if it has none. -/
def afterSeconds? : List Char → Option (List Char)
  | ':' :: s =>
      match twoDigits? s with
      | some (second, '.' :: r) =>
          if second ≤ 60 ∧ r.takeWhile Char.isDigit ≠ [] then some (r.dropWhile Char.isDigit)
          else none
      | some (second, rest) => if second ≤ 60 then some rest else none
      | none => none
  | s => some s

def afterTime? (s : List Char) : Option (List Char) :=
  match twoDigits? s with
  | some (hour, ':' :: r) =>
      match twoDigits? r with
      | some (minute, rest) => if hour ≤ 23 ∧ minute ≤ 59 then afterSeconds? rest else none
      | none => none
  | _ => none

/-- Whether a text is nothing or a distance from Greenwich. -/
def isOffset : List Char → Bool
  | [] => true
  | ['Z'] => true
  | ['z'] => true
  | sign :: s =>
      (sign == '+' || sign == '-') &&
        match twoDigits? s with
        | some (hour, ':' :: r) =>
            match twoDigits? r with
            | some (minute, []) => hour ≤ 23 && minute ≤ 59
            | _ => false
        | _ => false

def isDateMark (c : Char) : Bool :=
  c == 'T' || c == 't' || c == ' '

/-- A date, a time of day, or both, then with or without an offset. -/
def isDate (s : List Char) : Bool :=
  match afterDate? s with
  | some [] => true
  | some (c :: r) =>
      isDateMark c &&
        match afterTime? r with
        | some rest => isOffset rest
        | none => false
  | none => afterTime? s == some []

def date? (s : List Char) : Option Value :=
  if isDate s then some (.date (String.ofList s)) else none

def boolean? (s : List Char) : Option Value :=
  if s = "true".toList then some (.boolean true)
  else if s = "false".toList then some (.boolean false)
  else none

def ofWord? (s : List Char) : Option Value :=
  boolean? s <|> integer? s <|> float? s <|> date? s

def isWordChar (c : Char) : Bool :=
  c.isAlphanum || c == '_' || c == '+' || c == '-' || c == '.' || c == ':'

/-- A word and what follows it. A date may go on after one space with its time. -/
def word (s : List Char) : List Char × List Char :=
  let first := s.takeWhile isWordChar
  let rest := s.dropWhile isWordChar
  match afterDate? first, rest with
  | some [], ' ' :: a :: r =>
      if a.isDigit then
        (first ++ ' ' :: (a :: r).takeWhile isWordChar, (a :: r).dropWhile isWordChar)
      else (first, rest)
  | _, _ => (first, rest)

end Scalar

end FenceCheck.Toml
