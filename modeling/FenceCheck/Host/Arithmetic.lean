import FenceCheck.Text.Numeral

namespace FenceCheck.Host.Arithmetic

/-!
# Arithmetic in scripts

Expressions over integers with the operators of the shell. A division by zero has no
value, nor has a text that is no expression.
-/

/-- Why a text has no value. -/
inductive Cause
  | divisionByZero
  | noOperand
  | excess

def Cause.message : Cause → String
  | divisionByZero => "division by zero"
  | noOperand => "expecting primary"
  | excess => "expecting EOF"

/-- The operators by rising precedence. -/
def levels : List (List String) :=
  [["||"], ["&&"], ["|"], ["^"], ["&"], ["==", "!="], ["<=", ">=", "<", ">"], ["<<", ">>"],
    ["+", "-"], ["*", "/", "%"]]

/-- The operator that a text begins with, the longest there is. -/
def operator? (s : List Char) : Option String :=
  let found := levels.flatten.filter fun op => op.toList.isPrefixOf s
  (found.find? fun op => op.length == 2).or found.head?

def truth (b : Bool) : Int := if b then 1 else 0

def combine (op : String) (a b : Int) : Except Cause Int :=
  match op with
  | "||" => .ok (truth (a != 0 || b != 0))
  | "&&" => .ok (truth (a != 0 && b != 0))
  | "|" => .ok (Int.ofNat (a.toNat ||| b.toNat))
  | "^" => .ok (Int.ofNat (a.toNat ^^^ b.toNat))
  | "&" => .ok (Int.ofNat (a.toNat &&& b.toNat))
  | "==" => .ok (truth (a == b))
  | "!=" => .ok (truth (a != b))
  | "<=" => .ok (truth (a ≤ b))
  | ">=" => .ok (truth (a ≥ b))
  | "<" => .ok (truth (a < b))
  | ">" => .ok (truth (a > b))
  | "<<" => .ok (a * Int.pow 2 b.toNat)
  | ">>" => .ok (a.fdiv (Int.pow 2 b.toNat))
  | "+" => .ok (a + b)
  | "-" => .ok (a - b)
  | "*" => .ok (a * b)
  | "/" => if b = 0 then .error .divisionByZero else .ok (a.tdiv b)
  | "%" => if b = 0 then .error .divisionByZero else .ok (a.tmod b)
  | _ => .error .excess

def isGap (c : Char) : Bool := c == ' ' || c == '\t' || c == '\n'

def isNameChar (c : Char) : Bool := c.isAlphanum || c == '_'

/-- The number that digits denote; a zero in front makes them octal. -/
def literal (digits : List Char) : Int :=
  match digits with
  | '0' :: ds => Int.ofNat (ds.foldl (fun v d => 8 * v + (d.toNat - 48)) 0)
  | ds => Int.ofNat (Text.digitsValue ds)

mutual

def operand (look : String → Int) : Nat → List Char → Except Cause (Int × List Char)
  | 0, _ => .error .noOperand
  | n + 1, s =>
      match s.dropWhile isGap with
      | '-' :: s => (operand look n s).map fun r => (-r.1, r.2)
      | '+' :: s => operand look n s
      | '!' :: s => (operand look n s).map fun r => (truth (r.1 == 0), r.2)
      | '(' :: s => do
          let (v, s) ← expression look n levels s
          match s.dropWhile isGap with
          | ')' :: s => return (v, s)
          | _ => .error .excess
      | s =>
          let word := s.takeWhile isNameChar
          match word with
          | [] => .error .noOperand
          | c :: _ =>
              let rest := s.drop word.length
              if c.isDigit then .ok (literal word, rest)
              else .ok (look (String.ofList word), rest)

/-- A value of the given levels of operators. -/
def expression (look : String → Int) : Nat → List (List String) → List Char →
    Except Cause (Int × List Char)
  | 0, _, _ => .error .noOperand
  | n + 1, [], s => operand look n s
  | n + 1, level :: higher, s => do
      let (v, s) ← expression look n higher s
      further look n level higher v s

/-- What is left of a level behind its first value. -/
def further (look : String → Int) : Nat → List String → List (List String) → Int → List Char →
    Except Cause (Int × List Char)
  | 0, _, _, _, _ => .error .noOperand
  | n + 1, level, higher, v, s =>
      let s := s.dropWhile isGap
      match operator? s with
      | some op =>
          if level.contains op then do
            let (w, s) ← expression look n higher (s.drop op.length)
            further look n level higher (← combine op v w) s
          else .ok (v, s)
      | none => .ok (v, s)

end

def value (look : String → Int) (s : List Char) : Except Cause Int := do
  let (v, rest) ← expression look (20 * s.length + 40) levels s
  if rest.all isGap then return v else throw .excess

end FenceCheck.Host.Arithmetic
