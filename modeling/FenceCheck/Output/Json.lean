import FenceCheck.Text.Numeral

namespace FenceCheck

/-!
# Printing JSON

Values are printed over several lines, two blanks deeper at each level; only empty
arrays and objects stay on one line. Members keep their order. In texts, only what JSON
forbids is escaped.
-/

inductive Json
  | string (s : String)
  | number (n : Nat)
  | array (items : List Json)
  | object (members : List (String × Json))
  deriving Inhabited

namespace Json

def hexDigits (c : Char) : List Char :=
  let digits := Nat.toDigits 16 c.toNat
  List.replicate (4 - digits.length) '0' ++ digits

def escape (c : Char) : List Char :=
  if c = '"' then ['\\', '"']
  else if c = '\\' then ['\\', '\\']
  else if c = '\n' then ['\\', 'n']
  else if c = '\r' then ['\\', 'r']
  else if c = '\t' then ['\\', 't']
  else if c.toNat = 8 then ['\\', 'b']
  else if c.toNat = 12 then ['\\', 'f']
  else if c.toNat < 32 then '\\' :: 'u' :: hexDigits c
  else [c]

def quoted (s : String) : List Char :=
  '"' :: s.toList.flatMap escape ++ ['"']

def newLine (depth : Nat) : List Char :=
  '\n' :: List.replicate (2 * depth) ' '

mutual

/-- The text of a value at some depth. -/
def render (depth : Nat) : Json → List Char
  | string s => quoted s
  | number n => Text.decimal n
  | array [] => ['[', ']']
  | array (item :: items) =>
      '[' :: newLine (depth + 1) ++ render (depth + 1) item ++ renderItems depth items
  | object [] => ['{', '}']
  | object ((name, v) :: members) =>
      '{' :: newLine (depth + 1) ++ quoted name ++ [':', ' '] ++ render (depth + 1) v ++
        renderMembers depth members

def renderItems (depth : Nat) : List Json → List Char
  | [] => newLine depth ++ [']']
  | item :: items =>
      ',' :: newLine (depth + 1) ++ render (depth + 1) item ++ renderItems depth items

def renderMembers (depth : Nat) : List (String × Json) → List Char
  | [] => newLine depth ++ ['}']
  | (name, v) :: members =>
      ',' :: newLine (depth + 1) ++ quoted name ++ [':', ' '] ++ render (depth + 1) v ++
        renderMembers depth members

end

def print (j : Json) : String :=
  String.ofList (j.render 0)

end Json

end FenceCheck
