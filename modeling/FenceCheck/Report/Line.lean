import FenceCheck.Text.Numeral
import FenceCheck.Text.Search

namespace FenceCheck

/-!
# Lines of compiler output

A line that speaks of a place has the form `file(line,column): …`. What follows the
place says what kind of line it is: an error or warning with its code, a note, or
some other category. A file name may hold parentheses, so the place is the last one
in the line that fits; only a fatal error, which may come without a place, takes
the first parenthesis.

A line is a text without line feeds as a rule. If it has some, a message ends at the
first, and a file name may go on over them only while no parenthesis occurs.
-/

/-- A place as the compiler writes it, counted from one. -/
structure Location where
  file : String
  line : Nat
  column : Option Nat
  deriving DecidableEq, Repr

/-- A line that speaks of a place or of a fatal error. -/
inductive ReportLine
  | error (location : Location) (message : String)
  | fatal (location : Option Location) (text : String)
  | warning (location : Location) (message : String)
  | note (location : Location) (message text : String)
  | unknown (location : Location) (category message : String)
  deriving DecidableEq, Repr

namespace ReportLine

/-- The digits of a place, after its opening parenthesis. -/
structure Place where
  line : List Char
  column : List Char
  deriving DecidableEq, Repr

def dropComma : List Char → List Char
  | ',' :: s => s
  | s => s

/-- A place and what follows its closing parenthesis. -/
def place? (s : List Char) : Option (Place × List Char) :=
  match s.takeWhile Char.isDigit with
  | [] => none
  | line =>
      let more := dropComma (s.dropWhile Char.isDigit)
      match more.dropWhile Char.isDigit with
      | ')' :: rest => some (⟨line, more.takeWhile Char.isDigit⟩, rest)
      | _ => none

def messageLine (s : List Char) : List Char :=
  s.takeWhile (· != '\n')

/-- What follows a code of at least four digits. -/
def afterCode? (s : List Char) : Option (List Char) :=
  if 4 ≤ (s.takeWhile Char.isDigit).length then
    Text.after? ": ".toList (s.dropWhile Char.isDigit)
  else none

/-- What follows the introduction of a coded line, such as `: error C2065: `. -/
def afterCoded? (kind : String) (s : List Char) : Option (List Char) :=
  (Text.after? (": " ++ kind ++ " C").toList s).bind afterCode?

/-- What a line holds after its place: nothing but a message, or a category too. -/
structure Remark where
  category : List Char
  message : List Char
  deriving DecidableEq, Repr

def codedRemark? (kind : String) (s : List Char) : Option Remark :=
  (afterCoded? kind s).map fun rest => ⟨[], messageLine rest⟩

def noteRemark? (s : List Char) : Option Remark :=
  (Text.after? ": note: ".toList s).map fun rest => ⟨[], messageLine rest⟩

def otherRemark? (s : List Char) : Option Remark :=
  (Text.after? ": ".toList s).bind fun rest =>
    (Text.after? ": ".toList (rest.dropWhile (· != ':'))).map fun message =>
      ⟨rest.takeWhile (· != ':'), messageLine message⟩

/-- A place with a remark, after the opening parenthesis. -/
def header? (remark? : List Char → Option Remark) (s : List Char) : Option (Place × Remark) :=
  (place? s).bind fun found => (remark? found.2).map fun remark => (found.1, remark)

section Search

variable {β : Type} (head? : List Char → Option β)

/-- What the next parenthesis opens, and the text before it. -/
def atNextParenthesis? : List Char → Option (List Char × β)
  | [] => none
  | c :: s =>
      if c = '(' then (head? s).map fun found => ([], found)
      else if c = ')' then none
      else (atNextParenthesis? s).map fun found => (c :: found.1, found.2)

/-- What the last fitting parenthesis of the first line opens, or else the next
parenthesis after that line, and the text before it. -/
def atLastParenthesis? : List Char → Option (List Char × β)
  | [] => none
  | c :: s =>
      if c = '\n' then atNextParenthesis? head? (c :: s)
      else
        match atLastParenthesis? s with
        | some found => some (c :: found.1, found.2)
        | none => if c = '(' then (head? s).map fun found => ([], found) else none

/-- The same in the first line where there is one. -/
def findPlace? (s : List Char) : Option (List Char × β) :=
  match atLastParenthesis? head? s with
  | some found => some found
  | none =>
      match _h : s.dropWhile (· != '\n') with
      | [] => none
      | _ :: rest => findPlace? rest
termination_by s.length
decreasing_by
  have hl := (List.dropWhile_sublist (· != '\n') (l := s)).length_le
  simp only [_h, List.length_cons] at hl
  omega

end Search

/-- The location of a place, if 64 bits hold its line. A column that they do not hold
is left out. -/
def location? (file : List Char) (p : Place) : Option Location :=
  (Text.word64? p.line).map fun line => ⟨String.ofList file, line, Text.word64? p.column⟩

/-- A line with a place and a remark of one kind. -/
def remarked? (remark? : List Char → Option Remark)
    (make : Location → List Char → List Char → ReportLine) (s : List Char) : Option ReportLine :=
  (findPlace? (header? remark?) s).bind fun found =>
    (location? found.1 found.2.1).map fun location =>
      make location found.2.2.category found.2.2.message

def isParenthesis (c : Char) : Bool :=
  c == '(' || c == ')'

def dropSpace : List Char → List Char
  | ' ' :: s => s
  | s => s

/-- The place that the first parenthesis opens, if a fatal error follows it. -/
def fatalPlace? (s : List Char) : Option Place :=
  match s.dropWhile (!isParenthesis ·) with
  | '(' :: rest =>
      (place? rest).bind fun found =>
        if (afterCoded? "fatal error" (dropSpace found.2)).isSome then some found.1 else none
  | _ => none

/-- Whether a fatal error occurs in a text. -/
def mentionsFatal : List Char → Bool
  | [] => false
  | c :: s => (afterCoded? "fatal error" (c :: s)).isSome || mentionsFatal s

/-- A fatal error with a place, or without one in front of any parenthesis. -/
def fatal? (s : List Char) : Option ReportLine :=
  let file := s.takeWhile (!isParenthesis ·)
  match fatalPlace? s with
  | some p => (location? file p).map fun location => fatal (some location) (String.ofList s)
  | none => if mentionsFatal file then some (fatal none (String.ofList s)) else none

def error? : List Char → Option ReportLine :=
  remarked? (codedRemark? "error") fun location _ message => error location (String.ofList message)

def warning? : List Char → Option ReportLine :=
  remarked? (codedRemark? "warning") fun location _ message =>
    warning location (String.ofList message)

def note? (s : List Char) : Option ReportLine :=
  remarked? noteRemark?
    (fun location _ message => note location (String.ofList message) (String.ofList s)) s

def unknown? : List Char → Option ReportLine :=
  remarked? otherRemark? fun location category message =>
    unknown location (String.ofList category) (String.ofList message)

/-- The kind of a line: the first that fits of error, fatal error, warning, note and
any other category. -/
def classify (line : String) : Option ReportLine :=
  let s := line.toList
  error? s <|> fatal? s <|> warning? s <|> note? s <|> unknown? s

end ReportLine

end FenceCheck
