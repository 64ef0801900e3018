namespace FenceCheck.Host

/-!
# Patterns of text tools

The patterns of `grep` and `sed`, in the basic and the extended notation. A match gives
back what it leaves and what its groups hold; longer repetitions come first.
-/

inductive Pattern
  | one (negated : Bool) (ranges : List (Char × Char))
  | start
  | stop
  | group (number : Nat) (branches : List (List Pattern))
  | again (number : Nat)
  | repeated (p : Pattern) (least : Nat) (most : Option Nat)
  deriving Inhabited

namespace Pattern

/-- A match: what it leaves of the text, and the texts of groups. -/
abbrev Match := List Char × List (Nat × List Char)

def accepts (negated : Bool) (ranges : List (Char × Char)) (c : Char) : Bool :=
  (ranges.any fun r => r.1 ≤ c && c ≤ r.2) != negated

mutual

/-- The matches of a pattern in a line of `total` characters. -/
def rests : Nat → Pattern → Nat → Match → List Match
  | 0, _, _, _ => []
  | n + 1, p, total, (s, groups) =>
      match p with
      | one negated ranges =>
          match s with
          | c :: cs => if accepts negated ranges c then [(cs, groups)] else []
          | [] => []
      | start => if s.length = total then [(s, groups)] else []
      | stop => if s.isEmpty then [(s, groups)] else []
      | group number branches =>
          (restsAny n branches total (s, groups)).map fun m =>
            (m.1, (number, s.take (s.length - m.1.length)) :: m.2)
      | again number =>
          let held := (groups.lookup number).getD []
          if held.isPrefixOf s then [(s.drop held.length, groups)] else []
      | repeated p least most =>
          let more :=
            if most = some 0 then []
            else
              ((rests n p total (s, groups)).filter fun m => m.1.length < s.length).flatMap
                fun m => rests n (repeated p (least - 1) (most.map (· - 1))) total m
          if least = 0 then more ++ [(s, groups)] else more

def restsAll : Nat → List Pattern → Nat → Match → List Match
  | 0, _, _, _ => []
  | _ + 1, [], _, m => [m]
  | n + 1, p :: ps, total, m =>
      (rests n p total m).flatMap fun m => restsAll n ps total m

def restsAny : Nat → List (List Pattern) → Nat → Match → List Match
  | 0, _, _, _ => []
  | _ + 1, [], _, _ => []
  | n + 1, b :: bs, total, m => restsAll n b total m ++ restsAny n bs total m

end

/-- A place where a pattern occurs in a line: the text before it, the text of it, the
text behind it, and the groups. -/
structure Occurrence where
  before : List Char
  found : List Char
  rest : List Char
  groups : List (Nat × List Char)

/-- An occurrence at the beginning of what is left of a line. -/
def occurrence? (branches : List (List Pattern)) (total : Nat) (before s : List Char) :
    Option Occurrence :=
  (restsAny (4 * total + 100) branches total (s, [])).head?.map fun m =>
    ⟨before.reverse, s.take (s.length - m.1.length), m.1, m.2⟩

/-- The first occurrence in a line of `total` characters, at some point in it. -/
def find? (branches : List (List Pattern)) (total : Nat) (before : List Char) :
    List Char → Option Occurrence
  | [] => occurrence? branches total before []
  | c :: cs =>
      (occurrence? branches total before (c :: cs)).or (find? branches total (c :: before) cs)

def occursIn (branches : List (List Pattern)) (line : List Char) : Bool :=
  (find? branches line.length [] line).isSome

/-! ## Reading patterns -/

def anyChar : Pattern := one true []

def char (c : Char) : Pattern := one false [(c, c)]

def classes : List (String × List (Char × Char)) :=
  [("[:digit:]", [('0', '9')]), ("[:alpha:]", [('a', 'z'), ('A', 'Z')]),
    ("[:alnum:]", [('a', 'z'), ('A', 'Z'), ('0', '9')]),
    ("[:space:]", [(' ', ' '), ('\t', '\r')]), ("[:blank:]", [(' ', ' '), ('\t', '\t')]),
    ("[:upper:]", [('A', 'Z')]), ("[:lower:]", [('a', 'z')])]

/-- The ranges of a bracket, and what follows it. -/
def bracket : Nat → Bool → List Char → Option (List (Char × Char) × List Char)
  | 0, _, _ => none
  | _ + 1, _, [] => none
  | n + 1, isFirst, c :: s =>
      if c = ']' ∧ !isFirst then some ([], s)
      else
        match classes.find? fun e => e.1.toList.isPrefixOf (c :: s) with
        | some (name, ranges) => do
            let (more, s) ← bracket n false (s.drop (name.length - 1))
            return (ranges ++ more, s)
        | none =>
            match s with
            | '-' :: e :: t =>
                if e = ']' then do
                  let (more, s) ← bracket n false s
                  return ((c, c) :: more, s)
                else do
                  let (more, s) ← bracket n false t
                  return ((c, e) :: more, s)
            | s => do
                let (more, s) ← bracket n false s
                return ((c, c) :: more, s)

/-- A sign of a pattern, alike in both notations. -/
inductive Sign
  | atom (p : Pattern)
  | opening
  | closing
  | bar
  | times (least : Nat) (most : Option Nat)

/-- The bounds of a repetition, written in digits. -/
def bounds (s : List Char) : Nat × Option Nat :=
  let number (ds : List Char) := ds.foldl (fun n d => 10 * n + (d.toNat - 48)) 0
  let first := s.takeWhile Char.isDigit
  match s.drop first.length with
  | [] => (number first, some (number first))
  | [_] => (number first, none)
  | _ :: second => (number first, some (number second))

def signs (extended : Bool) : Nat → Bool → List Char → Option (List Sign)
  | 0, _, _ => none
  | _ + 1, _, [] => some []
  | n + 1, isFirst, c :: s => do
      let special (c : Char) (s : List Char) : Option (Sign × List Char) :=
        if c = '(' then some (.opening, s)
        else if c = ')' then some (.closing, s)
        else if c = '|' then some (.bar, s)
        else if c = '+' then some (.times 1 none, s)
        else if c = '?' then some (.times 0 (some 1), s)
        else if c = '\x7b' then
          let close := if extended then ['\x7d'] else ['\\', '\x7d']
          let inside := s.takeWhile fun d => d.isDigit || d == ','
          let rest := s.drop inside.length
          if close.isPrefixOf rest then
            let (least, most) := bounds inside
            some (.times least most, rest.drop close.length)
          else none
        else none
      let (sign, s) ←
        if c = '\\' then
          match s with
          | [] => none
          | e :: s =>
              if e.isDigit then some (.atom (again (e.toNat - 48)), s)
              else if e = 'n' then some (.atom (char '\n'), s)
              else if e = 't' then some (.atom (char '\t'), s)
              else if extended then some (.atom (char e), s)
              else (special e s).or (some (.atom (char e), s))
        else if c = '.' then some (.atom anyChar, s)
        else if c = '[' then
          let negated := s.head? == some '^'
          match bracket (s.length + 1) true (if negated then s.tail else s) with
          | some (ranges, s) => some (.atom (one negated ranges), s)
          | none => none
        else if c = '*' ∧ !isFirst then some (.times 0 none, s)
        else if c = '^' ∧ (extended ∨ isFirst) then some (.atom start, s)
        else if c = '$' ∧ (extended ∨ s.isEmpty ∨ s.take 2 = ['\\', ')'] ∨ s.take 2 = ['\\', '|'])
        then some (.atom stop, s)
        else if extended then (special c s).or (some (.atom (char c), s))
        else some (.atom (char c), s)
      let opens := match sign with
        | .opening => true
        | .bar => true
        | .atom start => true
        | _ => false
      let more ← signs extended n opens s
      return sign :: more

structure Frame where
  number : Nat
  done : List (List Pattern)
  current : List Pattern

/-- The branches of a pattern; lists are kept newest first until they are complete. -/
def assemble (counter : Nat) (outer : List Frame) (done : List (List Pattern))
    (current : List Pattern) : List Sign → Option (List (List Pattern))
  | [] => if outer.isEmpty then some (current.reverse :: done).reverse else none
  | .atom p :: more => assemble counter outer done (p :: current) more
  | .times least most :: more =>
      match current with
      | p :: ps => assemble counter outer done (repeated p least most :: ps) more
      | [] => assemble counter outer done [char '*'] more
  | .bar :: more => assemble counter outer (current.reverse :: done) [] more
  | .opening :: more =>
      assemble (counter + 1) (⟨counter + 1, done, current⟩ :: outer) [] [] more
  | .closing :: more =>
      match outer with
      | f :: outer =>
          assemble counter outer f.done
            (group f.number (current.reverse :: done).reverse :: f.current) more
      | [] => none

/-- The branches of a pattern in the basic or the extended notation. -/
def read? (extended : Bool) (s : List Char) : Option (List (List Pattern)) := do
  assemble 0 [] [] [] (← signs extended (s.length + 1) true s)

def literal (s : List Char) : List (List Pattern) := [s.map char]

/-- The pattern that the shell uses for names: a star is any text, a question mark any
character. -/
def ofWildcards (s : List Char) : List (List Pattern) :=
  [start :: s.map (fun c =>
    if c = '*' then repeated anyChar 0 none else if c = '?' then anyChar else char c) ++ [stop]]

end Pattern

end FenceCheck.Host
