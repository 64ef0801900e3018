import FenceCheck.Text.Search

namespace FenceCheck

/-!
# Glob patterns

A pattern is read in two steps: characters to symbols, symbols to tokens. It is matched
against the bytes of a path. A question mark and a star stay within one name, two stars
between slashes reach across any number of them, and a bracket stands for one byte.
-/

inductive GlobError
  | invalidRange (first last : Char)
  | unopenedGroup
  | unclosedGroup
  | danglingEscape
  deriving DecidableEq, Repr

def GlobError.message : GlobError → String
  | .invalidRange first last => s!"invalid range; \x27{first}\x27 > \x27{last}\x27"
  | .unopenedGroup =>
      "unopened alternate group; missing \x27\x7b\x27 (maybe escape \x27\x7d\x27 with \x27[\x7d]\x27?)"
  | .unclosedGroup =>
      "unclosed alternate group; missing \x27\x7d\x27 (maybe escape \x27\x7b\x27 with \x27[\x7b]\x27?)"
  | .danglingEscape => "dangling \x27\\\x27"

namespace Glob

/-! ## Symbols -/

/-- A set of characters as it is being read. -/
structure Bracket where
  negated : Bool
  /-- The ranges so far, the newest first. -/
  ranges : List (Char × Char)
  /-- Whether a hyphen waits for the end of its range. -/
  inRange : Bool
  /-- Whether no member has been read yet. -/
  isFresh : Bool
  /-- Whether not even a sign of negation has been read. -/
  isBlank : Bool

namespace Bracket

def start : Bracket := ⟨false, [], false, true, true⟩

/-- One more character, which may end the range of a hyphen. -/
def add (b : Bracket) (c : Char) : Except GlobError Bracket :=
  match b.inRange, b.ranges with
  | true, (first, _) :: ranges =>
      if c < first then .error (.invalidRange first c)
      else .ok ⟨b.negated, (first, c) :: ranges, false, false, false⟩
  | _, ranges => .ok ⟨b.negated, (c, c) :: ranges, false, false, false⟩

/-- A character inside the brackets; `none` closes them. -/
def feed (b : Bracket) (c : Char) : Except GlobError (Option Bracket) :=
  if b.isBlank && (c == '!' || c == '^') then
    .ok (some { b with negated := true, isBlank := false })
  else if c = ']' && !b.isFresh then .ok none
  else if c = '-' && !b.isFresh && !b.inRange then
    .ok (some { b with inRange := true })
  else (b.add c).map some

/-- The ranges in order. A hyphen before the closing bracket stands for itself. -/
def finish (b : Bracket) : List (Char × Char) :=
  b.ranges.reverse ++ if b.inRange then [('-', '-')] else []

end Bracket

inductive Symbol
  /-- A character that stands for itself; an escaped one may be special otherwise. -/
  | char (c : Char) (escaped : Bool)
  | any
  | star
  | bracket (negated : Bool) (ranges : List (Char × Char))
  | groupOpen
  | groupClose
  | comma
  | bad (e : GlobError)
  deriving DecidableEq, Repr

inductive Mode
  | plain
  | escape
  /-- Inside a bracket that `skipped` follows. -/
  | bracket (b : Bracket) (skipped : List Char)

def symbolOf (c : Char) : Symbol :=
  if c = '?' then .any
  else if c = '*' then .star
  else if c = '\x7b' then .groupOpen
  else if c = '\x7d' then .groupClose
  else if c = ',' then .comma
  else .char c false

/-- The symbols of a text in which no bracket is closed. -/
def bareSymbols : Bool → List Char → List Symbol
  | false, [] => []
  | true, [] => [.bad .danglingEscape]
  | true, c :: cs => .char c true :: bareSymbols false cs
  | false, c :: cs =>
      if c = '\\' then bareSymbols true cs else symbolOf c :: bareSymbols false cs

/-- The symbols of a text. A bracket that is not closed stands for itself, and so do all
after it. -/
def symbols : Mode → List Char → List Symbol
  | .plain, [] => []
  | .escape, [] => [.bad .danglingEscape]
  | .bracket _ skipped, [] => .char '[' false :: bareSymbols false skipped
  | .escape, c :: cs => .char c true :: symbols .plain cs
  | .plain, c :: cs =>
      if c = '\\' then symbols .escape cs
      else if c = '[' then symbols (.bracket .start cs) cs
      else symbolOf c :: symbols .plain cs
  | .bracket b skipped, c :: cs =>
      match b.feed c with
      | .error e => [.bad e]
      | .ok none => .bracket b.negated b.finish :: symbols .plain cs
      | .ok (some b) => symbols (.bracket b skipped) cs

/-! ## Tokens -/

inductive Token
  | bytes (bs : List UInt8)
  | any
  | star
  /-- Two stars in front of a slash, at the beginning. -/
  | leading
  /-- Two stars between slashes. -/
  | between
  /-- Two stars behind a slash, at the end. -/
  | trailing
  | bracket (negated : Bool) (ranges : List (UInt8 × UInt8))
  | group (branches : List (List Token))
  deriving Inhabited

def encoded (c : Char) : List UInt8 :=
  c.toString.toUTF8.toList

/-- The byte ranges that a range of characters is read as. A range joins the last byte of
its first character to the first byte of its last one. -/
def byteRanges (range : Char × Char) : List (UInt8 × UInt8) :=
  let single (b : UInt8) := (b, b)
  let first := encoded range.1
  let last := encoded range.2
  if range.1 = range.2 then first.map single
  else
    first.dropLast.map single ++ [(first.getLastD 0, last.headD 0)] ++ last.tail.map single

def slash : UInt8 := 47

/-- Whether the text behind a token begins after a slash of the pattern. -/
def Token.endsWithSlash : Token → Bool
  | .bytes bs => bs == [slash]
  | .leading => true
  | .between => true
  | _ => false

structure Frame where
  /-- What stands in front of the group, the newest first. -/
  before : List Token
  /-- The finished branches, the newest first. -/
  done : List (List Token)

structure Draft where
  current : List Token
  groups : List Frame

namespace Draft

def empty : Draft := ⟨[], []⟩

def push (d : Draft) (t : Token) : Draft := { d with current := t :: d.current }

def replaceLast (d : Draft) (t : Token) : Draft := { d with current := t :: d.current.tail }

/-- Whether the branch at hand has just passed a slash, or inside a group an escaped
comma or brace. -/
def isAtSlash (d : Draft) : Bool :=
  match d.current with
  | [] => false
  | t :: _ =>
      t.endsWithSlash || (!d.groups.isEmpty && match t with
        | .bytes bs => bs == encoded ',' || bs == encoded '\x7b'
        | _ => false)

def openGroup (d : Draft) : Draft :=
  ⟨[], ⟨d.current, []⟩ :: d.groups⟩

/-- A comma divides branches inside a group and stands for itself elsewhere. -/
def comma (d : Draft) : Draft :=
  match d.groups with
  | [] => d.push (.bytes (encoded ','))
  | g :: groups => ⟨[], { g with done := d.current.reverse :: g.done } :: groups⟩

def closeGroup? (d : Draft) : Option Draft :=
  match d.groups with
  | [] => none
  | g :: groups => some ⟨.group (d.current.reverse :: g.done).reverse :: g.before, groups⟩

/-- Two stars that reach across names take the place of the slash in front of them. -/
def crossing (d : Draft) (t : Token) : Draft :=
  match d.current with
  | .leading :: _ => d
  | .trailing :: _ => d
  | _ => d.replaceLast t

end Draft

def assemble (d : Draft) : List Symbol → Except GlobError (List Token)
  | [] => if d.groups.isEmpty then .ok d.current.reverse else .error .unclosedGroup
  | .star :: .star :: .char '/' false :: more =>
      if d.current.isEmpty then assemble (d.push .leading) more
      else if d.isAtSlash then assemble (d.crossing .between) more
      else assemble (((d.push .star).push .star).push (.bytes [slash])) more
  | [.star, .star] =>
      if d.current.isEmpty then assemble (d.push .leading) []
      else if d.isAtSlash then assemble (d.crossing .trailing) []
      else assemble ((d.push .star).push .star) []
  | .star :: .star :: .comma :: more =>
      if !d.groups.isEmpty && d.isAtSlash then assemble (d.crossing .trailing).comma more
      else assemble ((d.push .star).push .star).comma more
  | .star :: .star :: .groupClose :: more =>
      let d := if !d.groups.isEmpty && d.isAtSlash then d.crossing .trailing
        else (d.push .star).push .star
      match d.closeGroup? with
      | some d => assemble d more
      | none => .error .unopenedGroup
  | .star :: .star :: more => assemble ((d.push .star).push .star) more
  | .star :: more => assemble (d.push .star) more
  | .any :: more => assemble (d.push .any) more
  | .char c _ :: more => assemble (d.push (.bytes (encoded c))) more
  | .bracket negated ranges :: more =>
      assemble (d.push (.bracket negated (ranges.flatMap byteRanges))) more
  | .groupOpen :: more => assemble d.openGroup more
  | .comma :: more => assemble d.comma more
  | .groupClose :: more =>
      match d.closeGroup? with
      | some d => assemble d more
      | none => .error .unopenedGroup
  | .bad e :: _ => .error e

/-! ## Matching -/

/-- What follows each slash of a text. -/
def afterSlashes : List UInt8 → List (List UInt8)
  | [] => []
  | b :: bs => if b = slash then bs :: afterSlashes bs else afterSlashes bs

/-- What can be left of a text when its first name, or some of it, is taken away. -/
def withinName : List UInt8 → List (List UInt8)
  | [] => [[]]
  | b :: bs => (b :: bs) :: if b = slash then [] else withinName bs

/-- Every end of a text, the whole of it first. -/
def ends : List UInt8 → List (List UInt8)
  | [] => [[]]
  | b :: bs => (b :: bs) :: ends bs

mutual

/-- Whether a pattern has nothing to match but the empty text. -/
def isVoid : List Token → Bool
  | [] => true
  | .group branches :: more => allVoid branches && isVoid more
  | _ :: _ => false

def allVoid : List (List Token) → Bool
  | [] => true
  | b :: bs => isVoid b && allVoid bs

end

mutual

/-- What can be left of a text behind a match. -/
def rests : List Token → List UInt8 → List (List UInt8)
  | [], s => [s]
  | t :: ts, s => ((restsOf t s).eraseDups).flatMap (rests ts)

def restsOf : Token → List UInt8 → List (List UInt8)
  | .bytes bs, s => if bs.isPrefixOf s then [s.drop bs.length] else []
  | .any, s =>
      match s with
      | b :: bs => if b = slash then [] else [bs]
      | [] => []
  | .star, s => withinName s
  | .leading, s => s :: afterSlashes s
  | .between, s =>
      match s with
      | b :: bs => if b = slash then bs :: afterSlashes bs else []
      | [] => []
  | .trailing, s =>
      match s with
      | b :: bs => if b = slash then ends bs else []
      | [] => []
  | .bracket negated ranges, s =>
      match s with
      | b :: bs => if (ranges.any fun r => r.1 ≤ b && b ≤ r.2) != negated then [bs] else []
      | [] => []
  | .group branches, s => if allVoid branches then [s] else restsOfAny branches s

/-- Branches that match nothing but the empty text do not count. -/
def restsOfAny : List (List Token) → List UInt8 → List (List UInt8)
  | [], _ => []
  | b :: bs, s => (if isVoid b then [] else rests b s) ++ restsOfAny bs s

end

end Glob

structure Glob where
  tokens : List Glob.Token

namespace Glob

def parse (pattern : List Char) : Except GlobError Glob :=
  (assemble .empty (symbols .plain pattern)).map Glob.mk

/-- Whether a pattern matches a whole path. A pattern of two stars matches everything. -/
def accepts (g : Glob) (path : List Char) : Bool :=
  match g.tokens with
  | [.leading] => true
  | tokens => (rests tokens (String.ofList path).toUTF8.toList).any List.isEmpty

end Glob

end FenceCheck
