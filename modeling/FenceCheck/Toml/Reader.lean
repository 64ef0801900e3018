import FenceCheck.Toml.Outline
import FenceCheck.Toml.Quotation

namespace FenceCheck.Toml

/-!
# Reading a document

A document is a sequence of headers and of keys with values, one a line. Each reader
returns what it read and the rest of the text. Values nest, so their reader counts
down from the length of the text, of which every step takes something.
-/

namespace Reader

def dropSpaces (s : List Char) : List Char :=
  s.dropWhile Quotation.isSpace

/-- What follows a comment, if one begins here. It holds plain characters. -/
def afterComment? : List Char → Option (List Char)
  | '#' :: s =>
      let rest := s.dropWhile Quotation.isPlain
      if rest = [] ∨ Quotation.startsLine rest then some rest else none
  | s => some s

/-- What follows the end of a line, which may hold a comment. -/
def afterLine? (s : List Char) : Option (List Char) :=
  (afterComment? (dropSpaces s)).bind fun rest =>
    match rest with
    | [] => some []
    | '\n' :: r => some r
    | '\r' :: '\n' :: r => some r
    | _ => none

/-- What follows spaces, line breaks and comments. -/
def skipLines : Nat → List Char → Option (List Char)
  | 0, _ => none
  | fuel + 1, s =>
      (afterComment? (dropSpaces s)).bind fun rest =>
        match rest with
        | '\n' :: r => skipLines fuel r
        | '\r' :: '\n' :: r => skipLines fuel r
        | r => some r

def isKeyChar (c : Char) : Bool :=
  c.isAlphanum || c == '_' || c == '-'

/-- One part of a key: a bare word or a string of one line. -/
def keyPart : List Char → Option (String × List Char)
  | '"' :: s => (Quotation.basic s).map fun r => (String.ofList r.1, r.2)
  | s =>
      match s with
      | '\x27' :: r => (Quotation.literal r).map fun r => (String.ofList r.1, r.2)
      | _ =>
          match s.takeWhile isKeyChar with
          | [] => none
          | name => some (String.ofList name, s.dropWhile isKeyChar)

/-- A key of parts with points between them. -/
def key : Nat → List Char → Option (List String × List Char)
  | 0, _ => none
  | fuel + 1, s =>
      (keyPart (dropSpaces s)).bind fun part =>
        match dropSpaces part.2 with
        | '.' :: r => (key fuel r).map fun more => (part.1 :: more.1, more.2)
        | r => some ([part.1], r)

mutual

def value : Nat → List Char → Option (Value × List Char)
  | 0, _ => none
  | fuel + 1, s =>
      match s with
      | '[' :: r => (items fuel r).map fun found => (.array found.1, found.2)
      | '{' :: r =>
          (members fuel [] r).map fun found => (.table (Entries.values found.1), found.2)
      | '"' :: _ => (Quotation.string? s).map fun found => (.string (String.ofList found.1), found.2)
      | '\x27' :: _ =>
          (Quotation.string? s).map fun found => (.string (String.ofList found.1), found.2)
      | _ =>
          let (w, rest) := Scalar.word s
          (Scalar.ofWord? w).map fun v => (v, rest)

def items : Nat → List Char → Option (List Value × List Char)
  | 0, _ => none
  | fuel + 1, s =>
      (skipLines (fuel + 1) s).bind fun r =>
        match r with
        | ']' :: rest => some ([], rest)
        | _ =>
            (value fuel r).bind fun found =>
              (skipLines (fuel + 1) found.2).bind fun r =>
                match r with
                | ']' :: rest => some ([found.1], rest)
                | ',' :: rest => (items fuel rest).map fun more => (found.1 :: more.1, more.2)
                | _ => none

def members : Nat → Entries → List Char → Option (Entries × List Char)
  | 0, _, _ => none
  | fuel + 1, es, s =>
      (skipLines (fuel + 1) s).bind fun r =>
        match r with
        | '}' :: rest => some (es, rest)
        | _ =>
            (key (fuel + 1) r).bind fun name =>
              match name.2 with
              | '=' :: r =>
                  (value fuel (dropSpaces r)).bind fun found =>
                    (Entries.assign found.1 name.1 false .header es).bind fun es =>
                      (skipLines (fuel + 1) found.2).bind fun r =>
                        match r with
                        | '}' :: rest => some (es, rest)
                        | ',' :: rest => members fuel es rest
                        | _ => none
              | _ => none

end

structure State where
  root : Entries
  /-- The path of the open table. -/
  here : List String

/-- A key with its value, or a header, at the beginning of the text. -/
def statement (st : State) (s : List Char) : Option (State × List Char) :=
  match s with
  | '[' :: '[' :: r =>
      (key (s.length + 1) r).bind fun name =>
        match name.2 with
        | ']' :: ']' :: rest =>
            (Entries.openElement name.1 st.root).map fun root => (⟨root, name.1⟩, rest)
        | _ => none
  | '[' :: r =>
      (key (s.length + 1) r).bind fun name =>
        match name.2 with
        | ']' :: rest => (Entries.openTable name.1 st.root).map fun root => (⟨root, name.1⟩, rest)
        | _ => none
  | _ =>
      (key (s.length + 1) s).bind fun name =>
        match name.2 with
        | '=' :: r =>
            (value (s.length + 1) (dropSpaces r)).bind fun found =>
              (Entries.within (Entries.assign found.1 name.1 false .header) st.here st.root).map
                fun root => (⟨root, st.here⟩, found.2)
        | _ => none

def statements : Nat → State → List Char → Option Entries
  | 0, _, _ => none
  | fuel + 1, st, s =>
      (skipLines (s.length + 1) s).bind fun r =>
        match r with
        | [] => some st.root
        | _ =>
            (statement st r).bind fun next =>
              (afterLine? next.2).bind fun rest => statements fuel next.1 rest

end Reader

def dropMark : List Char → List Char
  | c :: s => if c.toNat = 0xFEFF then s else c :: s
  | [] => []

/-- The table that a document describes. A byte order mark in front is passed over. -/
def read? (text : String) : Option Table :=
  let s := dropMark text.toList
  (Reader.statements (s.length + 1) ⟨[], []⟩ s).map Entries.values

end FenceCheck.Toml
