namespace FenceCheck.Text

/-!
# Bytes and characters

A decoder reads bytes one at a time. It knows the ranges in which the following
bytes must lie; a byte outside its range ends the sequence before it, and that
sequence, as long as it could still have become a character, counts as one
replacement character.
-/

/-- The number of bytes that a text takes in UTF-8. -/
def byteLength (s : List Char) : Nat :=
  s.foldr (fun c n => c.utf8Size + n) 0

@[simp] theorem byteLength_nil : byteLength [] = 0 := rfl

@[simp] theorem byteLength_cons (c : Char) (s : List Char) :
    byteLength (c :: s) = c.utf8Size + byteLength s := rfl

@[simp] theorem byteLength_append (s t : List Char) :
    byteLength (s ++ t) = byteLength s + byteLength t := by
  induction s with
  | nil => simp
  | cons c s ih => simp [ih, Nat.add_assoc]

namespace Utf8

def replacement : Char := Char.ofNat 0xFFFD

structure Decoder where
  /-- The ranges of the bytes that the sequence still needs. -/
  expected : List (UInt8 × UInt8)
  code : Nat
  /-- The characters read, the newest first. -/
  read : List Char
  /-- Whether every sequence so far was a character. -/
  valid : Bool

namespace Decoder

def initial : Decoder := ⟨[], 0, [], true⟩

def emit (d : Decoder) (code : Nat) : Decoder :=
  { d with expected := [], code := 0, read := Char.ofNat code :: d.read }

def reject (d : Decoder) : Decoder :=
  { d with expected := [], code := 0, read := replacement :: d.read, valid := false }

/-- Begin a sequence. -/
def lead (d : Decoder) (b : UInt8) : Decoder :=
  if b < 0x80 then d.emit b.toNat
  else if b < 0xC2 then d.reject
  else if b < 0xE0 then { d with expected := [(0x80, 0xBF)], code := b.toNat - 0xC0 }
  else if b < 0xF0 then
    let second : UInt8 × UInt8 :=
      if b = 0xE0 then (0xA0, 0xBF) else if b = 0xED then (0x80, 0x9F) else (0x80, 0xBF)
    { d with expected := [second, (0x80, 0xBF)], code := b.toNat - 0xE0 }
  else if b < 0xF5 then
    let second : UInt8 × UInt8 :=
      if b = 0xF0 then (0x90, 0xBF) else if b = 0xF4 then (0x80, 0x8F) else (0x80, 0xBF)
    { d with expected := [second, (0x80, 0xBF), (0x80, 0xBF)], code := b.toNat - 0xF0 }
  else d.reject

def feed (d : Decoder) (b : UInt8) : Decoder :=
  match d.expected with
  | [] => d.lead b
  | (first, last) :: more =>
      if first ≤ b && b ≤ last then
        let code := d.code * 64 + (b.toNat - 0x80)
        if more.isEmpty then d.emit code else { d with expected := more, code := code }
      else d.reject.lead b

def finish (d : Decoder) : Decoder :=
  if d.expected.isEmpty then d else d.reject

def run (bytes : ByteArray) : Decoder :=
  (bytes.foldl feed initial).finish

end Decoder

end Utf8

/-- The text of some bytes, if they are UTF-8. -/
def decode? (bytes : ByteArray) : Option String :=
  let d := Utf8.Decoder.run bytes
  if d.valid then some (String.ofList d.read.reverse) else none

/-- The text of some bytes, with a replacement character for each invalid sequence. -/
def decodeLossy (bytes : ByteArray) : String :=
  String.ofList (Utf8.Decoder.run bytes).read.reverse

end FenceCheck.Text
