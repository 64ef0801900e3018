import FenceCheck.Text.Utf8

namespace FenceCheck.Text

/-!
# Encoded texts decode

The decoder reads the bytes of a character as that character and then stands as it stood
in front of them, so the bytes of a text are read as that text.
-/

theorem foldl_loop_eq {β : Type} (f : β → UInt8 → β) (bytes : ByteArray) (n : Nat) :
    ∀ (i : Nat) (b : β), i + n = bytes.size →
      ByteArray.foldlM.loop (m := Id) (fun b x => pure (f b x)) bytes bytes.size (Nat.le_refl _)
        n i b = (bytes.data.toList.drop i).foldl f b := by
  induction n with
  | zero =>
      intro i b hi
      have hnil : bytes.data.toList.drop i = [] := List.drop_eq_nil_of_le (Nat.le_of_eq hi.symm)
      rw [hnil, ByteArray.foldlM.loop]
      split <;> rfl
  | succ n ih =>
      intro i b hi
      have hlt : i < bytes.size := by omega
      have hdrop : bytes.data.toList.drop i = bytes[i] :: bytes.data.toList.drop (i + 1) :=
        List.drop_eq_getElem_cons hlt
      rw [hdrop, ByteArray.foldlM.loop, dif_pos hlt]
      exact ih (i + 1) (f b bytes[i]) (by omega)

theorem foldl_toByteArray {β : Type} (f : β → UInt8 → β) (b : β) (bytes : List UInt8) :
    bytes.toByteArray.foldl f b = bytes.foldl f b := by
  have hloop := foldl_loop_eq f bytes.toByteArray bytes.toByteArray.size 0 b (Nat.zero_add _)
  rw [List.drop_zero, List.data_toByteArray] at hloop
  rw [← hloop]
  simp [ByteArray.foldl, ByteArray.foldlM]
  rfl

namespace Utf8.Decoder

variable {read : List Char} {valid : Bool} {b : UInt8}

theorem feed_one (h : b.toNat < 0x80) :
    feed ⟨[], 0, read, valid⟩ b = ⟨[], 0, Char.ofNat b.toNat :: read, valid⟩ := by
  simp [feed, lead, emit, UInt8.lt_iff_toNat_lt, h]

theorem feed_two {a : Nat} (ha : 2 ≤ a ∧ a < 32) (hb : b.toNat = a + 0xC0) :
    feed ⟨[], 0, read, valid⟩ b = ⟨[(0x80, 0xBF)], a, read, valid⟩ := by
  simp only [feed, lead, UInt8.lt_iff_toNat_lt, hb, UInt8.reduceToNat]
  rw [if_neg (by omega), if_neg (by omega), if_pos (by omega), Nat.add_sub_cancel]

/-- The range of what follows the first byte of three. -/
def second3 (a : Nat) : UInt8 × UInt8 :=
  if a = 0 then (0xA0, 0xBF) else if a = 13 then (0x80, 0x9F) else (0x80, 0xBF)

/-- The range of what follows the first byte of four. -/
def second4 (a : Nat) : UInt8 × UInt8 :=
  if a = 0 then (0x90, 0xBF) else if a = 4 then (0x80, 0x8F) else (0x80, 0xBF)

theorem feed_three {a : Nat} (ha : a < 16) (hb : b.toNat = a + 0xE0) :
    feed ⟨[], 0, read, valid⟩ b = ⟨[second3 a, (0x80, 0xBF)], a, read, valid⟩ := by
  simp only [feed, lead, second3, UInt8.lt_iff_toNat_lt, ← UInt8.toNat_inj, hb, UInt8.reduceToNat]
  rw [if_neg (by omega), if_neg (by omega), if_neg (by omega), if_pos (by omega),
    Nat.add_sub_cancel]
  simp

theorem feed_four {a : Nat} (ha : a < 5) (hb : b.toNat = a + 0xF0) :
    feed ⟨[], 0, read, valid⟩ b = ⟨[second4 a, (0x80, 0xBF), (0x80, 0xBF)], a, read, valid⟩ := by
  simp only [feed, lead, second4, UInt8.lt_iff_toNat_lt, ← UInt8.toNat_inj, hb, UInt8.reduceToNat]
  rw [if_neg (by omega), if_neg (by omega), if_neg (by omega), if_neg (by omega),
    if_pos (by omega), Nat.add_sub_cancel]
  simp

theorem feed_more {range next : UInt8 × UInt8} {x : Nat} (hb : b.toNat = x + 0x80)
    (hrange : range.1.toNat ≤ x + 0x80 ∧ x + 0x80 ≤ range.2.toNat)
    (more : List (UInt8 × UInt8)) (code : Nat) :
    feed ⟨range :: next :: more, code, read, valid⟩ b =
      ⟨next :: more, code * 64 + x, read, valid⟩ := by
  simp [feed, UInt8.le_iff_toNat_le, hb, hrange]

theorem feed_last {x : Nat} (hx : x < 64) (hb : b.toNat = x + 0x80) (code : Nat) :
    feed ⟨[(0x80, 0xBF)], code, read, valid⟩ b =
      ⟨[], 0, Char.ofNat (code * 64 + x) :: read, valid⟩ := by
  have hrange : x ≤ 63 := Nat.le_of_lt_succ hx
  simp [feed, emit, UInt8.le_iff_toNat_le, hb, hrange]

theorem range_second3 {a x : Nat} (hx : x < 64) (hlow : a = 0 → 32 ≤ x) (hhigh : a = 13 → x < 32) :
    (second3 a).1.toNat ≤ x + 0x80 ∧ x + 0x80 ≤ (second3 a).2.toNat := by
  unfold second3
  split
  · simp; omega
  split
  · simp; omega
  · simp; omega

theorem range_second4 {a x : Nat} (hx : x < 64) (hlow : a = 0 → 16 ≤ x) (hhigh : a = 4 → x < 16) :
    (second4 a).1.toNat ≤ x + 0x80 ∧ x + 0x80 ≤ (second4 a).2.toNat := by
  unfold second4
  split
  · simp; omega
  split
  · simp; omega
  · simp; omega

theorem foldl_feed_utf8EncodeChar (c : Char) :
    (String.utf8EncodeChar c).foldl feed ⟨[], 0, read, valid⟩ = ⟨[], 0, c :: read, valid⟩ := by
  have hvalid : c.toNat < 0xD800 ∨ 0xDFFF < c.toNat ∧ c.toNat < 0x110000 := c.valid
  have hchar : ∀ {n}, n = c.toNat → Char.ofNat n = c := by
    rintro _ rfl
    exact Char.ofNat_toNat c
  have hbyte : ∀ {n : Nat}, n < 256 → (UInt8.ofNat n).toNat = n := fun h => by simpa using h
  have hmiddle : ∀ {x : Nat}, x < 64 → (0x80 : UInt8).toNat ≤ x + 0x80 ∧
      x + 0x80 ≤ (0xBF : UInt8).toNat := fun h => by simp; omega
  have hval : c.val.toNat = c.toNat := rfl
  rw [String.utf8EncodeChar, hval]
  generalize c.toNat = v at *
  split
  · have hb := hbyte (n := v) (by omega)
    rw [List.foldl_cons, feed_one (by omega), hb, hchar rfl]
    rfl
  split
  · rw [List.foldl_cons, feed_two (a := v / 64 % 32) (by omega) (hbyte (by omega)),
      List.foldl_cons, feed_last (x := v % 64) (by omega) (hbyte (by omega)),
      List.foldl_nil, hchar (by omega)]
  split
  · have hsecond := range_second3 (a := v / 4096 % 16) (x := v / 64 % 64) (by omega) (by omega)
      (by omega)
    rw [List.foldl_cons, feed_three (by omega) (hbyte (by omega)),
      List.foldl_cons, feed_more (hbyte (by omega)) hsecond,
      List.foldl_cons, feed_last (x := v % 64) (by omega) (hbyte (by omega)),
      List.foldl_nil, hchar (by omega)]
  · have hsecond := range_second4 (a := v / 262144 % 8) (x := v / 4096 % 64) (by omega) (by omega)
      (by omega)
    rw [List.foldl_cons, feed_four (by omega) (hbyte (by omega)),
      List.foldl_cons, feed_more (hbyte (by omega)) hsecond,
      List.foldl_cons, feed_more (x := v / 64 % 64) (hbyte (by omega)) (hmiddle (by omega)),
      List.foldl_cons, feed_last (x := v % 64) (by omega) (hbyte (by omega)),
      List.foldl_nil, hchar (by omega)]

theorem foldl_feed_encode (cs : List Char) :
    (cs.flatMap String.utf8EncodeChar).foldl feed ⟨[], 0, read, valid⟩ =
      ⟨[], 0, cs.reverse ++ read, valid⟩ := by
  induction cs generalizing read with
  | nil => rfl
  | cons c cs ih =>
      rw [List.flatMap_cons, List.foldl_append, foldl_feed_utf8EncodeChar, ih]
      simp

end Utf8.Decoder

theorem decode?_toUTF8 (s : String) : decode? s.toUTF8 = some s := by
  have hbytes : s.toUTF8 = (s.toList.flatMap String.utf8EncodeChar).toByteArray := by
    have hencode := String.toByteArray_ofList (l := s.toList)
    rwa [String.ofList_toList] at hencode
  have hrun : Utf8.Decoder.run s.toUTF8 = ⟨[], 0, s.toList.reverse, true⟩ := by
    rw [Utf8.Decoder.run, hbytes, foldl_toByteArray, Utf8.Decoder.initial,
      Utf8.Decoder.foldl_feed_encode]
    simp [Utf8.Decoder.finish]
  rw [decode?, hrun]
  simp

end FenceCheck.Text
