import FenceCheck.Proofs.Document.LineRange

namespace FenceCheck.Text

/-!
# The order of bytes

Characters in the order of their code points have their bytes in order too, and what follows them
makes no difference. So texts are ordered by their bytes as they are by their characters. No byte
of a longer character is that of a shorter one.
-/

/-- The bytes of a character as numbers. -/
def byteValues (c : Char) : List Nat :=
  let v := c.toNat
  if v ≤ 0x7F then [v]
  else if v ≤ 0x7FF then [v / 64 % 32 + 0xC0, v % 64 + 0x80]
  else if v ≤ 0xFFFF then [v / 4096 % 16 + 0xE0, v / 64 % 64 + 0x80, v % 64 + 0x80]
  else [v / 262144 % 8 + 0xF0, v / 4096 % 64 + 0x80, v / 64 % 64 + 0x80, v % 64 + 0x80]

theorem map_toNat_utf8EncodeChar (c : Char) :
    (String.utf8EncodeChar c).map UInt8.toNat = byteValues c := by
  have hval : c.val.toNat = c.toNat := rfl
  have hbyte : ∀ {n : Nat}, n < 256 → (UInt8.ofNat n).toNat = n := UInt8.toNat_ofNat_of_lt'
  simp only [String.utf8EncodeChar, byteValues, hval]
  generalize c.toNat = v
  split
  · rw [List.map_singleton, hbyte (by omega)]
  split
  · rw [List.map_cons, List.map_singleton, hbyte (by omega), hbyte (by omega)]
  split
  · rw [List.map_cons, List.map_cons, List.map_singleton, hbyte (by omega), hbyte (by omega),
      hbyte (by omega)]
  · rw [List.map_cons, List.map_cons, List.map_cons, List.map_singleton, hbyte (by omega),
      hbyte (by omega), hbyte (by omega), hbyte (by omega)]

theorem newline_notMem_utf8EncodeChar {c : Char} (hc : c ≠ '\n') :
    (10 : UInt8) ∉ String.utf8EncodeChar c := by
  have hcode : c.toNat ≠ 10 := fun h => hc (Char.toNat_inj.1 h)
  intro hmem
  have hvalue := List.mem_map_of_mem (f := UInt8.toNat) hmem
  rw [map_toNat_utf8EncodeChar, byteValues] at hvalue
  have hnewline : UInt8.toNat 10 = 10 := rfl
  rw [hnewline] at hvalue
  generalize c.toNat = v at hcode hvalue
  split_ifs at hvalue
  all_goals
    simp only [List.mem_cons, List.not_mem_nil, or_false] at hvalue
    omega

theorem lt_iff_map_toNat_lt {s t : List UInt8} :
    s < t ↔ s.map UInt8.toNat < t.map UInt8.toNat := by
  induction s generalizing t with
  | nil => cases t <;> simp
  | cons b s ih =>
      cases t with
      | nil => simp
      | cons b' t =>
          simp only [List.map_cons, List.cons_lt_cons_iff, ih, UInt8.lt_iff_toNat_lt,
            ← UInt8.toNat_inj]

/-- The digits of a code point to the base of what one byte adds. -/
theorem exists_digits (v : Nat) : ∃ a b c d, b < 64 ∧ c < 64 ∧ d < 64 ∧ v / 262144 = a ∧
    v / 4096 = 64 * a + b ∧ v / 64 = 64 * (64 * a + b) + c ∧
      v = 64 * (64 * (64 * a + b) + c) + d := by
  refine ⟨v / 262144, v / 4096 % 64, v / 64 % 64, v % 64, ?_⟩
  omega

theorem utf8EncodeChar_append_lt {c d : Char} (h : c < d) (s t : List UInt8) :
    String.utf8EncodeChar c ++ s < String.utf8EncodeChar d ++ t := by
  have hcode : c.toNat < d.toNat := h
  have hbound : d.toNat < 0x110000 := by
    have hvalid : d.toNat < 0xD800 ∨ 0xDFFF < d.toNat ∧ d.toNat < 0x110000 := d.valid
    omega
  rw [lt_iff_map_toNat_lt, List.map_append, List.map_append, map_toNat_utf8EncodeChar,
    map_toNat_utf8EncodeChar, byteValues, byteValues]
  obtain ⟨v₃, v₂, v₁, v₀, hv₂, hv₁, hv₀, h₃, h₂, h₁, h₀⟩ := exists_digits c.toNat
  obtain ⟨w₃, w₂, w₁, w₀, hw₂, hw₁, hw₀, k₃, k₂, k₁, k₀⟩ := exists_digits d.toNat
  simp only [h₃, h₂, h₁, k₃, k₂, k₁]
  generalize c.toNat = v at hcode h₀
  generalize d.toNat = w at hcode hbound k₀
  clear h₃ h₂ h₁ k₃ k₂ k₁
  split_ifs <;> simp only [List.cons_append, List.nil_append, List.cons_lt_cons_iff] <;> omega

theorem bytes_lt_bytes {s t : List Char} (h : s < t) : bytes s < bytes t := by
  induction h with
  | @nil c t =>
      have hne : bytes (c :: t) ≠ [] := by
        rw [bytes, List.flatMap_cons]
        exact List.append_ne_nil_of_left_ne_nil String.utf8EncodeChar_ne_nil _
      obtain ⟨b, more, hmore⟩ := List.exists_cons_of_ne_nil hne
      rw [hmore]
      exact List.Lex.nil
  | rel h => exact utf8EncodeChar_append_lt h _ _
  | cons _ ih => exact List.append_left_lt ih

/-- The order of texts is that of their bytes. -/
theorem bytes_le_of_le {a b : String} (h : a ≤ b) :
    a.toUTF8.data.toList ≤ b.toUTF8.data.toList := by
  rw [toUTF8_eq_bytes, toUTF8_eq_bytes, List.data_toByteArray, List.data_toByteArray,
    ← List.not_lt]
  intro hless
  rcases Std.lt_trichotomy a.toList b.toList with hlt | heq | hlt
  · exact List.lt_asymm (bytes_lt_bytes hlt) hless
  · rw [heq] at hless
    exact List.lt_irrefl _ hless
  · exact h hlt

end FenceCheck.Text
