import FenceCheck.Text.Numeral

namespace FenceCheck.Text

/-!
# Written numbers and code points

A written number has digits only, does not begin with a zero that says nothing, and reads
as itself. What is to hold of every character below some code point can be checked code
point by code point.
-/

theorem decimal_ne_nil (n : Nat) : decimal n ≠ [] := Nat.toDigits_ne_nil

theorem isDigit_of_mem_decimal {n : Nat} : ∀ c ∈ decimal n, c.isDigit = true := by
  intro c hc
  exact Nat.isDigit_of_mem_toDigits (by decide) (by decide) hc

theorem notMem_decimal {c : Char} (h : c.isDigit = false) (n : Nat) : c ∉ decimal n := by
  intro hmem
  exact Bool.false_ne_true (h.symm.trans (isDigit_of_mem_decimal c hmem))

/-- A text that is written into another one is written as it is. -/
theorem toString_text (s : String) : toString s = s := rfl

theorem digitsValue_decimal (n : Nat) : digitsValue (decimal n) = n :=
  Nat.ofDigitChars_ten_toDigits

theorem word64?_decimal {n : Nat} (h : n < word64Bound) : word64? (decimal n) = some n := by
  apply word64?_eq_some_iff.2
  exact ⟨decimal_ne_nil n, digitsValue_decimal n, h⟩

theorem digitChar_ne_zero {n : Nat} (hpos : 0 < n) (h : n < 10) : n.digitChar ≠ '0' := by
  have hall : ∀ n < 10, 0 < n → n.digitChar ≠ '0' := by decide
  exact hall n h hpos

theorem head?_decimal_ne_zero {n : Nat} (hpos : 0 < n) : (decimal n).head? ≠ some '0' := by
  induction n using Nat.strongRecOn with
  | ind n ih =>
    by_cases h : n < 10
    · simpa [decimal, Nat.toDigits_of_lt_base h] using digitChar_ne_zero hpos h
    · have hsplit : decimal n = decimal (n / 10) ++ [(n % 10).digitChar] :=
        Nat.toDigits_of_base_le (by decide) (by omega)
      have hhead := ih (n / 10) (by omega) (by omega)
      obtain ⟨d, ds, hd⟩ := List.exists_cons_of_ne_nil (decimal_ne_nil (n / 10))
      rw [hd] at hhead
      simpa [hsplit, hd] using hhead

/-- Only zero is written with a zero in front. -/
theorem decimal_eq_of_head? {n : Nat} (h : (decimal n).head? = some '0') : decimal n = ['0'] := by
  cases n with
  | zero => rfl
  | succ n => exact absurd h (head?_decimal_ne_zero n.succ_pos)

theorem eq_ofNat {c : Char} {n : Nat} (h : c.toNat = n) : c = Char.ofNat n := by
  rw [← h, Char.ofNat_toNat]

@[elab_as_elim]
theorem forall_char_of_lt {p : Char → Prop} {bound : Nat} {c : Char} (hc : c.toNat < bound)
    (h : ∀ n < bound, p (Char.ofNat n)) : p c := by
  have hp := h c.toNat hc
  rwa [Char.ofNat_toNat] at hp

end FenceCheck.Text
