namespace FenceCheck.Text

/-!
# Decimal numerals

Numbers are written in decimal without leading zeros. Reading takes any run of
digits; whether the value is accepted is decided by a bound.
-/

/-- The numbers that 64 bits hold. -/
def word64Bound : Nat := Nat.pow 2 64

theorem word64Bound_eq : word64Bound = 18446744073709551616 := rfl

def decimal (n : Nat) : List Char :=
  Nat.toDigits 10 n

/-- The number that a run of digits denotes; an empty run denotes zero. -/
def digitsValue (digits : List Char) : Nat :=
  digits.foldl (fun n d => 10 * n + (d.toNat - 48)) 0

@[simp] theorem digitsValue_nil : digitsValue [] = 0 := rfl

/-- The value of a nonempty run of digits, if 64 bits hold it. -/
def word64? (digits : List Char) : Option Nat :=
  if digits = [] then none
  else if digitsValue digits < word64Bound then some (digitsValue digits) else none

theorem word64?_eq_some_iff {digits : List Char} {n : Nat} :
    word64? digits = some n ↔ digits ≠ [] ∧ digitsValue digits = n ∧ n < word64Bound := by
  unfold word64?
  split
  · simp_all
  · split
    · constructor
      · intro h
        cases h
        exact ⟨by assumption, rfl, by assumption⟩
      · rintro ⟨-, rfl, -⟩
        rfl
    · constructor
      · simp
      · rintro ⟨-, rfl, h⟩
        contradiction

end FenceCheck.Text
