import FenceCheck.Proofs.Fragment.Staged
import FenceCheck.Proofs.Text.Numeral

namespace FenceCheck

/-!
# The line directive of a staged text

A compiler takes a line directive where it begins a line, and counts on from the number
that it names. Behind a backtick there is no directive, whatever the rest of the line says.
So the marker directs the compiler just where no backtick of a longer fence is left in
front of it; a name that holds fences of its own makes no difference.
-/

namespace Anchor

/-- The number that a line directive at the beginning of a text gives to the next line: the
number stands before a name in quotes, on the same line. -/
def directed? (text : List Char) : Option Nat := do
  let numbered ← Text.after? "#line ".toList text
  let named ← Text.after? " \"".toList (numbered.dropWhile Char.isDigit)
  let digits := numbered.takeWhile Char.isDigit
  if digits ≠ [] ∧ '"' ∈ named.takeWhile (· != '\n') then
    some (Text.digitsValue digits)
  else
    none

theorem directed?_append (line : Nat) {name : List Char} (hname : '\n' ∉ name)
    (behind : List Char) :
    directed? ("#line ".toList ++
      (Text.decimal line ++ (" \"".toList ++ (name ++ '"' :: behind)))) = some line := by
  have hdigits := Text.isDigit_of_mem_decimal (n := line)
  have htake : (Text.decimal line ++ (" \"".toList ++ (name ++ '"' :: behind))).takeWhile
      Char.isDigit = Text.decimal line :=
    Text.takeWhile_append_cons _ hdigits rfl
  have hdrop : (Text.decimal line ++ (" \"".toList ++ (name ++ '"' :: behind))).dropWhile
      Char.isDigit = " \"".toList ++ (name ++ '"' :: behind) :=
    Text.dropWhile_append_cons _ hdigits rfl
  have hquote : '"' ∈ (name ++ '"' :: behind).takeWhile (· != '\n') := by
    rw [List.takeWhile_append_of_pos (Text.bne_of_notMem hname)]
    exact List.mem_append_right _ List.mem_cons_self
  have hsome : Text.decimal line ≠ [] ∧ '"' ∈ (name ++ '"' :: behind).takeWhile (· != '\n') :=
    ⟨Text.decimal_ne_nil line, hquote⟩
  simp only [directed?, Text.after?_append, Option.bind_eq_bind, Option.bind_some, hdrop, htake,
    if_pos hsome, Text.digitsValue_decimal]

theorem directed?_backtick (text : List Char) : directed? ('`' :: text) = none := rfl

end Anchor

namespace Fragment

/-- What is left of backticks, a directive and what follows them when all fences go away. Neither
the signs of the directive nor its digits are part of a fence, so the pieces between them are
replaced apart. -/
theorem replaceAll_ticks_directive (n line : Nat) (identity : String) (rest : List Char) :
    Text.replaceAll fence []
        (List.replicate n '`' ++ (Anchor.directive line identity).toList ++ rest) =
      List.replicate (n % 3) '`' ++ ("#line ".toList ++ (Text.decimal line ++ (" \"".toList ++
        (Text.replaceAll fence [] (FileName.forward identity).toList ++
          '"' :: Text.replaceAll fence [] rest)))) := by
  have hspelt : List.replicate n '`' ++ (Anchor.directive line identity).toList ++ rest =
      List.replicate n '`' ++ '#' :: ("line ".toList ++ Text.decimal line ++ [' '] ++
        '"' :: ((FileName.forward identity).toList ++ '"' :: rest)) := by
    rw [Anchor.toList_directive]
    simp
  have hsign : '#' ∉ fence := by simp [fence]
  have hquote : '"' ∉ fence := by simp [fence]
  have hclear : '`' ∉ "line ".toList ++ Text.decimal line ++ [' '] := by
    simp [Text.notMem_decimal]
  rw [hspelt, Text.replaceAll_append_cons fence_ne_nil hsign,
    Text.replaceAll_append_cons fence_ne_nil hquote,
    Text.replaceAll_append_cons fence_ne_nil hquote, replaceAll_fence_replicate,
    replaceAll_fence_of_notMem hclear]
  simp

variable {n startLine : Nat} {identity : String}

/-- The staged text begins with a directive just if nothing is left of the fence. -/
theorem directed?_replaceAll_marker (hn : n < 3) (hidentity : '\n' ∉ identity.toList)
    (rest : List Char) :
    Anchor.directed? (Text.replaceAll fence [] (List.replicate n '`' ++
        (Anchor.Mode.lineDirective.marker startLine identity).toList ++ rest)) =
      if n = 0 then some (startLine + 1) else none := by
  have hname : '\n' ∉ Text.replaceAll fence [] (FileName.forward identity).toList := by
    intro hm
    rcases Text.mem_of_mem_replaceAll fence_ne_nil _ hm with hm | hm
    · exact Anchor.notMem_forward (by decide) hidentity hm
    · cases hm
  rw [Anchor.Mode.marker, replaceAll_ticks_directive, Nat.mod_eq_of_lt hn]
  cases n with
  | zero => exact Anchor.directed?_append (startLine + 1) hname _
  | succ n => exact Anchor.directed?_backtick _

end Fragment

end FenceCheck
