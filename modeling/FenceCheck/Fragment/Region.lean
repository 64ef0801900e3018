import FenceCheck.Text.Search
import FenceCheck.Text.Word

namespace FenceCheck

/-!
# Fenced regions

A region runs from three backticks to the next three backticks, whatever stands
between them. A backslash right before the opening ones belongs to the region and
marks it as escaped. An opening fence without a partner opens nothing. A text is
cut into regions with the gaps before them, and what is left.
-/

def fence : List Char := ['`', '`', '`']

theorem fence_ne_nil : fence ≠ [] := by
  simp [fence]

structure Region where
  /-- The text since the region before. -/
  gap : List Char
  escaped : Bool
  /-- The text between the fences. -/
  body : List Char
  deriving DecidableEq, Repr

namespace Region

/-- The region with a body, after some text. -/
def after (before body : List Char) : Region :=
  if before.getLast? = some '\\' then ⟨before.dropLast, true, body⟩ else ⟨before, false, body⟩

def raw (r : Region) : List Char :=
  (if r.escaped then ['\\'] else []) ++ fence ++ r.body ++ fence

theorem gap_append_raw_after (before body : List Char) :
    (after before body).gap ++ (after before body).raw = before ++ fence ++ body ++ fence := by
  unfold after
  split
  · next h =>
      obtain ⟨init, rfl⟩ := List.getLast?_eq_some_iff.1 h
      simp [raw]
  · simp [raw]

/-- The regions of a text and the text after the last one. -/
def cut (s : List Char) : List Region × List Char :=
  match _ho : Text.split? fence s with
  | none => ([], s)
  | some (before, inside) =>
      match _hc : Text.split? fence inside with
      | none => ([], s)
      | some (body, rest) =>
          let more := cut rest
          (after before body :: more.1, more.2)
termination_by s.length
decreasing_by
  have h₁ := Text.length_of_split? _ho
  have h₂ := Text.length_of_split? _hc
  simp only [fence, List.length_cons, List.length_nil] at h₁ h₂
  omega

/-- The word right after the backticks that open the region. -/
def tag? (r : Region) : Option (List Char) :=
  match (r.body.dropWhile (· == '`')).takeWhile Text.isWord with
  | [] => none
  | word => some word

end Region

end FenceCheck
