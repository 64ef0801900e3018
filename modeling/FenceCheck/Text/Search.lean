namespace FenceCheck.Text

/-!
# Finding and replacing a phrase

A text is a list of characters. A phrase is looked for from the left, and the
occurrences that count do not overlap. Replacing is joining the pieces between
the occurrences, so everything about it is read off `pieces`.
-/

/-- What follows `phrase` in a text that begins with it. -/
def after? : List Char → List Char → Option (List Char)
  | [], s => some s
  | _ :: _, [] => none
  | p :: ps, c :: cs => if p = c then after? ps cs else none

theorem after?_eq_some_iff {phrase s rest : List Char} :
    after? phrase s = some rest ↔ s = phrase ++ rest := by
  induction phrase generalizing s with
  | nil => simp [after?]
  | cons p ps ih =>
      cases s with
      | nil => simp [after?]
      | cons c cs =>
          by_cases h : p = c
          · simp [after?, h, ih]
          · simp [after?, h, Ne.symm h]

@[simp] theorem after?_append (phrase rest : List Char) :
    after? phrase (phrase ++ rest) = some rest :=
  after?_eq_some_iff.2 rfl

/-- The text before and after the first occurrence of `phrase`. -/
def split? (phrase : List Char) : List Char → Option (List Char × List Char)
  | [] => (after? phrase []).map fun rest => ([], rest)
  | c :: cs =>
      match after? phrase (c :: cs) with
      | some rest => some ([], rest)
      | none => (split? phrase cs).map fun halves => (c :: halves.1, halves.2)

theorem eq_append_of_split? {phrase s before rest : List Char}
    (h : split? phrase s = some (before, rest)) : s = before ++ phrase ++ rest := by
  induction s generalizing before with
  | nil =>
      simp only [split?, Option.map_eq_some_iff, Prod.mk.injEq] at h
      obtain ⟨r, hr, rfl, rfl⟩ := h
      simpa using after?_eq_some_iff.1 hr
  | cons c cs ih =>
      unfold split? at h
      split at h
      · next r hr =>
          simp only [Option.some.injEq, Prod.mk.injEq] at h
          obtain ⟨rfl, rfl⟩ := h
          simpa using after?_eq_some_iff.1 hr
      · next hr =>
          simp only [Option.map_eq_some_iff] at h
          obtain ⟨⟨b, r⟩, hb, hp⟩ := h
          simp only [Prod.mk.injEq] at hp
          obtain ⟨rfl, rfl⟩ := hp
          simp [ih hb]

theorem length_of_split? {phrase s before rest : List Char}
    (h : split? phrase s = some (before, rest)) :
    s.length = before.length + phrase.length + rest.length := by
  rw [eq_append_of_split? h]
  simp only [List.length_append]

/-- The pieces of a text between the occurrences of `phrase`, at least one. An
empty phrase does not occur. -/
def pieces (phrase s : List Char) : List (List Char) :=
  if _hp : phrase = [] then [s]
  else
    match _h : split? phrase s with
    | none => [s]
    | some (before, rest) => before :: pieces phrase rest
termination_by s.length
decreasing_by
  have hl := length_of_split? _h
  have hpos : 0 < phrase.length := List.length_pos_iff.2 _hp
  omega

theorem pieces_of_split?_eq_none {phrase s : List Char} (h : split? phrase s = none) :
    pieces phrase s = [s] := by
  unfold pieces
  split
  · rfl
  · split <;> simp_all

theorem pieces_of_split?_eq_some {phrase s before rest : List Char} (hp : phrase ≠ [])
    (h : split? phrase s = some (before, rest)) :
    pieces phrase s = before :: pieces phrase rest := by
  rw [pieces]
  split
  · contradiction
  · split <;> simp_all

/-- Every occurrence of `phrase` exchanged for `new`. -/
def replaceAll (phrase new s : List Char) : List Char :=
  List.intercalate new (pieces phrase s)

/-- The first occurrence of `phrase` exchanged for `new`. -/
def replaceFirst (phrase new s : List Char) : List Char :=
  match split? phrase s with
  | none => s
  | some (before, rest) => before ++ new ++ rest

end FenceCheck.Text
