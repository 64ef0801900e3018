import FenceCheck.Proofs.Fragment.Staged

namespace FenceCheck

/-!
# The tag of a region

A region's tag is the word behind the backticks that open it. A search of the whole region
for three backticks with a word behind them finds the same word: the closing fence ends the
region, and no other fence stands in between.
-/

namespace Region

/-- What stands behind the backslash and the backticks that open a region, as far as it is a
word. -/
def openingTag (raw : List Char) : List Char :=
  ((raw.dropWhile (· == '\\')).dropWhile (· == '`')).takeWhile Text.isWord

/-- The word behind the first fence of a text that a word follows. -/
def taggedFence? : List Char → Option (List Char)
  | [] => none
  | c :: s =>
      match (Text.after? fence (c :: s)).map (·.takeWhile Text.isWord) with
      | some (d :: word) => some (d :: word)
      | _ => taggedFence? s

theorem head?_inner (r : Region) : r.inner.head? ≠ some '`' :=
  head?_dropWhile_backtick r.body

theorem tag?_eq (r : Region) :
    r.tag? = match r.inner.takeWhile Text.isWord with
      | [] => none
      | word => some word := rfl

theorem takeWhile_isWord_append_fence (s : List Char) :
    (s ++ fence).takeWhile Text.isWord = s.takeWhile Text.isWord :=
  takeWhile_isWord_append_cons isWord_backtick s ['`', '`']

theorem openingTag_raw (r : Region) :
    openingTag r.raw = r.inner.takeWhile Text.isWord := by
  have hbackslash : r.raw.dropWhile (· == '\\') = fence ++ r.body ++ fence := by
    cases hesc : r.escaped <;> simp [raw, hesc, fence]
  have hticks : (fence ++ r.body ++ fence).dropWhile (· == '`') =
      (r.body ++ fence).dropWhile (· == '`') := by
    simp [fence]
  rw [openingTag, hbackslash, hticks, List.dropWhile_append, ← inner]
  split
  · next hempty =>
      rw [List.isEmpty_iff.1 hempty]
      simp [fence]
  · exact takeWhile_isWord_append_fence _

section Search

theorem taggedFence?_fence_append {s : List Char} (h : s.takeWhile Text.isWord ≠ []) :
    taggedFence? (fence ++ s) = some (s.takeWhile Text.isWord) := by
  have hafter : Text.after? fence (fence ++ s) = some s := Text.after?_append fence s
  obtain ⟨d, word, hword⟩ := List.exists_cons_of_ne_nil h
  rw [hword]
  simp only [fence, List.cons_append, List.nil_append] at hafter ⊢
  rw [taggedFence?, fence, hafter, Option.map_some, hword]

/-- The search passes over a place where no fence with a word behind it begins. -/
theorem taggedFence?_cons {c : Char} {s : List Char}
    (h : ∀ rest, c :: s = fence ++ rest → rest.takeWhile Text.isWord = []) :
    taggedFence? (c :: s) = taggedFence? s := by
  rw [taggedFence?]
  cases hafter : Text.after? fence (c :: s) with
  | none => rfl
  | some rest => rw [Option.map_some, h rest (Text.after?_eq_some_iff.1 hafter)]

theorem taggedFence?_backtick_append {n : Nat} (s : List Char) :
    taggedFence? (List.replicate n '`' ++ (fence ++ s)) = taggedFence? (fence ++ s) := by
  induction n with
  | zero => rfl
  | succ n ih =>
      rw [List.replicate_succ, List.cons_append, ← ih]
      refine taggedFence?_cons fun rest hrest => ?_
      have hshift : '`' :: (List.replicate n '`' ++ (fence ++ s)) =
          fence ++ '`' :: (List.replicate n '`' ++ s) := by
        rw [← List.append_assoc, ← fence_append_replicate]
        simp [fence]
      rw [hshift] at hrest
      rw [← List.append_cancel_left hrest]
      simp [isWord_backtick]

theorem taggedFence?_eq_none {s : List Char}
    (h : ∀ d, Text.isWord d = true → ¬ fence ++ [d] <:+: s) : taggedFence? s = none := by
  induction s with
  | nil => rfl
  | cons c s ih =>
      rw [taggedFence?_cons]
      · exact ih fun d hd hpart => h d hd (hpart.trans (List.suffix_cons c s).isInfix)
      · intro rest hrest
        cases rest with
        | nil => rfl
        | cons d rest =>
            have hd : Text.isWord d ≠ true := fun hd => h d hd ⟨[], rest, by simp [hrest]⟩
            simp [hd]

/-- In front of the closing fence of a region there is no fence, so no character follows one. -/
theorem Closed.not_infix {r : Region} (hclosed : r.Closed) {u s : List Char}
    (hbody : r.body = u ++ s) (d : Char) : ¬ fence ++ [d] <:+: s ++ fence := by
  rintro ⟨before, rest, heq⟩
  have hfirst := (Text.split?_eq_some_iff.1 (hclosed.split?_of_body_eq hbody)).2
  have hlength := congrArg List.length heq
  simp only [List.length_append, List.length_singleton] at hlength
  refine hfirst before.length (by omega) ?_
  rw [← heq, List.append_assoc, List.drop_left]
  exact ⟨[d] ++ rest, by simp⟩

theorem taggedFence?_inner_append_fence {r : Region} (hclosed : r.Closed)
    (h : r.inner.takeWhile Text.isWord = []) :
    taggedFence? (fence ++ (r.inner ++ fence)) = none := by
  refine taggedFence?_eq_none fun d hd => ?_
  obtain ⟨n, hbody⟩ := r.exists_body_eq_replicate_append
  have hhead := r.head?_inner
  cases hinner : r.inner with
  | nil =>
      intro hpart
      have hmem : d ∈ fence ++ ([] ++ fence) := hpart.subset (by simp)
      have htick : d = '`' := by simpa [fence] using hmem
      rw [htick, isWord_backtick] at hd
      cases hd
  | cons e rest =>
      rw [hinner] at h hhead hbody
      have hword : Text.isWord e ≠ true := fun hword => by simp [hword] at h
      -- The character behind the opening backticks is no part of what is looked for.
      have hwall : e ∉ fence ++ [d] := by
        have htick : e ≠ '`' := fun heq => hhead (by rw [heq]; rfl)
        have hne : e ≠ d := fun heq => hword (heq ▸ hd)
        simp [fence, htick, hne]
      have hopening : Text.split? (fence ++ [d]) fence = none := by
        refine Text.split?_eq_none_iff.2 fun hpart => ?_
        have hlength := hpart.length_le
        simp only [List.length_append, List.length_singleton] at hlength
        omega
      have hrest : Text.split? (fence ++ [d]) (rest ++ fence) = none :=
        Text.split?_eq_none_iff.2
          (hclosed.not_infix (u := List.replicate n '`' ++ [e]) (by simp [hbody]) d)
      have hboth := Text.split?_append_cons_of_eq_none (by simp) hwall (rest ++ fence) hopening
      rw [hrest] at hboth
      exact Text.split?_eq_none_iff.1 hboth

/-- A search of the whole region finds its tag. -/
theorem Closed.taggedFence?_raw {r : Region} (hclosed : r.Closed) :
    taggedFence? r.raw = r.tag? := by
  obtain ⟨n, hbody⟩ := r.exists_body_eq_replicate_append
  have hfenced : fence ++ r.body ++ fence =
      List.replicate n '`' ++ (fence ++ (r.inner ++ fence)) := by
    rw [hbody, ← List.append_assoc, fence_append_replicate]
    simp
  have hraw : taggedFence? r.raw = taggedFence? (fence ++ r.body ++ fence) := by
    cases hesc : r.escaped with
    | false => simp [raw, hesc]
    | true =>
        have hbackslash : r.raw = '\\' :: (fence ++ r.body ++ fence) := by simp [raw, hesc]
        rw [hbackslash]
        exact taggedFence?_cons fun rest hrest => by simp [fence] at hrest
  rw [hraw, hfenced, taggedFence?_backtick_append, tag?_eq]
  split
  · next hnone => exact taggedFence?_inner_append_fence hclosed hnone
  · next hword =>
      rw [← takeWhile_isWord_append_fence] at hword ⊢
      exact taggedFence?_fence_append hword

end Search

end Region

end FenceCheck
