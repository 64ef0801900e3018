import FenceCheck.Proofs.Text.FirstOccurrence

namespace FenceCheck.Text

/-!
# Cutting at a phrase

A phrase whose first character does not come back in it never overlaps itself. A text is then cut
at it in one way only, from the left as well as anywhere. What is put in its place brings no new
occurrence, if it begins none and its own first character ends those that are begun before it.
-/

/-- A text is cut at the first occurrence of a phrase, and what is behind it is cut in turn. -/
inductive CutFromLeft (phrase : List Char) : List Char → List (List Char) → Prop
  | whole {s : List Char} : ¬ phrase <:+: s → CutFromLeft phrase s [s]
  | first {before rest : List Char} {ps : List (List Char)} :
      (∀ n < before.length, ¬ phrase <+: (before ++ phrase ++ rest).drop n) →
      CutFromLeft phrase rest ps →
      CutFromLeft phrase (before ++ phrase ++ rest) (before :: ps)

/-- Pieces without a phrase that are the text when the phrase is put between them. -/
structure CutAnywhere (phrase s : List Char) (ps : List (List Char)) : Prop where
  ne_nil : ps ≠ []
  joined : List.intercalate phrase ps = s
  free : ∀ p ∈ ps, ¬ phrase <:+: p

section Pieces

variable {phrase : List Char}

theorem cutFromLeft_pieces (hp : phrase ≠ []) (s : List Char) :
    CutFromLeft phrase s (pieces phrase s) := by
  cases hs : split? phrase s with
  | none =>
      rw [pieces_of_split?_eq_none hs]
      exact .whole (split?_eq_none_iff.1 hs)
  | some halves =>
      have hshorter := length_lt_of_split? hp hs
      have hmore := cutFromLeft_pieces hp halves.2
      obtain ⟨rfl, hfirst⟩ := split?_eq_some_iff.1 hs
      rw [pieces_of_split?_eq_some hp hs]
      exact .first hfirst hmore
termination_by s.length

theorem CutFromLeft.eq_pieces (hp : phrase ≠ []) {s : List Char} {ps : List (List Char)}
    (h : CutFromLeft phrase s ps) : ps = pieces phrase s := by
  induction h with
  | whole hfree => rw [pieces_of_split?_eq_none (split?_eq_none_iff.2 hfree)]
  | first hfirst _ ih =>
      rw [pieces_of_split?_eq_some hp (split?_eq_some_iff.2 ⟨rfl, hfirst⟩), ih]

/-- What stands in front of the first occurrence holds none. -/
theorem CutFromLeft.cutAnywhere (hp : phrase ≠ []) {s : List Char} {ps : List (List Char)}
    (h : CutFromLeft phrase s ps) : CutAnywhere phrase s ps := by
  induction h with
  | whole hfree => exact ⟨by simp, by simp, by simpa using hfree⟩
  | @first before rest ps hfirst _ ih =>
      obtain ⟨hne, hjoined, hfree⟩ := ih
      refine ⟨by simp, ?_, ?_⟩
      · rw [List.intercalate_cons_of_ne_nil hne, hjoined]
      · intro p hmem
        obtain rfl | hmem := List.mem_cons.1 hmem
        · rintro ⟨u, v, rfl⟩
          have hpos := List.length_pos_iff.2 hp
          refine hfirst u.length (by simp only [List.length_append]; omega) ?_
          simp
        · exact hfree p hmem

end Pieces

section Begun

variable {c : Char} {tail : List Char}

/-- An occurrence behind a text without its first character lies behind the whole of it. -/
theorem infix_of_infix_append {s t : List Char} (hc : c ∉ s) (h : c :: tail <:+: s ++ t) :
    c :: tail <:+: t := by
  induction s with
  | nil => exact h
  | cons d s ih =>
      obtain hbegins | hlater := List.infix_cons_iff.1 h
      · obtain ⟨rfl, -⟩ := List.cons_prefix_cons.1 hbegins
        exact absurd List.mem_cons_self hc
      · exact ih (List.not_mem_of_not_mem_cons hc) hlater

/-- A text without the first character of a phrase ends where the phrase begins. -/
theorem split?_append_of_notMem (tail : List Char) {before : List Char} (hc : c ∉ before)
    (rest : List Char) :
    split? (c :: tail) (before ++ c :: tail ++ rest) = some (before, rest) := by
  refine split?_eq_some_iff.2 ⟨rfl, fun n hn hbegins => ?_⟩
  obtain ⟨d, q, hdrop⟩ :=
    List.exists_cons_of_ne_nil (mt List.drop_eq_nil_iff.1 (Nat.not_le_of_lt hn))
  rw [List.append_assoc, List.drop_append_of_le_length (Nat.le_of_lt hn), hdrop,
    List.cons_append] at hbegins
  obtain ⟨rfl, -⟩ := List.cons_prefix_cons.1 hbegins
  exact hc (List.mem_of_mem_drop (hdrop ▸ List.mem_cons_self))

/-- In front of the phrase a text without it holds no beginning of an occurrence. -/
theorem split?_append_self (htail : c ∉ tail) {p : List Char} (hfree : ¬ c :: tail <:+: p)
    (rest : List Char) : split? (c :: tail) (p ++ c :: tail ++ rest) = some (p, rest) := by
  refine split?_eq_some_iff.2 ⟨rfl, fun n hn hbegins => ?_⟩
  rw [List.append_assoc, List.drop_append_of_le_length (Nat.le_of_lt hn)] at hbegins
  have hin : p.drop n <:+: p := (List.drop_suffix n p).isInfix
  obtain hshort | ⟨more, hmore⟩ :=
    List.prefix_or_prefix_of_prefix hbegins (List.prefix_append (p.drop n) _)
  · exact hfree (hshort.isInfix.trans hin)
  · rw [← hmore, List.prefix_append_right_inj] at hbegins
    obtain ⟨d, q, hdrop⟩ :=
      List.exists_cons_of_ne_nil (mt List.drop_eq_nil_iff.1 (Nat.not_le_of_lt hn))
    rw [hdrop] at hbegins
    rw [hdrop, List.cons_append, List.cons.injEq] at hmore
    obtain ⟨rfl, rfl⟩ := hmore
    cases more with
    | nil => exact hfree (by rwa [hdrop, ← List.append_nil q] at hin)
    | cons m more =>
        -- What is left of the phrase would begin like the phrase, so its first character is back.
        obtain ⟨rfl, -⟩ := List.cons_prefix_cons.1 hbegins
        exact htail (by simp)

/-- There is one way only to cut a text at a phrase that does not overlap itself. -/
theorem CutAnywhere.eq_pieces (htail : c ∉ tail) {s : List Char} {ps : List (List Char)}
    (h : CutAnywhere (c :: tail) s ps) : ps = pieces (c :: tail) s := by
  obtain ⟨hne, rfl, hfree⟩ := h
  induction ps with
  | nil => exact absurd rfl hne
  | cons p ps ih =>
      have hp := hfree p List.mem_cons_self
      cases ps with
      | nil => rw [List.intercalate_singleton, pieces_of_split?_eq_none (split?_eq_none_iff.2 hp)]
      | cons q ps =>
          have hmore := ih (List.cons_ne_nil q ps) fun r hr => hfree r (List.mem_cons_of_mem p hr)
          have hsplit := split?_append_self htail hp (List.intercalate (c :: tail) (q :: ps))
          rw [List.intercalate_cons_cons, pieces_of_split?_eq_some (List.cons_ne_nil c tail) hsplit,
            ← hmore]

theorem notMem_intercalate {x : Char} {new : List Char} {ps : List (List Char)} (hnew : x ∉ new)
    (h : ∀ p ∈ ps, x ∉ p) : x ∉ List.intercalate new ps := by
  induction ps with
  | nil => simp
  | cons p ps ih =>
      have hmore := ih fun q hq => h q (List.mem_cons_of_mem p hq)
      cases ps with
      | nil => simpa using h p List.mem_cons_self
      | cons q ps =>
          rw [List.intercalate_cons_cons]
          simp [h p List.mem_cons_self, hnew, hmore]

/-- A text put in place of a phrase brings no new occurrence, if it holds no first character of the
phrase and begins with a character that the phrase does not hold. -/
theorem not_infix_intercalate {wall : Char} {more : List Char} (hwall : wall ∉ c :: tail)
    (hc : c ∉ wall :: more) {ps : List (List Char)} (hfree : ∀ p ∈ ps, ¬ c :: tail <:+: p) :
    ¬ c :: tail <:+: List.intercalate (wall :: more) ps := by
  induction ps with
  | nil => simp
  | cons p ps ih =>
      have hp := hfree p List.mem_cons_self
      have hmore := ih fun q hq => hfree q (List.mem_cons_of_mem p hq)
      cases ps with
      | nil => simpa using hp
      | cons q ps =>
          rw [List.intercalate_cons_cons, List.append_assoc, List.cons_append]
          apply split?_eq_none_iff.1
          rw [split?_append_cons_of_eq_none (List.cons_ne_nil c tail) hwall _
            (split?_eq_none_iff.2 hp), Option.map_eq_none_iff]
          apply split?_eq_none_iff.2
          exact fun h => hmore (infix_of_infix_append (List.not_mem_of_not_mem_cons hc) h)

end Begun

/-- A single character is replaced wherever it stands. -/
theorem replaceAll_singleton (x : Char) (new s : List Char) :
    replaceAll [x] new s = s.flatMap fun c => if c = x then new else [c] := by
  induction s with
  | nil => exact replaceAll_nil (List.cons_ne_nil x [])
  | cons c s ih =>
      rw [List.flatMap_cons, ← ih]
      by_cases hc : c = x
      · subst hc
        have hsplit : split? [c] (c :: s) = some ([], s) := split?_eq_some_of_eq_append rfl
        rw [if_pos rfl, replaceAll_of_split?_eq_some (List.cons_ne_nil c []) hsplit,
          List.nil_append]
      · have hwall : c ∉ [x] := by simpa using hc
        have hcons : replaceAll [x] new ([] ++ c :: s) = _ :=
          replaceAll_append_cons (List.cons_ne_nil x []) hwall [] s
        rw [replaceAll_nil (List.cons_ne_nil x [])] at hcons
        rw [if_neg hc]
        exact hcons

end FenceCheck.Text
