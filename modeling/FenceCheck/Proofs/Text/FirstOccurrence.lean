import FenceCheck.Text.Search

namespace FenceCheck.Text

/-!
# First occurrences

A phrase is split off at its first occurrence: it stands there and at no earlier place.
Everything about replacing follows from where the first occurrence is. A character that
the phrase does not hold is a wall: no occurrence reaches over it, so replacing works on
both sides of it apart.
-/

theorem after?_eq_none_iff {phrase s : List Char} :
    after? phrase s = none ↔ ¬ phrase <+: s := by
  constructor
  · rintro h ⟨rest, rfl⟩
    simp at h
  · intro h
    cases ha : after? phrase s with
    | none => rfl
    | some rest => exact (h ⟨rest, (after?_eq_some_iff.1 ha).symm⟩).elim

/-- A phrase does not begin a text whose own beginning differs from it. -/
theorem after?_append_eq_none {phrase start : List Char} (h₁ : ¬ phrase <+: start)
    (h₂ : ¬ start <+: phrase) (s : List Char) : after? phrase (start ++ s) = none := by
  apply after?_eq_none_iff.2
  intro h
  rcases List.prefix_or_prefix_of_prefix h (List.prefix_append start s) with hs | hs
  · exact h₁ hs
  · exact h₂ hs

theorem split?_cons_of_not_begins {phrase s : List Char} {c : Char} (h : ¬ phrase <+: c :: s) :
    split? phrase (c :: s) = (split? phrase s).map fun halves => (c :: halves.1, halves.2) := by
  rw [split?, after?_eq_none_iff.2 h]

theorem split?_eq_some_of_eq_append {phrase s rest : List Char} (h : s = phrase ++ rest) :
    split? phrase s = some ([], rest) := by
  cases s with
  | nil => simp [split?, after?_eq_some_iff.2 h]
  | cons c s => rw [split?, after?_eq_some_iff.2 h]

/-- The text before the first occurrence ends where the phrase first stands. -/
theorem split?_eq_some_iff {phrase s before rest : List Char} :
    split? phrase s = some (before, rest) ↔
      s = before ++ phrase ++ rest ∧ ∀ n < before.length, ¬ phrase <+: s.drop n := by
  constructor
  · intro h
    refine ⟨eq_append_of_split? h, ?_⟩
    induction s generalizing before with
    | nil =>
        have hlen := length_of_split? h
        simp only [List.length_nil] at hlen
        omega
    | cons c s ih =>
        by_cases hp : phrase <+: c :: s
        · obtain ⟨r, hr⟩ := hp
          rw [split?_eq_some_of_eq_append hr.symm] at h
          cases h
          simp
        · rw [split?_cons_of_not_begins hp, Option.map_eq_some_iff] at h
          obtain ⟨⟨b, r⟩, hb, heq⟩ := h
          obtain ⟨rfl, rfl⟩ := Prod.mk.inj heq
          intro n hn
          cases n with
          | zero => exact hp
          | succ n => exact ih hb n (by simpa using hn)
  · rintro ⟨rfl, hfirst⟩
    induction before with
    | nil => exact split?_eq_some_of_eq_append rfl
    | cons c before ih =>
        have hhead : ¬ phrase <+: c :: (before ++ phrase ++ rest) := by
          simpa using hfirst 0 (by simp)
        have htail := ih fun n hn => by simpa using hfirst (n + 1) (by simpa using hn)
        rw [List.cons_append, List.cons_append, split?_cons_of_not_begins hhead, htail]
        rfl

theorem split?_eq_none_iff {phrase s : List Char} :
    split? phrase s = none ↔ ¬ phrase <:+: s := by
  constructor
  · rintro h ⟨before, rest, hs⟩
    induction before generalizing s with
    | nil =>
        have hs' : s = phrase ++ rest := by simpa using hs.symm
        rw [split?_eq_some_of_eq_append hs'] at h
        cases h
    | cons c before ih =>
        subst hs
        rw [List.cons_append, List.cons_append] at h
        by_cases hp : phrase <+: c :: (before ++ phrase ++ rest)
        · obtain ⟨r, hr⟩ := hp
          rw [split?_eq_some_of_eq_append hr.symm] at h
          cases h
        · rw [split?_cons_of_not_begins hp, Option.map_eq_none_iff] at h
          exact ih h rfl
  · intro h
    cases hs : split? phrase s with
    | none => rfl
    | some halves => exact (h ⟨halves.1, halves.2, (eq_append_of_split? hs).symm⟩).elim

/-- The first occurrence in a text is the first in the part of it from some earlier place to
some later one. -/
theorem split?_inside {phrase u s v before rest : List Char}
    (h : split? phrase (u ++ s ++ v) = some (u ++ before, rest ++ v))
    (hs : s = before ++ phrase ++ rest) : split? phrase s = some (before, rest) := by
  refine split?_eq_some_iff.2 ⟨hs, fun n hn hp => ?_⟩
  apply (split?_eq_some_iff.1 h).2 (u.length + n) (by simpa using hn)
  have hdrop : (u ++ s ++ v).drop (u.length + n) = s.drop n ++ v := by
    have hle : n ≤ s.length := by
      rw [hs]
      simp only [List.length_append]
      omega
    rw [List.append_assoc, List.drop_length_add_append, List.drop_append_of_le_length hle]
  rw [hdrop]
  exact hp.trans (List.prefix_append _ _)

/-- The first occurrence in a text is the first in any longer one. -/
theorem split?_append_of_eq_some {phrase s before rest : List Char} (t : List Char)
    (h : split? phrase s = some (before, rest)) :
    split? phrase (s ++ t) = some (before, rest ++ t) := by
  obtain ⟨hs, hfirst⟩ := split?_eq_some_iff.1 h
  refine split?_eq_some_iff.2 ⟨by simp [hs], fun n hn hp => hfirst n hn ?_⟩
  have hlength := length_of_split? h
  rw [List.drop_append_of_le_length (by omega)] at hp
  refine List.prefix_of_prefix_length_le hp (List.prefix_append _ _) ?_
  rw [List.length_drop]
  omega

/-- The text behind an occurrence is shorter. -/
theorem length_lt_of_split? {phrase s : List Char} {halves : List Char × List Char}
    (hp : phrase ≠ []) (h : split? phrase s = some halves) : halves.2.length < s.length := by
  have hlength := length_of_split? h
  have hpos := List.length_pos_iff.2 hp
  omega

section Replace

variable {phrase new : List Char}

theorem replaceAll_of_split?_eq_none {s : List Char} (h : split? phrase s = none) :
    replaceAll phrase new s = s := by
  simp [replaceAll, pieces_of_split?_eq_none h, List.intercalate]

theorem pieces_ne_nil (phrase s : List Char) : pieces phrase s ≠ [] := by
  unfold pieces
  split
  · simp
  · split <;> simp

theorem replaceAll_of_split?_eq_some (hp : phrase ≠ []) {s before rest : List Char}
    (h : split? phrase s = some (before, rest)) :
    replaceAll phrase new s = before ++ new ++ replaceAll phrase new rest := by
  obtain ⟨first, more, hmore⟩ := List.exists_cons_of_ne_nil (pieces_ne_nil phrase rest)
  simp [replaceAll, pieces_of_split?_eq_some hp h, hmore, List.intercalate]

theorem replaceAll_nil (hp : phrase ≠ []) : replaceAll phrase new [] = [] :=
  replaceAll_of_split?_eq_none (split?_eq_none_iff.2 (by simpa using hp))

/-- Replacing brings in no character that neither the text nor what is put in has. -/
theorem mem_of_mem_replaceAll (hp : phrase ≠ []) {c : Char} (s : List Char)
    (h : c ∈ replaceAll phrase new s) : c ∈ s ∨ c ∈ new := by
  cases hs : split? phrase s with
  | none =>
      rw [replaceAll_of_split?_eq_none hs] at h
      exact .inl h
  | some halves =>
      have hshorter := length_lt_of_split? hp hs
      rw [replaceAll_of_split?_eq_some hp hs] at h
      rw [eq_append_of_split? hs]
      rcases List.mem_append.1 h with h | h
      · rcases List.mem_append.1 h with h | h
        · exact .inl (by simp [h])
        · exact .inr h
      · rcases mem_of_mem_replaceAll hp halves.2 h with h | h
        · exact .inl (by simp [h])
        · exact .inr h
termination_by s.length

end Replace

section Wall

variable {phrase : List Char} {wall : Char}

/-- A phrase without a character that begins before that character also ends before it. -/
theorem prefix_of_prefix_append_cons (hw : wall ∉ phrase) {s t : List Char}
    (h : phrase <+: s ++ wall :: t) : phrase <+: s := by
  rcases List.prefix_or_prefix_of_prefix h (List.prefix_append s (wall :: t)) with hs | hs
  · exact hs
  · obtain ⟨more, rfl⟩ := hs
    cases more with
    | nil => simp
    | cons c more =>
        have hc := (List.prefix_append_right_inj s).1 h
        obtain ⟨rfl, -⟩ := List.cons_prefix_cons.1 hc
        simp at hw

theorem split?_append_cons_of_eq_none (hp : phrase ≠ []) (hw : wall ∉ phrase) {s : List Char}
    (t : List Char) (h : split? phrase s = none) :
    split? phrase (s ++ wall :: t) =
      (split? phrase t).map fun halves => (s ++ wall :: halves.1, halves.2) := by
  induction s with
  | nil =>
      have hnot : ¬ phrase <+: wall :: t := fun hpre => by
        have := prefix_of_prefix_append_cons hw (s := []) hpre
        exact hp (List.prefix_nil.1 this)
      simp [split?_cons_of_not_begins hnot]
  | cons c s ih =>
      have hnone := split?_eq_none_iff.1 h
      have hnot : ¬ phrase <+: c :: s := fun hpre => hnone hpre.isInfix
      have hnot' : ¬ phrase <+: c :: (s ++ wall :: t) := fun hpre =>
        hnot (prefix_of_prefix_append_cons hw (s := c :: s) hpre)
      have hs : split? phrase s = none :=
        split?_eq_none_iff.2 fun hin => hnone (hin.trans (List.suffix_cons c s).isInfix)
      rw [List.cons_append, split?_cons_of_not_begins hnot', ih hs, Option.map_map]
      rfl

theorem replaceAll_append_cons {new : List Char} (hp : phrase ≠ []) (hw : wall ∉ phrase)
    (s t : List Char) :
    replaceAll phrase new (s ++ wall :: t) =
      replaceAll phrase new s ++ wall :: replaceAll phrase new t := by
  cases hs : split? phrase s with
  | some halves =>
      have hshorter := length_lt_of_split? hp hs
      rw [replaceAll_of_split?_eq_some hp (split?_append_of_eq_some (wall :: t) hs),
        replaceAll_of_split?_eq_some hp hs, replaceAll_append_cons hp hw halves.2 t]
      simp
  | none =>
      have hboth := split?_append_cons_of_eq_none hp hw t hs
      rw [replaceAll_of_split?_eq_none hs]
      cases ht : split? phrase t with
      | none =>
          rw [ht] at hboth
          rw [replaceAll_of_split?_eq_none hboth, replaceAll_of_split?_eq_none ht]
      | some halves =>
          rw [ht] at hboth
          rw [replaceAll_of_split?_eq_some hp hboth, replaceAll_of_split?_eq_some hp ht]
          simp
termination_by s.length

end Wall

/-! ## Single characters -/

theorem bne_of_notMem {c : Char} {s : List Char} (h : c ∉ s) : ∀ d ∈ s, (d != c) = true := by
  intro d hd
  have hne : d ≠ c := fun heq => h (heq ▸ hd)
  simpa using hne

theorem takeWhile_append_cons {α : Type} {p : α → Bool} {x : List α} {c : α} (rest : List α)
    (hx : ∀ d ∈ x, p d = true) (hc : p c = false) : (x ++ c :: rest).takeWhile p = x := by
  rw [List.takeWhile_append_of_pos hx]
  simp [hc]

theorem dropWhile_append_cons {α : Type} {p : α → Bool} {x : List α} {c : α} (rest : List α)
    (hx : ∀ d ∈ x, p d = true) (hc : p c = false) :
    (x ++ c :: rest).dropWhile p = c :: rest := by
  rw [List.dropWhile_append_of_pos hx]
  simp [hc]

end FenceCheck.Text
