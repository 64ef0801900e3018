import FenceCheck.Proofs.Fragment.Cut
import FenceCheck.Proofs.Text.LineFrame
import FenceCheck.Text.Numeral

namespace FenceCheck

/-!
# The staged text of a region

The marker takes the place of the fence right before the tag. Whatever backticks are left
stand on the first line, so from the second line on the staged text is the body of its
region, up to the closing fence and without it.
-/

theorem isWord_backtick : Text.isWord '`' = false := by
  decide

theorem newline_notMem_fence : '\n' ∉ fence := by
  simp [fence]

/-- A tag holds no character that is not of a word. -/
theorem notMem_of_isWord_eq_false {c : Char} {tag : List Char}
    (hword : ∀ d ∈ tag, Text.isWord d = true) (hc : Text.isWord c = false) : c ∉ tag := by
  intro hmem
  rw [hword c hmem] at hc
  cases hc

/-- A word ends where a character that is not of a word stands. -/
theorem takeWhile_isWord_append_cons {c : Char} (hc : Text.isWord c = false) (s t : List Char) :
    (s ++ c :: t).takeWhile Text.isWord = s.takeWhile Text.isWord := by
  have hstop : (c :: t).takeWhile Text.isWord = [] := List.takeWhile_cons_of_neg (by simp [hc])
  rw [List.takeWhile_append, hstop]
  split
  · next hlength =>
      rw [List.append_nil]
      exact ((List.takeWhile_prefix _).eq_of_length hlength).symm
  · rfl

theorem fence_eq_replicate : fence = List.replicate 3 '`' := rfl

theorem fence_append_replicate (n : Nat) :
    fence ++ List.replicate n '`' = List.replicate n '`' ++ fence := by
  rw [fence_eq_replicate, List.replicate_append_replicate, List.replicate_append_replicate,
    Nat.add_comm]

/-- How many backticks a text begins with. -/
def ticks (s : List Char) : Nat :=
  (s.takeWhile (· == '`')).length

theorem eq_replicate_ticks_append (s : List Char) :
    s = List.replicate (ticks s) '`' ++ s.dropWhile (· == '`') := by
  have hticks : s.takeWhile (· == '`') = List.replicate (ticks s) '`' := by
    refine List.eq_replicate_of_mem fun c hc => ?_
    have hall := List.all_takeWhile (p := (· == '`')) (l := s)
    simpa using List.all_eq_true.1 hall c hc
  rw [← hticks, List.takeWhile_append_dropWhile]

theorem head?_dropWhile_backtick (s : List Char) :
    (s.dropWhile (· == '`')).head? ≠ some '`' := by
  intro h
  have hnot := List.head?_dropWhile_not (· == '`') s
  rw [h] at hnot
  simp at hnot

namespace Anchor

theorem notMem_forward {c : Char} (hslash : c ≠ '/') {name : String} (h : c ∉ name.toList) :
    c ∉ (FileName.forward name).toList := by
  intro hm
  rw [FileName.forward, String.toList_ofList, List.mem_map] at hm
  obtain ⟨a, ha, hs⟩ := hm
  unfold FileName.slash at hs
  split at hs
  · exact hslash hs.symm
  · exact h (hs ▸ ha)

theorem toList_directive (line : Nat) (identity : String) :
    (directive line identity).toList =
      '#' :: ("line".toList ++ ' ' :: (Text.decimal line ++
        ' ' :: ('"' :: (FileName.forward identity).toList ++ ['"']))) := by
  have hsign : (toString "#line ").toList = '#' :: ("line".toList ++ [' ']) := rfl
  have hquote : (toString " \"").toList = [' ', '"'] := rfl
  have hline : (toString line).toList = Text.decimal line := by
    rw [Nat.toString_eq_ofList_toDigits, String.toList_ofList, Text.decimal]
  simp only [directive, String.toList_append, hsign, hquote, hline]
  simp

/-- A marker has only digits, slashes and the characters of its own beside those of the name. -/
theorem notMem_marker (mode : Mode) (startLine : Nat) {c : Char} {identity : String}
    (hslash : c ≠ '/') (hdigit : c.isDigit = false) (hown : c ∉ "#line \"".toList)
    (h : c ∉ identity.toList) : c ∉ (mode.marker startLine identity).toList := by
  cases mode with
  | firstLineOffset => simp [Mode.marker]
  | lineDirective =>
      have hdigits : c ∉ Text.decimal (startLine + 1) := by
        intro hm
        rw [Nat.isDigit_of_mem_toDigits (by decide) (by decide) hm] at hdigit
        cases hdigit
      have hname := notMem_forward hslash h
      rw [Mode.marker, toList_directive]
      simp_all

end Anchor

namespace Region

/-- The body of a region without the backticks that the opening fence goes on with. -/
def inner (r : Region) : List Char :=
  r.body.dropWhile (· == '`')

theorem exists_body_eq_replicate_append (r : Region) :
    ∃ n, r.body = List.replicate n '`' ++ r.inner :=
  ⟨ticks r.body, eq_replicate_ticks_append r.body⟩

/-- A tagged body: backticks of a longer fence, the tag, and what follows it. -/
theorem exists_body_eq_of_tag? {r : Region} {tag : List Char} (h : r.tag? = some tag) :
    ∃ n rest, r.body = List.replicate n '`' ++ tag ++ rest ∧ tag ≠ [] ∧
      ∀ c ∈ tag, Text.isWord c = true := by
  unfold tag? at h
  split at h
  · cases h
  · next hne =>
      cases h
      obtain ⟨n, hbody⟩ := r.exists_body_eq_replicate_append
      refine ⟨n, r.inner.dropWhile Text.isWord, ?_, hne, ?_⟩
      · rw [List.append_assoc, ← inner, List.takeWhile_append_dropWhile]
        exact hbody
      · exact List.all_eq_true.1 (List.all_takeWhile (p := Text.isWord))

/-- What stands in front of the closing fence ends at it, also from a later place on. -/
theorem Closed.split?_of_body_eq {r : Region} (h : r.Closed) {u s : List Char}
    (hbody : r.body = u ++ s) : Text.split? fence (s ++ fence) = some (s, []) := by
  unfold Closed at h
  rw [hbody] at h
  exact Text.split?_inside (u := u) (v := []) (by simpa using h) (by simp)

end Region

namespace Fragment

theorem replaceAll_fence_of_notMem {s : List Char} (h : '`' ∉ s) :
    Text.replaceAll fence [] s = s :=
  Text.replaceAll_of_split?_eq_none
    (Text.split?_eq_none_iff.2 fun hpart => h (hpart.subset (by simp [fence])))

section Ticks

variable {n : Nat} {s : List Char}

/-- Of backticks in a row every three go away. -/
theorem replaceAll_fence_replicate (n : Nat) :
    Text.replaceAll fence [] (List.replicate n '`') = List.replicate (n % 3) '`' := by
  induction n using Nat.strongRecOn with
  | ind n ih =>
      by_cases hn : n < 3
      · have hnone : ¬ fence <:+: List.replicate n '`' := by
          intro hpart
          have hlength := hpart.length_le
          rw [List.length_replicate, fence_eq_replicate, List.length_replicate] at hlength
          omega
        rw [Text.replaceAll_of_split?_eq_none (Text.split?_eq_none_iff.2 hnone),
          Nat.mod_eq_of_lt hn]
      · obtain ⟨k, rfl⟩ := Nat.exists_eq_add_of_le (Nat.le_of_not_lt hn)
        have hrun : List.replicate (3 + k) '`' = fence ++ List.replicate k '`' := by
          rw [fence_eq_replicate, List.replicate_append_replicate]
        rw [Text.replaceAll_of_split?_eq_some fence_ne_nil (Text.split?_eq_some_of_eq_append hrun),
          ih k (by omega), Nat.add_mod_left]
        rfl

/-- A text that ends at its first fence begins with fewer than three backticks. -/
theorem lt_three_of_split?
    (h : Text.split? fence (List.replicate n '`' ++ s ++ fence) =
      some (List.replicate n '`' ++ s, [])) : n < 3 := by
  apply Nat.lt_of_not_le
  intro hn
  obtain ⟨k, rfl⟩ := Nat.exists_eq_add_of_le hn
  apply (Text.split?_eq_some_iff.1 h).2 0
  · simp only [List.length_append, List.length_replicate]
    omega
  · rw [List.drop_zero, ← List.replicate_append_replicate, ← fence_eq_replicate]
    simp

/-- Between backticks and the closing fence a text stays as it is, if it holds no fence and
begins with another character. -/
theorem replaceAll_fence_replicate_append (n : Nat) (hhead : s.head? ≠ some '`')
    (hs : Text.split? fence (s ++ fence) = some (s, [])) :
    Text.replaceAll fence [] (List.replicate n '`' ++ s ++ fence) =
      List.replicate (n % 3) '`' ++ s := by
  cases s with
  | nil =>
      rw [List.append_nil, List.append_nil, fence_eq_replicate, List.replicate_append_replicate,
        ← fence_eq_replicate, replaceAll_fence_replicate, Nat.add_mod_right]
  | cons c s =>
      have hwall : c ∉ fence := by
        intro hmem
        have hc : c = '`' := by simpa [fence] using hmem
        exact hhead (by rw [hc]; rfl)
      have hlater : Text.split? fence (s ++ fence) = some (s, []) :=
        Text.split?_inside (u := [c]) (v := []) (by simpa using hs) (by simp)
      rw [List.append_assoc, List.cons_append, Text.replaceAll_append_cons fence_ne_nil hwall,
        replaceAll_fence_replicate, Text.replaceAll_of_split?_eq_some fence_ne_nil hlater,
        Text.replaceAll_nil fence_ne_nil]
      simp

end Ticks

/-- The fence that stands right before the tag is the first one that a tag follows. -/
theorem split?_fence_append_tag {n : Nat} {tag : List Char} (hne : tag ≠ [])
    (hword : ∀ c ∈ tag, Text.isWord c = true) (rest : List Char) :
    Text.split? (fence ++ tag) (fence ++ List.replicate n '`' ++ tag ++ rest) =
      some (List.replicate n '`', rest) := by
  refine Text.split?_eq_some_iff.2 ⟨by simp [fence_append_replicate], fun k hk hp => ?_⟩
  obtain ⟨c, tag, rfl⟩ := List.exists_cons_of_ne_nil hne
  rw [List.length_replicate] at hk
  -- Earlier, a fourth backtick stands where the tag would begin.
  have hdrop : (fence ++ List.replicate n '`' ++ c :: tag ++ rest).drop k =
      fence ++ '`' :: (List.replicate (n - k - 1) '`' ++ c :: tag ++ rest) := by
    have hsum : 3 + n = k + (3 + (n - k - 1 + 1)) := by omega
    rw [fence_eq_replicate, List.replicate_append_replicate, hsum,
      ← List.replicate_append_replicate,
      List.append_assoc, List.append_assoc, List.drop_left' (List.length_replicate ..),
      ← List.replicate_append_replicate]
    simp [List.replicate_succ]
  rw [hdrop] at hp
  have hc := (List.cons_prefix_cons.1 ((List.prefix_append_right_inj fence).1 hp)).1
  have hw := hword c (by simp)
  rw [hc, isWord_backtick] at hw
  cases hw

variable {t : Target} {identity : String}

theorem staged_raw_eq {r : Region} {tag marker rest : List Char} {n : Nat}
    (hesc : r.escaped = false) (hbody : r.body = List.replicate n '`' ++ tag ++ rest)
    (hne : tag ≠ []) (hword : ∀ c ∈ tag, Text.isWord c = true) :
    staged tag marker r.raw =
      Text.replaceAll fence [] (List.replicate n '`' ++ marker ++ rest ++ fence) := by
  have hraw : r.raw = fence ++ List.replicate n '`' ++ tag ++ (rest ++ fence) := by
    simp [Region.raw, hesc, hbody]
  rw [staged, Text.replaceFirst, hraw, split?_fence_append_tag hne hword]
  simp

/-- A region without a second line is staged on one line. -/
theorem newline_notMem_staged {r : Region} {tag marker rest : List Char} {n : Nat}
    (hesc : r.escaped = false) (hbody : r.body = List.replicate n '`' ++ tag ++ rest)
    (hne : tag ≠ []) (hword : ∀ c ∈ tag, Text.isWord c = true) (hmarker : '\n' ∉ marker)
    (hrest : '\n' ∉ rest) : '\n' ∉ staged tag marker r.raw := by
  rw [staged_raw_eq hesc hbody hne hword]
  intro hm
  rcases Text.mem_of_mem_replaceAll fence_ne_nil _ hm with hm | hm
  · simp [fence, hmarker, hrest] at hm
  · cases hm

/-- From the second line on, the staged text is the body. -/
theorem staged_eq_append_cons {r : Region} {tag marker first later : List Char} {n : Nat}
    (hesc : r.escaped = false)
    (hbody : r.body = List.replicate n '`' ++ tag ++ (first ++ '\n' :: later))
    (hne : tag ≠ []) (hword : ∀ c ∈ tag, Text.isWord c = true) (hclosed : r.Closed)
    (hmarker : '\n' ∉ marker) (hfirst : '\n' ∉ first) :
    ∃ opening, '\n' ∉ opening ∧ staged tag marker r.raw = opening ++ '\n' :: later := by
  refine ⟨Text.replaceAll fence [] (List.replicate n '`' ++ marker ++ first), ?_, ?_⟩
  · intro hm
    rcases Text.mem_of_mem_replaceAll fence_ne_nil _ hm with hm | hm
    · simp [hmarker, hfirst] at hm
    · cases hm
  · have hlater : Text.split? fence (later ++ fence) = some (later, []) :=
      hclosed.split?_of_body_eq (u := List.replicate n '`' ++ tag ++ first ++ ['\n'])
        (by simp [hbody])
    rw [staged_raw_eq hesc hbody hne hword]
    have htext : List.replicate n '`' ++ marker ++ (first ++ '\n' :: later) ++ fence =
        List.replicate n '`' ++ marker ++ first ++ '\n' :: (later ++ fence) := by simp
    rw [htext, Text.replaceAll_append_cons fence_ne_nil newline_notMem_fence,
      Text.replaceAll_of_split?_eq_some fence_ne_nil hlater,
      Text.replaceAll_nil fence_ne_nil]
    simp

end Fragment

end FenceCheck
