import FenceCheck.Proofs.Text.ByteOrder
import Mathlib.Order.Monotone.Defs
import Mathlib.Order.Nat

namespace FenceCheck

/-!
# The line of an offset

Lines start one behind the other, so those that start up to an offset are the first ones of the
table, and halving finds how many they are. It is one more than the line feeds in front of the
offset: a line feed is one byte, and no longer character has that byte in it, so an offset in the
midst of a character makes no difference. Looking up the start of a line gives back the line.
-/

namespace LineTable

theorem lt_of_mem_behindNewlines {offset start : Nat} {s : List Char}
    (h : start ∈ behindNewlines offset s) : offset < start := by
  induction s generalizing offset with
  | nil => cases h
  | cons c s ih =>
      rw [behindNewlines] at h
      split at h
      · rcases List.mem_cons.1 h with rfl | h
        · exact Nat.lt_succ_self offset
        · exact Nat.lt_of_succ_lt (ih h)
      · exact Nat.lt_of_le_of_lt (Nat.le_add_right offset _) (ih h)

/-- The places behind line feeds up to an offset are as many as the line feeds in front of it. -/
theorem countP_behindNewlines (offset n : Nat) (s : List Char) :
    (behindNewlines offset s).countP (fun start => start ≤ offset + n) =
      ((Text.bytes s).take n).count 10 := by
  have hnone : ∀ {a b : Nat} {s : List Char}, b ≤ a →
      (behindNewlines a s).countP (fun start => start ≤ b) = 0 := by
    intro a b s hle
    refine List.countP_eq_zero.2 fun start hstart => ?_
    have hlt := lt_of_mem_behindNewlines hstart
    rw [decide_eq_true_eq]
    omega
  induction s generalizing offset n with
  | nil => simp [behindNewlines, Text.bytes]
  | cons c s ih =>
      rw [behindNewlines, Text.bytes, List.flatMap_cons, ← Text.bytes]
      by_cases hc : c = '\n'
      · subst hc
        have hencode : String.utf8EncodeChar '\n' = [10] := rfl
        rw [if_pos rfl, hencode]
        cases n with
        | zero =>
            rw [List.countP_cons_of_neg (by simp), hnone (by omega), List.take_zero]
            rfl
        | succ n =>
            have hmore := ih (offset + 1) n
            rw [Nat.add_right_comm, Nat.add_assoc] at hmore
            rw [List.countP_cons_of_pos (by simp), hmore, List.singleton_append,
              List.take_succ_cons, List.count_cons_self]
      · have hclear := Text.newline_notMem_utf8EncodeChar hc
        have hfirst : ((String.utf8EncodeChar c).take n).count 10 = 0 :=
          List.count_eq_zero.2 fun hmem => hclear (List.mem_of_mem_take hmem)
        rw [if_neg hc, List.take_append, List.count_append, hfirst, Nat.zero_add,
          String.length_utf8EncodeChar]
        by_cases hn : c.utf8Size ≤ n
        · have hmore := ih (offset + c.utf8Size) (n - c.utf8Size)
          rwa [Nat.add_assoc, Nat.add_sub_cancel' hn] at hmore
        · -- The offset is in the midst of the character, and nothing behind it counts.
          rw [hnone (by omega), Nat.sub_eq_zero_of_le (by omega), List.take_zero]
          rfl

theorem lineOf_eq_count (s : List Char) (offset : Nat) :
    lineOf (lineTable s) offset = 1 + ((Text.bytes s).take offset).count 10 := by
  have hstarts : lineOf (lineTable s) offset =
      (0 :: behindNewlines 0 s).countP fun start => start ≤ offset := by
    rw [← map_start_tabulate, ← lineTable, List.countP_map]
    rfl
  have hcount := countP_behindNewlines 0 offset s
  rw [Nat.zero_add] at hcount
  rw [hstarts, List.countP_cons_of_pos (by simp), hcount, Nat.add_comm]

theorem pairwise_start_tabulate (offset : Nat) (raws : List (List Char)) :
    (tabulate offset raws).Pairwise fun l m => l.start < m.start := by
  induction raws generalizing offset with
  | nil => exact List.Pairwise.nil
  | cons raw raws ih =>
      refine List.pairwise_cons.2 ⟨fun m hm => ?_, ih _⟩
      have hle := le_start_of_mem_tabulate hm
      exact Nat.lt_of_lt_of_le (Nat.lt_succ_of_le (Nat.le_add_right offset _)) hle

theorem pairwise_start (s : List Char) : (lineTable s).Pairwise fun l m => l.start < m.start :=
  pairwise_start_tabulate 0 (Text.lines s)

variable {table : List Line}

/-- The lines that start up to an offset are the first ones. -/
theorem lt_lineOf_iff (hsorted : table.Pairwise fun l m => l.start < m.start) {n : Nat} {l : Line}
    (hl : table[n]? = some l) (offset : Nat) : n < lineOf table offset ↔ l.start ≤ offset := by
  induction table generalizing n with
  | nil => cases hl
  | cons first table ih =>
      obtain ⟨hlater, hsorted⟩ := List.pairwise_cons.1 hsorted
      by_cases hfirst : first.start ≤ offset
      · have hcons := lineOf_cons hfirst first.raw table
        rw [hcons]
        cases n with
        | zero =>
            obtain rfl := Option.some.inj hl
            exact iff_of_true (Nat.succ_pos _) hfirst
        | succ n =>
            rw [Nat.add_lt_add_iff_right]
            exact ih hsorted hl
      · have hnone : lineOf (first :: table) offset = 0 := by
          refine List.countP_eq_zero.2 fun m hm => ?_
          rw [decide_eq_true_eq]
          rcases List.mem_cons.1 hm with rfl | hm
          · exact hfirst
          · have hlt := hlater m hm
            omega
        have hstart : first.start ≤ l.start := by
          rcases List.mem_cons.1 (List.mem_of_getElem? hl) with rfl | hmem
          · exact Nat.le_refl _
          · exact Nat.le_of_lt (hlater l hmem)
        rw [hnone]
        omega

theorem lineOf_le_length (table : List Line) (offset : Nat) : lineOf table offset ≤ table.length :=
  List.countP_le_length

theorem lineOf_pos (s : List Char) (offset : Nat) : 0 < lineOf (lineTable s) offset := by
  rw [lineOf_eq_count]
  exact Nat.add_pos_left Nat.one_pos _

theorem start?_eq_some_iff {n start : Nat} :
    start? table n = some start ↔ ∃ k l, n = k + 1 ∧ table[k]? = some l ∧ l.start = start := by
  cases n with
  | zero => simp [start?, line?]
  | succ n => simp [start?, line?]

/-- The number of places from `low` on, out of `size`, that pass a test, when those that pass it
stand before those that do not. -/
def bisect (test : Nat → Bool) (low size : Nat) : Nat :=
  if size = 0 then low
  else if test (low + size / 2) then bisect test (low + size / 2 + 1) (size - size / 2 - 1)
  else bisect test low (size / 2)
termination_by size
decreasing_by all_goals omega

theorem bisect_eq {test : Nat → Bool} {low size bound : Nat} (hlow : low ≤ bound)
    (hbound : bound ≤ low + size)
    (htest : ∀ i, low ≤ i → i < low + size → (test i = true ↔ i < bound)) :
    bisect test low size = bound := by
  fun_induction bisect test low size with
  | case1 => omega
  | case2 low size hsize hmiddle ih =>
      have hlt := (htest _ (by omega) (by omega)).1 hmiddle
      apply ih hlt (by omega)
      intro i hi hi'
      exact htest i (by omega) (by omega)
  | case3 low size hsize hmiddle ih =>
      have hle : ¬ low + size / 2 < bound := fun h =>
        hmiddle ((htest _ (by omega) (by omega)).2 h)
      apply ih hlow (by omega)
      intro i hi hi'
      exact htest i hi (by omega)

/-- The line of an offset, looked up by halving among the places behind line feeds. An offset past
the end counts as the end. -/
def lineBySearch (text : String) (offset : Nat) : Nat :=
  let starts := 0 :: behindNewlines 0 text.toList
  bisect (fun n => starts.getD n 0 ≤ min offset text.utf8ByteSize) 0 starts.length

theorem lineOf_min_size (text : String) (offset : Nat) :
    lineOf (lineTable text.toList) (min offset text.utf8ByteSize) =
      lineOf (lineTable text.toList) offset := by
  rw [lineOf_eq_count, lineOf_eq_count, ← Text.byteLength_toList, ← Text.length_bytes,
    ← List.take_eq_take_min]

theorem lineBySearch_eq (text : String) (offset : Nat) :
    lineBySearch text offset = lineOf (lineTable text.toList) offset := by
  have hstarts : 0 :: behindNewlines 0 text.toList = (lineTable text.toList).map Line.start :=
    (map_start_tabulate 0 text.toList).symm
  rw [lineBySearch, ← lineOf_min_size, hstarts, List.length_map]
  apply bisect_eq (Nat.zero_le _)
  · rw [Nat.zero_add]
    exact lineOf_le_length _ _
  · intro n _ hn
    rw [Nat.zero_add] at hn
    have hline := List.getElem?_eq_getElem hn
    rw [lt_lineOf_iff (pairwise_start _) hline, decide_eq_true_eq, List.getD_eq_getElem?_getD,
      List.getElem?_map, hline]
    rfl

variable {s : List Char} {n : Nat}

/-- The line of an offset starts no later, and the line behind it does. -/
theorem exists_start?_lineOf (s : List Char) (offset : Nat) :
    (∃ start, start? (lineTable s) (lineOf (lineTable s) offset) = some start ∧ start ≤ offset) ∧
      ∀ next, start? (lineTable s) (lineOf (lineTable s) offset + 1) = some next →
        offset < next := by
  constructor
  · obtain ⟨k, hk⟩ := Nat.exists_eq_add_one.2 (lineOf_pos s offset)
    have hle := lineOf_le_length (lineTable s) offset
    have hline := List.getElem?_eq_getElem (l := lineTable s) (i := k) (by omega)
    refine ⟨_, start?_eq_some_iff.2 ⟨k, _, hk, hline, rfl⟩, ?_⟩
    apply (lt_lineOf_iff (pairwise_start s) hline offset).1
    omega
  · intro next hnext
    obtain ⟨k, l, hk, hline, rfl⟩ := start?_eq_some_iff.1 hnext
    apply Nat.lt_of_not_le
    intro hle
    have hlt := (lt_lineOf_iff (pairwise_start s) hline offset).2 hle
    omega

/-- A line is that of the offset where it starts. -/
theorem exists_lineOf_start (hone : 1 ≤ n) (hn : n ≤ (lineTable s).length) :
    ∃ start, start? (lineTable s) n = some start ∧ lineOf (lineTable s) start = n := by
  obtain ⟨k, rfl⟩ := Nat.exists_eq_add_one.2 hone
  have hline := List.getElem?_eq_getElem hn
  refine ⟨_, start?_eq_some_iff.2 ⟨k, _, rfl, hline, rfl⟩, ?_⟩
  apply Nat.le_antisymm
  · -- Otherwise the next line would start no later than this one.
    by_contra hlt
    have hlength := lineOf_le_length (lineTable s) (lineTable s)[k].start
    have hnext : k + 1 < (lineTable s).length := by omega
    have hless := List.pairwise_iff_getElem.1 (pairwise_start s) k (k + 1) hn hnext
      (Nat.lt_succ_self k)
    have hstart := (lt_lineOf_iff (pairwise_start s) (List.getElem?_eq_getElem hnext) _).1
      (Nat.lt_of_not_le hlt)
    exact Nat.not_le_of_lt hless hstart
  · exact (lt_lineOf_iff (pairwise_start s) hline _).2 (Nat.le_refl _)

theorem lineOf_mono (table : List Line) : Monotone (lineOf table) := by
  intro offset offset' hle
  apply List.countP_mono_left
  intro l _ hl
  rw [decide_eq_true_eq] at hl ⊢
  exact Nat.le_trans hl hle

/-- The line of an offset is found by halving, and it is one more than the line feeds in front of
the offset; it is the last line that starts no later. Each line is that of its own start, and
lines come in the order of offsets. -/
theorem lineOf_adjoint (text : String) :
    let table := lineTable text.toList
    (∀ offset, lineOf table offset = lineBySearch text offset ∧
      lineOf table offset =
        1 + (text.toUTF8.data.toList.take (min offset text.utf8ByteSize)).count 10 ∧
      (∃ start, start? table (lineOf table offset) = some start ∧
        start ≤ min offset text.utf8ByteSize) ∧
      ∀ next, start? table (lineOf table offset + 1) = some next →
        min offset text.utf8ByteSize < next) ∧
    (∀ n, 1 ≤ n → n ≤ table.length →
      ∃ start, start? table n = some start ∧ lineOf table start = n) ∧
    Monotone (lineOf table) := by
  refine ⟨fun offset => ⟨(lineBySearch_eq text offset).symm, ?_, ?_⟩, ?_, lineOf_mono _⟩
  · rw [← lineOf_min_size, lineOf_eq_count, Text.toUTF8_eq_bytes, List.data_toByteArray]
  · rw [← lineOf_min_size]
    exact exists_start?_lineOf text.toList _
  · intro n hone hn
    exact exists_lineOf_start hone hn

/-- An offset in the midst of a character behind a carriage return and a line feed, and one past
the end. -/
theorem lineOf_adjoint_wideLine :
    let table := lineTable "a\r\né\n".toList
    lineOf table 4 = 2 ∧ lineOf table 100 = 3 ∧ 1 ≤ 3 ∧ 3 ≤ table.length ∧
      ∃ start, start? table 3 = some start ∧ lineOf table start = 3 := by
  intro table
  obtain ⟨-, hstarts, -⟩ := lineOf_adjoint "a\r\né\n"
  have hlength : 3 ≤ table.length := by decide
  exact ⟨by decide, by decide, by decide, hlength, hstarts 3 (by decide) hlength⟩

end LineTable

end FenceCheck
