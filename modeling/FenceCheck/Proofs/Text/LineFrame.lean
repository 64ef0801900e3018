import FenceCheck.Document.LineTable

namespace FenceCheck.Text

/-!
# Where a line stands in its text

A line of a text is a stretch without line feeds that begins the text or follows a line
feed, and ends it or precedes one. Its number is the number of line feeds before it. Both
directions are needed: a line that is found by number is cut out of the text, and a
stretch that is framed in this way is found again by number and by offset.
-/

section Cells

variable {α : Type} [DecidableEq α]

theorem cells_eq_splitOn (sep : α) (s : List α) : cells sep s = s.splitOn sep := by
  induction s with
  | nil => rfl
  | cons c s ih =>
      have hcons := List.splitOn_cons_eq_if_modifyHead (a := sep) c s
      by_cases hc : c = sep
      · subst hc
        simpa [ih] using hcons.symm
      · obtain ⟨l, ls, hl⟩ := List.exists_cons_of_ne_nil (cells_ne_nil sep s)
        rw [hcons, cells_cons s hc, ← ih]
        simp [hc, hl]

theorem cells_append_cons (sep : α) (s t : List α) :
    cells sep (s ++ sep :: t) = cells sep s ++ cells sep t := by
  simp only [cells_eq_splitOn, List.splitOn_eq_splitOnP]
  exact List.splitOnP_append_cons s t (by simp)

theorem cells_of_notMem {sep : α} {s : List α} (h : sep ∉ s) : cells sep s = [s] := by
  rw [cells_eq_splitOn]
  exact List.splitOn_eq_singleton h

theorem length_cells (sep : α) (s : List α) : (cells sep s).length = s.count sep + 1 := by
  induction s with
  | nil => rfl
  | cons c s ih =>
      by_cases hc : c = sep
      · subst hc
        simp [ih]
      · rw [cells_cons s hc, List.length_cons, List.length_tail, ih, List.count_cons_of_ne hc]
        omega

omit [DecidableEq α] in
/-- A text as the cell at one place with what stands before and after it. -/
theorem intercalate_append_cons (sep : α) (before : List (List α)) (cell : List α)
    (after : List (List α)) :
    List.intercalate [sep] (before ++ cell :: after) =
      before.flatMap (· ++ [sep]) ++ cell ++ after.flatMap (sep :: ·) := by
  induction before with
  | nil =>
      induction after generalizing cell with
      | nil => simp [List.intercalate]
      | cons next after ih =>
          simp only [List.nil_append, List.flatMap_nil] at ih
          simp [List.intercalate, ← ih next]
  | cons first before ih =>
      obtain ⟨l, ls, hl⟩ := List.exists_cons_of_ne_nil
        (show before ++ cell :: after ≠ [] by simp)
      rw [hl] at ih
      rw [List.cons_append, hl]
      simp only [List.flatMap_cons, List.append_assoc] at ih ⊢
      rw [← ih]
      simp [List.intercalate, List.intersperse]

theorem count_flatMap_append_singleton {sep : α} {cs : List (List α)} (h : ∀ c ∈ cs, sep ∉ c) :
    (cs.flatMap (· ++ [sep])).count sep = cs.length := by
  induction cs with
  | nil => rfl
  | cons c cs ih =>
      have hc : c.count sep = 0 := List.count_eq_zero.2 (h c (by simp))
      have hcs := ih fun c hm => h c (by simp [hm])
      simp [hc, hcs]

end Cells

/-- A stretch `l` of a text with `u` before and `v` after it is one of its lines. -/
structure Framed (u l v : List Char) : Prop where
  clear : '\n' ∉ l
  opened : u = [] ∨ ∃ u', u = u' ++ ['\n']
  closed : v = [] ∨ ∃ v', v = '\n' :: v'

namespace Framed

/-- The frame of a line in the text behind a line feed. -/
theorem after {u l v : List Char} (h : Framed u l v) (s : List Char) :
    Framed (s ++ '\n' :: u) l v := by
  refine ⟨h.clear, .inr ?_, h.closed⟩
  rcases h.opened with rfl | ⟨u', rfl⟩
  · exact ⟨s, by simp⟩
  · exact ⟨s ++ '\n' :: u', by simp⟩

/-- The last line of a text goes on up to the next line feed of what follows. -/
theorem extend {u l : List Char} (h : Framed u l []) (s : List Char) :
    Framed u (l ++ s.takeWhile (· != '\n')) (s.dropWhile (· != '\n')) := by
  refine ⟨?_, h.opened, ?_⟩
  · intro hm
    rcases List.mem_append.1 hm with hm | hm
    · exact h.clear hm
    · have hall := List.all_takeWhile (p := (· != '\n')) (l := s)
      simpa using List.all_eq_true.1 hall '\n' hm
  · cases hd : s.dropWhile (· != '\n') with
    | nil => exact .inl rfl
    | cons c rest =>
        have hc := List.head?_dropWhile_not (· != '\n') s
        rw [hd] at hc
        exact .inr ⟨rest, by simp_all⟩

end Framed

theorem exists_framed_of_getElem?_lines {s l : List Char} {n : Nat}
    (h : (lines s)[n]? = some l) :
    ∃ u v, s = u ++ l ++ v ∧ Framed u l v ∧ u.count '\n' = n := by
  obtain ⟨hn, hl⟩ := List.getElem?_eq_some_iff.1 h
  have hsplit : lines s = (lines s).take n ++ l :: (lines s).drop (n + 1) := by
    rw [← hl, List.getElem_cons_drop, List.take_append_drop]
  have hclear : ∀ c ∈ lines s, '\n' ∉ c := fun c hc => sep_notMem_of_mem_cells hc
  refine ⟨((lines s).take n).flatMap (· ++ ['\n']), ((lines s).drop (n + 1)).flatMap ('\n' :: ·),
    ?_, ⟨hclear l (List.mem_of_getElem? h), ?_, ?_⟩, ?_⟩
  · rw [← intercalate_append_cons, ← hsplit]
    exact (intercalate_cells '\n' s).symm
  · rcases List.eq_nil_or_concat ((lines s).take n) with hnil | ⟨init, last, hlast⟩
    · exact .inl (by simp [hnil])
    · exact .inr ⟨init.flatMap (· ++ ['\n']) ++ last, by simp [hlast]⟩
  · cases (lines s).drop (n + 1) with
    | nil => exact .inl rfl
    | cons c cs => exact .inr ⟨_, rfl⟩
  · rw [count_flatMap_append_singleton fun c hc => hclear c (List.mem_of_mem_take hc)]
    exact List.length_take_of_le (Nat.le_of_lt hn)

end FenceCheck.Text

namespace FenceCheck.LineTable

theorem tabulate_append (offset : Nat) (xs ys : List (List Char)) :
    tabulate offset (xs ++ ys) =
      tabulate offset xs ++
        tabulate (offset + Text.byteLength (xs.flatMap (· ++ ['\n']))) ys := by
  induction xs generalizing offset with
  | nil => simp [tabulate]
  | cons x xs ih =>
      have hnewline : ('\n' : Char).utf8Size = 1 := rfl
      simp [tabulate, ih, Nat.add_assoc, hnewline]

theorem flatMap_lines (s : List Char) : (Text.lines s).flatMap (· ++ ['\n']) = s ++ ['\n'] := by
  rcases List.eq_nil_or_concat (Text.lines s) with hnil | ⟨init, last, hlast⟩
  · exact (Text.cells_ne_nil '\n' s hnil).elim
  · rw [List.concat_eq_append] at hlast
    have hjoined : List.intercalate ['\n'] (Text.lines s) = s := Text.intercalate_cells '\n' s
    rw [hlast, Text.intercalate_append_cons] at hjoined
    rw [hlast, ← hjoined]
    simp

theorem lineTable_append_cons (s t : List Char) :
    lineTable (s ++ '\n' :: t) =
      lineTable s ++ tabulate (Text.byteLength s + 1) (Text.lines t) := by
  have hnewline : Text.byteLength ['\n'] = 1 := rfl
  rw [lineTable, Text.lines, Text.cells_append_cons, tabulate_append, Nat.zero_add, flatMap_lines,
    Text.byteLength_append, hnewline]
  rfl

theorem length_lineTable (s : List Char) : (lineTable s).length = s.count '\n' + 1 := by
  rw [lineTable, length_tabulate, Text.lines, Text.length_cells]

/-- A framed line is in the table under its number, with the offset where it stands. -/
theorem getElem?_of_framed {u l v : List Char} (h : Text.Framed u l v) :
    (lineTable (u ++ l ++ v))[u.count '\n']? = some ⟨Text.byteLength u, l⟩ := by
  have hfirst : ∃ more, Text.lines (l ++ v) = l :: more := by
    rcases h.closed with rfl | ⟨v', rfl⟩
    · exact ⟨[], by simp [Text.lines, Text.cells_of_notMem h.clear]⟩
    · exact ⟨Text.lines v', by
        simp [Text.lines, Text.cells_append_cons, Text.cells_of_notMem h.clear]⟩
  obtain ⟨more, hmore⟩ := hfirst
  rcases h.opened with rfl | ⟨u', rfl⟩
  · simp [lineTable, hmore, tabulate]
  · have htext : u' ++ ['\n'] ++ l ++ v = u' ++ '\n' :: (l ++ v) := by simp
    have hcount : (u' ++ ['\n']).count '\n' = (lineTable u').length := by
      simp [length_lineTable]
    rw [htext, lineTable_append_cons, hmore, hcount, List.getElem?_append_right (Nat.le_refl _)]
    simp [tabulate]
    rfl

end FenceCheck.LineTable
