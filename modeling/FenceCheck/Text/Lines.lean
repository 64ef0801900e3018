namespace FenceCheck.Text

/-!
# Cells and lines

A text is cut into cells at a separating character, and nothing else is lost: joining
the cells gives the text back. Bytes are cut the same way. The lines of a text are its cells between line feeds.
`shown` is the reading used for messages: a final line feed opens no further line, and
a carriage return in front of a line feed belongs to it.
-/

variable {α : Type} [DecidableEq α]

/-- The pieces of a text between the separators, at least one. -/
def cells (sep : α) (s : List α) : List (List α) :=
  s.foldr (fun c rest =>
    if c = sep then [] :: rest
    else match rest with
      | [] => [[c]]
      | cell :: more => (c :: cell) :: more) [[]]

@[simp] theorem cells_nil (sep : α) : cells sep [] = [[]] := rfl

@[simp] theorem cells_sep (sep : α) (s : List α) :
    cells sep (sep :: s) = [] :: cells sep s := by
  simp [cells]

theorem cells_ne_nil (sep : α) (s : List α) : cells sep s ≠ [] := by
  induction s with
  | nil => simp
  | cons c s ih =>
      by_cases h : c = sep
      · simp [h]
      · simp only [cells, List.foldr_cons, h, if_false]
        split <;> simp

theorem cells_cons {sep c : α} (s : List α) (h : c ≠ sep) :
    cells sep (c :: s) =
      (c :: (cells sep s).head (cells_ne_nil sep s)) :: (cells sep s).tail := by
  have hne := cells_ne_nil sep s
  simp only [cells, List.foldr_cons, h, if_false] at *
  split
  · contradiction
  · next heq => simp [heq]

/-- Joining the cells gives the text back. -/
theorem intercalate_cells (sep : α) (s : List α) :
    List.intercalate [sep] (cells sep s) = s := by
  induction s with
  | nil => rfl
  | cons c s ih =>
      obtain ⟨l, ls, hl⟩ := List.exists_cons_of_ne_nil (cells_ne_nil sep s)
      by_cases h : c = sep
      · subst h
        rw [cells_sep, hl]
        rw [hl] at ih
        simp [List.intercalate, List.intersperse, ← ih]
      · rw [cells_cons s h]
        simp only [hl, List.head_cons, List.tail_cons]
        rw [hl] at ih
        cases ls <;> simp_all [List.intercalate, List.intersperse]

theorem sep_notMem_of_mem_cells {sep : α} {s l : List α} (h : l ∈ cells sep s) :
    sep ∉ l := by
  induction s generalizing l with
  | nil => simp_all
  | cons c s ih =>
      by_cases hc : c = sep
      · subst hc
        rw [cells_sep] at h
        rcases List.mem_cons.1 h with rfl | h
        · simp
        · exact ih h
      · rw [cells_cons s hc] at h
        rcases List.mem_cons.1 h with rfl | h
        · have := ih (List.head_mem (cells_ne_nil sep s))
          simp [this, Ne.symm hc]
        · exact ih (List.mem_of_mem_tail h)

/-- The pieces of a text between its line feeds. -/
abbrev lines (s : List Char) : List (List Char) :=
  cells '\n' s

/-- A line without the carriage return that ends it, if one does. -/
def bare (line : List Char) : List Char :=
  if line.getLast? = some '\r' then line.dropLast else line

/-- The lines of a message: an empty text has none, and the last line keeps a
carriage return that no line feed follows. -/
def shown (s : List Char) : List (List Char) :=
  match (lines s).reverse with
  | [] => []
  | last :: others =>
      others.reverse.map bare ++ (if last = [] then [] else [last])

end FenceCheck.Text
