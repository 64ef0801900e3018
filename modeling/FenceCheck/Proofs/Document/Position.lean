import FenceCheck.Document
import FenceCheck.Proofs.Text.LineFrame

namespace FenceCheck

/-!
# Positions on a line

A position on a line that exists is where the line and the column say: nothing is moved
into the document, and the offset is what stands before the line and on it before the
column.
-/

namespace Text

/-- The carriage return that ends a line, if one does. -/
def returned (line : List Char) : List Char :=
  if line.getLast? = some '\r' then ['\r'] else []

theorem bare_append_returned (l : List Char) : bare l ++ returned l = l := by
  unfold bare returned
  split
  · next h =>
      obtain ⟨init, rfl⟩ := List.getLast?_eq_some_iff.1 h
      simp
  · exact List.append_nil l

/-- A line in its text, with its carriage return put to what comes behind it. -/
theorem append_bare_append (u l v : List Char) :
    u ++ l ++ v = u ++ bare l ++ (returned l ++ v) := by
  rw [List.append_assoc u (bare l), ← List.append_assoc (bare l), bare_append_returned,
    List.append_assoc]

theorem notMem_bare {c : Char} {l : List Char} (h : c ∉ l) : c ∉ bare l := by
  rw [← bare_append_returned l] at h
  exact fun hmem => h (List.mem_append_left _ hmem)

theorem length_bare_le (l : List Char) : (bare l).length ≤ l.length := by
  have hlength := congrArg List.length (bare_append_returned l)
  rw [List.length_append] at hlength
  omega

theorem length_le_length_bare_add_one (l : List Char) : l.length ≤ (bare l).length + 1 := by
  unfold bare
  split
  · simp
    omega
  · omega

theorem take_bare {l : List Char} {n : Nat} (h : n ≤ (bare l).length) :
    (bare l).take n = l.take n := by
  calc
    (bare l).take n = (bare l ++ returned l).take n := (List.take_append_of_le_length h).symm
    _ = l.take n := by rw [bare_append_returned]

end Text

namespace Document

/-- Whether a text stands in a document at a byte offset. -/
def HoldsAt (d : Document) (offset : Nat) (s : List Char) : Prop :=
  ∃ before after, d.text.toList = before ++ s ++ after ∧ Text.byteLength before = offset

/-- What stands on a part of a text stands at the offset of that part. -/
theorem HoldsAt.drop {d : Document} {offset : Nat} {s : List Char} (h : d.HoldsAt offset s)
    (n : Nat) : d.HoldsAt (offset + byteOffset s n) (s.drop n) := by
  obtain ⟨before, after, htext, hoffset⟩ := h
  refine ⟨before ++ s.take n, after, ?_, ?_⟩
  · rw [htext]
    simp
  · simp [byteOffset, hoffset]

theorem lineCount_eq (d : Document) : d.lineCount = d.text.toList.count '\n' + 1 :=
  LineTable.length_lineTable _

theorem clampLine_of_le {d : Document} {line : Nat} (h₁ : 1 ≤ line) (h₂ : line ≤ d.lineCount) :
    d.clampLine line = line := by
  unfold clampLine
  omega

/-- A line that is too small is not moved past the first, and a larger one never further on. -/
theorem line_positionAt_le (d : Document) (line column : Nat) :
    (d.positionAt line column).line ≤ line - 1 := by
  have hclamp : d.clampLine line ≤ max line 1 := Nat.min_le_left _ _
  simp only [positionAt]
  omega

theorem getElem?_table_of_framed {d : Document} {u l v : List Char}
    (htext : d.text.toList = u ++ l ++ v) (h : Text.Framed u l v) :
    d.table[u.count '\n']? = some ⟨Text.byteLength u, l⟩ := by
  rw [table, htext]
  exact LineTable.getElem?_of_framed h

theorem positionAt_of_framed {d : Document} {u l v : List Char}
    (htext : d.text.toList = u ++ l ++ v) (h : Text.Framed u l v) {column : Nat}
    (hcolumn : column ≤ (Text.bare l).length) :
    d.positionAt (u.count '\n' + 1) column =
      ⟨u.count '\n', column, Text.byteLength u + byteOffset l column⟩ := by
  have hline := getElem?_table_of_framed htext h
  have hcount : u.count '\n' + 1 ≤ d.lineCount := by
    rw [lineCount_eq, htext]
    simp only [List.count_append]
    omega
  have hclamp : d.clampLine (u.count '\n' + 1) - 1 = u.count '\n' := by
    rw [clampLine_of_le (Nat.le_add_left 1 _) hcount, Nat.add_sub_cancel]
  have hget : d.table.getD (u.count '\n') ⟨0, []⟩ = ⟨Text.byteLength u, l⟩ := by
    rw [List.getD_eq_getElem?_getD, hline, Option.getD_some]
  simp only [positionAt, hclamp, hget, Line.text, Nat.min_eq_left hcolumn, byteOffset,
    Text.take_bare hcolumn]

/-- No smaller number leads to a position on that line. -/
theorem positionAt_eq_iff_of_framed {d : Document} {u l v : List Char}
    (htext : d.text.toList = u ++ l ++ v) (h : Text.Framed u l v) {line column : Nat}
    (hcolumn : column ≤ (Text.bare l).length) (hpos : 0 < line)
    (hle : line ≤ u.count '\n' + 1) :
    d.positionAt line column =
        ⟨u.count '\n', column, Text.byteLength u + byteOffset l column⟩ ↔
      line = u.count '\n' + 1 := by
  constructor
  · intro hposition
    have hline : u.count '\n' ≤ line - 1 := by
      simpa only [hposition] using line_positionAt_le d line column
    omega
  · rintro rfl
    exact positionAt_of_framed htext h hcolumn

end Document

end FenceCheck
