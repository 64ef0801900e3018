import FenceCheck.Proofs.Document.Position
import FenceCheck.Text.Numeral

namespace FenceCheck

/-!
# Positions that stand for places

Whatever line and column are asked for, the position given out stands for a place of the
document: its line is one of the document's, its column is on that line, and its offset falls
between two characters, in that line. The bytes that are cut out on the way are those of a
line, so that no cut is out of range or in the midst of a character.
-/

namespace Text

/-- A text in two at a byte offset, unless that is past the end or in the midst of a
character. -/
def splitAt? : List Char → Nat → Option (List Char × List Char)
  | s, 0 => some ([], s)
  | [], _ + 1 => none
  | c :: s, n + 1 =>
      if c.utf8Size ≤ n + 1 then
        (splitAt? s (n + 1 - c.utf8Size)).map fun (u, v) => (c :: u, v)
      else none

/-- The text between two byte offsets. -/
def slice? (s : List Char) (start stop : Nat) : Option (List Char) :=
  if start ≤ stop then
    (splitAt? s start).bind fun (_, rest) => (splitAt? rest (stop - start)).map Prod.fst
  else none

theorem splitAt?_append (u v : List Char) : splitAt? (u ++ v) (byteLength u) = some (u, v) := by
  induction u with
  | nil => simp [splitAt?]
  | cons c u ih =>
      obtain ⟨n, hn⟩ : ∃ n, c.utf8Size + byteLength u = n + 1 :=
        Nat.exists_eq_add_one.2 (Nat.add_pos_left c.utf8Size_pos _)
      have hrest : n + 1 - c.utf8Size = byteLength u := by omega
      rw [List.cons_append, byteLength_cons, hn, splitAt?, if_pos (by omega), hrest, ih]
      rfl

theorem slice?_append (u l v : List Char) :
    slice? (u ++ l ++ v) (byteLength u) (byteLength u + byteLength l) = some l := by
  rw [slice?, if_pos (Nat.le_add_right _ _), List.append_assoc, splitAt?_append,
    Nat.add_sub_cancel_left]
  simp [splitAt?_append]

theorem length_le_byteLength (s : List Char) : s.length ≤ byteLength s := by
  induction s with
  | nil => exact Nat.le_refl 0
  | cons c s ih =>
      have hpos := c.utf8Size_pos
      rw [List.length_cons, byteLength_cons]
      omega

theorem byteLength_toList (s : String) : byteLength s.toList = s.utf8ByteSize := by
  have hofList (l : List Char) : byteLength l = (String.ofList l).utf8ByteSize := by
    induction l with
    | nil => rfl
    | cons c l ih =>
        rw [byteLength_cons, ih, String.ofList_cons, String.utf8ByteSize_append,
          String.utf8ByteSize_singleton]
  rw [hofList, String.ofList_toList]

end Text

namespace LineTable

theorem le_start_of_mem_tabulate {offset : Nat} {raws : List (List Char)} {l : Line}
    (h : l ∈ tabulate offset raws) : offset ≤ l.start := by
  induction raws generalizing offset with
  | nil => cases h
  | cons raw raws ih =>
      rcases List.mem_cons.1 h with rfl | h
      · exact Nat.le_refl _
      · have hle := ih h
        omega

theorem lineOf_cons {start offset : Nat} (h : start ≤ offset) (raw : List Char)
    (table : List Line) : lineOf (⟨start, raw⟩ :: table) offset = lineOf table offset + 1 :=
  List.countP_cons_of_pos (by simpa using h)

/-- The line of a place is the number of line feeds before it, and one. -/
theorem lineOf_tabulate (offset : Nat) (u v : List Char) :
    lineOf (tabulate offset (Text.lines (u ++ v))) (offset + Text.byteLength u) =
      u.count '\n' + 1 := by
  induction u generalizing offset with
  | nil =>
      obtain ⟨raw, raws, hraws⟩ := List.exists_cons_of_ne_nil (Text.cells_ne_nil '\n' v)
      have hlater : lineOf (tabulate (offset + Text.byteLength raw + 1) raws) offset = 0 := by
        refine List.countP_eq_zero.2 fun l hl => ?_
        have hle := le_start_of_mem_tabulate hl
        rw [decide_eq_true_eq]
        omega
      rw [List.nil_append, Text.lines, hraws, tabulate, Text.byteLength_nil,
        Nat.add_zero offset, lineOf_cons (Nat.le_refl offset), hlater]
      rfl
  | cons c u ih =>
      rw [List.cons_append, Text.byteLength_cons, ← Nat.add_assoc]
      by_cases hc : c = '\n'
      · subst hc
        have hnewline : ('\n' : Char).utf8Size = 1 := rfl
        have hstart : offset ≤ offset + 1 + Text.byteLength u := by omega
        rw [Text.lines, Text.cells_sep, tabulate, hnewline, lineOf_cons hstart,
          List.count_cons_self]
        exact congrArg (· + 1) (ih (offset + 1))
      · -- The first line of the rest is the first line without its first character.
        have hmore := ih (offset + c.utf8Size)
        obtain ⟨raw, raws, hraws⟩ := List.exists_cons_of_ne_nil (Text.cells_ne_nil '\n' (u ++ v))
        have hstart : offset ≤ offset + c.utf8Size + Text.byteLength u := by omega
        rw [Text.lines, hraws, tabulate, lineOf_cons (Nat.le_add_right _ _)] at hmore
        simp only [Text.lines, Text.cells_cons _ hc, hraws, List.head_cons, List.tail_cons,
          tabulate, Text.byteLength_cons, List.count_cons_of_ne hc]
        rw [lineOf_cons hstart, ← Nat.add_assoc, hmore]

theorem lineOf_byteLength (u v : List Char) :
    lineOf (lineTable (u ++ v)) (Text.byteLength u) = u.count '\n' + 1 := by
  have h := lineOf_tabulate 0 u v
  rwa [Nat.zero_add] at h

end LineTable

namespace Document

/-- The lines of a document that memory of 64 bits holds have numbers of 64 bits. -/
theorem lineCount_lt {d : Document} (hsize : d.text.utf8ByteSize < Nat.pow 2 63) :
    d.lineCount + 1 < Text.word64Bound := by
  have hnewlines : d.text.toList.count '\n' ≤ d.text.utf8ByteSize := by
    calc
      d.text.toList.count '\n' ≤ d.text.toList.length := List.count_le_length
      _ ≤ Text.byteLength d.text.toList := Text.length_le_byteLength _
      _ = d.text.utf8ByteSize := Text.byteLength_toList _
  have hbytes : d.text.utf8ByteSize < 9223372036854775808 := hsize
  rw [lineCount_eq, Text.word64Bound_eq]
  omega

variable (d : Document) (line column : Nat)

/-- Whether a position stands for a place of a document. -/
structure Addresses (d : Document) (p : Position) : Prop where
  line_lt : p.line < d.lineCount
  /-- The column is on the line, and the offset counts the bytes up to it. -/
  column : ∃ l, d.table[p.line]? = some l ∧ d.HoldsAt l.start l.text ∧
    p.column ≤ l.text.length ∧ p.offset = l.start + Text.byteLength (l.text.take p.column)
  boundary : ∃ before after, d.text.toList = before ++ after ∧ Text.byteLength before = p.offset
  offset_le : p.offset ≤ d.text.utf8ByteSize
  lineOf : LineTable.lineOf d.table p.offset = p.line + 1

/-- A line that is asked for, moved into the document, is one of its lines. -/
theorem exists_framed_clampLine : ∃ u l v, d.text.toList = u ++ l ++ v ∧
    Text.Framed u l v ∧ d.clampLine line = u.count '\n' + 1 := by
  have hpos := d.lineCount_pos
  have hlt : d.clampLine line - 1 < (Text.lines d.text.toList).length := by
    rw [Text.lines, Text.length_cells, ← lineCount_eq, clampLine]
    omega
  obtain ⟨u, v, htext, hframed, hcount⟩ :=
    Text.exists_framed_of_getElem?_lines (List.getElem?_eq_getElem hlt)
  refine ⟨u, _, v, htext, hframed, ?_⟩
  rw [hcount, clampLine]
  omega

theorem exists_line_clampLine : ∃ u l v, d.text.toList = u ++ Text.bare l ++ v ∧
    '\n' ∉ Text.bare l ∧ d.clampLine line = u.count '\n' + 1 ∧
      d.table[u.count '\n']? = some ⟨Text.byteLength u, l⟩ := by
  obtain ⟨u, l, v, htext, hframed, hline⟩ := d.exists_framed_clampLine line
  exact ⟨u, l, Text.returned l ++ v, htext.trans (Text.append_bare_append u l v),
    Text.notMem_bare hframed.clear, hline, getElem?_table_of_framed htext hframed⟩

variable {d line}

theorem positionAt_of_clampLine {u l : List Char} (hline : d.clampLine line = u.count '\n' + 1)
    (htable : d.table[u.count '\n']? = some ⟨Text.byteLength u, l⟩) :
    d.positionAt line column = ⟨u.count '\n', min column (Text.bare l).length,
      Text.byteLength u +
        Text.byteLength ((Text.bare l).take (min column (Text.bare l).length))⟩ := by
  have hget : d.table.getD (u.count '\n') ⟨0, []⟩ = ⟨Text.byteLength u, l⟩ := by
    rw [List.getD_eq_getElem?_getD, htable, Option.getD_some]
  simp only [positionAt, hline, Nat.add_sub_cancel, hget, Line.text, byteOffset]

variable (d line)

/-- Every position that is given out stands for a place. -/
theorem addresses_positionAt : d.Addresses (d.positionAt line column) := by
  obtain ⟨u, l, v, htext, hclear, hline, htable⟩ := d.exists_line_clampLine line
  rw [positionAt_of_clampLine column hline htable]
  generalize hk : min column (Text.bare l).length = k
  have hplace : d.text.toList = (u ++ (Text.bare l).take k) ++ ((Text.bare l).drop k ++ v) := by
    rw [htext, List.append_assoc, List.append_assoc, ← List.append_assoc (List.take k _),
      List.take_append_drop]
  have hoffset : Text.byteLength (u ++ (Text.bare l).take k) =
      Text.byteLength u + Text.byteLength ((Text.bare l).take k) := Text.byteLength_append _ _
  have hcount : ((Text.bare l).take k).count '\n' = 0 :=
    List.count_eq_zero.2 fun hmem => hclear (List.mem_of_mem_take hmem)
  refine ⟨?_, ⟨_, htable, ⟨u, v, htext, rfl⟩, ?_, rfl⟩, ⟨_, _, hplace, hoffset⟩, ?_, ?_⟩
  · exact (List.getElem?_eq_some_iff.1 htable).1
  · rw [← hk]
    exact Nat.min_le_right _ _
  · rw [← Text.byteLength_toList, hplace, Text.byteLength_append, hoffset]
    exact Nat.le_add_right _ _
  · rw [table, hplace, ← hoffset, LineTable.lineOf_byteLength, List.count_append, hcount]

/-- The position read off the bytes of the line, if these can be cut out. -/
def positionBySlice? : Option Position :=
  (LineTable.range? d.table (d.clampLine line)).bind fun (start, stop) =>
    (Text.slice? d.text.toList start stop).map fun text =>
      let k := min column text.length
      ⟨d.clampLine line - 1, k, start + byteOffset text k⟩

/-- The bytes of a line can always be cut out. -/
theorem positionBySlice?_eq : d.positionBySlice? line column = some (d.positionAt line column) := by
  obtain ⟨u, l, v, htext, -, hline, htable⟩ := d.exists_line_clampLine line
  have hrange : LineTable.range? d.table (d.clampLine line) =
      some (Text.byteLength u, Text.byteLength u + Text.byteLength (Text.bare l)) := by
    rw [hline, LineTable.range?, LineTable.line?, htable]
    rfl
  have hslice : Text.slice? d.text.toList (Text.byteLength u)
      (Text.byteLength u + Text.byteLength (Text.bare l)) = some (Text.bare l) := by
    rw [htext]
    exact Text.slice?_append ..
  rw [positionAt_of_clampLine column hline htable, positionBySlice?, hrange]
  simp [hslice, hline, byteOffset]

end Document

end FenceCheck
