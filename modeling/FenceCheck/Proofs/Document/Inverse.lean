import FenceCheck.Proofs.Document.LineRange

namespace FenceCheck

/-!
# Offsets and their lines and columns

Between two characters of a line, and at both its ends, there is just one line and column that
gives the offset; offsets grow with the line, and on a line with the column. Whatever else is
asked for is moved to the nearest line, and on it to the nearest column.
-/

namespace Text

theorem byteLength_lt_of_prefix {s t : List Char} (h : s <+: t) (hne : s ≠ t) :
    byteLength s < byteLength t := by
  obtain ⟨more, rfl⟩ := h
  cases more with
  | nil => exact (hne (List.append_nil s).symm).elim
  | cons c more =>
      have hpos := c.utf8Size_pos
      rw [byteLength_append, byteLength_cons]
      omega

/-- Of two beginnings of a text one that has no more bytes begins the other. -/
theorem prefix_of_byteLength_le {s t text : List Char} (hs : s <+: text) (ht : t <+: text)
    (h : byteLength s ≤ byteLength t) : s <+: t := by
  rcases List.prefix_or_prefix_of_prefix hs ht with hst | hts
  · exact hst
  · by_cases heq : t = s
    · exact heq ▸ List.prefix_refl s
    · have hlt := byteLength_lt_of_prefix hts heq
      omega

end Text

namespace Document

/-- How many characters are on a line. -/
def width (d : Document) (line : Nat) : Nat :=
  ((LineTable.slice? d.text.toList line).getD []).length

/-- Whether a line is one of the document's and a column is on it or at its end. -/
structure InRange (d : Document) (line column : Nat) : Prop where
  one_le : 1 ≤ line
  line_le : line ≤ d.lineCount
  column_le : column ≤ d.width line

variable {d : Document} {u raw v : List Char} {line column line' column' : Nat}

theorem width_of_framed (htext : d.text.toList = u ++ raw ++ v) (h : Text.Framed u raw v) :
    d.width (u.count '\n' + 1) = (Text.bare raw).length := by
  rw [width, htext, LineTable.slice?_of_framed h, Option.getD_some]

theorem inRange_of_framed (htext : d.text.toList = u ++ raw ++ v) (h : Text.Framed u raw v)
    (hcolumn : column ≤ (Text.bare raw).length) : d.InRange (u.count '\n' + 1) column := by
  refine ⟨Nat.le_add_left 1 _, ?_, ?_⟩
  · rw [lineCount_eq, htext, List.count_append, List.count_append]
    omega
  · rw [width_of_framed htext h]
    exact hcolumn

theorem InRange.exists_framed (h : d.InRange line column) :
    ∃ u raw v, d.text.toList = u ++ raw ++ v ∧ Text.Framed u raw v ∧ line = u.count '\n' + 1 ∧
      d.positionAt line column =
        ⟨u.count '\n', column, Text.byteLength (u ++ raw.take column)⟩ := by
  obtain ⟨u, raw, v, htext, hframed, hline⟩ := d.exists_framed_clampLine line
  rw [clampLine_of_le h.one_le h.line_le] at hline
  have hcolumn := h.column_le
  rw [hline, width_of_framed htext hframed] at hcolumn
  refine ⟨u, raw, v, htext, hframed, hline, ?_⟩
  rw [hline, positionAt_of_framed htext hframed hcolumn, Text.byteLength_append, byteOffset]

/-- What stands in front of a place is one line feed short of its line, and the offset long. -/
theorem InRange.exists_before (h : d.InRange line column) :
    ∃ before, before <+: d.text.toList ∧ before.count '\n' + 1 = line ∧
      (d.positionAt line column).offset = Text.byteLength before := by
  obtain ⟨u, raw, v, htext, hframed, hline, hposition⟩ := h.exists_framed
  have hclear : '\n' ∉ raw.take column := fun hmem => hframed.clear (List.mem_of_mem_take hmem)
  refine ⟨u ++ raw.take column, ⟨raw.drop column ++ v, ?_⟩, ?_, ?_⟩
  · rw [htext, List.append_assoc u, ← List.append_assoc (raw.take column), List.take_append_drop,
      List.append_assoc]
  · rw [List.count_append, List.count_eq_zero.2 hclear, hline, Nat.add_zero]
  · rw [hposition]

/-- Offsets grow with the line. -/
theorem offset_lt_of_line_lt (h : d.InRange line column) (h' : d.InRange line' column')
    (hlt : line < line') :
    (d.positionAt line column).offset < (d.positionAt line' column').offset := by
  obtain ⟨before, hbefore, hcount, hoffset⟩ := h.exists_before
  obtain ⟨before', hbefore', hcount', hoffset'⟩ := h'.exists_before
  rw [hoffset, hoffset']
  rcases List.prefix_or_prefix_of_prefix hbefore hbefore' with hp | hp
  · apply Text.byteLength_lt_of_prefix hp
    rintro rfl
    omega
  · -- The place on the later line cannot come first: more line feeds stand in front of it.
    have hnewlines := hp.sublist.count_le '\n'
    omega

/-- On a line they grow with the column. -/
theorem offset_lt_of_column_lt (h : d.InRange line column) (h' : d.InRange line column')
    (hlt : column < column') :
    (d.positionAt line column).offset < (d.positionAt line column').offset := by
  obtain ⟨u, raw, v, htext, hframed, rfl, hposition⟩ := h.exists_framed
  have hcolumn := h'.column_le
  rw [width_of_framed htext hframed] at hcolumn
  rw [hposition, positionAt_of_framed htext hframed hcolumn, byteOffset, ← Text.byteLength_append]
  apply Text.byteLength_lt_of_prefix
  · exact (List.prefix_append_right_inj u).2 (List.take_prefix_take_left (Nat.le_of_lt hlt))
  · intro heq
    have hlength := congrArg List.length (List.append_cancel_left heq)
    have hle := Text.length_bare_le raw
    rw [List.length_take, List.length_take] at hlength
    omega

theorem offset_lt_of_lt (h : d.InRange line column) (h' : d.InRange line' column')
    (hlt : line < line' ∨ line = line' ∧ column < column') :
    (d.positionAt line column).offset < (d.positionAt line' column').offset := by
  rcases hlt with hlt | ⟨rfl, hlt⟩
  · exact offset_lt_of_line_lt h h' hlt
  · exact offset_lt_of_column_lt h h' hlt

/-- No two places that are in range have the same offset. -/
theorem eq_of_offset_eq (h : d.InRange line column) (h' : d.InRange line' column')
    (heq : (d.positionAt line column).offset = (d.positionAt line' column').offset) :
    line = line' ∧ column = column' := by
  have hless : ¬ (line < line' ∨ line = line' ∧ column < column') := fun hlt =>
    Nat.ne_of_lt (offset_lt_of_lt h h' hlt) heq
  have hgreater : ¬ (line' < line ∨ line' = line ∧ column' < column) := fun hlt =>
    Nat.ne_of_lt (offset_lt_of_lt h' h hlt) heq.symm
  omega

/-- The place of a line where an offset falls. -/
theorem exists_place_of_boundary {start stop offset : Nat}
    (hrange : LineTable.range? d.table line = some (start, stop)) (hstart : start ≤ offset)
    (hstop : offset ≤ stop) (hboundary : Text.Boundary d.text.toList offset) :
    ∃ s, Text.slice? d.text.toList start offset = some s ∧ d.InRange line s.length ∧
      d.positionAt line s.length = ⟨line - 1, s.length, offset⟩ := by
  obtain ⟨u, raw, v, htext, hframed, rfl, rfl, rfl⟩ := LineTable.exists_framed_of_range? hrange
  obtain ⟨before, after, hsplit, rfl⟩ := hboundary
  have hbare := htext.trans (Text.append_bare_append u raw v)
  have hu : u <+: d.text.toList := ⟨raw ++ v, by rw [htext, List.append_assoc]⟩
  obtain ⟨s, rfl⟩ := Text.prefix_of_byteLength_le hu ⟨after, hsplit.symm⟩ hstart
  have hs : s <+: Text.bare raw := by
    rw [← Text.byteLength_append] at hstop
    exact (List.prefix_append_right_inj u).1
      (Text.prefix_of_byteLength_le ⟨after, hsplit.symm⟩ ⟨_, hbare.symm⟩ hstop)
  have htake : raw.take s.length = s := by
    rw [← Text.take_bare hs.length_le]
    exact (List.prefix_iff_eq_take.1 hs).symm
  refine ⟨s, ?_, inRange_of_framed htext hframed hs.length_le, ?_⟩
  · rw [hsplit, Text.byteLength_append]
    exact Text.slice?_append ..
  · rw [positionAt_of_framed htext hframed hs.length_le, byteOffset, htake,
      Text.byteLength_append, Nat.add_sub_cancel]

/-- A place that is asked for is the nearest one that is in range. -/
theorem positionAt_eq_nearest (d : Document) (line column : Nat) :
    d.InRange (d.clampLine line) (min column (d.width (d.clampLine line))) ∧
      d.positionAt line column =
        d.positionAt (d.clampLine line) (min column (d.width (d.clampLine line))) := by
  obtain ⟨u, raw, v, htext, hframed, hline⟩ := d.exists_framed_clampLine line
  have hcolumn : min column (Text.bare raw).length ≤ (Text.bare raw).length := Nat.min_le_right ..
  have htable := getElem?_table_of_framed htext hframed
  rw [positionAt_of_clampLine column hline htable, hline, width_of_framed htext hframed]
  refine ⟨inRange_of_framed htext hframed hcolumn, ?_⟩
  rw [positionAt_of_framed htext hframed hcolumn, byteOffset, Text.take_bare hcolumn]

theorem InRange.line_positionAt (h : d.InRange line column) :
    (d.positionAt line column).line + 1 = line ∧ (d.positionAt line column).column = column := by
  obtain ⟨u, raw, v, -, -, hline, hposition⟩ := h.exists_framed
  rw [hposition]
  exact ⟨hline.symm, rfl⟩

/-- Lines and columns that are in range and offsets inside of lines are the same places, in the
same order; all else is moved to the nearest of them. -/
theorem positionAt_inverse (d : Document) :
    (∀ line, 1 ≤ line → line ≤ d.lineCount →
      ∃ start stop, LineTable.range? d.table line = some (start, stop) ∧
        ∀ offset, start ≤ offset → offset ≤ stop → Text.Boundary d.text.toList offset →
          ∃ s, Text.slice? d.text.toList start offset = some s ∧ d.InRange line s.length ∧
            d.positionAt line s.length = ⟨line - 1, s.length, offset⟩ ∧
            ∀ line' column', d.InRange line' column' →
              (d.positionAt line' column').offset = offset → line' = line ∧ column' = s.length) ∧
    (∀ line column, ∃ line' column', line' = min (max line 1) d.lineCount ∧
      column' = min column (d.width line') ∧ d.InRange line' column' ∧
        d.positionAt line column = d.positionAt line' column') ∧
    (∀ line column, d.positionAt ((d.positionAt line column).line + 1)
      (d.positionAt line column).column = d.positionAt line column) ∧
    ∀ line column line' column', d.InRange line column → d.InRange line' column' →
      line < line' ∨ line = line' ∧ column < column' →
      (d.positionAt line column).offset < (d.positionAt line' column').offset := by
  refine ⟨?_, ?_, ?_, fun _ _ _ _ => offset_lt_of_lt⟩
  · intro line hone hcount
    obtain ⟨⟨start, stop⟩, hrange⟩ := Option.isSome_iff_exists.1
      ((LineTable.isSome_range?_iff d.table line).2 ⟨hone, hcount⟩)
    refine ⟨start, stop, hrange, fun offset hstart hstop hboundary => ?_⟩
    obtain ⟨s, hslice, hin, hposition⟩ := exists_place_of_boundary hrange hstart hstop hboundary
    refine ⟨s, hslice, hin, hposition, fun line' column' hin' hoffset => ?_⟩
    apply eq_of_offset_eq hin' hin
    rw [hoffset, hposition]
  · intro line column
    exact ⟨_, _, rfl, rfl, positionAt_eq_nearest d line column⟩
  · intro line column
    obtain ⟨hin, heq⟩ := positionAt_eq_nearest d line column
    obtain ⟨hline, hcolumn⟩ := hin.line_positionAt
    rw [heq, hline, hcolumn]

/-- The end of a line of one character of two bytes, in front of a carriage return. -/
theorem positionAt_inverse_wideLine :
    Text.Boundary "é\r\n\nb".toList 2 ∧
      (⟨"a.md", "é\r\n\nb"⟩ : Document).positionAt 1 1 = ⟨0, 1, 2⟩ ∧
        (⟨"a.md", "é\r\n\nb"⟩ : Document).InRange 1 1 := by
  have hboundary : Text.Boundary "é\r\n\nb".toList 2 := ⟨['é'], "\r\n\nb".toList, rfl, rfl⟩
  obtain ⟨start, stop, hrange, hplaces⟩ :=
    (positionAt_inverse ⟨"a.md", "é\r\n\nb"⟩).1 1 (by decide) (by decide)
  obtain ⟨rfl, rfl⟩ : 0 = start ∧ 2 = stop := by
    simpa using (show some (0, 2) = some (start, stop) from hrange)
  obtain ⟨s, hslice, hin, hposition, -⟩ := hplaces 2 (by decide) (by decide) hboundary
  obtain rfl : ['é'] = s := Option.some.inj (show some ['é'] = some s from hslice)
  exact ⟨hboundary, hposition, hin⟩

end Document

end FenceCheck
