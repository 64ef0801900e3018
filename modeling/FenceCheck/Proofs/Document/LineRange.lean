import FenceCheck.Proofs.Document.Address
import Mathlib.Data.List.Basic
import Mathlib.Data.List.GetD

namespace FenceCheck

/-!
# Line ranges

The range of a line is the stretch from where it starts to its line feed or the end of the text,
without one carriage return. The ranges with what ends their lines are the text again: nothing is
lost, and nothing comes twice. A range can be read off the places behind the line feeds and the
byte before the next of them; no byte of a longer character is taken for a carriage return.
-/

namespace Text

/-- Whether a byte offset is in the text and not in the midst of a character. -/
def Boundary (s : List Char) (offset : Nat) : Prop :=
  ∃ before after, s = before ++ after ∧ byteLength before = offset

/-- The bytes of a text. -/
def bytes (s : List Char) : List UInt8 :=
  s.flatMap String.utf8EncodeChar

theorem length_bytes (s : List Char) : (bytes s).length = byteLength s := by
  induction s with
  | nil => rfl
  | cons c s ih =>
      rw [bytes, List.flatMap_cons, List.length_append, ← bytes, ih, byteLength_cons,
        String.length_utf8EncodeChar]

theorem toUTF8_eq_bytes (s : String) : s.toUTF8 = (bytes s.toList).toByteArray := by
  have hencode := String.toByteArray_ofList (l := s.toList)
  rwa [String.ofList_toList] at hencode

/-- Only a carriage return has its byte as the last one. -/
theorem getLast?_utf8EncodeChar_eq_return_iff {c : Char} :
    (String.utf8EncodeChar c).getLast? = some 13 ↔ c = '\r' := by
  have hreturn : c = '\r' ↔ c.toNat = 13 := by
    constructor
    · rintro rfl
      rfl
    · intro h
      exact Char.toNat_inj.1 h
  have hbyte : ∀ {n : Nat}, n < 256 → (UInt8.ofNat n = 13 ↔ n = 13) := by
    intro n hn
    rw [← UInt8.toNat_inj, UInt8.toNat_ofNat_of_lt' hn]
    rfl
  have hval : c.val.toNat = c.toNat := rfl
  rw [hreturn, String.utf8EncodeChar, hval]
  generalize c.toNat = v
  split
  · next hv => simpa using hbyte (by omega)
  split
  · next hv =>
      rw [List.getLast?_cons_cons, List.getLast?_singleton, Option.some_inj, hbyte (by omega)]
      omega
  split
  · next hv =>
      rw [List.getLast?_cons_cons, List.getLast?_cons_cons, List.getLast?_singleton,
        Option.some_inj, hbyte (by omega)]
      omega
  · next hv =>
      rw [List.getLast?_cons_cons, List.getLast?_cons_cons, List.getLast?_cons_cons,
        List.getLast?_singleton, Option.some_inj, hbyte (by omega)]
      omega

theorem getLast?_bytes_eq_return_iff (s : List Char) :
    (bytes s).getLast? = some 13 ↔ s.getLast? = some '\r' := by
  rcases List.eq_nil_or_concat s with rfl | ⟨init, last, rfl⟩
  · simp [bytes]
  · have hne : String.utf8EncodeChar last ≠ [] := String.utf8EncodeChar_ne_nil
    rw [List.concat_eq_append, List.getLast?_concat, Option.some_inj,
      ← getLast?_utf8EncodeChar_eq_return_iff, bytes, List.flatMap_append, List.flatMap_singleton,
      List.getLast?_append_of_ne_nil _ hne]

/-- The carriage return that ends a line is one byte. -/
theorem byteLength_eq_bare (l : List Char) :
    byteLength l = byteLength (bare l) + if l.getLast? = some '\r' then 1 else 0 := by
  calc
    byteLength l = byteLength (bare l ++ returned l) := by rw [bare_append_returned]
    _ = byteLength (bare l) + if l.getLast? = some '\r' then 1 else 0 := by
      rw [byteLength_append, returned]
      split <;> rfl

end Text

namespace LineTable

/-- The offsets behind the line feeds of a text that begins at an offset. -/
def behindNewlines : Nat → List Char → List Nat
  | _, [] => []
  | offset, c :: s =>
      if c = '\n' then (offset + 1) :: behindNewlines (offset + 1) s
      else behindNewlines (offset + c.utf8Size) s

theorem map_start_tabulate (offset : Nat) (s : List Char) :
    (tabulate offset (Text.lines s)).map Line.start = offset :: behindNewlines offset s := by
  induction s generalizing offset with
  | nil => rfl
  | cons c s ih =>
      by_cases hc : c = '\n'
      · subst hc
        rw [Text.lines, Text.cells_sep, tabulate, List.map_cons, ← Text.lines,
          Text.byteLength_nil, Nat.add_zero, ih, behindNewlines, if_pos rfl]
      · obtain ⟨raw, raws, hraws⟩ := List.exists_cons_of_ne_nil (Text.cells_ne_nil '\n' s)
        have hmore := ih (offset + c.utf8Size)
        rw [Text.lines, hraws, tabulate, List.map_cons, List.cons_inj_right] at hmore
        rw [behindNewlines, if_neg hc, ← hmore]
        simp only [Text.lines, Text.cells_cons _ hc, hraws, List.head_cons, List.tail_cons,
          tabulate, List.map_cons, Text.byteLength_cons, Nat.add_assoc]

/-- A line of the table stands in the text where the table says. -/
theorem exists_framed_of_getElem? {s : List Char} {n : Nat} {l : Line}
    (h : (lineTable s)[n]? = some l) :
    ∃ u v, s = u ++ l.raw ++ v ∧ Text.Framed u l.raw v ∧ u.count '\n' = n ∧
      l.start = Text.byteLength u := by
  have hraw : (Text.lines s)[n]? = some l.raw := by
    rw [← map_raw_tabulate 0 (Text.lines s), ← lineTable, List.getElem?_map, h]
    rfl
  obtain ⟨u, v, hs, hframed, hcount⟩ := Text.exists_framed_of_getElem?_lines hraw
  refine ⟨u, v, hs, hframed, hcount, ?_⟩
  have hline := getElem?_of_framed hframed
  rw [← hs, hcount, h, Option.some_inj] at hline
  rw [hline]

variable {u raw v : List Char}

theorem start_next (h : Text.Framed u raw v) :
    (match (0 :: behindNewlines 0 (u ++ raw ++ v))[u.count '\n' + 1]? with
      | some next => next - 1
      | none => Text.byteLength (u ++ raw ++ v)) = Text.byteLength (u ++ raw) := by
  have hcount : (lineTable (u ++ raw)).length = u.count '\n' + 1 := by
    rw [length_lineTable, List.count_append, List.count_eq_zero.2 h.clear, Nat.add_zero]
  rw [← map_start_tabulate, ← lineTable, List.getElem?_map]
  rcases h.closed with rfl | ⟨v', rfl⟩
  · rw [List.append_nil, List.getElem?_eq_none (Nat.le_of_eq hcount)]
    rfl
  · obtain ⟨next, more, hmore⟩ := List.exists_cons_of_ne_nil (Text.cells_ne_nil '\n' v')
    rw [lineTable_append_cons, List.getElem?_append_right (Nat.le_of_eq hcount), hcount,
      Nat.sub_self, Text.lines, hmore]
    rfl

/-- The byte in front of where a line ends is that of a carriage return just if the line ends in
one. -/
theorem return_before_stop_iff (u raw v : List Char) :
    (Text.byteLength u < Text.byteLength (u ++ raw) ∧
        (Text.bytes (u ++ raw ++ v))[Text.byteLength (u ++ raw) - 1]? = some 13) ↔
      raw.getLast? = some '\r' := by
  rcases List.eq_nil_or_concat raw with rfl | ⟨init, last, rfl⟩
  · simp
  · rw [List.concat_eq_append]
    have hne : init ++ [last] ≠ [] := by simp
    have hpos : Text.byteLength u < Text.byteLength (u ++ (init ++ [last])) := by
      have hlast := last.utf8Size_pos
      simp only [Text.byteLength_append, Text.byteLength_cons]
      omega
    have hbyte : (Text.bytes (u ++ (init ++ [last]) ++ v))[
        Text.byteLength (u ++ (init ++ [last])) - 1]? =
          (Text.bytes (u ++ (init ++ [last]))).getLast? := by
      rw [List.getLast?_eq_getElem?, Text.length_bytes, Text.bytes, List.flatMap_append,
        ← Text.bytes, ← Text.bytes, List.getElem?_append_left]
      rw [Text.length_bytes]
      omega
    rw [hbyte, Text.getLast?_bytes_eq_return_iff, List.getLast?_append_of_ne_nil u hne]
    exact and_iff_right hpos

/-- The range of a line, read off the places behind the line feeds and the bytes. -/
def rangeOfBytes? (text : String) : Nat → Option (Nat × Nat)
  | 0 => none
  | n + 1 =>
      let starts := 0 :: behindNewlines 0 text.toList
      starts[n]?.map fun start =>
        let stop := match starts[n + 1]? with
          | some next => next - 1
          | none => text.utf8ByteSize
        if start < stop ∧ text.toUTF8.data[stop - 1]? = some 13 then (start, stop - 1)
        else (start, stop)

theorem rangeOfBytes?_eq (text : String) (n : Nat) :
    rangeOfBytes? text n = range? (lineTable text.toList) n := by
  cases n with
  | zero => rfl
  | succ n =>
      have hstarts : (lineTable text.toList).map Line.start = 0 :: behindNewlines 0 text.toList :=
        map_start_tabulate 0 text.toList
      have hstart := List.getElem?_map (f := Line.start) (l := lineTable text.toList) (i := n)
      rw [hstarts] at hstart
      rw [rangeOfBytes?, hstart, range?, line?]
      cases hl : (lineTable text.toList)[n]? with
      | none => rfl
      | some l =>
          obtain ⟨u, v, htext, hframed, hcount, hu⟩ := exists_framed_of_getElem? hl
          have hnext := start_next hframed
          rw [← htext, hcount, Text.byteLength_toList] at hnext
          have hreturn := return_before_stop_iff u l.raw v
          rw [← htext, ← hu] at hreturn
          have hbytes : text.toUTF8.data = (Text.bytes text.toList).toArray := by
            rw [Text.toUTF8_eq_bytes, List.data_toByteArray]
          simp only [Option.map_some, hnext, hbytes, List.getElem?_toArray, hreturn]
          rw [Text.byteLength_append, ← hu, Line.stop, Line.text, Text.byteLength_eq_bare l.raw]
          congr 1
          split
          · rw [← Nat.add_assoc, Nat.add_sub_cancel]
          · rw [Nat.add_zero]

theorem range?_of_framed (h : Text.Framed u raw v) :
    range? (lineTable (u ++ raw ++ v)) (u.count '\n' + 1) =
      some (Text.byteLength u, Text.byteLength u + Text.byteLength (Text.bare raw)) := by
  rw [range?, line?, getElem?_of_framed h]
  rfl

theorem exists_framed_of_range? {s : List Char} {n start stop : Nat}
    (h : range? (lineTable s) n = some (start, stop)) :
    ∃ u raw v, s = u ++ raw ++ v ∧ Text.Framed u raw v ∧ u.count '\n' + 1 = n ∧
      start = Text.byteLength u ∧ stop = Text.byteLength u + Text.byteLength (Text.bare raw) := by
  cases n with
  | zero => cases h
  | succ n =>
      obtain ⟨l, hl, hrange⟩ := Option.map_eq_some_iff.1 h
      obtain ⟨u, v, hs, hframed, hcount, hu⟩ := exists_framed_of_getElem? hl
      obtain ⟨rfl, rfl⟩ := Prod.mk.inj hrange
      exact ⟨u, l.raw, v, hs, hframed, congrArg (· + 1) hcount, hu, by rw [Line.stop, hu]; rfl⟩

theorem isSome_range?_iff (table : List Line) (n : Nat) :
    (range? table n).isSome = true ↔ 1 ≤ n ∧ n ≤ table.length := by
  rw [range?, Option.isSome_map]
  cases n with
  | zero => simp [line?]
  | succ n =>
      have hsome : (table[n]?).isSome = true ↔ n < table.length := by simp
      rw [line?, hsome]
      omega

/-- What stands in the range of a line. -/
def slice? (s : List Char) (n : Nat) : Option (List Char) :=
  (range? (lineTable s) n).bind fun range => Text.slice? s range.1 range.2

theorem slice?_of_framed (h : Text.Framed u raw v) :
    slice? (u ++ raw ++ v) (u.count '\n' + 1) = some (Text.bare raw) := by
  rw [slice?, range?_of_framed h, Option.bind_some, Text.append_bare_append]
  exact Text.slice?_append ..

/-- What ends a line: the carriage return that ends its raw text, if one does, and a line feed
unless it is the last line. -/
def terminator (s : List Char) (n : Nat) : List Char :=
  Text.returned ((s.splitOn '\n').getD (n - 1) []) ++
    if n < (s.splitOn '\n').length then ['\n'] else []

/-- A line with what ends it is its raw text and a line feed, but for the last one. -/
theorem slice?_append_terminator {s : List Char} {n : Nat} (hn : n < (Text.lines s).length) :
    (slice? s (n + 1)).getD [] ++ terminator s (n + 1) =
      (Text.lines s).getD n [] ++ if n + 1 < (Text.lines s).length then ['\n'] else [] := by
  have hraw := List.getElem?_eq_getElem hn
  obtain ⟨u, v, hs, hframed, hcount⟩ := Text.exists_framed_of_getElem?_lines hraw
  have hslice := slice?_of_framed hframed
  rw [← hs, hcount] at hslice
  rw [terminator, ← Text.cells_eq_splitOn, hslice, Option.getD_some, Nat.add_sub_cancel,
    List.getD_eq_getElem?_getD, hraw, Option.getD_some, ← List.append_assoc,
    Text.bare_append_returned]

theorem flatMap_range_getD {α β : Type} (xs : List α) (x : α) (f : α → List β) :
    ((List.range xs.length).flatMap fun n => f (xs.getD n x)) = xs.flatMap f := by
  have hxs : (List.range xs.length).map (xs.getD · x) = xs := by
    apply List.ext_getElem
    · simp
    · intro n h₁ h₂
      rw [List.getElem_map, List.getElem_range, List.getD_eq_getElem xs x h₂]
  conv_rhs => rw [← hxs, List.flatMap_map]

/-- The lines, each with what ends it, are the text. -/
theorem flatMap_slice?_append_terminator (s : List Char) :
    ((List.range (Text.lines s).length).flatMap fun n =>
      (slice? s (n + 1)).getD [] ++ terminator s (n + 1)) = s := by
  rcases List.eq_nil_or_concat (Text.lines s) with hnil | ⟨init, last, hlast⟩
  · exact (Text.cells_ne_nil '\n' s hnil).elim
  rw [List.concat_eq_append] at hlast
  have hlength : (Text.lines s).length = init.length + 1 := by
    rw [hlast, List.length_append, List.length_singleton]
  have hinit : ((List.range init.length).flatMap fun n =>
      (slice? s (n + 1)).getD [] ++ terminator s (n + 1)) = init.flatMap (· ++ ['\n']) := by
    rw [← flatMap_range_getD init [] (· ++ ['\n'])]
    apply List.flatMap_congr
    intro n hn
    have hlt := List.mem_range.1 hn
    rw [slice?_append_terminator (by omega), if_pos (by omega), hlast, List.getD_append _ _ _ _ hlt]
  have hend : (slice? s (init.length + 1)).getD [] ++ terminator s (init.length + 1) = last := by
    rw [slice?_append_terminator (by omega), if_neg (by omega), hlast, List.append_nil,
      List.getD_append_right _ _ _ _ (Nat.le_refl _), Nat.sub_self]
    rfl
  have hjoined : List.intercalate ['\n'] (Text.lines s) = s := Text.intercalate_cells '\n' s
  rw [hlast, Text.intercalate_append_cons, List.flatMap_nil, List.append_nil] at hjoined
  rw [hlength, List.range_succ, List.flatMap_append, List.flatMap_singleton, hinit, hend, hjoined]

/-- The ranges of the lines tile the text, each read off where the next line starts and the byte
in front of that. -/
theorem ranges_tile (text : String) :
    (∀ n, range? (lineTable text.toList) n = rangeOfBytes? text n ∧
      ((range? (lineTable text.toList) n).isSome = true ↔
        1 ≤ n ∧ n ≤ (lineTable text.toList).length)) ∧
    (∀ n start stop, range? (lineTable text.toList) n = some (start, stop) →
      start? (lineTable text.toList) n = some start ∧ start ≤ stop ∧ stop ≤ text.utf8ByteSize ∧
        Text.Boundary text.toList start ∧ Text.Boundary text.toList stop ∧
        ∃ slice, Text.slice? text.toList start stop = some slice ∧ '\n' ∉ slice) ∧
    ((List.range (lineTable text.toList).length).flatMap fun n =>
      (slice? text.toList (n + 1)).getD [] ++ terminator text.toList (n + 1)) = text.toList := by
  refine ⟨fun n => ⟨(rangeOfBytes?_eq text n).symm, isSome_range?_iff _ n⟩, ?_, ?_⟩
  · intro n start stop h
    obtain ⟨u, raw, v, htext, hframed, rfl, rfl, rfl⟩ := exists_framed_of_range? h
    have hbare := htext.trans (Text.append_bare_append u raw v)
    have hsize := Text.byteLength_toList text
    rw [hbare, Text.byteLength_append, Text.byteLength_append] at hsize
    refine ⟨?_, Nat.le_add_right _ _, by omega, ?_, ?_, Text.bare raw, ?_,
      Text.notMem_bare hframed.clear⟩
    · rw [start?, line?, htext, getElem?_of_framed hframed]
      rfl
    · exact ⟨u, raw ++ v, by rw [htext, List.append_assoc], rfl⟩
    · exact ⟨u ++ Text.bare raw, _, hbare, Text.byteLength_append _ _⟩
    · rw [hbare]
      exact Text.slice?_append ..
  · rw [lineTable, length_tabulate]
    exact flatMap_slice?_append_terminator text.toList

/-- A line of a carriage return alone is empty, and a line feed is never left to it. -/
theorem ranges_tile_lonelyReturn :
    range? (lineTable "é\r\n\r\n\r".toList) 2 = some (4, 4) ∧
      Text.Boundary "é\r\n\r\n\r".toList 4 ∧
        ((List.range 3).flatMap fun n =>
          (slice? "é\r\n\r\n\r".toList (n + 1)).getD [] ++
            terminator "é\r\n\r\n\r".toList (n + 1)) = "é\r\n\r\n\r".toList := by
  have hrange : range? (lineTable "é\r\n\r\n\r".toList) 2 = some (4, 4) := by decide +kernel
  obtain ⟨-, hranges, hjoined⟩ := ranges_tile "é\r\n\r\n\r"
  exact ⟨hrange, (hranges 2 4 4 hrange).2.2.2.1, hjoined⟩

end LineTable

end FenceCheck
