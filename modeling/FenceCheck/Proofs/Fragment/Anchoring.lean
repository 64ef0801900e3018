import FenceCheck.Proofs.Document.Address
import FenceCheck.Proofs.Fragment.Directive
import FenceCheck.Report

namespace FenceCheck

/-!
# Staged lines and document lines

Every staged line from the second on stands in the document, wherever on its line the fence
opens. The number that its anchor is made for leads back to it, to the same column and the same
character. Without directives a compiler reports that number, whatever the fence. With them it
does so where the marker is one, which takes a fence of just three backticks: behind a longer
fence it counts the lines of the staged file, and every place is read back too far up, unless
the fence stands on the first line of the document.
-/

namespace Anchor

/-- The number of a physical line of a staged text that its anchor is made for, from the second
line on: the line of the document, or the line of the staged file. -/
def Mode.intendedLine (mode : Mode) (startLine physical : Nat) : Nat :=
  match mode with
  | .lineDirective => startLine + 1 + (physical - 2)
  | .firstLineOffset => physical

/-- The number that a compiler gives to a physical line of a staged text, from the second line
on. The line behind a directive has the number that the directive names; without one the lines
of the file are counted, as they are by a toolchain that knows no directives. Directives that
the document brings along are not considered. -/
def Mode.reportedLine (mode : Mode) (staged : List Char) (physical : Nat) : Nat :=
  match mode with
  | .lineDirective =>
      match directed? staged with
      | some line => line + (physical - 2)
      | none => physical
  | .firstLineOffset => physical

variable {mode : Mode} {startLine physical n : Nat} {staged : List Char}

theorem documentLine_intendedLine (stagedPath : String) (hphysical : 2 ≤ physical)
    (hsum : startLine + physical < Text.word64Bound) :
    (ofMode mode startLine stagedPath).documentLine (mode.intendedLine startLine physical) =
      startLine + physical - 1 := by
  cases mode with
  | lineDirective =>
      simp only [ofMode, documentLine, Mode.intendedLine]
      omega
  | firstLineOffset =>
      simp only [ofMode, documentLine, Mode.intendedLine, Nat.mod_eq_of_lt hsum]

/-- What is read back lies between the line of the staged file and that of the document, and is
the latter just if the marker directs the compiler or the two are the same. -/
theorem documentLine_reportedLine (stagedPath : String)
    (hdirected : mode = .lineDirective →
      directed? staged = if n = 0 then some (startLine + 1) else none)
    (hstart : 1 ≤ startLine) (hphysical : 2 ≤ physical)
    (hsum : startLine + physical < Text.word64Bound) :
    physical ≤
        (ofMode mode startLine stagedPath).documentLine (mode.reportedLine staged physical) ∧
      (ofMode mode startLine stagedPath).documentLine (mode.reportedLine staged physical) ≤
        startLine + physical - 1 ∧
      ((ofMode mode startLine stagedPath).documentLine (mode.reportedLine staged physical) =
          startLine + physical - 1 ↔ (mode = .lineDirective → n = 0 ∨ startLine = 1)) := by
  cases mode with
  | firstLineOffset =>
      have hline : (ofMode .firstLineOffset startLine stagedPath).documentLine physical =
          startLine + physical - 1 := documentLine_intendedLine stagedPath hphysical hsum
      simp only [Mode.reportedLine, hline]
      exact ⟨by omega, Nat.le_refl _, by simp⟩
  | lineDirective =>
      by_cases hn : n = 0
      · have hline : Mode.lineDirective.reportedLine staged physical =
            startLine + 1 + (physical - 2) := by
          simp only [Mode.reportedLine, hdirected rfl, if_pos hn]
        simp only [ofMode, documentLine, hline, hn, true_or, implies_true, iff_true]
        omega
      · have hline : Mode.lineDirective.reportedLine staged physical = physical := by
          simp only [Mode.reportedLine, hdirected rfl, if_neg hn]
        simp only [ofMode, documentLine, hline, hn, false_or, forall_const]
        omega

end Anchor

namespace Fragment

/-- The columns that a line of a text offers: a carriage return in front of a line feed is
not one of them. -/
def columns (lines : List (List Char)) (physical : Nat) (line : List Char) : Nat :=
  if physical < lines.length then (Text.bare line).length else line.length

theorem le_length_of_le_columns {lines : List (List Char)} {physical column : Nat}
    {line : List Char} (h : column ≤ columns lines physical line) : column ≤ line.length := by
  have hbare := Text.length_bare_le line
  unfold columns at h
  split at h <;> omega

section Columns

variable {opening u line : List Char} {physical : Nat}

theorem columns_eq_length (hphysical : 2 ≤ physical) (hcount : u.count '\n' = physical - 2)
    (hline : '\n' ∉ line) :
    columns (opening :: Text.lines (u ++ line)) physical line = line.length := by
  have hlength := Text.length_cells '\n' (u ++ line)
  rw [List.count_append, List.count_eq_zero.2 hline] at hlength
  have hlast : ¬ physical < (opening :: Text.lines (u ++ line)).length := by
    rw [List.length_cons, Text.lines, hlength]
    omega
  rw [columns, if_neg hlast]

theorem columns_eq_length_bare (hphysical : 2 ≤ physical) (hcount : u.count '\n' = physical - 2)
    {v : List Char} :
    columns (opening :: Text.lines (u ++ line ++ '\n' :: v)) physical line =
      (Text.bare line).length := by
  have hlength := Text.length_cells '\n' (u ++ line ++ '\n' :: v)
  rw [List.count_append, List.count_append, List.count_cons_self] at hlength
  have hinner : physical < (opening :: Text.lines (u ++ line ++ '\n' :: v)).length := by
    rw [List.length_cons, Text.lines, hlength]
    omega
  rw [columns, if_pos hinner]

end Columns

variable {t : Target} {identity : String} {text : List Char} {f : Fragment} {r : Region}
  {before after : List Char}

/-- What is staged of a region that is compiled. -/
theorem StandsIn.text_toList (h : StandsIn t text identity f r before after)
    (hc : f.isCompilable = true) :
    r.escaped = false ∧ r.tag? = some t.language.toList ∧
      f.text.toList =
        staged t.language.toList (t.mode.marker f.startLine identity).toList r.raw := by
  have hd : Disposition.ofRegion t.language.toList r = .compile := by
    have := h.eq_ofRegion
    rw [isCompilable, this] at hc
    simpa [ofRegion] using hc
  have hsplit := Disposition.ofRegion_eq_compile_iff.1 hd
  refine ⟨hsplit.1, hsplit.2, ?_⟩
  rw [h.eq_ofRegion]
  simp [ofRegion, hd]

/-- The fence of a region that is compiled, which has at most two further backticks, and what is
staged of it. -/
theorem StandsIn.exists_fence (h : StandsIn t text identity f r before after)
    (hc : f.isCompilable = true) :
    ∃ n between, n < 3 ∧
      r.raw = fence ++ List.replicate n '`' ++ t.language.toList ++ between ++ fence ∧
      Text.split? fence (between ++ fence) = some (between, []) ∧
      f.text.toList = Text.replaceAll fence [] (List.replicate n '`' ++
        (t.mode.marker f.startLine identity).toList ++ between ++ fence) := by
  obtain ⟨hesc, htag, htext⟩ := h.text_toList hc
  obtain ⟨n, between, hbody, hne, hword⟩ := Region.exists_body_eq_of_tag? htag
  refine ⟨n, between, ?_, ?_, h.closed.split?_of_body_eq hbody, ?_⟩
  · apply lt_three_of_split? (s := t.language.toList ++ between)
    simpa [Region.Closed, hbody] using h.closed
  · simp [Region.raw, hesc, hbody]
  · rw [htext, staged_raw_eq hesc hbody hne hword]

theorem StandsIn.byteLength_eq (h : StandsIn t text identity f r before after) :
    Text.byteLength before = f.offset := by
  rw [h.eq_ofRegion]
  rfl

theorem StandsIn.startLine_eq (h : StandsIn t text identity f r before after) :
    f.startLine = before.count '\n' + 1 := by
  have hline := congrArg Fragment.startLine h.eq_ofRegion
  simpa [ofRegion] using hline

/-- The staged text is one line, as its region is, or the lines of the body after the
first. -/
theorem StandsIn.staged_cases (h : StandsIn t text identity f r before after)
    (hc : f.isCompilable = true) (hidentity : '\n' ∉ identity.toList) :
    ('\n' ∉ f.text.toList ∧ '\n' ∉ r.raw) ∨
      ∃ opening fenced later, '\n' ∉ opening ∧ '\n' ∉ fenced ∧
        f.text.toList = opening ++ '\n' :: later ∧
        r.raw = fenced ++ '\n' :: later ++ fence := by
  obtain ⟨hesc, htag, htext⟩ := h.text_toList hc
  obtain ⟨n, rest, hbody, hne, hword⟩ := Region.exists_body_eq_of_tag? htag
  have hmarker := Anchor.notMem_marker t.mode f.startLine (by decide) (by decide) (by decide) hidentity
  have hlanguage : '\n' ∉ t.language.toList := notMem_of_isWord_eq_false hword (by decide)
  have hraw : r.raw = fence ++ List.replicate n '`' ++ t.language.toList ++ rest ++ fence := by
    simp [Region.raw, hesc, hbody]
  have hfenced : '\n' ∉ fence ++ List.replicate n '`' ++ t.language.toList := by
    simp [fence, hlanguage]
  by_cases hrest : '\n' ∈ rest
  · obtain ⟨first, later, rfl, hfirst⟩ := List.eq_append_cons_of_mem hrest
    obtain ⟨opening, hopening, hstaged⟩ :=
      staged_eq_append_cons hesc hbody hne hword h.closed hmarker hfirst
    refine .inr ⟨opening, fence ++ List.replicate n '`' ++ t.language.toList ++ first, later,
      hopening, ?_, htext.trans hstaged, ?_⟩
    · intro hm
      rcases List.mem_append.1 hm with hm | hm
      · exact hfenced hm
      · exact hfirst hm
    · rw [hraw]
      simp
  · refine .inl ⟨?_, ?_⟩
    · rw [htext]
      exact newline_notMem_staged hesc hbody hne hword hmarker hrest
    · rw [hraw]
      intro hm
      rcases List.mem_append.1 hm with hm | hm
      · rcases List.mem_append.1 hm with hm | hm
        · exact hfenced hm
        · exact hrest hm
      · simp [fence] at hm

/-- The place of a staged line in the document. -/
theorem StandsIn.exists_framed (h : StandsIn t text identity f r before after)
    (hc : f.isCompilable = true) (hidentity : '\n' ∉ identity.toList) {physical : Nat}
    {line : List Char} (hphysical : 2 ≤ physical)
    (hline : (Text.lines f.text.toList)[physical - 1]? = some line) :
    ∃ u more v, text = u ++ (line ++ more) ++ v ∧ Text.Framed u (line ++ more) v ∧
      u.count '\n' + 1 = f.startLine + physical - 1 ∧
      columns (Text.lines f.text.toList) physical line ≤ (Text.bare (line ++ more)).length := by
  rcases h.staged_cases hc hidentity with
    ⟨hflat, -⟩ | ⟨opening, fenced, later, ho, hf, htext, hraw⟩
  · rw [Text.lines, Text.cells_of_notMem hflat] at hline
    obtain ⟨hlt, -⟩ := List.getElem?_eq_some_iff.1 hline
    simp only [List.length_singleton] at hlt
    omega
  have hlines : Text.lines f.text.toList = opening :: Text.lines later := by
    rw [Text.lines, htext, Text.cells_append_cons, Text.cells_of_notMem ho]
    rfl
  have hlater : (Text.lines later)[physical - 2]? = some line := by
    rw [hlines] at hline
    have hsucc : physical - 1 = (physical - 2) + 1 := by omega
    simpa [hsucc] using hline
  obtain ⟨u, v, rfl, hframed, hcount⟩ := Text.exists_framed_of_getElem?_lines hlater
  have hstart := h.startLine_eq
  have hnumber : (before ++ fenced ++ '\n' :: u).count '\n' + 1 = f.startLine + physical - 1 := by
    have hfenced : fenced.count '\n' = 0 := List.count_eq_zero.2 hf
    simp only [List.count_append, List.count_cons_self, hfenced, hcount, hstart]
    omega
  have htotal : text = before ++ fenced ++ '\n' :: u ++ line ++ (v ++ fence ++ after) := by
    rw [h.text_eq, hraw]
    simp
  rcases hframed.closed with rfl | ⟨v', rfl⟩
  · -- The last staged line: in the document the closing fence goes on behind it.
    have hextended := (hframed.after (before ++ fenced)).extend (fence ++ after)
    refine ⟨before ++ fenced ++ '\n' :: u, (fence ++ after).takeWhile (· != '\n'),
      (fence ++ after).dropWhile (· != '\n'), ?_, hextended, hnumber, ?_⟩
    · rw [htotal]
      simp
    · have hbare := Text.length_le_length_bare_add_one
        (line ++ (fence ++ after).takeWhile (· != '\n'))
      rw [hlines, List.append_nil, columns_eq_length hphysical hcount hframed.clear]
      simp only [fence, List.cons_append, List.nil_append, List.length_append] at hbare ⊢
      simp at hbare ⊢
      omega
  · have hmoved := hframed.after (before ++ fenced)
    refine ⟨before ++ fenced ++ '\n' :: u, [], '\n' :: (v' ++ fence ++ after), ?_,
      ⟨by simpa using hmoved.clear, hmoved.opened, .inr ⟨_, rfl⟩⟩, hnumber, ?_⟩
    · rw [htotal]
      simp
    · exact Nat.le_of_eq
        (by rw [hlines, columns_eq_length_bare hphysical hcount, List.append_nil])

theorem StandsIn.count_newline (h : StandsIn t text identity f r before after)
    (hc : f.isCompilable = true) (hidentity : '\n' ∉ identity.toList) :
    f.text.toList.count '\n' = r.raw.count '\n' := by
  rcases h.staged_cases hc hidentity with
    ⟨hflat, hraw⟩ | ⟨opening, fenced, later, ho, hfe, ht, hr⟩
  · rw [List.count_eq_zero.2 hflat, List.count_eq_zero.2 hraw]
  · have hfence : fence.count '\n' = 0 := rfl
    simp only [ht, hr, List.count_append, List.count_cons_self, List.count_eq_zero.2 ho,
      List.count_eq_zero.2 hfe, hfence]
    omega

/-- Behind its first line a region is staged as it is, without the closing fence. -/
theorem StandsIn.dropWhile_raw (h : StandsIn t text identity f r before after)
    (hc : f.isCompilable = true) (hidentity : '\n' ∉ identity.toList) (hraw : '\n' ∈ r.raw) :
    r.raw.dropWhile (· != '\n') = f.text.toList.dropWhile (· != '\n') ++ fence := by
  rcases h.staged_cases hc hidentity with
    ⟨-, hflat⟩ | ⟨opening, fenced, later, hopening, hfenced, htext, hr⟩
  · exact absurd hraw hflat
  · rw [htext, hr, List.append_assoc,
      Text.dropWhile_append_cons _ (Text.bne_of_notMem hopening) (by decide)]
    exact Text.dropWhile_append_cons (later ++ fence) (Text.bne_of_notMem hfenced) (by decide)

/-- Staged places and places of the document. Every staged line from the second on stands in
the document, and a place on it, under the number that its anchor is made for, is read back as
the line, the column and the offset where its character stands. Under the number that a compiler
reports, this holds just if the fence has three backticks, and so leaves a directive at the
beginning of the staged text, or stands on the first line, or no directive is needed. A text has
fewer than `2 ^ 63` bytes, or it does not fit the memory. -/
theorem staged_place_eq_document_place_iff {t : Target} {d : Document} {f : Fragment}
    (hsize : d.text.utf8ByteSize < Nat.pow 2 63) (hidentity : '\n' ∉ d.identity.toList)
    (hf : f ∈ extract t d.text d.identity) (hc : f.isCompilable = true) :
    ∃ r n between, (Region.cut d.text.toList).1[f.id - 1]? = some r ∧ d.HoldsAt f.offset r.raw ∧
      r.raw = fence ++ List.replicate n '`' ++ t.language.toList ++ between ++ fence ∧
      f.text.toList.count '\n' = r.raw.count '\n' ∧
      ('\n' ∈ r.raw →
        r.raw.dropWhile (· != '\n') = f.text.toList.dropWhile (· != '\n') ++ fence) ∧
      (t.mode = .lineDirective →
        Anchor.directed? f.text.toList = if n = 0 then some (f.startLine + 1) else none) ∧
      ∀ physical l, 2 ≤ physical →
        (Text.lines f.text.toList)[physical - 1]? = some l →
        ∃ offset, d.HoldsAt offset l ∧
          ∀ column ≤ columns (Text.lines f.text.toList) physical l,
            (∀ (staged source : String) (policy : FatalPolicy) (file : String),
              let reader : Subject := ⟨d, .ofMode t.mode f.startLine staged, source, policy⟩
              let place : Position :=
                ⟨f.startLine + physical - 2, column, offset + byteOffset l column⟩
              reader.position
                  ⟨file, t.mode.intendedLine f.startLine physical, some (column + 1)⟩ = place ∧
                (reader.position
                    ⟨file, t.mode.reportedLine f.text.toList physical, some (column + 1)⟩ = place ↔
                  (t.mode = .lineDirective → n = 0 ∨ f.startLine = 1))) ∧
            ∀ c, l[column]? = some c → d.HoldsAt (offset + byteOffset l column) [c] := by
  obtain ⟨r, before, after, h⟩ := exists_standsIn hf
  obtain ⟨n, between, hn, hraw, -, hstaged⟩ := h.exists_fence hc
  have hdirected : t.mode = .lineDirective →
      Anchor.directed? f.text.toList = if n = 0 then some (f.startLine + 1) else none := by
    intro hmode
    rw [hstaged, hmode, List.append_assoc _ between]
    exact directed?_replaceAll_marker hn hidentity (between ++ fence)
  refine ⟨r, n, between, h.nth, ⟨before, after, h.text_eq, h.byteLength_eq⟩, hraw,
    h.count_newline hc hidentity, h.dropWhile_raw hc hidentity, hdirected, ?_⟩
  intro physical l hphysical hline
  obtain ⟨u, more, v, htext, hframed, hcount, hcolumns⟩ :=
    h.exists_framed hc hidentity hphysical hline
  have hholds : d.HoldsAt (Text.byteLength u) l := ⟨u, more ++ v, by simp [htext], rfl⟩
  refine ⟨Text.byteLength u, hholds, fun column hcolumn => ⟨?_, ?_⟩⟩
  · intro staged source policy file reader place
    have hstart : 1 ≤ f.startLine := by
      rw [h.startLine_eq]
      exact Nat.le_add_left 1 _
    have hsum : f.startLine + physical < Text.word64Bound := by
      have hlast := Document.lineCount_lt hsize
      rw [Document.lineCount_eq, htext, List.count_append, List.count_append] at hlast
      omega
    have hle := le_length_of_le_columns hcolumn
    have hplace : place =
        ⟨u.count '\n', column, Text.byteLength u + byteOffset (l ++ more) column⟩ := by
      have hnumber : f.startLine + physical - 2 = u.count '\n' := by omega
      simp only [place, byteOffset, List.take_append_of_le_length hle, hnumber]
    have hfit := Nat.le_trans hcolumn hcolumns
    obtain ⟨hbelow, habove, hmeets⟩ :=
      Anchor.documentLine_reportedLine staged hdirected hstart hphysical hsum
    constructor
    · rw [Subject.position, Subject.place,
        Anchor.documentLine_intendedLine staged hphysical hsum, ← hcount, hplace]
      exact Document.positionAt_of_framed htext hframed hfit
    · rw [← hcount] at habove hmeets
      rw [← hmeets, hplace]
      have hpos := Nat.lt_of_lt_of_le (Nat.zero_lt_of_lt hphysical) hbelow
      exact Document.positionAt_eq_iff_of_framed htext hframed hfit hpos habove
  · intro c hget
    obtain ⟨b, a, hd, ho⟩ := hholds.drop column
    obtain ⟨hlt, hc⟩ := List.getElem?_eq_some_iff.1 hget
    refine ⟨b, l.drop (column + 1) ++ a, ?_, ho⟩
    rw [hd, List.drop_eq_getElem_cons hlt, hc]
    simp

/-- A fence in the middle of a line, carriage returns, and a character of two bytes. -/
def midLineFence : Document :=
  ⟨"/docs/guide.md", "# é\r\nsee ```cpp\r\nint é;\r\nx```\r\n"⟩

theorem staged_place_eq_document_place_iff_midLineFence :
    ∃ f ∈ extract ⟨"cpp", .lineDirective⟩ midLineFence.text midLineFence.identity,
      midLineFence.text.utf8ByteSize < Nat.pow 2 63 ∧ '\n' ∉ midLineFence.identity.toList ∧
        f.isCompilable = true ∧ Anchor.directed? f.text.toList = some 3 ∧
        (Text.lines f.text.toList)[2 - 1]? = some "int é;\r".toList ∧
        ∃ offset, midLineFence.HoldsAt offset "int é;\r".toList ∧
          (⟨midLineFence, .lineDirective, "docs", .skip⟩ : Subject).position
              ⟨midLineFence.identity,
                Anchor.Mode.lineDirective.reportedLine f.text.toList 2, some 6⟩ =
            ⟨2, 5, offset + 6⟩ := by
  let f : Fragment := ⟨1, some "cpp", 2, 10,
    "#line 3 \"/docs/guide.md\"\r\nint é;\r\nx", .compile⟩
  have hsize : midLineFence.text.utf8ByteSize < Nat.pow 2 63 := by decide +kernel
  have hidentity : '\n' ∉ midLineFence.identity.toList := by decide
  have hf : f ∈ extract ⟨"cpp", .lineDirective⟩ midLineFence.text midLineFence.identity := by
    decide +kernel
  have hline : (Text.lines f.text.toList)[2 - 1]? = some "int é;\r".toList := by
    decide +kernel
  have hcolumn : 5 ≤ columns (Text.lines f.text.toList) 2 "int é;\r".toList := by
    decide +kernel
  obtain ⟨r, n, between, -, -, -, -, -, hdirected, hplaces⟩ :=
    staged_place_eq_document_place_iff hsize hidentity hf rfl
  have hthird : Anchor.directed? f.text.toList = some 3 := by decide +kernel
  -- That the number was read off the staged text says how long the fence is.
  have hn : n = 0 := by
    apply Decidable.byContradiction
    intro hne
    have hnone := hdirected rfl
    rw [if_neg hne, hthird] at hnone
    cases hnone
  obtain ⟨offset, hholds, hplace⟩ := hplaces 2 _ (Nat.le_refl 2) hline
  have hboth := (hplace 5 hcolumn).1 "/docs/snippet-1.cpp" "docs" .skip midLineFence.identity
  exact ⟨f, hf, hsize, hidentity, rfl, hthird, hline, offset, hholds,
    hboth.2.2 fun _ => .inl hn⟩

/-- The same with a fence of four backticks. -/
def longFence : Document :=
  ⟨"/docs/guide.md", "# é\r\nsee ````cpp\r\nint é;\r\nx```\r\n"⟩

/-- Behind the fourth backtick the marker directs nothing: the semicolon of the second staged
line is reported on line 2, where the document has the fence. -/
theorem not_staged_place_eq_document_place_longFence :
    ∃ f ∈ extract ⟨"cpp", .lineDirective⟩ longFence.text longFence.identity,
      f.isCompilable = true ∧ Anchor.directed? f.text.toList = none ∧
        (Text.lines f.text.toList)[2 - 1]? = some "int é;\r".toList ∧
        let found := (⟨longFence, .lineDirective, "docs", .skip⟩ : Subject).position
          ⟨longFence.identity, Anchor.Mode.lineDirective.reportedLine f.text.toList 2, some 6⟩
        found.line ≠ f.startLine + 2 - 2 ∧ longFence.HoldsAt found.offset ['`'] := by
  let f : Fragment := ⟨1, some "cpp", 2, 10,
    "`#line 3 \"/docs/guide.md\"\r\nint é;\r\nx", .compile⟩
  have hf : f ∈ extract ⟨"cpp", .lineDirective⟩ longFence.text longFence.identity := by
    decide +kernel
  have hline : (Text.lines f.text.toList)[2 - 1]? = some "int é;\r".toList := by
    decide +kernel
  have hfound : (⟨longFence, .lineDirective, "docs", .skip⟩ : Subject).position
      ⟨longFence.identity, Anchor.Mode.lineDirective.reportedLine f.text.toList 2, some 6⟩ =
        ⟨1, 5, 11⟩ := by
    decide +kernel
  have hnone : Anchor.directed? f.text.toList = none := by decide +kernel
  refine ⟨f, hf, rfl, hnone, hline, ?_⟩
  rw [hfound]
  exact ⟨by decide, "# é\r\nsee `".toList, "``cpp\r\nint é;\r\nx```\r\n".toList,
    by decide +kernel, by decide +kernel⟩

end Fragment

end FenceCheck
