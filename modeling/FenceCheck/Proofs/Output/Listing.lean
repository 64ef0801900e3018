import FenceCheck.Output
import FenceCheck.Proofs.Document.Position
import FenceCheck.Proofs.Output.Unstyled
import FenceCheck.Proofs.Text.Numeral
import Mathlib.Algebra.Ring.Nat

namespace FenceCheck

/-!
# Listings agree

The full listing without colours has the lines of the concise one, each with the rest of its
message and its related places behind it. Those lines are indented and no other is. The coloured
listing shows the one without colours.
-/

namespace Text

variable {c : Char} {s l : List Char}

theorem notMem_of_mem_lines (h : c ∉ s) (hl : l ∈ lines s) : c ∉ l := by
  obtain ⟨n, hn⟩ := List.mem_iff_getElem?.1 hl
  obtain ⟨u, v, rfl, -, -⟩ := exists_framed_of_getElem?_lines hn
  simp_all

/-- A line that is shown is one of the text, perhaps without its carriage return. -/
theorem exists_of_mem_shown (h : l ∈ shown s) : ∃ k ∈ lines s, l = k ∨ l = bare k := by
  obtain ⟨last, others, hlines⟩ :=
    List.exists_cons_of_ne_nil (mt List.reverse_eq_nil_iff.1 (cells_ne_nil '\n' s))
  have hall : lines s = others.reverse ++ [last] := by
    rw [← List.reverse_reverse (lines s), hlines, List.reverse_cons]
  rw [shown, hlines] at h
  rw [hall]
  obtain h | h := List.mem_append.1 h
  · obtain ⟨k, hk, rfl⟩ := List.mem_map.1 h
    exact ⟨k, by simpa using .inl (by simpa using hk), .inr rfl⟩
  · split at h
    · cases h
    · exact ⟨last, by simp, .inl (by simpa using h)⟩

theorem notMem_shown (h : c ∉ s) (hl : l ∈ shown s) : c ∉ l := by
  obtain ⟨k, hk, rfl | rfl⟩ := exists_of_mem_shown hl
  · exact notMem_of_mem_lines h hk
  · exact notMem_bare (notMem_of_mem_lines h hk)

theorem newline_notMem_shown (hl : l ∈ shown s) : '\n' ∉ l := by
  obtain ⟨k, hk, rfl | rfl⟩ := exists_of_mem_shown hl
  · exact sep_notMem_of_mem_cells hk
  · exact notMem_bare (sep_notMem_of_mem_cells hk)

end Text

namespace Listing

open Diagnostic (messageLines headline)

variable {file : String} {d : Diagnostic}

/-! ## Lines behind the first -/

/-- The lines of a diagnostic behind the first: the rest of its message, and its related places. -/
def details (file : String) (d : Diagnostic) : List String :=
  d.messageLines.tail.map ("    " ++ ·) ++
    d.related.map fun r =>
      s!"  note: {file}:{r.position.line + 1}:{r.position.column + 1}: {r.message}"

theorem apply_false (style : Style) (s : String) : style.apply false s = s := rfl

theorem entry_false (file : String) (d : Diagnostic) :
    entry false file d = conciseLine file d :: details file d := by
  simp [entry, conciseLine, details, relatedLine, location, apply_false, Text.toString_text,
    String.append_assoc]

section Lines

variable (hfile : '\n' ∉ file.toList)

include hfile

theorem newline_notMem_conciseLine : '\n' ∉ (conciseLine file d).toList := by
  have hnumber : ∀ n, '\n' ∉ Nat.toDigits 10 n := Text.notMem_decimal rfl
  have hlabel : '\n' ∉ d.severity.label.toList := by
    cases d.severity <;> decide
  have hheadline : '\n' ∉ d.headline.toList := by
    unfold headline messageLines
    cases hshown : Text.shown d.message.toList with
    | nil => simp
    | cons l ls =>
        simpa using Text.newline_notMem_shown (hshown ▸ List.mem_cons_self)
  simp [conciseLine, Text.toString_text, hfile, hnumber, hlabel, hheadline]

theorem newline_notMem_details (hrelated : ∀ r ∈ d.related, '\n' ∉ r.message.toList) :
    ∀ l ∈ details file d, '\n' ∉ l.toList := by
  have hnumber : ∀ n, '\n' ∉ Nat.toDigits 10 n := Text.notMem_decimal rfl
  intro l hl
  obtain hl | hl := List.mem_append.1 hl
  · obtain ⟨k, hk, rfl⟩ := List.mem_map.1 hl
    obtain ⟨m, hm, rfl⟩ := List.mem_map.1 (List.mem_of_mem_tail hk)
    simpa using Text.newline_notMem_shown hm
  · obtain ⟨r, hr, rfl⟩ := List.mem_map.1 hl
    simp [Text.toString_text, hfile, hnumber, hrelated r hr]

end Lines

theorem toList_full (coloured : Bool) (file : String) (ds : List Diagnostic) :
    (full coloured file ds).toList =
      List.intercalate ['\n'] ((ds.flatMap (entry coloured file)).map String.toList) := by
  simp [full, String.toList_intercalate]

theorem toList_concise (file : String) (ds : List Diagnostic) :
    (concise file ds).toList =
      List.intercalate ['\n'] (ds.map fun d => (conciseLine file d).toList) := by
  simp [concise, String.toList_intercalate, Function.comp_def]

theorem lines_full (hfile : '\n' ∉ file.toList) {ds : List Diagnostic} (hne : ds ≠ [])
    (hrelated : ∀ d ∈ ds, ∀ r ∈ d.related, '\n' ∉ r.message.toList) :
    Text.lines (full false file ds).toList =
      ds.flatMap fun d => (conciseLine file d :: details file d).map String.toList := by
  have hlines : (ds.flatMap (entry false file)).map String.toList =
      ds.flatMap fun d => (conciseLine file d :: details file d).map String.toList := by
    simp only [entry_false, List.map_flatMap]
  have hclear : ∀ l ∈ ds.flatMap fun d => (conciseLine file d :: details file d).map String.toList,
      '\n' ∉ l := by
    intro l hl
    obtain ⟨d, hd, hl⟩ := List.mem_flatMap.1 hl
    obtain ⟨k, hk, rfl⟩ := List.mem_map.1 hl
    obtain rfl | hk := List.mem_cons.1 hk
    · exact newline_notMem_conciseLine hfile
    · exact newline_notMem_details hfile (hrelated d hd) k hk
  have hsome :
      (ds.flatMap fun d => (conciseLine file d :: details file d).map String.toList) ≠ [] := by
    simpa [List.flatMap_eq_nil_iff] using List.exists_mem_of_ne_nil ds hne
  rw [toList_full, hlines, Text.lines, Text.cells_eq_splitOn,
    List.splitOn_intercalate '\n' hclear hsome]

/-! ## Indentation -/

/-- Whether a line starts with two blanks. -/
def indented (l : List Char) : Bool :=
  [' ', ' '].isPrefixOf l

theorem indented_conciseLine (h : ¬ [' ', ' '] <+: file.toList) :
    indented (conciseLine file d).toList = false := by
  rw [indented, Bool.eq_false_iff, ne_eq, List.isPrefixOf_iff_prefix]
  intro hprefix
  have hcolon : ':' ∉ [' ', ' '] := by decide
  apply h
  apply Text.prefix_of_prefix_append_cons hcolon
  simpa [conciseLine, Text.toString_text] using hprefix

theorem indented_details {l : String} (hl : l ∈ details file d) : indented l.toList = true := by
  obtain hl | hl := List.mem_append.1 hl
  · obtain ⟨k, -, rfl⟩ := List.mem_map.1 hl
    simp [indented]
  · obtain ⟨r, -, rfl⟩ := List.mem_map.1 hl
    simp [indented, Text.toString_text]

theorem length_details (file : String) (d : Diagnostic) :
    (details file d).length + 1 = max 1 d.messageLines.length + d.related.length := by
  simp only [details, List.length_append, List.length_map, List.length_tail]
  omega

theorem filter_indented_entry (h : ¬ [' ', ' '] <+: file.toList) :
    ((conciseLine file d :: details file d).map String.toList).filter indented =
      (details file d).map String.toList := by
  rw [List.map_cons, List.filter_cons_of_neg (by simp [indented_conciseLine h])]
  apply List.filter_eq_self.2
  simpa using fun l hl => indented_details hl

theorem filter_not_indented_entry (h : ¬ [' ', ' '] <+: file.toList) :
    ((conciseLine file d :: details file d).map String.toList).filter (!indented ·) =
      [(conciseLine file d).toList] := by
  rw [List.map_cons, List.filter_cons_of_pos (by simp [indented_conciseLine h]),
    List.cons_inj_right]
  apply List.filter_eq_nil_iff.2
  simpa using fun l hl => indented_details hl

/-! ## Colours -/

/-- Whether no text of a diagnostic holds an escape character. -/
structure Unescaped (d : Diagnostic) : Prop where
  message : Style.escapeChar ∉ d.message.toList
  related : ∀ r ∈ d.related, Style.escapeChar ∉ r.message.toList

section Colours

open Style (ShownAs escapeChar)

theorem escape_notMem_number (n : Nat) : escapeChar ∉ (toString n).toList := by
  rw [Nat.toString_eq_ofList_toDigits, String.toList_ofList]
  exact Text.notMem_decimal rfl n

variable (hfile : escapeChar ∉ file.toList)

include hfile

theorem shownAs_location (line column : Nat) :
    ShownAs (location true file line column) (location false file line column) := by
  have hpath := ShownAs.apply .path hfile
  have hcolon : ShownAs ":" ":" := .plain (by decide)
  have hnumber := fun n => ShownAs.apply .number (escape_notMem_number n)
  exact (((hpath.append hcolon).append (hnumber line)).append hcolon).append (hnumber column)

theorem shownAs_relatedLine {r : Related} (h : escapeChar ∉ r.message.toList) :
    ShownAs (relatedLine true file r) (relatedLine false file r) := by
  have hindent : ShownAs "  " "  " := .plain (by decide)
  have hnote : ShownAs (Style.apply true .good "note:") "note:" := .apply .good (by decide)
  have hblank : ShownAs " " " " := .plain (by decide)
  have hplace := shownAs_location hfile (r.position.line + 1) (r.position.column + 1)
  have hcolon : ShownAs ": " ": " := .plain (by decide)
  exact ((((hindent.append hnote).append hblank).append hplace).append hcolon).append (.plain h)

theorem forall₂_shownAs_entry (h : Unescaped d) :
    List.Forall₂ ShownAs (entry true file d) (entry false file d) := by
  have hlabel : escapeChar ∉ (d.severity.label ++ ":").toList := by
    cases d.severity <;> decide
  have hcolon : ShownAs ": " ": " := .plain (by decide)
  have hblank : ShownAs " " " " := .plain (by decide)
  have hindent : ShownAs "    " "    " := .plain (by decide)
  have hmessage : ∀ l ∈ d.messageLines, escapeChar ∉ l.toList := by
    intro l hl
    obtain ⟨k, hk, rfl⟩ := List.mem_map.1 hl
    simpa using Text.notMem_shown h.message hk
  have hheadline : escapeChar ∉ d.headline.toList := by
    unfold headline
    cases hlines : d.messageLines with
    | nil => simp
    | cons l ls => exact hmessage l (hlines ▸ List.mem_cons_self)
  refine .cons ?_ (List.rel_append ?_ ?_)
  · have hplace := shownAs_location hfile d.line d.column
    have hseverity := ShownAs.apply d.severity.style hlabel
    exact (((hplace.append hcolon).append hseverity).append hblank).append (.plain hheadline)
  · rw [List.forall₂_map_left_iff, List.forall₂_map_right_iff, List.forall₂_same]
    exact fun l hl => hindent.append (.plain (hmessage l (List.mem_of_mem_tail hl)))
  · rw [List.forall₂_map_left_iff, List.forall₂_map_right_iff, List.forall₂_same]
    exact fun r hr => shownAs_relatedLine hfile (h.related r hr)

theorem forall₂_shownAs_entries {ds : List Diagnostic} (h : ∀ d ∈ ds, Unescaped d) :
    List.Forall₂ ShownAs (ds.flatMap (entry true file)) (ds.flatMap (entry false file)) := by
  induction ds with
  | nil => exact .nil
  | cons d ds ih =>
      exact List.rel_append (forall₂_shownAs_entry hfile (h d List.mem_cons_self))
        (ih fun e he => h e (List.mem_cons_of_mem d he))

theorem shownAs_full {ds : List Diagnostic} (h : ∀ d ∈ ds, Unescaped d) :
    ShownAs (full true file ds) (full false file ds) := by
  rw [ShownAs, toList_full, toList_full]
  apply Style.Shows.intercalate (by decide)
  rw [List.forall₂_map_left_iff, List.forall₂_map_right_iff]
  exact forall₂_shownAs_entries hfile h

omit hfile in
theorem escape_notMem_plural {noun : String} (h : escapeChar ∉ noun.toList) (n : Nat) :
    escapeChar ∉ (plural n noun).toList := by
  unfold plural
  split
  · exact h
  · rw [String.toList_append, List.mem_append, not_or]
    exact ⟨h, by decide⟩

omit hfile in
theorem shownAs_summary (files diagnostics milliseconds : Nat) :
    ShownAs (summary true files diagnostics milliseconds)
      (summary false files diagnostics milliseconds) := by
  have hnumber : ∀ n, escapeChar ∉ Nat.toDigits 10 n := Text.notMem_decimal rfl
  have hfiles : escapeChar ∉ (plural files "file").toList := escape_notMem_plural (by decide) files
  have hfound : escapeChar ∉ (plural diagnostics "diagnostic").toList :=
    escape_notMem_plural (by decide) diagnostics
  have hbreak : ShownAs "\n" "\n" := .plain (by decide)
  unfold summary
  refine ShownAs.append (ShownAs.append hbreak ?_) (.plain ?_)
  · split
    · apply ShownAs.apply
      simp [Text.toString_text, hnumber, hfiles]
      decide
    · apply ShownAs.apply
      simp [Text.toString_text, hnumber, hfiles, hfound]
      decide
  · simp [Text.toString_text, hnumber]
    decide

end Colours

/-- The full listing without colours has a line for each diagnostic, and one for each further line
of its message and each related place. Those that start with two blanks are the further lines, four
blanks in, and the places; the others are the concise listing. Coloured, the listing and the closing
line show the same. -/
theorem listings_agree (file : String) (ds : List Diagnostic) :
    ('\n' ∉ file.toList → ¬ [' ', ' '] <+: file.toList →
      (∀ d ∈ ds, ∀ r ∈ d.related, '\n' ∉ r.message.toList) →
        (ds ≠ [] → (Text.lines (Output.document .full false file ds).toList).length =
          (ds.map fun d => max 1 d.messageLines.length + d.related.length).sum) ∧
        (∀ coloured, List.intercalate ['\n']
            ((Text.lines (Output.document .full false file ds).toList).filter (!indented ·)) =
          (Output.document .concise coloured file ds).toList) ∧
        (Text.lines (Output.document .full false file ds).toList).filter indented =
          (ds.flatMap (details file)).map String.toList) ∧
    (Style.escapeChar ∉ file.toList → (∀ d ∈ ds, Unescaped d) →
      Style.unstyled (Output.document .full true file ds).toList =
        (Output.document .full false file ds).toList) ∧
    ∀ files diagnostics milliseconds,
      (Output.summary? .full true files diagnostics milliseconds).map
          (fun s => Style.unstyled s.toList) =
        (Output.summary? .full false files diagnostics milliseconds).map String.toList := by
  refine ⟨fun hfile hblank hrelated => ?_, fun hfile hds => ?_, fun files diagnostics ms => ?_⟩
  · obtain rfl | hne := eq_or_ne ds []
    · exact ⟨fun h => absurd rfl h, fun coloured => rfl, rfl⟩
    · simp only [Output.document, lines_full hfile hne hrelated, toList_concise]
      refine ⟨fun _ => ?_, fun _ => ?_, ?_⟩
      · rw [List.length_flatMap]
        congr 1
        refine List.map_congr_left fun d _ => ?_
        rw [List.length_map, List.length_cons, length_details]
      · rw [List.filter_flatMap, List.map_eq_flatMap]
        exact congrArg _ (List.flatMap_congr fun d _ => filter_not_indented_entry hblank)
      · rw [List.filter_flatMap, List.map_flatMap]
        exact List.flatMap_congr fun d _ => filter_indented_entry hblank
  · exact (shownAs_full hfile hds).unstyled_eq
  · exact congrArg some (shownAs_summary files diagnostics ms).unstyled_eq

/-- One message has three lines, the second of them empty, and a related place; the other has no
line at all. -/
def uneven : List Diagnostic :=
  [⟨.error, .point ⟨2, 8, 20⟩, "unused\r\n\n  x\n", [⟨⟨0, 4, 4⟩, "seen"⟩], "t"⟩,
    ⟨.information, .point ⟨6, 0, 51⟩, "", [], "t"⟩]

theorem listings_agree_uneven :
    uneven ≠ [] ∧ '\n' ∉ "a b.md".toList ∧ ¬ [' ', ' '] <+: "a b.md".toList ∧
    (∀ d ∈ uneven, ∀ r ∈ d.related, '\n' ∉ r.message.toList) ∧
    Style.escapeChar ∉ "a b.md".toList ∧ (∀ d ∈ uneven, Unescaped d) ∧
    (Text.lines (Output.document .full false "a b.md" uneven).toList).length = 5 ∧
    ((Text.lines (Output.document .full false "a b.md" uneven).toList).filter indented).map
        String.ofList = ["    ", "      x", "  note: a b.md:1:5: seen"] ∧
    Output.document .concise false "a b.md" uneven =
      "a b.md:3:9: error: unused\na b.md:7:1: info: " ∧
    Style.unstyled (Output.document .full true "a b.md" uneven).toList =
      (Output.document .full false "a b.md" uneven).toList := by
  have hne : uneven ≠ [] := List.cons_ne_nil _ _
  have hfile : '\n' ∉ "a b.md".toList := by decide
  have hblank : ¬ [' ', ' '] <+: "a b.md".toList := by decide
  have hrelated : ∀ d ∈ uneven, ∀ r ∈ d.related, '\n' ∉ r.message.toList := by decide
  have hescape : Style.escapeChar ∉ "a b.md".toList := by decide
  have hdiagnostics : ∀ d ∈ uneven, Unescaped d := by
    simp only [uneven, List.forall_mem_cons]
    exact ⟨⟨by decide, by decide⟩, ⟨by decide, by decide⟩, by simp⟩
  obtain ⟨hplain, hcoloured, -⟩ := listings_agree "a b.md" uneven
  obtain ⟨hlength, -, hindented⟩ := hplain hfile hblank hrelated
  refine ⟨hne, hfile, hblank, hrelated, hescape, hdiagnostics, ?_, ?_, ?_,
    hcoloured hescape hdiagnostics⟩
  · rw [hlength hne]
    decide +kernel
  · rw [hindented]
    decide +kernel
  · decide +kernel

end Listing

end FenceCheck
