import FenceCheck.Proofs.Fragment.Directive
import Mathlib.Data.List.Forall2

namespace FenceCheck

/-!
# Fragments of a text behind another

Behind a text that ends outside of any region, and neither in a backtick nor in a backslash,
extraction begins anew: the fragments are those of the rest alone, with numbers, lines and
offsets counted on. The only other trace is the line number in a directive.
-/

namespace Region

/-- A region with more text in front of its gap. -/
def behind (u : List Char) (r : Region) : Region :=
  { r with gap := u ++ r.gap }

/-- The regions of a text stay when it goes on. -/
theorem cut_append (a b : List Char) :
    (cut (a ++ b)).1 = (cut a).1 ++ (cut ((cut a).2 ++ b)).1 := by
  cases ho : Text.split? fence a with
  | none => simp [cut_of_no_opening ho]
  | some opening =>
      obtain ⟨before, inside⟩ := opening
      cases hc : Text.split? fence inside with
      | none => simp [cut_of_no_closing ho hc]
      | some closing =>
          obtain ⟨body, rest⟩ := closing
          have ho' := Text.split?_append_of_eq_some b ho
          have hc' := Text.split?_append_of_eq_some b hc
          have hshorter := length_lt_of_closing ho hc
          rw [cut_of_closing ho' hc', cut_of_closing ho hc, cut_append rest b]
          rfl
termination_by a.length

/-- Whether extraction begins anew behind a text. -/
structure Settled (a : List Char) : Prop where
  rest : ¬ fence <:+: (cut a).2
  backtick : a.getLast? ≠ some '`'
  backslash : a.getLast? ≠ some '\\'

theorem after_append {u : List Char} (h : u.getLast? ≠ some '\\') (before body : List Char) :
    after (u ++ before) body = (after before body).behind u := by
  unfold after
  rcases List.eq_nil_or_concat before with rfl | ⟨init, last, rfl⟩
  · simp [h, behind]
  · by_cases hlast : last = '\\'
    · simp [hlast, behind, ← List.append_assoc]
    · simp [hlast, behind, ← List.append_assoc]

/-- Behind a text that opens nothing the first gap is longer by it, and nothing else changes. -/
theorem cut_append_of_settled {u : List Char} (hu : ¬ fence <:+: u)
    (htick : u.getLast? ≠ some '`') (hslash : u.getLast? ≠ some '\\') (b : List Char) :
    (cut (u ++ b)).1 = (cut b).1.modifyHead (behind u) := by
  have hopening := split?_fence_append hu htick b
  cases ho : Text.split? fence b with
  | none =>
      rw [ho] at hopening
      rw [cut_of_no_opening ho, cut_of_no_opening hopening]
      rfl
  | some halves =>
      obtain ⟨before, inside⟩ := halves
      rw [ho] at hopening
      cases hc : Text.split? fence inside with
      | none =>
          rw [cut_of_no_closing ho hc, cut_of_no_closing hopening hc]
          rfl
      | some halves =>
          rw [cut_of_closing ho hc, cut_of_closing hopening hc, after_append hslash]
          rfl

theorem Settled.cut_append {a : List Char} (h : Settled a) (b : List Char) :
    (cut (a ++ b)).1 = (cut a).1 ++ (cut b).1.modifyHead (behind (cut a).2) := by
  have hsuffix : ∀ c, (cut a).2.getLast? = some c → a.getLast? = some c := by
    intro c hc
    rw [← flatten_cut a, List.getLast?_append, hc]
    rfl
  rw [Region.cut_append, cut_append_of_settled h.rest]
  · exact fun hc => h.backtick (hsuffix _ hc)
  · exact fun hc => h.backslash (hsuffix _ hc)

end Region

namespace Fragment

/-- The line number is all in a staged text that depends on where the region stands. -/
theorem exists_staged_directive_eq {r : Region} {tag : List Char} (hesc : r.escaped = false)
    (htag : r.tag? = some tag) (identity : String) :
    ∃ ticks rest, (∀ c ∈ ticks, c = '`') ∧ ∀ line,
      staged tag (Anchor.directive line identity).toList r.raw =
        ticks ++ "#line ".toList ++ Text.decimal line ++ ' ' :: rest := by
  obtain ⟨n, tail, hbody, hne, hword⟩ := Region.exists_body_eq_of_tag? htag
  refine ⟨List.replicate (n % 3) '`', '"' :: (Text.replaceAll fence []
    (FileName.forward identity).toList ++ '"' :: Text.replaceAll fence [] (tail ++ fence)),
    fun c hc => List.eq_of_mem_replicate hc, fun line => ?_⟩
  rw [staged_raw_eq hesc hbody hne hword, List.append_assoc _ tail, replaceAll_ticks_directive]
  simp

/-- How much a text puts in front of another: regions, line feeds and bytes. -/
structure Extent where
  fragments : Nat
  lines : Nat
  bytes : Nat
  deriving DecidableEq, Repr

namespace Extent

def nothing : Extent := ⟨0, 0, 0⟩

def ofText (t : Target) (text identity : String) : Extent where
  fragments := (extract t text identity).length
  lines := text.toList.count '\n'
  bytes := Text.byteLength text.toList

end Extent

/-- Whether two staged texts differ at most in the line number of the directive in front. -/
def Renumbered (f g : Fragment) : Prop :=
  ∃ ticks rest, (∀ c ∈ ticks, c = '`') ∧
    f.text.toList =
      ticks ++ "#line ".toList ++ Text.decimal (f.startLine + 1) ++ ' ' :: rest ∧
    g.text.toList =
      ticks ++ "#line ".toList ++ Text.decimal (g.startLine + 1) ++ ' ' :: rest

/-- Whether a fragment behind one text and another one behind another text are the same but for
what is counted. -/
structure Shifted (t : Target) (x y : Extent) (f g : Fragment) : Prop where
  id : f.id + y.fragments = g.id + x.fragments
  startLine : f.startLine + y.lines = g.startLine + x.lines
  offset : f.offset + y.bytes = g.offset + x.bytes
  language : f.language = g.language
  disposition : f.disposition = g.disposition
  text : if f.isCompilable = true ∧ t.mode = .lineDirective then Renumbered f g
    else f.text = g.text

/-- Whether two cursors are as far apart as what stands in front of them. -/
structure Cursor.Apart (x y : Extent) (c d : Cursor) : Prop where
  id : c.id + y.fragments = d.id + x.fragments
  line : c.line + y.lines = d.line + x.lines
  offset : c.offset + y.bytes = d.offset + x.bytes

variable {t : Target} {identity : String} {x y : Extent} {c d : Cursor}

theorem Cursor.Apart.skip (h : c.Apart x y d) (s : List Char) :
    (c.skip s).Apart x y (d.skip s) := by
  have hline := h.line
  have hoffset := h.offset
  refine ⟨h.id, ?_, ?_⟩
  · dsimp only [Cursor.skip]
    omega
  · dsimp only [Cursor.skip]
    omega

theorem shifted_ofRegion (h : Cursor.Apart x y c d) (r : Region) :
    Shifted t x y (ofRegion t identity c r) (ofRegion t identity d r) := by
  refine ⟨h.id, h.line, h.offset, rfl, rfl, ?_⟩
  split
  · next hdirective =>
      obtain ⟨hcompilable, hmode⟩ := hdirective
      have hcompile : Disposition.ofRegion t.language.toList r = .compile := by
        simpa [isCompilable, ofRegion] using hcompilable
      obtain ⟨hesc, htag⟩ := Disposition.ofRegion_eq_compile_iff.1 hcompile
      obtain ⟨ticks, rest, hticks, hstaged⟩ := exists_staged_directive_eq hesc htag identity
      have htext : ∀ e : Cursor, (ofRegion t identity e r).text.toList =
          ticks ++ "#line ".toList ++ Text.decimal (e.line + 1) ++ ' ' :: rest := by
        intro e
        simp only [ofRegion, hcompile, hmode, Anchor.Mode.marker, String.toList_ofList]
        exact hstaged (e.line + 1)
      exact ⟨ticks, rest, hticks, htext c, htext d⟩
  · next hplain =>
      cases hd : Disposition.ofRegion t.language.toList r with
      | escaped => simp only [ofRegion, hd]
      | otherLanguage => simp only [ofRegion, hd]
      | compile =>
          cases hmode : t.mode with
          | firstLineOffset => simp only [ofRegion, hd, hmode, Anchor.Mode.marker]
          | lineDirective => exact (hplain ⟨by simp [isCompilable, ofRegion, hd], hmode⟩).elim

theorem forall₂_shifted_ofRegions (h : Cursor.Apart x y c d) (rs : List Region) :
    List.Forall₂ (Shifted t x y) (ofRegions t identity c rs) (ofRegions t identity d rs) := by
  induction rs generalizing c d with
  | nil => exact .nil
  | cons r rs ih =>
      have hhere := h.skip r.gap
      have hnext := hhere.skip r.raw
      have hid := hnext.id
      refine .cons (shifted_ofRegion hhere r) (ih ⟨?_, hnext.line, hnext.offset⟩)
      dsimp only
      omega

theorem ofRegions_append (c : Cursor) (rs rs' : List Region) :
    ofRegions t identity c (rs ++ rs') =
      ofRegions t identity c rs ++
        ofRegions t identity (c.behind rs.length (rs.map Region.written).flatten) rs' := by
  induction rs generalizing c with
  | nil => rfl
  | cons r rs ih =>
      simp only [List.cons_append, ofRegions, ih]
      congr 3
      simp only [Cursor.behind, Cursor.skip, List.length_cons, List.map_cons, List.flatten_cons,
        Region.written, Text.byteLength_append, List.count_append, Cursor.mk.injEq]
      omega

theorem ofRegions_modifyHead_behind (c : Cursor) (u : List Char) (rs : List Region) :
    ofRegions t identity c (rs.modifyHead (Region.behind u)) =
      ofRegions t identity (c.skip u) rs := by
  cases rs with
  | nil => rfl
  | cons r rs =>
      have hgap : c.skip (u ++ r.gap) = (c.skip u).skip r.gap := by
        simp [Cursor.skip, Nat.add_assoc]
      rw [List.modifyHead_cons, ofRegions, ofRegions, Region.behind, hgap]
      rfl

/-- Behind a settled text the regions of the rest are counted on. -/
theorem extract_append_of_settled {a : String} (h : Region.Settled a.toList) (t : Target)
    (b identity : String) :
    extract t (a ++ b) identity = extract t a identity ++
      ofRegions t identity (Cursor.start.behind (extract t a identity).length a.toList)
        (Region.cut b.toList).1 := by
  have hcursor : (Cursor.start.behind (Region.cut a.toList).1.length
      ((Region.cut a.toList).1.map Region.written).flatten).skip (Region.cut a.toList).2 =
        Cursor.start.behind (extract t a identity).length a.toList := by
    have htext := Region.flatten_cut a.toList
    have hbytes := congrArg Text.byteLength htext
    have hlines := congrArg (List.count '\n') htext
    rw [Text.byteLength_append] at hbytes
    rw [List.count_append] at hlines
    rw [length_extract]
    simp only [Cursor.behind, Cursor.skip, Cursor.mk.injEq]
    refine ⟨trivial, ?_, ?_⟩
    · omega
    · omega
  rw [extract, String.toList_append, h.cut_append, ofRegions_append,
    ofRegions_modifyHead_behind, hcursor]
  rfl

/-- What is extracted from a text does not depend on what stands in front of it, except in what
is counted. -/
theorem extract_append_shifted {a a' : String} (h : Region.Settled a.toList)
    (h' : Region.Settled a'.toList) (t : Target) (b identity : String) :
    ∃ later later', extract t (a ++ b) identity = extract t a identity ++ later ∧
      extract t (a' ++ b) identity = extract t a' identity ++ later' ∧
      List.Forall₂ (Shifted t .nothing (.ofText t a identity)) (extract t b identity) later ∧
      List.Forall₂ (Shifted t (.ofText t a identity) (.ofText t a' identity)) later later' ∧
      ((extract t a identity).length = (extract t a' identity).length →
        later.map id = later'.map id) := by
  have hapart : Cursor.Apart .nothing (.ofText t a identity) .start
      (Cursor.start.behind (extract t a identity).length a.toList) := ⟨rfl, rfl, rfl⟩
  have hapart' : Cursor.Apart (.ofText t a identity) (.ofText t a' identity)
      (Cursor.start.behind (extract t a identity).length a.toList)
      (Cursor.start.behind (extract t a' identity).length a'.toList) := by
    refine ⟨?_, ?_, ?_⟩
    · simp only [Cursor.behind, Cursor.skip, Extent.ofText]
      omega
    · simp only [Cursor.behind, Cursor.skip, Extent.ofText]
      omega
    · simp only [Cursor.behind, Cursor.skip, Extent.ofText]
      omega
  refine ⟨_, _, extract_append_of_settled h t b identity,
    extract_append_of_settled h' t b identity, forall₂_shifted_ofRegions hapart _,
    forall₂_shifted_ofRegions hapart' _, fun hlength => ?_⟩
  rw [map_id_ofRegions, map_id_ofRegions, hlength]
  rfl

/-- A region escaped moves what follows by the byte of its backslash, and leaves the numbers. -/
theorem extract_append_shifted_escaped :
    ∃ later later',
      extract ⟨"cpp", .lineDirective⟩ ("```py\nx\n```\n" ++ "```cpp\ny\n```") "d.md" =
        extract ⟨"cpp", .lineDirective⟩ "```py\nx\n```\n" "d.md" ++ later ∧
      extract ⟨"cpp", .lineDirective⟩ ("\\```py\nx\n```\n" ++ "```cpp\ny\n```") "d.md" =
        extract ⟨"cpp", .lineDirective⟩ "\\```py\nx\n```\n" "d.md" ++ later' ∧
      later.map id = later'.map id ∧
      List.Forall₂ (fun f g => f.startLine = g.startLine ∧ f.offset + 1 = g.offset)
        later later' := by
  have hforeign : Region.Settled "```py\nx\n```\n".toList :=
    ⟨by decide +kernel, by decide +kernel, by decide +kernel⟩
  have hescaped : Region.Settled "\\```py\nx\n```\n".toList :=
    ⟨by decide +kernel, by decide +kernel, by decide +kernel⟩
  obtain ⟨later, later', hfirst, hsecond, -, hshifted, hids⟩ :=
    extract_append_shifted hforeign hescaped ⟨"cpp", .lineDirective⟩ "```cpp\ny\n```" "d.md"
  have hlines : "\\```py\nx\n```\n".toList.count '\n' =
      "```py\nx\n```\n".toList.count '\n' := by
    decide +kernel
  have hbytes : Text.byteLength "\\```py\nx\n```\n".toList =
      Text.byteLength "```py\nx\n```\n".toList + 1 := by
    decide +kernel
  refine ⟨later, later', hfirst, hsecond, hids (by decide +kernel), hshifted.imp ?_⟩
  intro f g hfg
  have hline := hfg.startLine
  have hoffset := hfg.offset
  simp only [Extent.ofText] at hline hoffset
  omega

end Fragment

end FenceCheck
