import FenceCheck.Proofs.Fragment.Anchoring
import FenceCheck.Proofs.Text.CarriageReturn

namespace FenceCheck

/-!
# Fragments under returned line ends

No fence, tag or marker holds a line end, so a text with returned line ends is cut into the
same regions. Every line feed in front of a region moves it by one byte.
-/

namespace Region

def crlf (r : Region) : Region :=
  ⟨Text.crlf r.gap, r.escaped, Text.crlf r.body⟩

theorem return_notMem_fence : '\r' ∉ fence := by
  simp [fence]

theorem split?_fence_crlf (s : List Char) :
    Text.split? fence (Text.crlf s) =
      (Text.split? fence s).map fun halves => (Text.crlf halves.1, Text.crlf halves.2) :=
  Text.split?_crlf fence_ne_nil return_notMem_fence newline_notMem_fence s

theorem after_crlf (before body : List Char) :
    after (Text.crlf before) (Text.crlf body) = (after before body).crlf := by
  unfold after
  rw [Text.getLast?_crlf]
  split
  · next h =>
      obtain ⟨init, rfl⟩ := List.getLast?_eq_some_iff.1 h
      have hslash : Text.crlf ['\\'] = ['\\'] := by decide
      simp [crlf, hslash]
  · rfl

theorem raw_crlf (r : Region) : r.crlf.raw = Text.crlf r.raw := by
  have hfence : Text.crlf fence = fence := Text.crlf_of_notMem newline_notMem_fence
  unfold raw crlf
  cases r.escaped with
  | false => simp [hfence]
  | true =>
      have hslash : Text.crlf ['\\'] = ['\\'] := by decide
      simp only [if_true, Text.crlf_append, hfence, hslash]

theorem tag?_crlf (r : Region) : r.crlf.tag? = r.tag? := by
  unfold tag? crlf
  rw [Text.dropWhile_crlf (by decide) (by decide), Text.takeWhile_crlf (by decide) (by decide)]

theorem cut_crlf (s : List Char) :
    cut (Text.crlf s) = ((cut s).1.map crlf, Text.crlf (cut s).2) := by
  have hopening := split?_fence_crlf s
  cases ho : Text.split? fence s with
  | none =>
      rw [ho] at hopening
      rw [cut_of_no_opening ho, cut_of_no_opening hopening]
      rfl
  | some opening =>
      obtain ⟨before, inside⟩ := opening
      rw [ho] at hopening
      have hclosing := split?_fence_crlf inside
      cases hc : Text.split? fence inside with
      | none =>
          rw [hc] at hclosing
          rw [cut_of_no_closing ho hc, cut_of_no_closing hopening hclosing]
          rfl
      | some closing =>
          obtain ⟨body, rest⟩ := closing
          have hshorter := length_lt_of_closing ho hc
          rw [hc] at hclosing
          rw [cut_of_closing ho hc, cut_of_closing hopening hclosing, cut_crlf rest, after_crlf]
          rfl
termination_by s.length

end Region

namespace Fragment

def crlf (f : Fragment) : Fragment :=
  { f with
    offset := f.offset + (f.startLine - 1)
    text := String.ofList (Text.crlf f.text.toList) }

/-- A cursor moved by one byte for every line before its own. -/
def Cursor.crlf (c : Cursor) : Cursor :=
  { c with offset := c.offset + (c.line - 1) }

theorem Cursor.crlf_skip {c : Cursor} (h : 1 ≤ c.line) (s : List Char) :
    c.crlf.skip (Text.crlf s) = (c.skip s).crlf := by
  simp only [Cursor.skip, Cursor.crlf, Text.byteLength_crlf, Text.count_crlf, Cursor.mk.injEq]
  refine ⟨trivial, ?_, trivial⟩
  omega

theorem staged_crlf {language marker : List Char} (hword : ∀ c ∈ language, Text.isWord c = true)
    (hmarker : '\n' ∉ marker) (raw : List Char) :
    staged language marker (Text.crlf raw) = Text.crlf (staged language marker raw) := by
  have hreturn : '\r' ∉ fence ++ language := by
    simp [Region.return_notMem_fence, notMem_of_isWord_eq_false hword (c := '\r') (by decide)]
  have hnewline : '\n' ∉ fence ++ language := by
    simp [newline_notMem_fence, notMem_of_isWord_eq_false hword (c := '\n') (by decide)]
  have hne : fence ++ language ≠ [] := by simp [fence]
  rw [staged, staged, Text.replaceFirst_crlf hne hreturn hnewline hmarker,
    Text.replaceAll_crlf fence_ne_nil Region.return_notMem_fence newline_notMem_fence
      (by simp)]

variable {t : Target} {identity : String} {c : Cursor}

theorem ofRegion_crlf (hidentity : '\n' ∉ identity.toList) (c : Cursor) (r : Region) :
    ofRegion t identity c.crlf r.crlf = (ofRegion t identity c r).crlf := by
  have hdisposition : Disposition.ofRegion t.language.toList r.crlf =
      Disposition.ofRegion t.language.toList r := by
    rw [Disposition.ofRegion, Disposition.ofRegion, Region.tag?_crlf]
    rfl
  simp only [ofRegion, crlf, hdisposition, Region.tag?_crlf, Region.raw_crlf, Cursor.crlf]
  congr 1
  cases hd : Disposition.ofRegion t.language.toList r with
  | escaped => simp
  | otherLanguage => simp
  | compile =>
      obtain ⟨-, htag⟩ := Disposition.ofRegion_eq_compile_iff.1 hd
      obtain ⟨-, -, -, -, hword⟩ := Region.exists_body_eq_of_tag? htag
      have hmarker := Anchor.notMem_marker t.mode c.line (by decide) (by decide) (by decide) hidentity
      simp [staged_crlf hword hmarker]

theorem ofRegions_crlf (hidentity : '\n' ∉ identity.toList) (hc : 1 ≤ c.line)
    (rs : List Region) :
    ofRegions t identity c.crlf (rs.map Region.crlf) =
      (ofRegions t identity c rs).map crlf := by
  induction rs generalizing c with
  | nil => rfl
  | cons r rs ih =>
      have hhere : 1 ≤ (c.skip r.gap).line := Nat.le_add_right_of_le hc
      have hnext : 1 ≤ ((c.skip r.gap).skip r.raw).line := Nat.le_add_right_of_le hhere
      have hgap : c.crlf.skip r.crlf.gap = (c.skip r.gap).crlf := Cursor.crlf_skip hc r.gap
      rw [List.map_cons, ofRegions, ofRegions, List.map_cons, hgap, Region.raw_crlf,
        Cursor.crlf_skip hhere, ofRegion_crlf hidentity]
      exact congrArg _ (ih (c := ⟨_, _, _⟩) hnext)

theorem extract_crlf (hidentity : '\n' ∉ identity.toList) (t : Target) (text : String) :
    extract t (String.ofList (Text.crlf text.toList)) identity =
      (extract t text identity).map crlf := by
  rw [extract, String.toList_ofList, Region.cut_crlf]
  exact ofRegions_crlf (c := .start) hidentity (Nat.le_refl 1) _

end Fragment

end FenceCheck
