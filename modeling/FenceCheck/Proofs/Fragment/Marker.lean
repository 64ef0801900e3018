import FenceCheck.Proofs.Fragment.Anchoring

namespace FenceCheck

/-!
# What stands before the marker

The marker takes the place of the three backticks in front of the tag. A fence of just three
leaves nothing before it. The further backticks of a longer fence stay in front: a directive
behind them does not begin its line, and where no directive keeps them apart they run into the
backticks behind the tag, of which every three go away.
-/

namespace Fragment

section Modes

variable {n startLine : Nat} {identity : String} {between : List Char}

/-- In front of a directive the backticks of a longer fence are left. -/
theorem replaceAll_directive (hn : n < 3) (hidentity : '`' ∉ identity.toList)
    (hbetween : Text.split? fence (between ++ fence) = some (between, [])) :
    Text.replaceAll fence [] (List.replicate n '`' ++
        (Anchor.Mode.lineDirective.marker startLine identity).toList ++ between ++ fence) =
      List.replicate n '`' ++ (Anchor.Mode.lineDirective.marker startLine identity).toList ++
        between := by
  have hname := replaceAll_fence_of_notMem (Anchor.notMem_forward (by decide) hidentity)
  have hrest : Text.replaceAll fence [] (between ++ fence) = between := by
    rw [Text.replaceAll_of_split?_eq_some fence_ne_nil hbetween, Text.replaceAll_nil fence_ne_nil]
    simp
  rw [List.append_assoc _ between, Anchor.Mode.marker, replaceAll_ticks_directive,
    Nat.mod_eq_of_lt hn, hname, hrest, Anchor.toList_directive]
  simp

/-- Without a directive they run into the backticks behind the tag. -/
theorem replaceAll_no_directive
    (hbetween : Text.split? fence (between ++ fence) = some (between, [])) :
    Text.replaceAll fence [] (List.replicate n '`' ++ between ++ fence) =
      List.replicate ((n + ticks between) % 3) '`' ++ between.dropWhile (· == '`') := by
  have hinner : Text.split? fence (between.dropWhile (· == '`') ++ fence) =
      some (between.dropWhile (· == '`'), []) := by
    refine Text.split?_inside (u := List.replicate (ticks between) '`') (v := []) ?_ (by simp)
    rwa [List.append_nil, ← List.append_assoc, ← eq_replicate_ticks_append]
  have hrun : List.replicate n '`' ++ between =
      List.replicate (n + ticks between) '`' ++ between.dropWhile (· == '`') := by
    rw [← List.replicate_append_replicate, List.append_assoc, ← eq_replicate_ticks_append]
  rw [hrun, replaceAll_fence_replicate_append _ (head?_dropWhile_backtick between) hinner]

/-- They leave the text behind the tag as it is just if there are none. -/
theorem replicate_append_dropWhile_eq_iff (hn : n < 3) (hticks : ticks between < 3) :
    List.replicate ((n + ticks between) % 3) '`' ++ between.dropWhile (· == '`') = between ↔
      n = 0 := by
  have hlength := congrArg List.length (eq_replicate_ticks_append between)
  simp only [List.length_append, List.length_replicate] at hlength
  constructor
  · intro heq
    have hsame := congrArg List.length heq
    simp only [List.length_append, List.length_replicate] at hsame
    omega
  · rintro rfl
    rw [Nat.zero_add, Nat.mod_eq_of_lt hticks, ← eq_replicate_ticks_append]

end Modes

/-- The staged text begins with the marker, and goes on as the document does behind the tag, just
if the fence is of three backticks. In front of a directive the others stay. -/
theorem staged_text_eq_marker_append_iff {t : Target} {d : Document} {f : Fragment}
    (hidentity : '`' ∉ d.identity.toList) (hf : f ∈ extract t d.text d.identity)
    (hc : f.isCompilable = true) :
    ∃ r n between, (Region.cut d.text.toList).1[f.id - 1]? = some r ∧
      d.HoldsAt f.offset r.raw ∧ r.tag? = some t.language.toList ∧
      r.raw = fence ++ List.replicate n '`' ++ t.language.toList ++ between ++ fence ∧ n < 3 ∧
      (f.text.toList = (t.mode.marker f.startLine d.identity).toList ++ between ↔ n = 0) ∧
      ((t.mode.marker f.startLine d.identity).toList <+: f.text.toList ↔
        n = 0 ∨ t.mode = .firstLineOffset) ∧
      f.text.toList = match t.mode with
        | .lineDirective =>
            List.replicate n '`' ++ (t.mode.marker f.startLine d.identity).toList ++ between
        | .firstLineOffset =>
            List.replicate ((n + ticks between) % 3) '`' ++ between.dropWhile (· == '`') := by
  obtain ⟨r, before, after, h⟩ := exists_standsIn hf
  obtain ⟨-, htag, -⟩ := h.text_toList hc
  obtain ⟨n, between, hn, hraw, hbetween, htext⟩ := h.exists_fence hc
  have hplace : d.HoldsAt f.offset r.raw := ⟨before, after, h.text_eq, h.byteLength_eq⟩
  refine ⟨r, n, between, h.nth, hplace, htag, hraw, hn, ?_⟩
  cases hmode : t.mode with
  | lineDirective =>
      rw [hmode, replaceAll_directive hn hidentity hbetween] at htext
      refine ⟨?_, ?_, htext⟩
      · rw [htext, List.append_assoc]
        simp
      · rw [htext, List.append_assoc, Anchor.Mode.marker, Anchor.toList_directive]
        cases n with
        | zero => simp
        | succ n => simp [List.replicate_succ]
  | firstLineOffset =>
      rw [hmode, Anchor.Mode.marker, String.toList_empty, List.append_nil,
        replaceAll_no_directive hbetween] at htext
      refine ⟨?_, by simp [Anchor.Mode.marker], htext⟩
      have hticks : ticks between < 3 := by
        apply lt_three_of_split? (s := between.dropWhile (· == '`'))
        rwa [← eq_replicate_ticks_append]
      rw [htext, Anchor.Mode.marker, String.toList_empty, List.nil_append]
      exact replicate_append_dropWhile_eq_iff hn hticks

/-- Backticks of the fence and behind the tag go away together. -/
def mergedTicks : Document :=
  ⟨"a.md", "````cpp`` x\n```"⟩

theorem staged_text_eq_marker_append_iff_mergedTicks :
    ∃ f ∈ extract ⟨"cpp", .firstLineOffset⟩ mergedTicks.text mergedTicks.identity,
      '`' ∉ mergedTicks.identity.toList ∧ f.isCompilable = true ∧ f.text = " x\n" ∧
        ∃ n between, mergedTicks.HoldsAt f.offset
            (fence ++ List.replicate n '`' ++ "cpp".toList ++ between ++ fence) ∧
          (f.text.toList = between ↔ n = 0) := by
  have hidentity : '`' ∉ mergedTicks.identity.toList := by decide
  have hf : (⟨1, some "cpp", 1, 0, " x\n", .compile⟩ : Fragment) ∈
      extract ⟨"cpp", .firstLineOffset⟩ mergedTicks.text mergedTicks.identity := by
    decide +kernel
  obtain ⟨r, n, between, -, hplace, -, hraw, -, htext, -⟩ :=
    staged_text_eq_marker_append_iff hidentity hf rfl
  rw [hraw] at hplace
  exact ⟨_, hf, hidentity, rfl, rfl, n, between, hplace, htext⟩

/-- Behind a fourth backtick the directive does not begin the staged text. -/
theorem not_marker_prefix_fourBackticks :
    ∃ f ∈ extract ⟨"cpp", .lineDirective⟩ "````cpp\nint x;\n```" "a.md",
      f.isCompilable = true ∧ f.text = "`#line 2 \"a.md\"\nint x;\n" ∧
        ¬ (Anchor.Mode.lineDirective.marker f.startLine "a.md").toList <+: f.text.toList := by
  refine ⟨⟨1, some "cpp", 1, 0, "`#line 2 \"a.md\"\nint x;\n", .compile⟩, ?_, rfl, rfl, ?_⟩
  · decide +kernel
  · decide +kernel

end Fragment

end FenceCheck
