import FenceCheck.Compiler
import FenceCheck.Proofs.Text.Replacement
import Mathlib.Data.List.Forall2

namespace FenceCheck

/-!
# Arguments without variables

The variable for the workspace root begins with its only dollar sign and holds no slash. So a text
is cut at it in one way, and an absolute root without a dollar sign put in its place leaves no
variable behind, not even where parts of one stood around it.
-/

namespace Invocation

/-- The variable behind its dollar sign. -/
def variableTail : List Char := "\x7bworkspaceRoot\x7d".toList

theorem rootVariable_ne_nil : rootVariable ≠ [] := List.cons_ne_nil '$' variableTail

theorem dollar_notMem_variableTail : '$' ∉ variableTail := by decide

theorem slash_notMem_rootVariable : '/' ∉ rootVariable := by decide

theorem cutAnywhere_rootVariable_iff {s : List Char} {ps : List (List Char)} :
    Text.CutAnywhere rootVariable s ps ↔ ps = Text.pieces rootVariable s := by
  constructor
  · exact Text.CutAnywhere.eq_pieces dollar_notMem_variableTail
  · rintro rfl
    exact (Text.cutFromLeft_pieces rootVariable_ne_nil s).cutAnywhere rootVariable_ne_nil

theorem expand_of_not_infix {root arg : String} (h : ¬ rootVariable <:+: arg.toList) :
    expand root arg = arg := by
  rw [expand, Text.replaceAll_of_split?_eq_none (Text.split?_eq_none_iff.2 h),
    String.ofList_toList]

theorem not_infix_expand {root : Path} (habsolute : root.isAbsolute = true)
    (hroot : '$' ∉ root.text.toList) (arg : String) :
    ¬ rootVariable <:+: (expand root.text arg).toList := by
  obtain ⟨more, hmore⟩ : ∃ more, root.text.toList = '/' :: more := by
    cases h : root.text.toList <;> simp_all [Path.isAbsolute]
  have hcut := cutAnywhere_rootVariable_iff.2 (rfl : _ = Text.pieces rootVariable arg.toList)
  rw [hmore] at hroot
  rw [expand, String.toList_ofList, Text.replaceAll, hmore]
  exact Text.not_infix_intercalate slash_notMem_rootVariable hroot hcut.free

/-- What is configured for the arguments, each text with what is put in front of it. -/
def configured (c : CompilerConfig) : List (String × String) :=
  c.args.map (("", ·)) ++ c.includePaths.map ((c.includeFlag, ·))

/-- An argument is what is put in front, and the pieces of its text with the root between them. The
pieces come of cutting the text at the variable from the left, and it cannot be cut otherwise. -/
def Expands (root : String) (entry : String × String) (arg : String) : Prop :=
  ∃ ps, Text.CutFromLeft rootVariable entry.2.toList ps ∧
    (∀ qs, Text.CutAnywhere rootVariable entry.2.toList qs ↔ qs = ps) ∧
    arg.toList = entry.1.toList ++ List.intercalate root.toList ps

theorem expands_append_expand (root front text : String) :
    Expands root (front, text) (front ++ expand root text) := by
  refine ⟨Text.pieces rootVariable text.toList, ?_, fun qs => cutAnywhere_rootVariable_iff, ?_⟩
  · exact Text.cutFromLeft_pieces rootVariable_ne_nil text.toList
  · rw [String.toList_append, expand, String.toList_ofList, Text.replaceAll]

theorem args_ofConfig (c : CompilerConfig) (root : String) :
    (ofConfig c root).args = (configured c).map fun e => e.1 ++ expand root e.2 := by
  simp [ofConfig, configured, Function.comp_def]

/-- There is an argument for each text that is configured, in order. No argument holds the variable,
so expanding them again changes nothing. -/
theorem args_ofConfig_expanded {c : CompilerConfig} {root : Path}
    (hflag : '$' ∉ c.includeFlag.toList) (habsolute : root.isAbsolute = true)
    (hroot : '$' ∉ root.text.toList) :
    List.Forall₂ (Expands root.text) (configured c) (ofConfig c root.text).args ∧
    (∀ arg ∈ (ofConfig c root.text).args,
      ¬ rootVariable <:+: arg.toList ∧ expand root.text arg = arg) ∧
    ofConfig { c with args := (ofConfig c root.text).args, includePaths := [] } root.text =
      ofConfig c root.text := by
  have hfree : ∀ arg ∈ (ofConfig c root.text).args, ¬ rootVariable <:+: arg.toList := by
    intro arg harg hin
    obtain ⟨⟨front, text⟩, hentry, rfl⟩ := List.mem_map.1 (args_ofConfig c root.text ▸ harg)
    have hfront : '$' ∉ front.toList := by
      obtain hentry | hentry := List.mem_append.1 hentry
      all_goals
        obtain ⟨_, -, heq⟩ := List.mem_map.1 hentry
        cases heq
      · simp
      · exact hflag
    rw [String.toList_append] at hin
    exact not_infix_expand habsolute hroot text (Text.infix_of_infix_append hfront hin)
  refine ⟨?_, fun arg harg => ⟨hfree arg harg, expand_of_not_infix (hfree arg harg)⟩, ?_⟩
  · rw [args_ofConfig, List.forall₂_map_right_iff]
    exact List.forall₂_same.2 fun e _ => expands_append_expand root.text e.1 e.2
  · have hsame : (ofConfig c root.text).args.map (expand root.text) =
        (ofConfig c root.text).args := by
      conv_rhs => rw [← List.map_id (ofConfig c root.text).args]
      exact List.map_congr_left fun arg harg => expand_of_not_infix (hfree arg harg)
    rw [ofConfig, List.map_nil, List.append_nil, hsame]
    rfl

/-- Parts of the variable stand around one, and two stand in one text. -/
def surrounded : CompilerConfig where
  command := "cc"
  args := ["$\x7bworkspace$\x7bworkspaceRoot\x7dRoot\x7d", "-c"]
  includePaths := ["$\x7bworkspaceRoot\x7d/a:$\x7bworkspaceRoot\x7d"]
  includeFlag := "-I"
  timeout := 0

theorem args_ofConfig_expanded_surrounded :
    '$' ∉ surrounded.includeFlag.toList ∧ (⟨"/w"⟩ : Path).isAbsolute = true ∧
      '$' ∉ (⟨"/w"⟩ : Path).text.toList ∧
      (ofConfig surrounded "/w").args = ["$\x7bworkspace/wRoot\x7d", "-c", "-I/w/a:/w"] ∧
      ∀ arg ∈ ["$\x7bworkspace/wRoot\x7d", "-c", "-I/w/a:/w"],
        ¬ rootVariable <:+: arg.toList ∧ expand "/w" arg = arg := by
  have hflag : '$' ∉ surrounded.includeFlag.toList := by decide
  have habsolute : (⟨"/w"⟩ : Path).isAbsolute = true := by decide
  have hroot : '$' ∉ (⟨"/w"⟩ : Path).text.toList := by decide
  have hargs : (ofConfig surrounded "/w").args =
      ["$\x7bworkspace/wRoot\x7d", "-c", "-I/w/a:/w"] := by
    decide +kernel
  have hfree := (args_ofConfig_expanded hflag habsolute hroot).2.1
  rw [hargs] at hfree
  exact ⟨hflag, habsolute, hroot, hargs, hfree⟩

end Invocation

end FenceCheck
