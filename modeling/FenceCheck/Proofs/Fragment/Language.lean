import FenceCheck.Proofs.Fragment.Staged
import Mathlib.Data.List.TakeWhile

namespace FenceCheck

/-!
# The language of a fence

A fence is compiled just if the word that begins its first line is the language. For a line that
is one word this says that the line is the language. A language with another character in it is
no such word, so no fence is ever compiled for it, and a fence with such a language on its line
is taken for one in the language that its first word names.
-/

/-- Whether a text begins with just this word: no character of a word comes behind it. -/
def LeadingWord (word s : List Char) : Prop :=
  ∃ rest, s = word ++ rest ∧ (∀ c ∈ word, Text.isWord c = true) ∧
    ∀ c, rest.head? = some c → Text.isWord c = false

theorem takeWhile_isWord_eq_iff {word s : List Char} :
    s.takeWhile Text.isWord = word ↔ LeadingWord word s := by
  constructor
  · rintro rfl
    refine ⟨s.dropWhile Text.isWord, List.takeWhile_append_dropWhile.symm, ?_, ?_⟩
    · exact List.all_eq_true.1 (List.all_takeWhile (p := Text.isWord))
    · intro c hc
      have hnot := List.head?_dropWhile_not Text.isWord s
      rw [hc] at hnot
      simpa using hnot
  · rintro ⟨rest, rfl, hword, hrest⟩
    cases rest with
    | nil => rwa [List.append_nil, List.takeWhile_eq_self_iff]
    | cons c rest =>
        rw [takeWhile_isWord_append_cons (hrest c rfl), List.takeWhile_eq_self_iff]
        exact hword

namespace Region

/-- A text with one fence at each end is one region. -/
theorem cut_fence_append_fence {s : List Char} (hs : '`' ∉ s) :
    cut (fence ++ s ++ fence) = ([⟨[], false, s⟩], []) := by
  have hopening : Text.split? fence (fence ++ s ++ fence) = some ([], s ++ fence) :=
    Text.split?_eq_some_of_eq_append (List.append_assoc fence s fence)
  have hclosing : Text.split? fence (s ++ fence) = some (s, []) := by
    rw [split?_fence_append_of_notMem hs, Text.split?_eq_some_of_eq_append (List.append_nil _).symm]
    simp
  have hempty : cut [] = ([], []) :=
    cut_of_no_opening (Text.split?_eq_none_iff.2 (by simp [fence]))
  rw [cut_of_closing hopening hclosing, hempty]
  rfl

/-- Without a longer fence the tag is the word that begins the body. -/
theorem tag?_eq_some_iff {r : Region} (hbody : '`' ∉ r.body) {word : List Char} :
    r.tag? = some word ↔ word ≠ [] ∧ LeadingWord word r.body := by
  have hinner : r.body.dropWhile (· == '`') = r.body := by
    apply List.dropWhile_eq_self_iff.2
    intro hpos htick
    exact hbody (eq_of_beq htick ▸ List.getElem_mem hpos)
  unfold tag?
  rw [hinner, ← takeWhile_isWord_eq_iff]
  split
  · next hnil =>
      rw [hnil]
      simp [eq_comm]
  · next hne =>
      rw [Option.some_inj]
      exact ⟨fun h => ⟨fun hnil => hne (h.trans hnil), h⟩, And.right⟩

end Region

namespace Fragment

variable {t : Target} {tag body : String}

theorem extract_single_fence (identity : String) (htag : '`' ∉ tag.toList)
    (hbody : '`' ∉ body.toList) :
    extract t ("```" ++ tag ++ "\n" ++ body ++ "```") identity =
      [ofRegion t identity .start ⟨[], false, tag.toList ++ '\n' :: body.toList⟩] := by
  have htext : ("```" ++ tag ++ "\n" ++ body ++ "```").toList =
      fence ++ (tag.toList ++ '\n' :: body.toList) ++ fence := by
    simp [fence]
  have hinside : '`' ∉ tag.toList ++ '\n' :: body.toList := by
    simp [htag, hbody]
  rw [extract, htext, Region.cut_fence_append_fence hinside]
  rfl

/-- A single fence is compiled just if the word that begins its line is the language. -/
theorem extract_single_fence_compiled_iff (identity : String) (hlanguage : t.language ≠ "")
    (htag : '`' ∉ tag.toList) (hbody : '`' ∉ body.toList) :
    ∃ f, extract t ("```" ++ tag ++ "\n" ++ body ++ "```") identity = [f] ∧
      (f.isCompilable = true ↔ LeadingWord t.language.toList tag.toList) ∧
      ((∀ c ∈ tag.toList, Text.isWord c = true) → (f.isCompilable = true ↔ tag = t.language)) := by
  have hne : t.language.toList ≠ [] := by simpa using hlanguage
  have hinside : '`' ∉ tag.toList ++ '\n' :: body.toList := by simp [htag, hbody]
  have hcompiled : (ofRegion t identity .start
      ⟨[], false, tag.toList ++ '\n' :: body.toList⟩).isCompilable = true ↔
        LeadingWord t.language.toList tag.toList := by
    rw [isCompilable_ofRegion_iff, Region.tag?_eq_some_iff hinside, ← takeWhile_isWord_eq_iff,
      ← takeWhile_isWord_eq_iff, takeWhile_isWord_append_cons (by decide)]
    simp [hne]
  refine ⟨_, extract_single_fence identity htag hbody, hcompiled, fun hword => ?_⟩
  rw [hcompiled, ← takeWhile_isWord_eq_iff, List.takeWhile_eq_self_iff.2 hword]
  exact String.toList_inj

/-- A line that goes on behind the word with other characters is taken for the word. -/
theorem extract_single_fence_compiled_iff_longerLine :
    "c" ≠ "" ∧ '`' ∉ "c++".toList ∧ '`' ∉ "int x;\n".toList ∧
      ∃ f, extract ⟨"c", .lineDirective⟩ "```c++\nint x;\n```" "a.md" = [f] ∧
        f.isCompilable = true := by
  have hlanguage : "c" ≠ "" := by decide
  have htag : '`' ∉ "c++".toList := by decide
  have hbody : '`' ∉ "int x;\n".toList := by decide
  obtain ⟨f, hf, hcompiled, -⟩ := extract_single_fence_compiled_iff
    (t := ⟨"c", .lineDirective⟩) "a.md" hlanguage htag hbody
  refine ⟨hlanguage, htag, hbody, f, hf, hcompiled.2 ⟨['+', '+'], rfl, ?_, ?_⟩⟩
  · intro c hc
    obtain rfl : c = 'c' := by simpa using hc
    decide
  · intro c hc
    cases hc
    decide

/-- A fence is not compiled for a language that is no word, and is for one that is shorter. -/
theorem not_compiled_for_own_tag :
    (extract ⟨"c++", .lineDirective⟩ "```c++\nint x;\n```" "a.md").map isCompilable = [false] ∧
      (extract ⟨"c", .lineDirective⟩ "```c++\nint x;\n```" "a.md").map isCompilable = [true] := by
  decide +kernel

end Fragment

end FenceCheck
