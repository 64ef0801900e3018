import FenceCheck.Output.Style
import FenceCheck.Proofs.Text.Replacement
import Mathlib.Data.List.Forall2

namespace FenceCheck.Style

/-!
# Texts without their styles

A style is put on a text by escape sequences around it. Taking the sequences away gives the text
back, if it held no escape character. A piece is compared with what it shows in front of any rest,
so what a text of several pieces shows is put together from what they show.
-/

/-- What follows the escape sequence that begins a text: it goes up to the first `m`. -/
def afterSequence? (s : List Char) : Option (List Char) :=
  (Text.after? [escapeChar, '['] s).bind fun t => (Text.split? ['m'] t).map Prod.snd

theorem length_lt_of_afterSequence? {s rest : List Char} (h : afterSequence? s = some rest) :
    rest.length < s.length := by
  obtain ⟨t, ht, hsplit⟩ := Option.bind_eq_some_iff.1 h
  obtain ⟨halves, hhalves, rfl⟩ := Option.map_eq_some_iff.1 hsplit
  have hshorter := Text.length_lt_of_split? (List.cons_ne_nil 'm' []) hhalves
  rw [Text.after?_eq_some_iff.1 ht, List.length_append]
  omega

/-- A text without its escape sequences. -/
def unstyled (s : List Char) : List Char :=
  match _h : afterSequence? s with
  | some rest => unstyled rest
  | none =>
      match s with
      | [] => []
      | c :: s => c :: unstyled s
termination_by s.length
decreasing_by
  · exact length_lt_of_afterSequence? _h
  · simp

theorem unstyled_of_afterSequence? {s rest : List Char} (h : afterSequence? s = some rest) :
    unstyled s = unstyled rest := by
  rw [unstyled]
  split
  · next rest' hrest =>
      obtain rfl := Option.some.inj (h.symm.trans hrest)
      rfl
  · next hnone => cases h.symm.trans hnone

theorem unstyled_nil : unstyled [] = [] := by
  rw [unstyled]
  rfl

theorem unstyled_cons {c : Char} (h : c ≠ escapeChar) (s : List Char) :
    unstyled (c :: s) = c :: unstyled s := by
  have hnone : afterSequence? (c :: s) = none := by
    simp [afterSequence?, Text.after?, h.symm]
  rw [unstyled]
  split
  · next rest hrest => cases hnone.symm.trans hrest
  · rfl

/-- Whether a text shows another one, whatever follows it. -/
def Shows (s shown : List Char) : Prop :=
  ∀ t, unstyled (s ++ t) = shown ++ unstyled t

namespace Shows

variable {s s' shown shown' : List Char}

theorem unstyled_eq (h : Shows s shown) : unstyled s = shown := by
  simpa [unstyled_nil] using h []

theorem append (h : Shows s shown) (h' : Shows s' shown') : Shows (s ++ s') (shown ++ shown') := by
  intro t
  rw [List.append_assoc, h, h', List.append_assoc]

theorem of_notMem (h : escapeChar ∉ s) : Shows s s := by
  induction s with
  | nil => exact fun t => rfl
  | cons c s ih =>
      intro t
      rw [List.cons_append, unstyled_cons (List.ne_of_not_mem_cons h).symm,
        ih (List.not_mem_of_not_mem_cons h), List.cons_append]

theorem sequence {codes : String} (h : 'm' ∉ codes.toList) : Shows (sequence codes) [] := by
  intro t
  have hsplit := Text.split?_append_of_notMem [] h t
  have htext : Style.sequence codes ++ t =
      [escapeChar, '['] ++ (codes.toList ++ ['m'] ++ t) := by
    simp [Style.sequence]
  apply unstyled_of_afterSequence?
  rw [afterSequence?, htext, Text.after?_append, Option.bind_some, hsplit, Option.map_some]

theorem paint (style : Style) (h : escapeChar ∉ s) : Shows (style.paint s) s := by
  have hreset : ¬ reset <:+: s := fun hin => h (hin.subset List.mem_cons_self)
  have hcodes : 'm' ∉ style.codes.toList := by
    cases style <;> decide
  rw [Style.paint, Text.replaceAll_of_split?_eq_none (Text.split?_eq_none_iff.2 hreset)]
  have hzero : 'm' ∉ "0".toList := by decide
  have hend : Shows reset [] := sequence hzero
  simpa using ((sequence hcodes).append (of_notMem h)).append hend

theorem intercalate {sep : List Char} (h : escapeChar ∉ sep) {ls shownLines : List (List Char)}
    (hlines : List.Forall₂ Shows ls shownLines) :
    Shows (List.intercalate sep ls) (List.intercalate sep shownLines) := by
  induction hlines with
  | nil => exact of_notMem (by simp)
  | cons hfirst hmore ih =>
      cases hmore with
      | nil => simpa using hfirst
      | cons hnext hmore =>
          rw [List.intercalate_cons_cons, List.intercalate_cons_cons]
          exact (hfirst.append (of_notMem h)).append ih

end Shows

/-- The same for strings. -/
def ShownAs (s shown : String) : Prop :=
  Shows s.toList shown.toList

namespace ShownAs

variable {s s' shown shown' : String}

theorem append (h : ShownAs s shown) (h' : ShownAs s' shown') :
    ShownAs (s ++ s') (shown ++ shown') := by
  rw [ShownAs, String.toList_append, String.toList_append]
  exact Shows.append h h'

theorem plain (h : escapeChar ∉ s.toList) : ShownAs s s :=
  Shows.of_notMem h

theorem apply (style : Style) (h : escapeChar ∉ s.toList) :
    ShownAs (style.apply true s) (style.apply false s) := by
  rw [ShownAs, Style.apply, if_pos rfl, String.toList_ofList]
  exact Shows.paint style h

end ShownAs

end FenceCheck.Style
