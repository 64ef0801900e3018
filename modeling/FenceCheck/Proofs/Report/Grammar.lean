import FenceCheck.Proofs.Text.FirstOccurrence
import FenceCheck.Report.Line

namespace FenceCheck

/-!
# Where the grammars of lines can fit

A grammar fits at a parenthesis only if the parenthesis opens a place with a colon and a
blank behind it. Such a stretch holds no further parenthesis that opens, so what stands
before a place and what is said after it are searched apart.
-/

namespace Text

/-- A stretch without some character, in front of a text, ends before the first such
character of that text. -/
theorem exists_eq_append_of_notMem {α : Type} {c : α} {x rest u v : List α} (hx : c ∉ x)
    (h : x ++ rest = u ++ c :: v) : ∃ w, u = x ++ w ∧ rest = w ++ c :: v := by
  rcases List.append_eq_append_iff.1 h with ⟨w, rfl, hrest⟩ | ⟨w, rfl, hv⟩
  · exact ⟨w, rfl, hrest⟩
  · cases w with
    | nil => exact ⟨[], by simp, by simpa using hv.symm⟩
    | cons d w =>
        obtain ⟨rfl, -⟩ := List.cons.inj hv
        simp at hx

end Text

namespace ReportLine

theorem mem_takeWhile_isDigit {s : List Char} : ∀ c ∈ s.takeWhile Char.isDigit, c.isDigit = true :=
  List.all_eq_true.1 (List.all_takeWhile (p := Char.isDigit))

/-- The text between the parentheses of a place. -/
structure WrittenPlace (s : List Char) : Prop where
  exists_eq : ∃ line comma column, s = line ++ comma ++ column ∧ line ≠ [] ∧
    (∀ c ∈ line, c.isDigit = true) ∧ (comma = [] ∨ comma = [',']) ∧
    ∀ c ∈ column, c.isDigit = true

theorem WrittenPlace.notMem {s : List Char} (h : WrittenPlace s) {c : Char}
    (hdigit : c.isDigit = false) (hcomma : c ≠ ',') : c ∉ s := by
  obtain ⟨line, comma, column, rfl, -, hline, hkind, hcolumn⟩ := h.exists_eq
  intro hm
  rcases List.mem_append.1 hm with hm | hm
  · rcases List.mem_append.1 hm with hm | hm
    · simp [hline c hm] at hdigit
    · rcases hkind with rfl | rfl
      · cases hm
      · exact hcomma (List.mem_singleton.1 hm)
  · simp [hcolumn c hm] at hdigit

theorem eq_dropComma (s : List Char) :
    ∃ comma, s = comma ++ dropComma s ∧ (comma = [] ∨ comma = [',']) := by
  unfold dropComma
  split
  · exact ⟨[','], rfl, .inr rfl⟩
  · exact ⟨[], rfl, .inl rfl⟩

theorem writtenPlace_of_place? {s rest : List Char} {p : Place} (h : place? s = some (p, rest)) :
    ∃ inner, WrittenPlace inner ∧ s = inner ++ ')' :: rest := by
  unfold place? at h
  split at h
  · cases h
  · next hne =>
      obtain ⟨comma, hcomma, hkind⟩ := eq_dropComma (s.dropWhile Char.isDigit)
      simp only at h
      split at h
      · next tail htail =>
          obtain ⟨-, rfl⟩ := Prod.mk.inj (Option.some.inj h)
          let line := s.takeWhile Char.isDigit
          let column := (dropComma (s.dropWhile Char.isDigit)).takeWhile Char.isDigit
          have hcolumn : column ++ ')' :: tail = dropComma (s.dropWhile Char.isDigit) := by
            rw [← htail, List.takeWhile_append_dropWhile]
          refine ⟨line ++ comma ++ column, ⟨line, comma, column, rfl, hne, mem_takeWhile_isDigit,
            hkind, mem_takeWhile_isDigit⟩, ?_⟩
          rw [List.append_assoc, hcolumn, List.append_assoc, ← hcomma,
            List.takeWhile_append_dropWhile]
      · cases h

theorem place?_line {line : List Char} (hne : line ≠ []) (hline : ∀ c ∈ line, c.isDigit = true)
    (rest : List Char) : place? (line ++ ')' :: rest) = some (⟨line, []⟩, rest) := by
  have htake := Text.takeWhile_append_cons (p := Char.isDigit) (c := ')') rest hline rfl
  have hdrop := Text.dropWhile_append_cons (p := Char.isDigit) (c := ')') rest hline rfl
  obtain ⟨d, ds, rfl⟩ := List.exists_cons_of_ne_nil hne
  rw [place?, htake, hdrop]
  rfl

theorem place?_line_column {line column : List Char} (hne : line ≠ [])
    (hline : ∀ c ∈ line, c.isDigit = true) (hcolumn : ∀ c ∈ column, c.isDigit = true)
    (rest : List Char) :
    place? (line ++ ',' :: column ++ ')' :: rest) = some (⟨line, column⟩, rest) := by
  have htext : line ++ ',' :: column ++ ')' :: rest = line ++ ',' :: (column ++ ')' :: rest) := by
    simp
  have htake := Text.takeWhile_append_cons (p := Char.isDigit) (c := ',')
    (column ++ ')' :: rest) hline rfl
  have hdrop := Text.dropWhile_append_cons (p := Char.isDigit) (c := ',')
    (column ++ ')' :: rest) hline rfl
  have htake' := Text.takeWhile_append_cons (p := Char.isDigit) (c := ')') rest hcolumn rfl
  have hdrop' := Text.dropWhile_append_cons (p := Char.isDigit) (c := ')') rest hcolumn rfl
  obtain ⟨d, ds, rfl⟩ := List.exists_cons_of_ne_nil hne
  rw [htext, place?, htake, hdrop]
  simp only [dropComma, htake', hdrop']

/-- What can follow the parenthesis of a place that a grammar fits at. -/
def BeginsHeader (s : List Char) : Prop :=
  ∃ inner rest, WrittenPlace inner ∧ s = inner ++ [')', ':', ' '] ++ rest

/-- Whether some parenthesis opens a place with a colon and a blank behind it. -/
def HeaderBearing (s : List Char) : Prop :=
  ∃ before rest, s = before ++ '(' :: rest ∧ BeginsHeader rest

/-- A header ends before the next parenthesis that opens. -/
theorem BeginsHeader.of_append {u v : List Char} (h : BeginsHeader (u ++ '(' :: v)) :
    BeginsHeader u := by
  obtain ⟨inner, rest, hinner, heq⟩ := h
  have hnot : '(' ∉ inner ++ [')', ':', ' '] := by
    have := hinner.notMem (c := '(') rfl (by decide)
    simp [this]
  obtain ⟨w, hu, -⟩ := Text.exists_eq_append_of_notMem hnot heq.symm
  exact ⟨inner, w, hinner, hu⟩

theorem exists_place?_of_writtenPlace {inner : List Char} (h : WrittenPlace inner)
    (rest : List Char) : ∃ p, place? (inner ++ ')' :: rest) = some (p, rest) := by
  obtain ⟨line, comma, column, rfl, hne, hline, hkind, hcolumn⟩ := h.exists_eq
  rcases hkind with rfl | rfl
  · have hdigits : ∀ c ∈ line ++ column, c.isDigit = true := by
      intro c hc
      rcases List.mem_append.1 hc with hc | hc
      · exact hline c hc
      · exact hcolumn c hc
    have hall : line ++ column ≠ [] := by simp [hne]
    exact ⟨_, by simpa using place?_line hall hdigits rest⟩
  · exact ⟨_, by simpa using place?_line_column hne hline hcolumn rest⟩

theorem beginsHeader_iff {s : List Char} :
    BeginsHeader s ↔
      ((place? s).bind fun found => Text.after? ": ".toList found.2).isSome = true := by
  constructor
  · rintro ⟨inner, rest, hinner, rfl⟩
    obtain ⟨p, hp⟩ := exists_place?_of_writtenPlace hinner ([':', ' '] ++ rest)
    rw [List.append_assoc, List.cons_append, hp]
    rfl
  · intro h
    obtain ⟨rest, hrest⟩ := Option.isSome_iff_exists.1 h
    obtain ⟨⟨p, more⟩, hp, hmore⟩ := Option.bind_eq_some_iff.1 hrest
    obtain ⟨inner, hinner, rfl⟩ := writtenPlace_of_place? hp
    have htail : more = ':' :: ' ' :: rest := Text.after?_eq_some_iff.1 hmore
    exact ⟨inner, rest, hinner, by rw [htail]; simp⟩

instance : DecidablePred BeginsHeader :=
  fun _ => decidable_of_iff _ beginsHeader_iff.symm

theorem headerBearing_cons {c : Char} {s : List Char} :
    HeaderBearing (c :: s) ↔ (c = '(' ∧ BeginsHeader s) ∨ HeaderBearing s := by
  constructor
  · rintro ⟨before, rest, heq, hrest⟩
    cases before with
    | nil =>
        obtain ⟨rfl, rfl⟩ := List.cons.inj heq
        exact .inl ⟨rfl, hrest⟩
    | cons d before =>
        obtain ⟨-, rfl⟩ := List.cons.inj heq
        exact .inr ⟨before, rest, rfl, hrest⟩
  · rintro (⟨rfl, h⟩ | ⟨before, rest, rfl, hrest⟩)
    · exact ⟨[], s, rfl, h⟩
    · exact ⟨c :: before, rest, rfl, hrest⟩

instance decidableHeaderBearing : DecidablePred HeaderBearing
  | [] => isFalse fun ⟨before, rest, heq, _⟩ => by cases before <;> cases heq
  | c :: s =>
      have := decidableHeaderBearing s
      decidable_of_iff ((c = '(' ∧ BeginsHeader s) ∨ HeaderBearing s) headerBearing_cons.symm

/-- A remark begins with a colon and a blank. -/
def Spaced (remark? : List Char → Option Remark) : Prop :=
  ∀ s remark, remark? s = some remark → ∃ rest, s = ':' :: ' ' :: rest

theorem spaced_codedRemark? (kind : String) : Spaced (codedRemark? kind) := by
  intro s remark h
  obtain ⟨rest, hrest, -⟩ := Option.map_eq_some_iff.1 h
  obtain ⟨more, hmore, -⟩ := Option.bind_eq_some_iff.1 hrest
  have hs := Text.after?_eq_some_iff.1 hmore
  exact ⟨_, by rw [hs, String.toList_append, String.toList_append]; rfl⟩

theorem spaced_noteRemark? : Spaced noteRemark? := by
  intro s remark h
  obtain ⟨rest, hrest, -⟩ := Option.map_eq_some_iff.1 h
  exact ⟨_, Text.after?_eq_some_iff.1 hrest⟩

theorem beginsHeader_of_header? {remark? : List Char → Option Remark} (hr : Spaced remark?)
    {s : List Char} {found : Place × Remark} (h : header? remark? s = some found) :
    BeginsHeader s := by
  obtain ⟨⟨p, rest⟩, hp, hm⟩ := Option.bind_eq_some_iff.1 h
  obtain ⟨remark, hremark, -⟩ := Option.map_eq_some_iff.1 hm
  obtain ⟨more, hrest⟩ := hr _ _ hremark
  obtain ⟨inner, hinner, hs⟩ := writtenPlace_of_place? hp
  simp only at hrest
  exact ⟨inner, more, hinner, by rw [hs, hrest]; simp⟩

section Search

variable {β : Type} {head? : List Char → Option β}

theorem atLastParenthesis?_eq_none {s : List Char} (hline : '\n' ∉ s)
    (h : ∀ u v, s = u ++ '(' :: v → head? v = none) : atLastParenthesis? head? s = none := by
  induction s with
  | nil => rfl
  | cons c s ih =>
      have hc : c ≠ '\n' := fun hn => hline (by simp [hn])
      have hs : atLastParenthesis? head? s = none :=
        ih (fun hm => hline (by simp [hm])) fun u v huv => h (c :: u) v (by simp [huv])
      by_cases hp : c = '('
      · subst hp
        simp [atLastParenthesis?, hs, h [] s rfl]
      · simp [atLastParenthesis?, hc, hs, hp]

/-- The last parenthesis that fits, and all before it. -/
theorem atLastParenthesis?_eq_some {before s : List Char} {b : β} (hline : '\n' ∉ before)
    (hs : atLastParenthesis? head? s = none) (hb : head? s = some b) :
    atLastParenthesis? head? (before ++ '(' :: s) = some (before, b) := by
  induction before with
  | nil => simp [atLastParenthesis?, hs, hb]
  | cons c before ih =>
      have hc : c ≠ '\n' := fun hn => hline (by simp [hn])
      have := ih fun hm => hline (by simp [hm])
      simp [atLastParenthesis?, hc, this]

/-- On one line only the last fitting parenthesis counts. -/
theorem findPlace?_of_newline_notMem {s : List Char} (hline : '\n' ∉ s) :
    findPlace? head? s = atLastParenthesis? head? s := by
  have hdrop : (s ++ []).dropWhile (· != '\n') = [] :=
    List.dropWhile_append_of_pos (Text.bne_of_notMem hline)
  rw [List.append_nil] at hdrop
  unfold findPlace?
  split
  · next h => exact h.symm
  · next h =>
      rw [h]
      split
      · rfl
      · next hcons => simp [hdrop] at hcons

end Search

/-- A part of a line without headers offers no place to a grammar. -/
theorem atLastParenthesis?_header?_eq_none {remark? : List Char → Option Remark}
    (hr : Spaced remark?) {s : List Char} (hline : '\n' ∉ s) (h : ¬ HeaderBearing s) :
    atLastParenthesis? (header? remark?) s = none := by
  refine atLastParenthesis?_eq_none hline fun u v huv => ?_
  cases hv : header? remark? v with
  | none => rfl
  | some found => exact (h ⟨u, v, huv, beginsHeader_of_header? hr hv⟩).elim

/-- Where a text occurs that introduces a fatal error. -/
theorem exists_of_mentionsFatal {s : List Char} (h : mentionsFatal s = true) :
    ": fatal error C".toList <:+: s := by
  induction s with
  | nil => cases h
  | cons c s ih =>
      simp only [mentionsFatal, Bool.or_eq_true] at h
      rcases h with h | h
      · obtain ⟨rest, hrest⟩ := Option.isSome_iff_exists.1 h
        obtain ⟨more, hmore, -⟩ := Option.bind_eq_some_iff.1 hrest
        exact ⟨[], more, by rw [Text.after?_eq_some_iff.1 hmore]; rfl⟩
      · exact (ih h).trans (List.suffix_cons c s).isInfix

theorem eq_dropSpace (s : List Char) :
    ∃ blank, s = blank ++ dropSpace s ∧ (blank = [] ∨ blank = [' ']) := by
  unfold dropSpace
  split
  · exact ⟨[' '], rfl, .inr rfl⟩
  · exact ⟨[], rfl, .inl rfl⟩

theorem exists_eq_of_fatal_after_place {s rest : List Char} {p : Place}
    (hp : place? s = some (p, rest))
    (hf : (afterCoded? "fatal error" (dropSpace rest)).isSome = true) :
    ∃ inner blank more, WrittenPlace inner ∧ (blank = [] ∨ blank = [' ']) ∧
      s = inner ++ ')' :: blank ++ ": fatal error C".toList ++ more := by
  obtain ⟨inner, hinner, hs⟩ := writtenPlace_of_place? hp
  obtain ⟨coded, hcoded⟩ := Option.isSome_iff_exists.1 hf
  obtain ⟨more, hmore, -⟩ := Option.bind_eq_some_iff.1 hcoded
  obtain ⟨blank, hblank, hkind⟩ := eq_dropSpace rest
  refine ⟨inner, blank, more, hinner, hkind, ?_⟩
  rw [hs, hblank, Text.after?_eq_some_iff.1 hmore]
  simp

/-- A text without parentheses, or its part up to the first of them. -/
theorem exists_first_parenthesis (s : List Char) :
    (∀ c ∈ s, isParenthesis c = false) ∨
      ∃ x c y, s = x ++ c :: y ∧ isParenthesis c = true ∧ ∀ d ∈ x, isParenthesis d = false := by
  induction s with
  | nil => exact .inl (by simp)
  | cons c s ih =>
      cases hc : isParenthesis c with
      | true => exact .inr ⟨[], c, s, rfl, hc, by simp⟩
      | false =>
          rcases ih with hs | ⟨x, d, y, rfl, hd, hx⟩
          · exact .inl (by simpa [hc] using hs)
          · exact .inr ⟨c :: x, d, y, rfl, hd, by simpa [hc] using hx⟩

/-- Nothing fatal is read from a line if its first parenthesis opens nothing of the kind and
the text before it does not speak of it. -/
theorem fatal?_append_cons_eq_none {x s : List Char} {c : Char} (hc : isParenthesis c = true)
    (hx : ∀ d ∈ x, isParenthesis d = false) (hmention : ¬ ": fatal error C".toList <:+: x)
    (hs : c = '(' → ∀ p rest, place? s = some (p, rest) →
      (afterCoded? "fatal error" (dropSpace rest)).isSome = false) :
    fatal? (x ++ c :: s) = none := by
  have hnot : ∀ d ∈ x, (!isParenthesis d) = true := by simpa using hx
  have hstop : (!isParenthesis c) = false := by simp [hc]
  have htake := Text.takeWhile_append_cons s hnot hstop
  have hdrop := Text.dropWhile_append_cons s hnot hstop
  have hnone : mentionsFatal x = false := by
    cases hm : mentionsFatal x with
    | false => rfl
    | true => exact (hmention (exists_of_mentionsFatal hm)).elim
  have hplace : fatalPlace? (x ++ c :: s) = none := by
    rw [fatalPlace?, hdrop]
    split
    · next rest heq =>
        obtain ⟨rfl, rfl⟩ := List.cons.inj heq
        cases hp : place? s with
        | none => rfl
        | some found => simp [hs rfl found.1 found.2 hp]
    · rfl
  simp [fatal?, hplace, htake, hnone]

/-- A name with parentheses hides a fatal error behind it. -/
theorem fatal?_eq_none_of_mem {file s : List Char} {c : Char}
    (hfile : ¬ ": fatal error C".toList <:+: file) (hc : c ∈ file) (hp : isParenthesis c = true) :
    fatal? (file ++ '(' :: s) = none := by
  rcases exists_first_parenthesis file with hno | ⟨x, d, y, rfl, hd, hx⟩
  · rw [hno c hc] at hp
    cases hp
  · rw [List.append_assoc, List.cons_append]
    refine fatal?_append_cons_eq_none hd hx
      (fun h => hfile (h.trans (List.prefix_append _ _).isInfix)) fun _ p rest hp => ?_
    cases hf : (afterCoded? "fatal error" (dropSpace rest)).isSome with
    | false => rfl
    | true =>
        -- A fatal error that fits here would stand in the name as a whole.
        obtain ⟨inner, blank, more, hinner, hblank, heq⟩ := exists_eq_of_fatal_after_place hp hf
        have hnot : '(' ∉ inner ++ ')' :: blank ++ ": fatal error C".toList := by
          have hin := hinner.notMem (c := '(') rfl (by decide)
          rcases hblank with rfl | rfl <;> simp [hin]
        obtain ⟨w, hy, -⟩ := Text.exists_eq_append_of_notMem hnot heq.symm
        refine (hfile ⟨x ++ d :: (inner ++ ')' :: blank), w, ?_⟩).elim
        rw [hy]
        simp

theorem fatal?_eq_none {file s : List Char} (hfile : ¬ ": fatal error C".toList <:+: file)
    (hs : ∀ p rest, place? s = some (p, rest) →
      (afterCoded? "fatal error" (dropSpace rest)).isSome = false) :
    fatal? (file ++ '(' :: s) = none := by
  rcases exists_first_parenthesis file with hno | ⟨x, c, y, rfl, hc, -⟩
  · exact fatal?_append_cons_eq_none rfl hno hfile fun _ => hs
  · exact fatal?_eq_none_of_mem hfile (c := c) (by simp) hc

end ReportLine

end FenceCheck
