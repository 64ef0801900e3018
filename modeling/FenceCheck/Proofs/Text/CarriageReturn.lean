import FenceCheck.Proofs.Document.Position
import FenceCheck.Proofs.Text.FirstOccurrence

namespace FenceCheck.Text

/-!
# Texts with returned line ends

A carriage return is put in front of each line feed. A phrase without either character is
found at the same places, so replacing it goes on as before, and a line that is read without
its carriage return is the line that it was.
-/

/-- A text with a carriage return in front of each line feed. -/
def crlf (s : List Char) : List Char :=
  s.flatMap fun c => if c = '\n' then ['\r', '\n'] else [c]

@[simp] theorem crlf_nil : crlf [] = [] := rfl

@[simp] theorem crlf_newline (s : List Char) : crlf ('\n' :: s) = '\r' :: '\n' :: crlf s := rfl

theorem crlf_cons {c : Char} (h : c ≠ '\n') (s : List Char) : crlf (c :: s) = c :: crlf s := by
  simp [crlf, h]

@[simp] theorem crlf_append (s t : List Char) : crlf (s ++ t) = crlf s ++ crlf t :=
  List.flatMap_append

theorem crlf_of_notMem {s : List Char} (h : '\n' ∉ s) : crlf s = s := by
  induction s with
  | nil => rfl
  | cons c s ih =>
      have hc := List.ne_of_not_mem_cons h
      rw [crlf_cons hc.symm, ih (List.not_mem_of_not_mem_cons h)]

theorem count_crlf (s : List Char) : (crlf s).count '\n' = s.count '\n' := by
  induction s with
  | nil => rfl
  | cons c s ih =>
      by_cases hc : c = '\n'
      · subst hc
        simp [ih]
      · rw [crlf_cons hc, List.count_cons_of_ne hc, List.count_cons_of_ne hc, ih]

theorem byteLength_crlf (s : List Char) : byteLength (crlf s) = byteLength s + s.count '\n' := by
  have hreturn : ('\r' : Char).utf8Size = 1 := rfl
  induction s with
  | nil => rfl
  | cons c s ih =>
      by_cases hc : c = '\n'
      · subst hc
        rw [crlf_newline, byteLength_cons, byteLength_cons, byteLength_cons, ih, hreturn,
          List.count_cons_self]
        omega
      · rw [crlf_cons hc, byteLength_cons, byteLength_cons, ih, List.count_cons_of_ne hc,
          Nat.add_assoc]

theorem getLast?_crlf (s : List Char) : (crlf s).getLast? = s.getLast? := by
  rcases List.eq_nil_or_concat s with rfl | ⟨init, last, rfl⟩
  · rfl
  · by_cases hlast : last = '\n'
    · simp [hlast]
    · simp [crlf_cons hlast]

section Search

variable {phrase : List Char}

theorem after?_crlf (hreturn : '\r' ∉ phrase) (hnewline : '\n' ∉ phrase) (s : List Char) :
    after? phrase (crlf s) = (after? phrase s).map crlf := by
  induction phrase generalizing s with
  | nil => rfl
  | cons p phrase ih =>
      have hp := List.ne_of_not_mem_cons hreturn
      have hp' := List.ne_of_not_mem_cons hnewline
      cases s with
      | nil => rfl
      | cons c s =>
          by_cases hc : c = '\n'
          · subst hc
            simp [after?, hp.symm, hp'.symm]
          · rw [crlf_cons hc, after?, after?]
            split
            · exact ih (List.not_mem_of_not_mem_cons hreturn)
                (List.not_mem_of_not_mem_cons hnewline) s
            · rfl

theorem split?_crlf (hne : phrase ≠ []) (hreturn : '\r' ∉ phrase) (hnewline : '\n' ∉ phrase)
    (s : List Char) :
    split? phrase (crlf s) =
      (split? phrase s).map fun halves => (crlf halves.1, crlf halves.2) := by
  have hnil : split? phrase [] = none := split?_eq_none_iff.2 (by simpa using hne)
  induction s with
  | nil =>
      rw [crlf_nil, hnil]
      rfl
  | cons c s ih =>
      by_cases hc : c = '\n'
      · subst hc
        have hwall : ∀ {w : Char}, w ∉ phrase → ∀ t, split? phrase (w :: t) =
            (split? phrase t).map fun halves => (w :: halves.1, halves.2) :=
          fun hw t => split?_append_cons_of_eq_none hne hw t hnil
        rw [crlf_newline, hwall hreturn, hwall hnewline, hwall hnewline, ih]
        simp only [Option.map_map]
        rfl
      · have hhead := after?_crlf hreturn hnewline (c :: s)
        rw [crlf_cons hc] at hhead ⊢
        rw [split?, split?, hhead]
        cases after? phrase (c :: s) with
        | some rest => rfl
        | none =>
            simp only [Option.map_none, ih, Option.map_map]
            congr 1
            funext halves
            simp [crlf_cons hc]

theorem replaceFirst_crlf {new : List Char} (hne : phrase ≠ []) (hreturn : '\r' ∉ phrase)
    (hnewline : '\n' ∉ phrase) (hnew : '\n' ∉ new) (s : List Char) :
    replaceFirst phrase new (crlf s) = crlf (replaceFirst phrase new s) := by
  unfold replaceFirst
  rw [split?_crlf hne hreturn hnewline]
  cases split? phrase s with
  | none => rfl
  | some halves => simp [crlf_of_notMem hnew]

theorem replaceAll_crlf {new : List Char} (hne : phrase ≠ []) (hreturn : '\r' ∉ phrase)
    (hnewline : '\n' ∉ phrase) (hnew : '\n' ∉ new) (s : List Char) :
    replaceAll phrase new (crlf s) = crlf (replaceAll phrase new s) := by
  have hsplit := split?_crlf hne hreturn hnewline s
  cases hs : split? phrase s with
  | none =>
      rw [hs] at hsplit
      rw [replaceAll_of_split?_eq_none hs, replaceAll_of_split?_eq_none hsplit]
  | some halves =>
      have hshorter := length_lt_of_split? hne hs
      rw [hs] at hsplit
      rw [replaceAll_of_split?_eq_some hne hs, replaceAll_of_split?_eq_some hne hsplit,
        replaceAll_crlf hne hreturn hnewline hnew halves.2]
      simp [crlf_of_notMem hnew]
termination_by s.length

end Search

section While

variable {p : Char → Bool}

theorem takeWhile_crlf (hreturn : p '\r' = false) (hnewline : p '\n' = false) (s : List Char) :
    (crlf s).takeWhile p = s.takeWhile p := by
  induction s with
  | nil => rfl
  | cons c s ih =>
      by_cases hc : c = '\n'
      · subst hc
        simp [hreturn, hnewline]
      · rw [crlf_cons hc, List.takeWhile_cons, List.takeWhile_cons, ih]

theorem dropWhile_crlf (hreturn : p '\r' = false) (hnewline : p '\n' = false) (s : List Char) :
    (crlf s).dropWhile p = crlf (s.dropWhile p) := by
  induction s with
  | nil => rfl
  | cons c s ih =>
      by_cases hc : c = '\n'
      · subst hc
        simp [hreturn, hnewline]
      · rw [crlf_cons hc, List.dropWhile_cons, List.dropWhile_cons]
        split
        · exact ih
        · rw [crlf_cons hc]

end While

theorem bare_of_getLast?_ne {l : List Char} (h : l.getLast? ≠ some '\r') : bare l = l := by
  rw [bare, if_neg h]

@[simp] theorem bare_append_return (l : List Char) : bare (l ++ ['\r']) = l := by
  simp [bare]

/-- A line stays where it is: before it and behind it the line ends are returned, and it ends
in a carriage return if a line feed follows. -/
theorem Framed.crlf {u l v : List Char} (h : Framed u l v) :
    ∃ r v', Text.crlf (u ++ l ++ v) = Text.crlf u ++ (l ++ r) ++ v' ∧
      Framed (Text.crlf u) (l ++ r) v' ∧ (r = [] ∨ r = ['\r']) := by
  have hopened : Text.crlf u = [] ∨ ∃ u', Text.crlf u = u' ++ ['\n'] := by
    rcases h.opened with rfl | ⟨u', rfl⟩
    · exact .inl rfl
    · exact .inr ⟨Text.crlf u' ++ ['\r'], by simp⟩
  rcases h.closed with rfl | ⟨v', rfl⟩
  · refine ⟨[], [], ?_, ⟨by simpa using h.clear, hopened, .inl rfl⟩, .inl rfl⟩
    simp [crlf_of_notMem h.clear]
  · refine ⟨['\r'], '\n' :: Text.crlf v', ?_, ⟨?_, hopened, .inr ⟨_, rfl⟩⟩, .inr rfl⟩
    · simp [crlf_of_notMem h.clear]
    · simpa using h.clear

/-- A text is one line, or a line, a line feed and a text of which the same is known. -/
theorem lineInduction {motive : List Char → Prop} (last : ∀ l, '\n' ∉ l → motive l)
    (more : ∀ l t, '\n' ∉ l → motive t → motive (l ++ '\n' :: t)) (s : List Char) : motive s := by
  -- The induction is along the text, with what stands of its first line put aside.
  have hbegun : ∀ l, '\n' ∉ l → motive (l ++ s) := by
    induction s with
    | nil =>
        intro l hl
        exact last _ (by simpa using hl)
    | cons c s ih =>
        intro l hl
        by_cases hc : c = '\n'
        · subst hc
          exact more l s hl (ih [] (by simp))
        · have hbegun := ih (l ++ [c]) (by simp [hl, Ne.symm hc])
          simpa using hbegun
  exact hbegun [] (by simp)

theorem map_bare_lines_crlf {s : List Char} (h : ∀ l ∈ lines s, l.getLast? ≠ some '\r') :
    (lines (crlf s)).map bare = (lines s).map bare := by
  induction s using lineInduction with
  | last l hl => rw [crlf_of_notMem hl]
  | more l t hl ih =>
      have hreturn : '\n' ∉ l ++ ['\r'] := by simpa using hl
      have htext : crlf (l ++ '\n' :: t) = (l ++ ['\r']) ++ '\n' :: crlf t := by
        simp [crlf_of_notMem hl]
      have hlines : lines (l ++ '\n' :: t) = l :: lines t := by
        rw [lines, cells_append_cons, cells_of_notMem hl]
        rfl
      have hlines' : lines (crlf (l ++ '\n' :: t)) = (l ++ ['\r']) :: lines (crlf t) := by
        rw [htext, lines, cells_append_cons, cells_of_notMem hreturn]
        rfl
      rw [hlines] at h
      have hbare := bare_of_getLast?_ne (h l (by simp))
      have hmore := ih fun k hk => h k (by simp [hk])
      rw [hlines, hlines', List.map_cons, List.map_cons, hmore, hbare, bare_append_return]

theorem lines_append_replicate (s : List Char) (n : Nat) :
    lines (s ++ List.replicate n '\n') = lines s ++ List.replicate n [] := by
  induction n generalizing s with
  | zero => simp
  | succ n ih =>
      have hmore : cells '\n' (List.replicate n '\n') = [] :: List.replicate n [] := ih []
      rw [List.replicate_succ, lines, cells_append_cons, hmore, List.replicate_succ]

end FenceCheck.Text
