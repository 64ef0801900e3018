import FenceCheck.Proofs.Text.FirstOccurrence
import FenceCheck.Proofs.Text.Numeral
import FenceCheck.Toml.Printer
import FenceCheck.Toml.Quotation

namespace FenceCheck.Toml

/-!
# Strings read back as they were printed

Whatever a text holds, the form in which it is printed reads back as that text. The forms
of one line end at the first quote that is bare. In the forms of several lines a run of up
to two quotes is part of the text, even in front of the closing ones, and what follows must
not begin with a quote.
-/

open Quotation Printer

/-! ## Escapes -/

/-- What the two readers of basic strings have in common. -/
structure Unescapes (read : List Char → Option (List Char × List Char)) : Prop where
  short : ∀ e ∈ ['b', 't', 'n', 'f', 'r', '"', '\\'], ∀ t,
    read ('\\' :: e :: t) = prepend (escaped? e) (read t)
  unicode : ∀ a b c d t,
    read ('\\' :: 'u' :: a :: b :: c :: d :: t) = prepend (scalar? [a, b, c, d]) (read t)
  plain : ∀ c t, isPlain c = true → c ≠ '"' → c ≠ '\\' →
    read (c :: t) = prepend (some c) (read t)

theorem unescapes_basic : Unescapes basic where
  short := by
    intro e he t
    simp only [List.mem_cons, List.not_mem_nil, or_false] at he
    rcases he with rfl | rfl | rfl | rfl | rfl | rfl | rfl <;> simp [basic]
  unicode := by
    intro a b c d t
    simp [basic]
  plain := by
    intro c t hc hquote hescape
    rw [basic]
    · simp [hc, hescape]
    all_goals simp_all

theorem basicLines_cons {c : Char} (hc : isPlain c = true ∨ c = '\n') (hquote : c ≠ '"')
    (hescape : c ≠ '\\') (t : List Char) :
    basicLines false (c :: t) = prepend (some c) (basicLines false t) := by
  have hreturn : c ≠ '\r' := by
    rintro rfl
    rcases hc with hc | hc <;> revert hc <;> decide
  rw [basicLines]
  · simp [hc]
  all_goals simp_all

theorem unescapes_basicLines : Unescapes (basicLines false) where
  short := by
    intro e he t
    simp only [List.mem_cons, List.not_mem_nil, or_false] at he
    rcases he with rfl | rfl | rfl | rfl | rfl | rfl | rfl <;>
      simp [basicLines, endsLine, startsLine, isSpace]
  unicode := by
    intro a b c d t
    simp [basicLines]
  plain := fun _ t hc hquote hescape => basicLines_cons (.inl hc) hquote hescape t

theorem scalar?_unicodeEscape {c : Char} (hc : isControl c = true) :
    ∃ a b d e, unicodeEscape c = ['\\', 'u', a, b, d, e] ∧ scalar? [a, b, d, e] = some c := by
  have hbound : c.toNat < 128 := by
    simp only [isControl, Bool.or_eq_true, Bool.and_eq_true, decide_eq_true_eq,
      beq_iff_eq] at hc
    omega
  have h : unicodeEscape c = '\\' :: 'u' :: (unicodeEscape c).drop 2 ∧
      ((unicodeEscape c).drop 2).length = 4 ∧ scalar? ((unicodeEscape c).drop 2) = some c :=
    Text.forall_char_of_lt hbound (by decide)
  obtain ⟨htext, hlength, hscalar⟩ := h
  rw [htext]
  match (unicodeEscape c).drop 2, hlength, hscalar with
  | [a, b, d, e], _, hscalar => exact ⟨a, b, d, e, rfl, hscalar⟩

theorem isPlain_of_not_isControl {c : Char} (hc : isControl c = false) (hbreak : c ≠ '\n') :
    isPlain c = true := by
  simp only [isControl, isPlain] at *
  grind

theorem Unescapes.escape {read : List Char → Option (List Char × List Char)}
    (h : Unescapes read) (multiline : Bool)
    (hbreak : multiline = true → ∀ t, read ('\n' :: t) = prepend (some '\n') (read t))
    {c : Char} (hc : c ≠ '"') (t : List Char) :
    read (Printer.escape multiline c ++ t) = prepend (some c) (read t) := by
  unfold Printer.escape
  split
  · next hc => subst hc; exact h.short '\\' (by decide) t
  split
  · next hc => subst hc; exact h.short 't' (by decide) t
  split
  · next hc =>
      subst hc
      split
      · next hm => exact hbreak hm t
      · exact h.short 'n' (by decide) t
  split
  · next hc => rw [Text.eq_ofNat hc]; exact h.short 'b' (by decide) t
  split
  · next hc => rw [Text.eq_ofNat hc]; exact h.short 'f' (by decide) t
  split
  · next hc => subst hc; exact h.short 'r' (by decide) t
  split
  · next hcontrol =>
      obtain ⟨a, b, d, e, htext, hscalar⟩ := scalar?_unicodeEscape hcontrol
      rw [htext]
      exact (h.unicode a b d e t).trans (by rw [hscalar])
  · next hescape _ hnewline _ _ _ hcontrol =>
      have hplain := isPlain_of_not_isControl (Bool.eq_false_iff.2 hcontrol) hnewline
      exact h.plain c t hplain hc hescape

theorem exists_escape_eq_cons (multiline : Bool) (c : Char) :
    ∃ x w, Printer.escape multiline c = x :: w ∧ (x = '\\' ∨ x = c ∧ c ≠ '\r') := by
  unfold Printer.escape
  split
  · exact ⟨_, _, rfl, .inl rfl⟩
  split
  · exact ⟨_, _, rfl, .inl rfl⟩
  split
  · next hc =>
      subst hc
      split
      · exact ⟨_, _, rfl, .inr ⟨rfl, by decide⟩⟩
      · exact ⟨_, _, rfl, .inl rfl⟩
  split
  · exact ⟨_, _, rfl, .inl rfl⟩
  split
  · exact ⟨_, _, rfl, .inl rfl⟩
  split
  · exact ⟨_, _, rfl, .inl rfl⟩
  split
  · exact ⟨_, _, rfl, .inl rfl⟩
  · next hreturn _ => exact ⟨_, _, rfl, .inr ⟨rfl, hreturn⟩⟩

/-! ## Strings of one line -/

theorem basic_body (quotes : Nat) (s rest : List Char) :
    basic (body false quotes s ++ '"' :: rest) = some (s, rest) := by
  induction s generalizing quotes with
  | nil => simp [body, basic]
  | cons c s ih =>
      by_cases hc : c = '"'
      · subst hc
        have hquote := unescapes_basic.short '"' (by decide) (body false 0 s ++ '"' :: rest)
        simpa [body, ih, escaped?, prepend] using hquote
      · have hbreak : false = true → ∀ t, basic ('\n' :: t) = prepend (some '\n') (basic t) := by
          intro h
          contradiction
        have hescape := unescapes_basic.escape false hbreak hc (body false 0 s ++ '"' :: rest)
        simpa [body, hc, ih, prepend] using hescape

theorem literal_append {s : List Char} (hs : ∀ c ∈ s, isPlain c = true ∧ c ≠ '\x27')
    (rest : List Char) : literal (s ++ '\x27' :: rest) = some (s, rest) := by
  induction s with
  | nil => simp [literal]
  | cons c s ih =>
      obtain ⟨hplain, hquote⟩ := hs c List.mem_cons_self
      have htail := ih fun d hd => hs d (List.mem_cons_of_mem c hd)
      simp [literal, hplain, hquote, htail, prepend]

/-! ## Strings of several lines -/

/-- Whether a text does not begin with a quote. -/
def Unquoted (s : List Char) : Prop :=
  ∀ c ∈ s.head?, c ≠ '"' ∧ c ≠ '\x27'

theorem unquoted_cons {c : Char} {s : List Char} (hquote : c ≠ '"') (hliteral : c ≠ '\x27') :
    Unquoted (c :: s) := by
  intro d hd
  cases hd
  exact ⟨hquote, hliteral⟩

theorem basicLines_bare {t : List Char} (h : ¬ ['"', '"'] <+: t) :
    basicLines false ('"' :: t) = prepend (some '"') (basicLines false t) := by
  have hnot : ∀ r, t ≠ '"' :: '"' :: r := fun r hr => h ⟨r, hr.symm⟩
  rw [basicLines]
  · simp [isPlain]
  all_goals simp_all

theorem literalLines_bare {t : List Char} (h : ¬ ['\x27', '\x27'] <+: t) :
    literalLines ('\x27' :: t) = prepend (some '\x27') (literalLines t) := by
  have hnot : ∀ r, t ≠ '\x27' :: '\x27' :: r := fun r hr => h ⟨r, hr.symm⟩
  rw [literalLines]
  · simp [isPlain]
  all_goals simp_all

theorem literalLines_cons {c : Char} (hc : isPlain c = true ∨ c = '\n') (hquote : c ≠ '\x27')
    (t : List Char) : literalLines (c :: t) = prepend (some c) (literalLines t) := by
  have hreturn : c ≠ '\r' := by
    rintro rfl
    rcases hc with hc | hc <;> revert hc <;> decide
  rw [literalLines]
  · simp [hc]
  all_goals simp_all

/-- Up to two quotes in front of the closing ones are part of the string. -/
theorem basicLines_closing {n : Nat} (hn : n ≤ 2) {rest : List Char} (hrest : Unquoted rest) :
    basicLines false (List.replicate n '"' ++ basicQuotes ++ rest) =
      some (List.replicate n '"', rest) := by
  have hnot : ∀ r, rest ≠ '"' :: r := by
    rintro r rfl
    exact absurd rfl (hrest '"' rfl).1
  match n, hn with
  | 0, _ => simp [basicQuotes, basicLines, hnot]
  | 1, _ => simp [basicQuotes, basicLines]
  | 2, _ => simp [basicQuotes, basicLines]

theorem literalLines_closing {n : Nat} (hn : n ≤ 2) {rest : List Char} (hrest : Unquoted rest) :
    literalLines (List.replicate n '\x27' ++ literalQuotes ++ rest) =
      some (List.replicate n '\x27', rest) := by
  have hnot : ∀ r, rest ≠ '\x27' :: r := by
    rintro r rfl
    exact absurd rfl (hrest '\x27' rfl).2
  match n, hn with
  | 0, _ => simp [literalQuotes, literalLines, hnot]
  | 1, _ => simp [literalQuotes, literalLines]
  | 2, _ => simp [literalQuotes, literalLines]

theorem exists_body_eq_cons {quotes : Nat} {c : Char} (s : List Char)
    (h : c = '"' → 2 ≤ quotes) : ∃ x w, body true quotes (c :: s) = x :: w ∧ x ≠ '"' := by
  by_cases hc : c = '"'
  · have hq : ¬ quotes < 2 := Nat.not_lt.2 (h hc)
    simp [body, hc, hq]
  · obtain ⟨x, w, heq, hx⟩ := exists_escape_eq_cons true c
    refine ⟨x, w ++ body true 0 s, by simp [body, hc, heq], ?_⟩
    rcases hx with rfl | ⟨rfl, -⟩
    · decide
    · exact hc

/-- Two quotes behind a bare one are the last of the text and those that close it. -/
theorem eq_replicate_of_body_begins {quotes : Nat} {s rest : List Char}
    (h : ['"', '"'] <+: body true (quotes + 1) s ++ basicQuotes ++ rest) :
    ∃ n ≤ 1, s = List.replicate n '"' ∧ body true (quotes + 1) s = List.replicate n '"' := by
  cases s with
  | nil => exact ⟨0, by decide, rfl, rfl⟩
  | cons c s =>
      by_cases hc : c = '"' ∧ quotes = 0
      · obtain ⟨rfl, rfl⟩ := hc
        cases s with
        | nil => exact ⟨1, by decide, rfl, by simp [body]⟩
        | cons d s =>
            -- A third quote in a row is escaped.
            have hsecond : d = '"' → 2 ≤ 2 := fun _ => Nat.le_refl 2
            obtain ⟨x, w, heq, hx⟩ := exists_body_eq_cons s hsecond
            have hbody : body true 1 ('"' :: d :: s) = '"' :: x :: w := by
              rw [← heq]
              simp [body]
            rw [hbody] at h
            simp [Ne.symm hx] at h
      · have hfirst : c = '"' → 2 ≤ quotes + 1 := fun h => by
          have : quotes ≠ 0 := fun h0 => hc ⟨h, h0⟩
          omega
        obtain ⟨x, w, heq, hx⟩ := exists_body_eq_cons s hfirst
        rw [heq] at h
        simp [Ne.symm hx] at h

theorem basicLines_body {rest : List Char} (hrest : Unquoted rest) (quotes : Nat)
    (s : List Char) :
    basicLines false (body true quotes s ++ basicQuotes ++ rest) = some (s, rest) := by
  induction s generalizing quotes with
  | nil => exact basicLines_closing (Nat.zero_le 2) hrest
  | cons c s ih =>
      by_cases hc : c = '"'
      · subst hc
        by_cases hquotes : quotes < 2
        · have hbody : body true quotes ('"' :: s) = '"' :: body true (quotes + 1) s := by
            simp [body, hquotes]
          rw [hbody, List.cons_append, List.cons_append]
          -- The quotes that close the string may stand right behind this one.
          by_cases hend : ['"', '"'] <+: body true (quotes + 1) s ++ basicQuotes ++ rest
          · obtain ⟨n, hn, rfl, hrun⟩ := eq_replicate_of_body_begins hend
            rw [hrun]
            exact basicLines_closing (Nat.succ_le_succ hn) hrest
          · rw [basicLines_bare hend, ih]
            rfl
        · have hquote := unescapes_basicLines.short '"' (by decide)
            (body true 0 s ++ basicQuotes ++ rest)
          rw [ih] at hquote
          simpa [body, hquotes, escaped?, prepend] using hquote
      · have hescape := unescapes_basicLines.escape true
          (fun _ t => basicLines_cons (.inr rfl) (by decide) (by decide) t) hc
          (body true 0 s ++ basicQuotes ++ rest)
        rw [ih] at hescape
        simpa [body, hc, prepend] using hescape

theorem eq_replicate_of_literal_begins {s rest : List Char}
    (hrun : ¬ literalQuotes <:+: '\x27' :: s)
    (h : ['\x27', '\x27'] <+: s ++ literalQuotes ++ rest) :
    ∃ n ≤ 1, s = List.replicate n '\x27' := by
  match s with
  | [] => exact ⟨0, by decide, rfl⟩
  | [c] =>
      have hc : '\x27' = c := by
        simpa [literalQuotes] using h
      exact ⟨1, by decide, by rw [← hc]; rfl⟩
  | c :: d :: s =>
      obtain ⟨rfl, rfl⟩ : '\x27' = c ∧ '\x27' = d := by
        simpa using h
      exact absurd ⟨[], s, rfl⟩ hrun

theorem literalLines_append {s rest : List Char} (hs : ∀ c ∈ s, isPlain c = true ∨ c = '\n')
    (hrun : ¬ literalQuotes <:+: s) (hrest : Unquoted rest) :
    literalLines (s ++ literalQuotes ++ rest) = some (s, rest) := by
  induction s with
  | nil => exact literalLines_closing (Nat.zero_le 2) hrest
  | cons c s ih =>
      have htail := ih (fun d hd => hs d (List.mem_cons_of_mem c hd)) fun h =>
        hrun (h.trans (List.suffix_cons c s).isInfix)
      rw [List.cons_append, List.cons_append]
      by_cases hc : c = '\x27'
      · subst hc
        by_cases hend : ['\x27', '\x27'] <+: s ++ literalQuotes ++ rest
        · obtain ⟨n, hn, rfl⟩ := eq_replicate_of_literal_begins hrun hend
          exact literalLines_closing (Nat.succ_le_succ hn) hrest
        · rw [literalLines_bare hend, htail]
          rfl
      · rw [literalLines_cons (hs c List.mem_cons_self) hc, htail]
        rfl

theorem dropBreak_of_head {t : List Char} (h : ∀ c ∈ t.head?, c ≠ '\n' ∧ c ≠ '\r') :
    dropBreak t = t := by
  match t with
  | [] => rfl
  | c :: t =>
      obtain ⟨hbreak, hreturn⟩ := h c rfl
      unfold dropBreak
      split <;> simp_all

theorem long_append (quotes s t rest : List Char) : long quotes s t ++ rest =
    quotes ++ ((if s.contains '\n' then ['\n'] else []) ++ (t ++ quotes ++ rest)) := by
  simp [long]

theorem dropBreak_long {s t : List Char}
    (h : '\n' ∉ s → ∀ c ∈ t.head?, c ≠ '\n' ∧ c ≠ '\r') :
    dropBreak ((if s.contains '\n' then ['\n'] else []) ++ t) = t := by
  by_cases hs : '\n' ∈ s
  · simp [hs, dropBreak]
  · simp [hs, dropBreak_of_head (h hs)]

/-! ## The five forms -/

theorem string?_basic {s rest : List Char} (hrest : Unquoted rest) :
    string? ('"' :: body false 0 s ++ ['"'] ++ rest) = some (s, rest) := by
  have hread := basic_body 0 s rest
  have hopen : ∀ r, body false 0 s ++ '"' :: rest ≠ '"' :: '"' :: r := by
    intro r hr
    cases s with
    | nil =>
        rw [body, List.nil_append] at hr
        exact absurd rfl (hrest '"' (by rw [(List.cons.inj hr).2]; rfl)).1
    | cons c s =>
        by_cases hc : c = '"'
        · simp [body, hc] at hr
        · obtain ⟨x, w, heq, hx⟩ := exists_escape_eq_cons false c
          rcases hx with rfl | ⟨rfl, -⟩
          · simp [body, hc, heq] at hr
          · simp [body, hc, heq] at hr
  simp only [List.cons_append, List.append_assoc, List.nil_append]
  rw [string?]
  · exact hread
  · exact hopen

theorem string?_literal {s rest : List Char} (hs : ∀ c ∈ s, isPlain c = true ∧ c ≠ '\x27')
    (hrest : Unquoted rest) : string? ('\x27' :: s ++ ['\x27'] ++ rest) = some (s, rest) := by
  have hread := literal_append hs rest
  have hopen : ∀ r, s ++ '\x27' :: rest ≠ '\x27' :: '\x27' :: r := by
    intro r hr
    cases s with
    | nil => exact absurd rfl (hrest '\x27' (by rw [(List.cons.inj hr).2]; rfl)).2
    | cons c s => exact (hs c List.mem_cons_self).2 (List.cons.inj hr).1
  simp only [List.cons_append, List.append_assoc, List.nil_append]
  rw [string?]
  · exact hread
  · exact hopen

theorem string?_basicLines {s rest : List Char} (hrest : Unquoted rest) :
    string? (long basicQuotes s (body true 0 s) ++ rest) = some (s, rest) := by
  have hhead : '\n' ∉ s →
      ∀ c ∈ (body true 0 s ++ basicQuotes ++ rest).head?, c ≠ '\n' ∧ c ≠ '\r' := by
    intro hs c hc
    cases s with
    | nil =>
        cases hc
        decide
    | cons d s =>
        by_cases hd : d = '"'
        · simp only [body, hd] at hc
          cases hc
          decide
        · obtain ⟨x, w, heq, hx⟩ := exists_escape_eq_cons true d
          simp only [body, hd, heq] at hc
          cases hc
          rcases hx with rfl | ⟨rfl, hreturn⟩
          · decide
          · exact ⟨fun h => hs (by simp [h]), hreturn⟩
  rw [long_append, basicQuotes]
  simp only [List.cons_append, List.nil_append, string?]
  rw [← basicQuotes, dropBreak_long hhead]
  exact basicLines_body hrest 0 s

theorem string?_literalLines {s rest : List Char} (hs : ∀ c ∈ s, isPlain c = true ∨ c = '\n')
    (hrun : ¬ literalQuotes <:+: s) (hrest : Unquoted rest) :
    string? (long literalQuotes s s ++ rest) = some (s, rest) := by
  have hhead : '\n' ∉ s →
      ∀ c ∈ (s ++ literalQuotes ++ rest).head?, c ≠ '\n' ∧ c ≠ '\r' := by
    intro hbreak c hc
    cases s with
    | nil =>
        cases hc
        decide
    | cons d s =>
        cases hc
        have hd : c ≠ '\n' := fun h => hbreak (by simp [h])
        refine ⟨hd, ?_⟩
        rintro rfl
        rcases hs _ List.mem_cons_self with h | h <;> revert h <;> decide
  rw [long_append, literalQuotes]
  simp only [List.cons_append, List.nil_append, string?]
  rw [← literalQuotes, dropBreak_long hhead]
  exact literalLines_append hs hrun hrest

theorem isPlain_of_any_isControl {s : List Char} (hs : s.any isControl = false) :
    ∀ c ∈ s, isPlain c = true ∨ c = '\n' := by
  intro c hc
  by_cases hbreak : c = '\n'
  · exact .inr hbreak
  · have hcontrol : isControl c = false := by
      simpa using List.any_eq_false.1 hs c hc
    exact .inl (isPlain_of_not_isControl hcontrol hbreak)

theorem isPlain_of_form_eq_literal {s : List Char} (h : form s = .literal) :
    ∀ c ∈ s, isPlain c = true ∧ c ≠ '\x27' := by
  have hs : s.any isControl = false ∧ '\x27' ∉ s ∧ '\n' ∉ s := by
    unfold form at h
    grind
  obtain ⟨hcontrol, hquote, hbreak⟩ := hs
  intro c hc
  constructor
  · rcases isPlain_of_any_isControl hcontrol c hc with hplain | rfl
    · exact hplain
    · contradiction
  · rintro rfl
    contradiction

theorem isPlain_of_form_eq_literalLines {s : List Char} (h : form s = .literalLines) :
    (∀ c ∈ s, isPlain c = true ∨ c = '\n') ∧ ¬ literalQuotes <:+: s := by
  have hs : s.any isControl = false ∧ hasRun '\x27' s = false := by
    unfold form at h
    grind
  obtain ⟨hcontrol, hrun⟩ := hs
  refine ⟨isPlain_of_any_isControl hcontrol, Text.split?_eq_none_iff.1 ?_⟩
  simpa [hasRun, literalQuotes] using hrun

/-- A printed string reads back as the text it was made from, in front of anything but a
quote. -/
theorem string?_string (s : List Char) {rest : List Char} (hrest : Unquoted rest) :
    string? (Printer.string s ++ rest) = some (s, rest) := by
  unfold Printer.string
  cases hform : form s with
  | basic => exact string?_basic hrest
  | literal => exact string?_literal (isPlain_of_form_eq_literal hform) hrest
  | basicLines => exact string?_basicLines hrest
  | literalLines =>
      obtain ⟨hplain, hrun⟩ := isPlain_of_form_eq_literalLines hform
      exact string?_literalLines hplain hrun hrest
  | escaped =>
      dsimp only
      split
      · exact string?_basicLines hrest
      · exact string?_basic hrest

end FenceCheck.Toml
