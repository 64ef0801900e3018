import FenceCheck.Proofs.Text.Numeral
import FenceCheck.Proofs.Toml.Quotation
import FenceCheck.Toml.Reader

namespace FenceCheck.Toml

/-!
# Settings read back as they were printed

A text, a number or a list of texts is read back from its printed form at the end of a
line. Numbers must be in the range of integers. Lists may stand on several lines, so their
reader passes over what is blank between the texts.
-/

def Setting.value : Setting → Value
  | .text s => .string s
  | .number n => .integer n
  | .texts items => .array (items.map .string)

/-- Whether a number, if the setting is one, is in the range of integers. -/
def Setting.Fits : Setting → Prop
  | .number n => n < Nat.pow 2 63
  | _ => True

instance : DecidablePred Setting.Fits
  | .number _ => inferInstanceAs (Decidable (_ < _))
  | .text _ | .texts _ => isTrue trivial

namespace Reader

open Quotation

/-! ## Blanks between tokens -/

/-- A character that neither ends a line nor is passed over. -/
def isSolid (c : Char) : Bool :=
  !isSpace c && c != '#' && c != '\n' && c != '\r'

/-- Past spaces, empty lines and comments, `s` goes on as `t`. -/
def Leads (s t : List Char) : Prop :=
  ∀ fuel, s.length < fuel → skipLines fuel s = some t

theorem dropSpaces_append {w s : List Char} {c : Char} (hw : ∀ c ∈ w, isSpace c = true)
    (hc : isSpace c = false) : dropSpaces (w ++ c :: s) = c :: s := by
  rw [dropSpaces, List.dropWhile_append_of_pos hw]
  simp [hc]

theorem leads_nil : Leads [] [] := by
  intro fuel hfuel
  obtain ⟨n, rfl⟩ := Nat.exists_eq_add_one.2 hfuel
  rfl

theorem leads_spaces {w s : List Char} {c : Char} (hw : ∀ c ∈ w, isSpace c = true)
    (hc : isSolid c = true) : Leads (w ++ c :: s) (c :: s) := by
  intro fuel hfuel
  obtain ⟨n, rfl⟩ := Nat.exists_eq_add_one.2 (Nat.zero_lt_of_lt hfuel)
  simp only [isSolid, Bool.and_eq_true, Bool.not_eq_true', bne_iff_ne] at hc
  obtain ⟨⟨⟨hspace, hcomment⟩, hbreak⟩, hreturn⟩ := hc
  simp [skipLines, dropSpaces_append hw hspace, afterComment?, hcomment, hbreak, hreturn]

theorem leads_cons {s : List Char} {c : Char} (hc : isSolid c = true) :
    Leads (c :: s) (c :: s) :=
  leads_spaces (w := []) (by simp) hc

theorem Leads.newline {s t : List Char} (h : Leads s t) : Leads ('\n' :: s) t := by
  intro fuel hfuel
  obtain ⟨n, rfl⟩ := Nat.exists_eq_add_one.2 (Nat.zero_lt_of_lt hfuel)
  have hskip : skipLines (n + 1) ('\n' :: s) = skipLines n s := by
    simp [skipLines, dropSpaces, isSpace, afterComment?]
  rw [hskip]
  exact h n (by simpa using hfuel)

theorem Leads.comment {s t text : List Char} (hs : ∀ c ∈ text, isPlain c = true)
    (h : Leads s t) : Leads ('#' :: text ++ '\n' :: s) t := by
  intro fuel hfuel
  obtain ⟨n, rfl⟩ := Nat.exists_eq_add_one.2 (Nat.zero_lt_of_lt hfuel)
  have hplain : isPlain '\n' = false := by decide
  have hskip : skipLines (n + 1) ('#' :: text ++ '\n' :: s) = skipLines n s := by
    simp [skipLines, dropSpaces, isSpace, afterComment?, List.dropWhile_append_of_pos hs,
      hplain, startsLine]
  rw [hskip]
  apply h
  simp at hfuel
  omega

/-! ## Values -/

theorem exists_string_eq_cons (s : List Char) :
    ∃ c w, Printer.string s = c :: w ∧ (c = '"' ∨ c = '\x27') := by
  unfold Printer.string Printer.long
  split
  · exact ⟨_, _, rfl, .inl rfl⟩
  · exact ⟨_, _, rfl, .inr rfl⟩
  · exact ⟨_, _, rfl, .inl rfl⟩
  · exact ⟨_, _, rfl, .inr rfl⟩
  · split
    · exact ⟨_, _, rfl, .inl rfl⟩
    · exact ⟨_, _, rfl, .inl rfl⟩

theorem value_string (fuel : Nat) (s : List Char) {rest : List Char} (hrest : Unquoted rest) :
    value (fuel + 1) (Printer.string s ++ rest) = some (.string (String.ofList s), rest) := by
  have hread := string?_string s hrest
  obtain ⟨c, w, heq, rfl | rfl⟩ := exists_string_eq_cons s
  · rw [heq] at hread ⊢
    simp only [List.cons_append] at hread ⊢
    simp [value, hread]
  · rw [heq] at hread ⊢
    simp only [List.cons_append] at hread ⊢
    simp [value, hread]

theorem digits?_of_isDigit {ds : List Char} (hne : ds ≠ [])
    (hds : ∀ d ∈ ds, d.isDigit = true) : Scalar.digits? Char.isDigit ds = some ds := by
  induction ds with
  | nil => contradiction
  | cons d ds ih =>
      have hd := hds d List.mem_cons_self
      cases ds with
      | nil => simp [Scalar.digits?, hd]
      | cons e ds =>
          have htail := ih (by simp) fun x hx => hds x (List.mem_cons_of_mem d hx)
          have he : e ≠ '_' := by
            rintro rfl
            exact absurd (hds '_' (by simp)) (by decide)
          rw [Scalar.digits?]
          · simp [hd, htail]
          · simp
          · simp [he]

theorem valueIn_ten {ds : List Char} (hds : ∀ d ∈ ds, d.isDigit = true) :
    Scalar.valueIn 10 ds = Text.digitsValue ds := by
  have hfold : ∀ n, ds.foldl (fun n d => 10 * n + Scalar.hexValue d) n =
      ds.foldl (fun n d => 10 * n + (d.toNat - 48)) n := by
    induction ds with
    | nil => exact fun _ => rfl
    | cons d ds ih =>
        intro n
        have hd : Scalar.hexValue d = d.toNat - 48 := by
          rw [Scalar.hexValue, if_pos (hds d List.mem_cons_self)]
        rw [List.foldl_cons, List.foldl_cons, hd]
        exact ih (fun x hx => hds x (List.mem_cons_of_mem d hx)) _
  exact hfold 0

theorem integer?_of_isDigit {ds : List Char} (hne : ds ≠ [])
    (hds : ∀ d ∈ ds, d.isDigit = true) (hzero : ds.head? = some '0' → ds = ['0']) :
    Scalar.integer? ds = Scalar.ofMagnitude? false (Text.digitsValue ds) := by
  have hbase : ∀ {c : Char} {r : List Char}, ds ≠ '0' :: c :: r := by
    rintro c r rfl
    exact absurd (hzero rfl) (by simp)
  have hsign : Scalar.signed ds = (false, ds) := by
    obtain ⟨d, ds, rfl⟩ := List.exists_cons_of_ne_nil hne
    have hd := hds d List.mem_cons_self
    rw [Scalar.signed]
    · rintro r heq
      cases heq
      exact absurd hd (by decide)
    · rintro r heq
      cases heq
      exact absurd hd (by decide)
  have hwhole : Scalar.wholeDigits? ds = some ds := by
    rw [Scalar.wholeDigits?, digits?_of_isDigit hne hds]
    split
    · next heq => exact absurd (Option.some.inj heq) hbase
    · rfl
  rw [Scalar.integer?]
  · rw [hsign]
    dsimp only
    rw [hwhole, Option.bind_some, valueIn_ten hds]
  · exact fun r heq => hbase heq
  · exact fun r heq => hbase heq
  · exact fun r heq => hbase heq

theorem ofWord?_decimal {n : Nat} (hn : n < Nat.pow 2 63) :
    Scalar.ofWord? (Text.decimal n) = some (.integer n) := by
  have hds := @Text.isDigit_of_mem_decimal n
  have hinteger := integer?_of_isDigit (Text.decimal_ne_nil n) hds Text.decimal_eq_of_head?
  have hboolean : Scalar.boolean? (Text.decimal n) = none := by
    have hletter : 't' ∉ Text.decimal n ∧ 'f' ∉ Text.decimal n :=
      ⟨fun h => absurd (hds _ h) (by decide), fun h => absurd (hds _ h) (by decide)⟩
    unfold Scalar.boolean?
    split
    · next heq => exact absurd (by rw [heq]; decide) hletter.1
    split
    · next heq => exact absurd (by rw [heq]; decide) hletter.2
    · rfl
  have hrange : Scalar.inRange n = true := by
    have hbound : n < 9223372036854775808 := hn
    have hpow : Int.pow 2 63 = 9223372036854775808 := rfl
    simp only [Scalar.inRange, hpow, Bool.and_eq_true, decide_eq_true_eq]
    omega
  rw [Scalar.ofWord?, hboolean, hinteger, Text.digitsValue_decimal, Scalar.ofMagnitude?]
  simp [hrange]

theorem value_decimal (fuel : Nat) {n : Nat} (hn : n < Nat.pow 2 63) (rest : List Char) :
    value (fuel + 1) (Text.decimal n ++ '\n' :: rest) = some (.integer n, '\n' :: rest) := by
  have hds := @Text.isDigit_of_mem_decimal n
  have hword : Scalar.word (Text.decimal n ++ '\n' :: rest) = (Text.decimal n, '\n' :: rest) := by
    have hall : ∀ d ∈ Text.decimal n, Scalar.isWordChar d = true := by
      intro d hd
      simp [Scalar.isWordChar, Char.isAlphanum, hds d hd]
    have hbreak : Scalar.isWordChar '\n' = false := by decide
    simp [Scalar.word, List.takeWhile_append_of_pos hall, List.dropWhile_append_of_pos hall, hbreak]
  have hnot : ∀ {c : Char} {r : List Char}, c.isDigit = false →
      Text.decimal n ++ '\n' :: rest ≠ c :: r := by
    intro c r hc heq
    obtain ⟨d, ds, hd⟩ := List.exists_cons_of_ne_nil (Text.decimal_ne_nil n)
    rw [hd] at heq
    obtain ⟨rfl, -⟩ := List.cons.inj heq
    simp [hds d (by simp [hd])] at hc
  rw [value]
  · rw [hword]
    simp [ofWord?_decimal hn]
  · exact fun r heq => hnot (by decide) heq
  · exact fun r heq => hnot (by decide) heq
  · exact fun r heq => hnot (by decide) heq
  · exact fun r heq => hnot (by decide) heq

theorem leads_string {w : List Char} (hw : ∀ c ∈ w, isSpace c = true) (s rest : List Char) :
    Leads (w ++ (Printer.string s ++ rest)) (Printer.string s ++ rest) := by
  obtain ⟨c, v, heq, hc⟩ := exists_string_eq_cons s
  rw [heq, List.cons_append]
  apply leads_spaces hw
  rcases hc with rfl | rfl <;> decide

theorem items_close {s rest : List Char} {fuel : Nat} (h : Leads s (']' :: rest))
    (hfuel : s.length < fuel) : items fuel s = some ([], rest) := by
  obtain ⟨n, rfl⟩ := Nat.exists_eq_add_one.2 (Nat.zero_lt_of_lt hfuel)
  rw [items, h (n + 1) hfuel]
  rfl

/-- An item that is a string, as the last one and in front of more. -/
theorem items_string {s x t r : List Char} {c : Char} {fuel : Nat}
    (h : Leads s (Printer.string x ++ t)) (ht : Unquoted t) (hnext : Leads t (c :: r))
    (hlength : t.length < s.length) (hfuel : s.length < fuel + 1) :
    (c = ']' → items (fuel + 1) s = some ([.string (String.ofList x)], r)) ∧
    (c = ',' → items (fuel + 1) s =
      (items fuel r).map fun more => (.string (String.ofList x) :: more.1, more.2)) := by
  obtain ⟨n, rfl⟩ := Nat.exists_eq_add_one.2 (Nat.zero_lt_of_lt (by omega : t.length < fuel))
  have hopen : ∀ r, Printer.string x ++ t ≠ ']' :: r := by
    intro r heq
    obtain ⟨d, w, hcons, hd⟩ := exists_string_eq_cons x
    rw [hcons] at heq
    rcases hd with rfl | rfl <;> cases heq
  have hitem := value_string n x ht
  have hafter := hnext (n + 1 + 1) (by omega)
  constructor
  · rintro rfl
    simp [items, h _ hfuel, hitem, hafter]
  · rintro rfl
    simp [items, h _ hfuel, hitem, hafter]

theorem isSpace_of_mem_indent : ∀ c ∈ "    ".toList, isSpace c = true := by simp [isSpace]

/-- The rest of a list that stands on several lines, one text on each. -/
theorem items_lines (ss : List String) (rest : List Char) (fuel : Nat)
    (hfuel : ('\n' :: (ss.flatMap (fun s =>
      "    ".toList ++ Printer.string s.toList ++ ",\n".toList) ++ ']' :: rest)).length < fuel) :
    items fuel ('\n' :: (ss.flatMap (fun s =>
      "    ".toList ++ Printer.string s.toList ++ ",\n".toList) ++ ']' :: rest)) =
      some (ss.map .string, rest) := by
  induction ss generalizing fuel with
  | nil => exact items_close (leads_cons rfl).newline hfuel
  | cons s ss ih =>
      -- Each line takes the line feed in front of it, so that a comma always ends the step.
      generalize hnext : '\n' :: (ss.flatMap (fun s =>
        "    ".toList ++ Printer.string s.toList ++ ",\n".toList) ++ ']' :: rest) = next at ih
      have htext : '\n' :: ((s :: ss).flatMap (fun s =>
          "    ".toList ++ Printer.string s.toList ++ ",\n".toList) ++ ']' :: rest) =
          '\n' :: ("    ".toList ++ (Printer.string s.toList ++ ',' :: next)) := by
        simp [← hnext]
      rw [htext] at hfuel ⊢
      obtain ⟨n, rfl⟩ := Nat.exists_eq_add_one.2 (Nat.zero_lt_of_lt hfuel)
      have hlead := (leads_string isSpace_of_mem_indent s.toList (',' :: next)).newline
      have hitem := (items_string hlead (unquoted_cons (by decide) (by decide))
        (leads_cons (c := ',') rfl) (by simp; omega) hfuel).2 rfl
      rw [hitem, ih n (by simp at hfuel; omega)]
      simp

theorem value_list (ss : List String) (rest : List Char) (fuel : Nat)
    (hfuel : (Printer.list ss ++ rest).length < fuel) :
    value fuel (Printer.list ss ++ rest) = some (.array (ss.map .string), rest) := by
  obtain ⟨n, rfl⟩ := Nat.exists_eq_add_one.2 (Nat.zero_lt_of_lt hfuel)
  match ss with
  | [] =>
      have htext : Printer.list [] ++ rest = '[' :: ']' :: rest := rfl
      rw [htext] at hfuel ⊢
      rw [value, items_close (leads_cons rfl) (Nat.lt_of_succ_lt_succ hfuel)]
      rfl
  | [s] =>
      have htext : Printer.list [s] ++ rest = '[' :: (Printer.string s.toList ++ ']' :: rest) := by
        simp [Printer.list]
      rw [htext] at hfuel ⊢
      have hlength := Nat.lt_of_succ_lt_succ hfuel
      obtain ⟨m, rfl⟩ := Nat.exists_eq_add_one.2 (Nat.zero_lt_of_lt hlength)
      have hlead := leads_string (w := []) (by simp) s.toList (']' :: rest)
      have hclose : (']' :: rest).length < (Printer.string s.toList ++ ']' :: rest).length := by
        obtain ⟨c, w, heq, -⟩ := exists_string_eq_cons s.toList
        rw [heq]
        simp only [List.cons_append, List.length_cons, List.length_append]
        omega
      have hitem := (items_string hlead (unquoted_cons (by decide) (by decide))
        (leads_cons rfl) hclose hlength).1 rfl
      rw [List.nil_append, String.ofList_toList] at hitem
      rw [value, hitem]
      rfl
  | s :: s' :: ss =>
      have htext : Printer.list (s :: s' :: ss) ++ rest =
          '[' :: '\n' :: ((s :: s' :: ss).flatMap (fun s =>
            "    ".toList ++ Printer.string s.toList ++ ",\n".toList) ++ ']' :: rest) := by
        simp [Printer.list]
      rw [htext] at hfuel ⊢
      rw [value, items_lines _ rest n (Nat.lt_of_succ_lt_succ hfuel)]
      rfl

theorem value_setting {x : Setting} (hx : x.Fits) (rest : List Char) (fuel : Nat)
    (hfuel : (Printer.setting x ++ '\n' :: rest).length < fuel) :
    value fuel (Printer.setting x ++ '\n' :: rest) = some (x.value, '\n' :: rest) := by
  obtain ⟨n, rfl⟩ := Nat.exists_eq_add_one.2 (Nat.zero_lt_of_lt hfuel)
  cases x with
  | text s =>
      have hnext := unquoted_cons (s := rest) (c := '\n') (by decide) (by decide)
      have h := value_string n s.toList hnext
      rwa [String.ofList_toList] at h
  | number k => exact value_decimal n hx rest
  | texts ss => exact value_list ss ('\n' :: rest) (n + 1) hfuel

theorem exists_setting_eq_cons (x : Setting) :
    ∃ c w, Printer.setting x = c :: w ∧ isSpace c = false := by
  cases x with
  | text s =>
      obtain ⟨c, w, heq, hc⟩ := exists_string_eq_cons s.toList
      refine ⟨c, w, heq, ?_⟩
      rcases hc with rfl | rfl <;> decide
  | number n =>
      obtain ⟨d, ds, heq⟩ := List.exists_cons_of_ne_nil (Text.decimal_ne_nil n)
      refine ⟨d, ds, heq, ?_⟩
      have hd : d.isDigit = true := Text.isDigit_of_mem_decimal (n := n) d (by simp [heq])
      apply Bool.eq_false_iff.2
      intro hspace
      simp only [isSpace, Bool.or_eq_true, beq_iff_eq] at hspace
      rcases hspace with rfl | rfl <;> exact absurd hd (by decide)
  | texts ss =>
      rcases ss with _ | ⟨s, _ | ⟨t, ss⟩⟩ <;> exact ⟨_, _, rfl, by decide⟩

end Reader

end FenceCheck.Toml
