import FenceCheck.Output.Json
import FenceCheck.Proofs.Text.Numeral

namespace FenceCheck.Json

/-!
# The grammar of JSON

What a JSON text denotes, for all of JSON and not only for what is printed here: numbers
have signs, fractions and exponents, characters may be escaped where they need not be, and
blanks may stand around every token. The grammar is a family of relations between what is
denoted, a text that begins with a spelling of it, and what the text leaves. No text spells
two values.
-/

/-- What a text denotes. -/
inductive Value
  | null
  | boolean (b : Bool)
  | number (q : Rat)
  | string (s : String)
  | array (items : List Value)
  | object (members : List (String × Value))

def blanks : List Char := [' ', '\t', '\n', '\r']

inductive Space : List Char → List Char → Prop
  | none (r : List Char) : Space r r
  | some {c : Char} {s r : List Char} (hc : c ∈ blanks) (h : Space s r) : Space (c :: s) r

/-! ## Numbers -/

/-- A run of digits. It need not be the longest. -/
structure Digits (ds s r : List Char) : Prop where
  ne_nil : ds ≠ []
  isDigit : ∀ d ∈ ds, d.isDigit = true
  eq_append : s = ds ++ r

inductive Fraction : List Char → List Char → List Char → Prop
  | none (r : List Char) : Fraction [] r r
  | some {ds s r : List Char} (h : Digits ds s r) : Fraction ds ('.' :: s) r

inductive Sign : Int → List Char → List Char → Prop
  | none (r : List Char) : Sign 1 r r
  | plus (r : List Char) : Sign 1 ('+' :: r) r
  | minus (r : List Char) : Sign (-1) ('-' :: r) r

inductive Exponent : Int → List Char → List Char → Prop
  | none (r : List Char) : Exponent 0 r r
  | some {e : Char} {i : Int} {ds s t r : List Char} (he : e = 'e' ∨ e = 'E') (hsign : Sign i s t)
      (h : Digits ds t r) : Exponent (i * Text.digitsValue ds) (e :: s) r

/-- A number without a sign. Its whole part has no leading zero. -/
inductive Magnitude : Rat → List Char → List Char → Prop
  | intro {ds fs s t u r : List Char} {e : Int} (whole : Digits ds s t)
      (hzero : ds.head? = some '0' → ds = ['0']) (fraction : Fraction fs t u)
      (exponent : Exponent e u r) :
      Magnitude (Text.digitsValue (ds ++ fs) * 10 ^ (e - fs.length)) s r

inductive Number : Rat → List Char → List Char → Prop
  | positive {q : Rat} {s r : List Char} (h : Magnitude q s r) : Number q s r
  | negative {q : Rat} {s r : List Char} (h : Magnitude q s r) : Number (-q) ('-' :: s) r

/-! ## Strings -/

def hexDigit? (c : Char) : Option Nat :=
  if '0' ≤ c ∧ c ≤ '9' then some (c.toNat - '0'.toNat)
  else if 'a' ≤ c ∧ c ≤ 'f' then some (c.toNat - 'a'.toNat + 10)
  else if 'A' ≤ c ∧ c ≤ 'F' then some (c.toNat - 'A'.toNat + 10)
  else none

def hexValue? (digits : List Char) : Option Nat :=
  (digits.mapM hexDigit?).map fun ns => ns.foldl (fun n d => 16 * n + d) 0

/-- A code unit in four hexadecimal digits. -/
inductive CodeUnit : Nat → List Char → List Char → Prop
  | intro {a b c d : Char} {n : Nat} (r : List Char) (h : hexValue? [a, b, c, d] = some n) :
      CodeUnit n (a :: b :: c :: d :: r) r

/-- The letters of the short escapes and what they stand for. -/
def escapes : List (Char × Char) :=
  [('"', '"'), ('\\', '\\'), ('/', '/'), ('b', Char.ofNat 8), ('f', Char.ofNat 12),
    ('n', '\n'), ('r', '\r'), ('t', '\t')]

/-- A character between quotes. Half of a surrogate pair stands for none. -/
inductive Letter : Char → List Char → List Char → Prop
  | plain {c : Char} (r : List Char) (hc : 32 ≤ c.toNat) (hquote : c ≠ '"') (hescape : c ≠ '\\') :
      Letter c (c :: r) r
  | short {c e : Char} (r : List Char) (h : (e, c) ∈ escapes) : Letter c ('\\' :: e :: r) r
  | coded {c : Char} {s r : List Char} (h : CodeUnit c.toNat s r) : Letter c ('\\' :: 'u' :: s) r
  | pair {c : Char} {high low : Nat} {s t r : List Char}
      (hhigh : CodeUnit high s ('\\' :: 'u' :: t)) (hlow : CodeUnit low t r)
      (hhigh' : 0xD800 ≤ high ∧ high < 0xDC00) (hlow' : 0xDC00 ≤ low ∧ low < 0xE000)
      (hc : c.toNat = 0x10000 + (high - 0xD800) * 0x400 + (low - 0xDC00)) :
      Letter c ('\\' :: 'u' :: s) r

/-- The characters of a string after its opening quote, up to the closing one. -/
inductive Letters : List Char → List Char → List Char → Prop
  | close (r : List Char) : Letters [] ('"' :: r) r
  | letter {c : Char} {cs s t r : List Char} (h : Letter c s t) (more : Letters cs t r) :
      Letters (c :: cs) s r

/-! ## Values -/

/-- What the grammar speaks of. An element is a value with the blanks around it. -/
inductive Phrase
  | value (v : Value)
  | element (v : Value)
  | elements (vs : List Value)
  | member (name : String) (v : Value)
  | members (ms : List (String × Value))

inductive Spells : Phrase → List Char → List Char → Prop
  | null (r : List Char) : Spells (.value .null) ('n' :: 'u' :: 'l' :: 'l' :: r) r
  | yes (r : List Char) : Spells (.value (.boolean true)) ('t' :: 'r' :: 'u' :: 'e' :: r) r
  | no (r : List Char) :
      Spells (.value (.boolean false)) ('f' :: 'a' :: 'l' :: 's' :: 'e' :: r) r
  | number {q : Rat} {s r : List Char} (h : Number q s r) : Spells (.value (.number q)) s r
  | string {cs s r : List Char} (h : Letters cs s r) :
      Spells (.value (.string (String.ofList cs))) ('"' :: s) r
  | emptyArray {s r : List Char} (h : Space s (']' :: r)) :
      Spells (.value (.array [])) ('[' :: s) r
  | array {vs : List Value} {s r : List Char} (h : Spells (.elements vs) s r) :
      Spells (.value (.array vs)) ('[' :: s) r
  | emptyObject {s r : List Char} (h : Space s ('}' :: r)) :
      Spells (.value (.object [])) ('{' :: s) r
  | object {ms : List (String × Value)} {s r : List Char} (h : Spells (.members ms) s r) :
      Spells (.value (.object ms)) ('{' :: s) r
  | element {v : Value} {s t u r : List Char} (before : Space s t) (h : Spells (.value v) t u)
      (after : Space u r) : Spells (.element v) s r
  | lastElement {v : Value} {s r : List Char} (h : Spells (.element v) s (']' :: r)) :
      Spells (.elements [v]) s r
  | elements {v : Value} {vs : List Value} {s t r : List Char}
      (h : Spells (.element v) s (',' :: t)) (more : Spells (.elements vs) t r) :
      Spells (.elements (v :: vs)) s r
  | member {cs : List Char} {v : Value} {s t u w r : List Char} (before : Space s ('"' :: t))
      (name : Letters cs t u) (after : Space u (':' :: w)) (h : Spells (.element v) w r) :
      Spells (.member (String.ofList cs) v) s r
  | lastMember {name : String} {v : Value} {s r : List Char}
      (h : Spells (.member name v) s ('}' :: r)) : Spells (.members [(name, v)]) s r
  | members {name : String} {v : Value} {ms : List (String × Value)} {s t r : List Char}
      (h : Spells (.member name v) s (',' :: t)) (more : Spells (.members ms) t r) :
      Spells (.members ((name, v) :: ms)) s r

/-- A whole text that denotes a value. -/
def Denotes (s : List Char) (v : Value) : Prop :=
  Spells (.element v) s []

/-! ## No text spells two values -/

/-- Whether a text does not go on with a number that ends in front of it. -/
def Stops (r : List Char) : Prop :=
  ∀ c ∈ r.head?, c.isDigit = false ∧ c ≠ '.' ∧ c ≠ 'e' ∧ c ≠ 'E'

namespace Digits

variable {ds ds' s r r' : List Char}

theorem exists_cons (h : Digits ds s r) : ∃ c t, s = c :: t ∧ c.isDigit = true := by
  obtain ⟨d, ds, rfl⟩ := List.exists_cons_of_ne_nil h.ne_nil
  exact ⟨d, ds ++ r, h.eq_append, h.isDigit d List.mem_cons_self⟩

theorem head {c : Char} (h : Digits ds (c :: s) r) : c.isDigit = true := by
  obtain ⟨d, t, heq, hd⟩ := h.exists_cons
  rwa [(List.cons.inj heq).1]

theorem eq_takeWhile (h : Digits ds s r) (hr : ∀ c ∈ r.head?, c.isDigit = false) :
    ds = s.takeWhile Char.isDigit := by
  have hnil : r.takeWhile Char.isDigit = [] := by
    cases r with
    | nil => rfl
    | cons c r => simp [hr c rfl]
  rw [h.eq_append, List.takeWhile_append_of_pos h.isDigit, hnil, List.append_nil]

theorem unique (h : Digits ds s r) (h' : Digits ds' s r')
    (hr : ∀ c ∈ r.head?, c.isDigit = false) (hr' : ∀ c ∈ r'.head?, c.isDigit = false) :
    ds = ds' ∧ r = r' := by
  have hds : ds = ds' := (h.eq_takeWhile hr).trans (h'.eq_takeWhile hr').symm
  subst hds
  exact ⟨rfl, List.append_cancel_left (h.eq_append.symm.trans h'.eq_append)⟩

end Digits

theorem Sign.unique {i i' : Int} {ds ds' s t t' r r' : List Char} (h : Sign i s t)
    (hd : Digits ds t r) (h' : Sign i' s t') (hd' : Digits ds' t' r') : i = i' ∧ t = t' := by
  cases h with
  | none =>
      cases h' with
      | none => exact ⟨rfl, rfl⟩
      | plus => exact absurd hd.head (by decide)
      | minus => exact absurd hd.head (by decide)
  | plus =>
      cases h' with
      | none => exact absurd hd'.head (by decide)
      | plus => exact ⟨rfl, rfl⟩
  | minus =>
      cases h' with
      | none => exact absurd hd'.head (by decide)
      | minus => exact ⟨rfl, rfl⟩

namespace Exponent

variable {e e' : Int} {s r r' : List Char}

theorem head (h : Exponent e s r) (hr : Stops r) :
    ∀ c ∈ s.head?, c.isDigit = false ∧ c ≠ '.' := by
  intro c hc
  cases h with
  | none => exact ⟨(hr c hc).1, (hr c hc).2.1⟩
  | some he =>
      cases hc
      rcases he with rfl | rfl <;> decide

theorem unique (h : Exponent e s r) (h' : Exponent e' s r') (hr : Stops r) (hr' : Stops r') :
    e = e' ∧ r = r' := by
  have hmark : ∀ {m : Char} {s : List Char}, m = 'e' ∨ m = 'E' → ¬ Stops (m :: s) := by
    intro m s hm hs
    have := hs m rfl
    rcases hm with rfl | rfl <;> simp at this
  cases h with
  | none =>
      cases h' with
      | none => exact ⟨rfl, rfl⟩
      | some he => exact absurd hr (hmark he)
  | some he hsign hd =>
      cases h' with
      | none => exact absurd hr' (hmark he)
      | some he' hsign' hd' =>
          obtain ⟨rfl, rfl⟩ := hsign.unique hd hsign' hd'
          obtain ⟨rfl, rfl⟩ := hd.unique hd' (fun c hc => (hr c hc).1) fun c hc => (hr' c hc).1
          exact ⟨rfl, rfl⟩

end Exponent

namespace Fraction

variable {fs fs' s r r' : List Char}

theorem head (h : Fraction fs s r) (hr : ∀ c ∈ r.head?, c.isDigit = false ∧ c ≠ '.') :
    ∀ c ∈ s.head?, c.isDigit = false := by
  intro c hc
  cases h with
  | none => exact (hr c hc).1
  | some => cases hc; decide

theorem unique (h : Fraction fs s r) (h' : Fraction fs' s r')
    (hr : ∀ c ∈ r.head?, c.isDigit = false ∧ c ≠ '.')
    (hr' : ∀ c ∈ r'.head?, c.isDigit = false ∧ c ≠ '.') : fs = fs' ∧ r = r' := by
  cases h with
  | none =>
      cases h' with
      | none => exact ⟨rfl, rfl⟩
      | some => exact absurd rfl (hr _ rfl).2
  | some hd =>
      cases h' with
      | none => exact absurd rfl (hr' _ rfl).2
      | some hd' => exact hd.unique hd' (fun c hc => (hr c hc).1) fun c hc => (hr' c hc).1

end Fraction

theorem Magnitude.exists_cons {q : Rat} {s r : List Char} (h : Magnitude q s r) :
    ∃ c t, s = c :: t ∧ c.isDigit = true := by
  cases h with
  | intro whole => exact whole.exists_cons

theorem not_magnitude_minus {q : Rat} {s r : List Char} : ¬ Magnitude q ('-' :: s) r := by
  intro h
  obtain ⟨c, t, heq, hc⟩ := h.exists_cons
  obtain ⟨rfl, -⟩ := List.cons.inj heq
  contradiction

theorem Magnitude.unique {q q' : Rat} {s r r' : List Char} (h : Magnitude q s r)
    (h' : Magnitude q' s r') (hr : Stops r) (hr' : Stops r') : q = q' ∧ r = r' := by
  cases h with
  | intro whole _ fraction exponent =>
      cases h' with
      | intro whole' _ fraction' exponent' =>
          have hu := exponent.head hr
          have hu' := exponent'.head hr'
          obtain ⟨rfl, rfl⟩ := whole.unique whole' (fraction.head hu) (fraction'.head hu')
          obtain ⟨rfl, rfl⟩ := fraction.unique fraction' hu hu'
          obtain ⟨rfl, rfl⟩ := exponent.unique exponent' hr hr'
          exact ⟨rfl, rfl⟩

theorem Number.unique {q q' : Rat} {s r r' : List Char} (h : Number q s r)
    (h' : Number q' s r') (hr : Stops r) (hr' : Stops r') : q = q' ∧ r = r' := by
  cases h with
  | positive h =>
      cases h' with
      | positive h' => exact h.unique h' hr hr'
      | negative => exact absurd h not_magnitude_minus
  | negative h =>
      cases h' with
      | positive h' => exact absurd h' not_magnitude_minus
      | negative h' =>
          obtain ⟨rfl, rfl⟩ := h.unique h' hr hr'
          exact ⟨rfl, rfl⟩

theorem Number.exists_cons {q : Rat} {s r : List Char} (h : Number q s r) :
    ∃ c t, s = c :: t ∧ (c = '-' ∨ c.isDigit = true) := by
  cases h with
  | positive h =>
      obtain ⟨c, t, heq, hc⟩ := h.exists_cons
      exact ⟨c, t, heq, .inr hc⟩
  | negative => exact ⟨_, _, rfl, .inl rfl⟩

theorem CodeUnit.unique {n n' : Nat} {s r r' : List Char} (h : CodeUnit n s r)
    (h' : CodeUnit n' s r') : n = n' ∧ r = r' := by
  cases h with
  | intro _ h =>
      cases h' with
      | intro _ h' => exact ⟨Option.some.inj (h.symm.trans h'), rfl⟩

theorem eq_of_mem_escapes {e c c' : Char} (h : (e, c) ∈ escapes) (h' : (e, c') ∈ escapes) :
    c = c' := by
  have hall : ∀ p ∈ escapes, ∀ p' ∈ escapes, p.1 = p'.1 → p.2 = p'.2 := by decide
  exact hall _ h _ h' rfl

theorem notMem_escapes (c : Char) : ('u', c) ∉ escapes := by
  have hall : ∀ p ∈ escapes, p.1 ≠ 'u' := by decide
  intro h
  exact hall _ h rfl

theorem not_surrogate (c : Char) : ¬ (0xD800 ≤ c.toNat ∧ c.toNat < 0xDC00) := by
  have hvalid : c.toNat < 0xD800 ∨ 0xDFFF < c.toNat ∧ c.toNat < 0x110000 := c.valid
  omega

theorem Letter.unique {c c' : Char} {s r r' : List Char} (h : Letter c s r)
    (h' : Letter c' s r') : c = c' ∧ r = r' := by
  cases h with
  | plain _ _ _ hescape =>
      cases h' with
      | plain => exact ⟨rfl, rfl⟩
      | short | coded | pair => contradiction
  | short _ hmem =>
      cases h' with
      | plain => contradiction
      | short _ hmem' => exact ⟨eq_of_mem_escapes hmem hmem', rfl⟩
      | coded | pair => exact absurd hmem (notMem_escapes _)
  | coded hunit =>
      cases h' with
      | plain => contradiction
      | short _ hmem' => exact absurd hmem' (notMem_escapes _)
      | coded hunit' =>
          obtain ⟨hc, rfl⟩ := hunit.unique hunit'
          exact ⟨Char.toNat_inj.1 hc, rfl⟩
      | pair hhigh _ hbounds =>
          obtain ⟨rfl, -⟩ := hunit.unique hhigh
          exact absurd hbounds (not_surrogate c)
  | pair hhigh hlow hbounds _ hc =>
      cases h' with
      | plain => contradiction
      | short _ hmem' => exact absurd hmem' (notMem_escapes _)
      | coded hunit' =>
          obtain ⟨rfl, -⟩ := hunit'.unique hhigh
          exact absurd hbounds (not_surrogate c')
      | pair hhigh' hlow' _ _ hc' =>
          obtain ⟨rfl, heq⟩ := hhigh.unique hhigh'
          obtain rfl : _ = _ := (List.cons.inj (List.cons.inj heq).2).2
          obtain ⟨rfl, rfl⟩ := hlow.unique hlow'
          exact ⟨Char.toNat_inj.1 (hc.trans hc'.symm), rfl⟩

theorem not_letter_quote {c : Char} {s r : List Char} : ¬ Letter c ('"' :: s) r := by
  intro h
  cases h
  contradiction

theorem Letters.unique {cs cs' s r r' : List Char} (h : Letters cs s r) (h' : Letters cs' s r') :
    cs = cs' ∧ r = r' := by
  induction h generalizing cs' with
  | close =>
      cases h' with
      | close => exact ⟨rfl, rfl⟩
      | letter h => exact absurd h not_letter_quote
  | letter h _ ih =>
      cases h' with
      | close => exact absurd h not_letter_quote
      | letter h' more' =>
          obtain ⟨rfl, rfl⟩ := h.unique h'
          obtain ⟨rfl, rfl⟩ := ih more'
          exact ⟨rfl, rfl⟩

theorem Space.unique {s r r' : List Char} (h : Space s r) (h' : Space s r')
    (hr : ∀ c ∈ r.head?, c ∉ blanks) (hr' : ∀ c ∈ r'.head?, c ∉ blanks) : r = r' := by
  induction h with
  | none =>
      cases h' with
      | none => rfl
      | some hc => exact absurd hc (hr _ rfl)
  | some hc _ ih =>
      cases h' with
      | none => exact absurd hc (hr' _ rfl)
      | some _ h' => exact ih h' hr

theorem Space.unique_cons {c c' : Char} {s r r' : List Char} (h : Space s (c :: r))
    (h' : Space s (c' :: r')) (hc : c ∉ blanks) (hc' : c' ∉ blanks) : c = c' ∧ r = r' :=
  List.cons.inj (h.unique h' (by simpa using hc) (by simpa using hc'))

/-- Whether a text goes on as it may behind an element. -/
def Ends (r : List Char) : Prop :=
  ∀ c ∈ r.head?, c ∈ [',', ']', '}']

theorem Ends.notMem_blanks {r : List Char} (h : Ends r) : ∀ c ∈ r.head?, c ∉ blanks := by
  have hall : ∀ c ∈ [',', ']', '}'], c ∉ blanks := by simp [blanks]
  intro c hc
  exact hall c (h c hc)

theorem Ends.stops {s r : List Char} (h : Ends r) (hspace : Space s r) : Stops s := by
  have hends : ∀ c ∈ [',', ']', '}'], c.isDigit = false ∧ c ≠ '.' ∧ c ≠ 'e' ∧ c ≠ 'E' := by
    simp [Char.isDigit]
  have hblank : ∀ c ∈ blanks, c.isDigit = false ∧ c ≠ '.' ∧ c ≠ 'e' ∧ c ≠ 'E' := by
    simp [blanks, Char.isDigit]
  intro c hc
  cases hspace with
  | none => exact hends c (h c hc)
  | some hmem =>
      cases hc
      exact hblank _ hmem

theorem not_number {q : Rat} {c : Char} {s r : List Char} (hc : (c == '-' || c.isDigit) = false) :
    ¬ Number q (c :: s) r := by
  intro h
  obtain ⟨d, t, heq, hd⟩ := h.exists_cons
  obtain ⟨rfl, -⟩ := List.cons.inj heq
  simp_all

/-- A value does not begin with a blank or with what may stand behind it. -/
theorem Spells.exists_cons {v : Value} {s r : List Char} (h : Spells (.value v) s r) :
    ∃ c t, s = c :: t ∧ c ∉ blanks ∧ c ∉ [',', ']', '}'] := by
  cases h with
  | number h =>
      obtain ⟨c, t, rfl, -⟩ := h.exists_cons
      have hall : ∀ c ∈ blanks ++ [',', ']', '}'], (c == '-' || c.isDigit) = false := by
        simp [blanks, Char.isDigit]
      refine ⟨c, t, rfl, fun hc => not_number (hall c ?_) h, fun hc => not_number (hall c ?_) h⟩
      · exact List.mem_append_left _ hc
      · exact List.mem_append_right _ hc
  | null | yes | no | string | emptyArray | array | emptyObject | object =>
      exact ⟨_, _, rfl, by decide, by decide⟩

theorem Spells.not_space_of_element {v : Value} {s t r : List Char} {c : Char}
    (h : Spells (.element v) s r) (hspace : Space s (c :: t)) (hc : c ∉ blanks) :
    c ∉ [',', ']', '}'] := by
  cases h with
  | element before h =>
      obtain ⟨d, u, rfl, hblank, hd⟩ := h.exists_cons
      obtain ⟨rfl, -⟩ := before.unique_cons hspace hblank hc
      exact hd

theorem Spells.not_space_of_elements {vs : List Value} {s r t : List Char}
    (h : Spells (.elements vs) s r) : ¬ Space s (']' :: t) := by
  intro hspace
  cases h with
  | lastElement h => exact h.not_space_of_element hspace (by decide) (by decide)
  | elements h => exact h.not_space_of_element hspace (by decide) (by decide)

theorem Spells.not_space_of_members {ms : List (String × Value)} {s r t : List Char}
    (h : Spells (.members ms) s r) : ¬ Space s ('}' :: t) := by
  have hmember : ∀ {name : String} {v : Value} {u : List Char},
      Spells (.member name v) s u → ¬ Space s ('}' :: t) := by
    intro name v u hm hspace
    cases hm with
    | member before =>
        have heq := before.unique_cons hspace (by decide) (by decide)
        exact absurd heq.1 (by decide)
  cases h with
  | lastMember h => exact hmember h
  | members h => exact hmember h

/-- What it means for a phrase to be the only one of its kind that a text begins with. -/
def Phrase.Only (s r : List Char) : Phrase → Prop
  | .value v => ∀ v' r', Spells (.value v') s r' → Stops r → Stops r' → v = v' ∧ r = r'
  | .element v => ∀ v' r', Spells (.element v') s r' → Ends r → Ends r' → v = v' ∧ r = r'
  | .elements vs => ∀ vs' r', Spells (.elements vs') s r' → vs = vs' ∧ r = r'
  | .member name v => ∀ name' v' r', Spells (.member name' v') s r' → Ends r → Ends r' →
      name = name' ∧ v = v' ∧ r = r'
  | .members ms => ∀ ms' r', Spells (.members ms') s r' → ms = ms' ∧ r = r'

theorem ends_cons {c : Char} {r : List Char} (hc : c ∈ [',', ']', '}']) : Ends (c :: r) := by
  intro d hd
  cases hd
  exact hc

/-! ### One lemma for each production -/

namespace Spells

variable {v : Value} {s r : List Char}

theorem number_cases {q : Rat} {t : List Char} (hn : Number q s t) (h : Spells (.value v) s r) :
    ∃ q', v = .number q' ∧ Number q' s r := by
  cases h with
  | number hn' => exact ⟨_, rfl, hn'⟩
  | _ => exact absurd hn (not_number (by decide))

theorem string_cases (h : Spells (.value v) ('"' :: s) r) :
    ∃ cs, v = .string (String.ofList cs) ∧ Letters cs s r := by
  cases h with
  | number hn => exact absurd hn (not_number (by decide))
  | string hl => exact ⟨_, rfl, hl⟩

theorem array_cases (h : Spells (.value v) ('[' :: s) r) :
    v = .array [] ∧ Space s (']' :: r) ∨ ∃ vs, v = .array vs ∧ Spells (.elements vs) s r := by
  cases h with
  | number hn => exact absurd hn (not_number (by decide))
  | emptyArray hs => exact .inl ⟨rfl, hs⟩
  | array h => exact .inr ⟨_, rfl, h⟩

theorem object_cases (h : Spells (.value v) ('{' :: s) r) :
    v = .object [] ∧ Space s ('}' :: r) ∨ ∃ ms, v = .object ms ∧ Spells (.members ms) s r := by
  cases h with
  | number hn => exact absurd hn (not_number (by decide))
  | emptyObject hs => exact .inl ⟨rfl, hs⟩
  | object h => exact .inr ⟨_, rfl, h⟩

end Spells

namespace Phrase.Only

variable {v v' : Value} {vs : List Value} {ms : List (String × Value)} {name name' : String}
variable {c c' : Char} {s t u w r r' : List Char}

theorem number {q : Rat} (hn : Number q s r) : (value (.number q)).Only s r := by
  intro v' r' h' hr hr'
  obtain ⟨q', rfl, hn'⟩ := h'.number_cases hn
  obtain ⟨rfl, rfl⟩ := hn.unique hn' hr hr'
  exact ⟨rfl, rfl⟩

theorem string {cs : List Char} (hl : Letters cs s r) :
    (value (.string (String.ofList cs))).Only ('"' :: s) r := by
  intro v' r' h' _ _
  obtain ⟨cs', rfl, hl'⟩ := h'.string_cases
  obtain ⟨rfl, rfl⟩ := hl.unique hl'
  exact ⟨rfl, rfl⟩

theorem emptyArray (hs : Space s (']' :: r)) : (value (.array [])).Only ('[' :: s) r := by
  intro v' r' h' _ _
  rcases h'.array_cases with ⟨rfl, hs'⟩ | ⟨vs, -, h'⟩
  · exact ⟨rfl, (hs.unique_cons hs' (by decide) (by decide)).2⟩
  · exact absurd hs h'.not_space_of_elements

theorem array (h : Spells (.elements vs) s r) (only : (elements vs).Only s r) :
    (value (.array vs)).Only ('[' :: s) r := by
  intro v' r' h' _ _
  rcases h'.array_cases with ⟨-, hs⟩ | ⟨vs', rfl, hmore⟩
  · exact absurd hs h.not_space_of_elements
  · obtain ⟨rfl, rfl⟩ := only _ _ hmore
    exact ⟨rfl, rfl⟩

theorem emptyObject (hs : Space s ('}' :: r)) : (value (.object [])).Only ('{' :: s) r := by
  intro v' r' h' _ _
  rcases h'.object_cases with ⟨rfl, hs'⟩ | ⟨ms, -, h'⟩
  · exact ⟨rfl, (hs.unique_cons hs' (by decide) (by decide)).2⟩
  · exact absurd hs h'.not_space_of_members

theorem object (h : Spells (.members ms) s r) (only : (members ms).Only s r) :
    (value (.object ms)).Only ('{' :: s) r := by
  intro v' r' h' _ _
  rcases h'.object_cases with ⟨-, hs⟩ | ⟨ms', rfl, hmore⟩
  · exact absurd hs h.not_space_of_members
  · obtain ⟨rfl, rfl⟩ := only _ _ hmore
    exact ⟨rfl, rfl⟩

theorem element (before : Space s t) (h : Spells (.value v) t u) (after : Space u r)
    (only : (value v).Only t u) : (element v).Only s r := by
  intro v' r' h' hr hr'
  cases h' with
  | element before' h' after' =>
      -- Both values begin at the first character that is no blank.
      obtain ⟨c, x, rfl, hc, -⟩ := h.exists_cons
      obtain ⟨c', x', rfl, hc', -⟩ := h'.exists_cons
      obtain ⟨rfl, rfl⟩ := before.unique_cons before' hc hc'
      obtain ⟨rfl, rfl⟩ := only _ _ h' (hr.stops after) (hr'.stops after')
      exact ⟨rfl, after.unique after' hr.notMem_blanks hr'.notMem_blanks⟩

/-- What stands behind an element is determined with it. -/
theorem element_cons (only : (Phrase.element v).Only s (c :: r))
    (h' : Spells (.element v') s (c' :: r')) (hc : c ∈ [',', ']', '}'])
    (hc' : c' ∈ [',', ']', '}']) : v = v' ∧ c = c' ∧ r = r' := by
  obtain ⟨hv, heq⟩ := only _ _ h' (ends_cons hc) (ends_cons hc')
  exact ⟨hv, List.cons.inj heq⟩

theorem lastElement (only : (Phrase.element v).Only s (']' :: r)) : (elements [v]).Only s r := by
  intro vs' r' h'
  cases h' with
  | lastElement h' =>
      obtain ⟨rfl, -, rfl⟩ := only.element_cons h' (by decide) (by decide)
      exact ⟨rfl, rfl⟩
  | elements h' =>
      obtain ⟨-, heq, -⟩ := only.element_cons h' (by decide) (by decide)
      exact absurd heq (by decide)

theorem elements (only : (Phrase.element v).Only s (',' :: t))
    (more : (Phrase.elements vs).Only t r) : (Phrase.elements (v :: vs)).Only s r := by
  intro vs' r' h'
  cases h' with
  | lastElement h' =>
      obtain ⟨-, heq, -⟩ := only.element_cons h' (by decide) (by decide)
      exact absurd heq (by decide)
  | elements h' more' =>
      obtain ⟨rfl, -, rfl⟩ := only.element_cons h' (by decide) (by decide)
      obtain ⟨rfl, rfl⟩ := more _ _ more'
      exact ⟨rfl, rfl⟩

theorem member {cs : List Char} (before : Space s ('"' :: t)) (letters : Letters cs t u)
    (after : Space u (':' :: w)) (only : (Phrase.element v).Only w r) :
    (member (String.ofList cs) v).Only s r := by
  intro name' v' r' h' hr hr'
  cases h' with
  | member before' letters' after' h' =>
      obtain ⟨-, rfl⟩ := before.unique_cons before' (by decide) (by decide)
      obtain ⟨rfl, rfl⟩ := letters.unique letters'
      obtain ⟨-, rfl⟩ := after.unique_cons after' (by decide) (by decide)
      obtain ⟨rfl, rfl⟩ := only _ _ h' hr hr'
      exact ⟨rfl, rfl, rfl⟩

theorem member_cons (only : (Phrase.member name v).Only s (c :: r))
    (h' : Spells (.member name' v') s (c' :: r')) (hc : c ∈ [',', ']', '}'])
    (hc' : c' ∈ [',', ']', '}']) : (name, v) = (name', v') ∧ c = c' ∧ r = r' := by
  obtain ⟨rfl, rfl, heq⟩ := only _ _ _ h' (ends_cons hc) (ends_cons hc')
  exact ⟨rfl, List.cons.inj heq⟩

theorem lastMember (only : (Phrase.member name v).Only s ('}' :: r)) :
    (members [(name, v)]).Only s r := by
  intro ms' r' h'
  cases h' with
  | lastMember h' =>
      obtain ⟨heq, -, rfl⟩ := only.member_cons h' (by decide) (by decide)
      exact ⟨by rw [heq], rfl⟩
  | members h' =>
      obtain ⟨-, heq, -⟩ := only.member_cons h' (by decide) (by decide)
      exact absurd heq (by decide)

theorem members (only : (Phrase.member name v).Only s (',' :: t))
    (more : (Phrase.members ms).Only t r) : (Phrase.members ((name, v) :: ms)).Only s r := by
  intro ms' r' h'
  cases h' with
  | lastMember h' =>
      obtain ⟨-, heq, -⟩ := only.member_cons h' (by decide) (by decide)
      exact absurd heq (by decide)
  | members h' more' =>
      obtain ⟨heq, -, rfl⟩ := only.member_cons h' (by decide) (by decide)
      obtain ⟨rfl, rfl⟩ := more _ _ more'
      exact ⟨by rw [heq], rfl⟩

end Phrase.Only

theorem Spells.only {p : Phrase} {s r : List Char} (h : Spells p s r) : p.Only s r := by
  induction h with
  | null | yes | no =>
      intro v' r' h' _ _
      cases h' with
      | number hn => exact absurd hn (not_number (by decide))
      | _ => exact ⟨rfl, rfl⟩
  | number hn => exact .number hn
  | string letters => exact .string letters
  | emptyArray hs => exact .emptyArray hs
  | array h ih => exact .array h ih
  | emptyObject hs => exact .emptyObject hs
  | object h ih => exact .object h ih
  | element before h after ih => exact .element before h after ih
  | lastElement _ ih => exact .lastElement ih
  | elements _ _ ih ihmore => exact .elements ih ihmore
  | member before letters after _ ih => exact .member before letters after ih
  | lastMember _ ih => exact .lastMember ih
  | members _ _ ih ihmore => exact .members ih ihmore

theorem Denotes.unique {s : List Char} {v v' : Value} (h : Denotes s v) (h' : Denotes s v') :
    v = v' :=
  (h.only _ _ h' (by simp [Ends]) (by simp [Ends])).1

end FenceCheck.Json
