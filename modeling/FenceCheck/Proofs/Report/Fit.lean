import FenceCheck.Proofs.Report.Role
import FenceCheck.Proofs.Report.Written

namespace FenceCheck

/-!
# What the grammars of lines say

Here the grammars are stated without a search. A line with a remark is cut at the last of
its parentheses that opens a header of the kind in question, and nothing but the line
number behind that parenthesis can still make the grammar fail. A fatal error is cut at the
first parenthesis, whatever it is. On a line without line feeds each grammar reads
exactly what is said here, and a line gets the first kind that fits it.
-/

namespace ReportLine

/-! ## Places, codes and introductions -/

/-- The digits of a place as they stand between its parentheses. Without a comma, all of them
belong to the line. -/
structure Place.Spells (p : Place) (inner : List Char) : Prop where
  line_ne_nil : p.line ≠ []
  isDigit_line : ∀ c ∈ p.line, c.isDigit = true
  isDigit_column : ∀ c ∈ p.column, c.isDigit = true
  inner_eq : inner = p.line ∧ p.column = [] ∨ inner = p.line ++ ',' :: p.column

theorem Place.Spells.notMem {p : Place} {inner : List Char} (h : p.Spells inner) {c : Char}
    (hdigit : c.isDigit = false) (hcomma : c ≠ ',') : c ∉ inner := by
  have hline : c ∉ p.line := fun hm => by simp [h.isDigit_line c hm] at hdigit
  have hcolumn : c ∉ p.column := fun hm => by simp [h.isDigit_column c hm] at hdigit
  rcases h.inner_eq with ⟨rfl, -⟩ | rfl
  · exact hline
  · simp [hline, hcolumn, hcomma]

theorem place?_of_spells {p : Place} {inner : List Char} (h : p.Spells inner)
    (rest : List Char) : place? (inner ++ ')' :: rest) = some (p, rest) := by
  obtain ⟨line, column⟩ := p
  rcases h.inner_eq with ⟨rfl, hcolumn⟩ | rfl
  · rw [place?_line h.line_ne_nil h.isDigit_line]
    simpa using hcolumn.symm
  · exact place?_line_column h.line_ne_nil h.isDigit_line h.isDigit_column rest

theorem place?_eq_some_iff {s rest : List Char} {p : Place} :
    place? s = some (p, rest) ↔ ∃ inner, p.Spells inner ∧ s = inner ++ ')' :: rest := by
  constructor
  · intro h
    obtain ⟨inner, hinner, rfl⟩ := writtenPlace_of_place? h
    refine ⟨inner, ?_, rfl⟩
    obtain ⟨line, comma, column, rfl, hne, hline, hkind, hcolumn⟩ := hinner.exists_eq
    rcases hkind with rfl | rfl
    · have hdigits : ∀ c ∈ line ++ column, c.isDigit = true := by
        intro c hc
        rcases List.mem_append.1 hc with hc | hc
        · exact hline c hc
        · exact hcolumn c hc
      have hspells : Place.Spells ⟨line ++ column, []⟩ (line ++ column) :=
        ⟨by simp [hne], hdigits, by simp, .inl ⟨rfl, rfl⟩⟩
      rw [List.append_nil, place?_of_spells hspells] at h
      obtain ⟨rfl, -⟩ := Prod.mk.inj (Option.some.inj h)
      simpa using hspells
    · have hspells : Place.Spells ⟨line, column⟩ (line ++ [','] ++ column) :=
        ⟨hne, hline, hcolumn, .inr (by simp)⟩
      rw [place?_of_spells hspells] at h
      obtain ⟨rfl, -⟩ := Prod.mk.inj (Option.some.inj h)
      exact hspells
  · rintro ⟨inner, hinner, rfl⟩
    exact place?_of_spells hinner rest

/-- The introduction of a remark with a code, such as `: error C2065: `. -/
def coded (kind code : String) : List Char :=
  (": " ++ kind ++ " C" ++ code ++ ": ").toList

theorem afterCode?_eq_some_iff {s rest : List Char} :
    afterCode? s = some rest ↔
      ∃ code : String, IsCode code ∧ s = code.toList ++ ": ".toList ++ rest := by
  constructor
  · intro h
    unfold afterCode? at h
    split at h
    · next hlength =>
        refine ⟨String.ofList (s.takeWhile Char.isDigit), ⟨?_, ?_⟩, ?_⟩
        · simpa using hlength
        · simpa using mem_takeWhile_isDigit
        · rw [String.toList_ofList, List.append_assoc, ← Text.after?_eq_some_iff.1 h,
            List.takeWhile_append_dropWhile]
    · cases h
  · rintro ⟨code, hcode, rfl⟩
    exact afterCode?_code hcode rest

theorem afterCoded?_eq_some_iff {kind : String} {s rest : List Char} :
    afterCoded? kind s = some rest ↔ ∃ code, IsCode code ∧ s = coded kind code ++ rest := by
  constructor
  · intro h
    obtain ⟨more, hmore, hrest⟩ := Option.bind_eq_some_iff.1 h
    obtain ⟨code, hcode, rfl⟩ := afterCode?_eq_some_iff.1 hrest
    refine ⟨code, hcode, ?_⟩
    rw [Text.after?_eq_some_iff.1 hmore]
    simp [coded]
  · rintro ⟨code, hcode, rfl⟩
    exact afterCoded?_coded hcode kind rest

/-! ## Headers -/

/-- The kinds of lines that have a place and a remark. -/
inductive Kind
  | error
  | warning
  | note
  | other
  deriving DecidableEq

namespace Kind

def remark? : Kind → List Char → Option Remark
  | error => codedRemark? "error"
  | warning => codedRemark? "warning"
  | note => noteRemark?
  | other => otherRemark?

/-- What stands between a place and its message, and the category that it names. -/
def Introduces : Kind → (introduction category : List Char) → Prop
  | error, introduction, category =>
      category = [] ∧ ∃ code, IsCode code ∧ introduction = coded "error" code
  | warning, introduction, category =>
      category = [] ∧ ∃ code, IsCode code ∧ introduction = coded "warning" code
  | note, introduction, category => category = [] ∧ introduction = ": note: ".toList
  | other, introduction, category =>
      ':' ∉ category ∧ introduction = ": ".toList ++ category ++ ": ".toList

/-- What a parenthesis of the kind opens. -/
def Header (k : Kind) (p : Place) (remark : Remark) (s : List Char) : Prop :=
  ∃ inner introduction, p.Spells inner ∧ k.Introduces introduction remark.category ∧
    s = inner ++ ')' :: (introduction ++ remark.message)

theorem spaced_remark? (k : Kind) : Spaced k.remark? := by
  cases k with
  | error => exact spaced_codedRemark? "error"
  | warning => exact spaced_codedRemark? "warning"
  | note => exact spaced_noteRemark?
  | other =>
      intro s remark h
      obtain ⟨rest, hrest, -⟩ := Option.bind_eq_some_iff.1 h
      exact ⟨rest, Text.after?_eq_some_iff.1 hrest⟩

theorem codedRemark?_eq_some_iff {kind : String} {s : List Char} (hs : '\n' ∉ s)
    {remark : Remark} :
    codedRemark? kind s = some remark ↔
      remark.category = [] ∧ ∃ code, IsCode code ∧ s = coded kind code ++ remark.message := by
  obtain ⟨category, message⟩ := remark
  simp only [codedRemark?, Option.map_eq_some_iff, afterCoded?_eq_some_iff, Remark.mk.injEq]
  constructor
  · rintro ⟨rest, ⟨code, hcode, rfl⟩, rfl, rfl⟩
    have hrest : '\n' ∉ rest := fun hm => hs (by simp [hm])
    exact ⟨rfl, code, hcode, by rw [messageLine_of_newline_notMem hrest]⟩
  · rintro ⟨rfl, code, hcode, rfl⟩
    have hmessage : '\n' ∉ message := fun hm => hs (by simp [hm])
    exact ⟨message, ⟨code, hcode, rfl⟩, rfl, messageLine_of_newline_notMem hmessage⟩

theorem noteRemark?_eq_some_iff {s : List Char} (hs : '\n' ∉ s) {remark : Remark} :
    noteRemark? s = some remark ↔
      remark.category = [] ∧ s = ": note: ".toList ++ remark.message := by
  obtain ⟨category, message⟩ := remark
  simp only [noteRemark?, Option.map_eq_some_iff, Text.after?_eq_some_iff, Remark.mk.injEq]
  constructor
  · rintro ⟨rest, rfl, rfl, rfl⟩
    have hrest : '\n' ∉ rest := fun hm => hs (by simp [hm])
    exact ⟨rfl, by rw [messageLine_of_newline_notMem hrest]⟩
  · rintro ⟨rfl, rfl⟩
    have hmessage : '\n' ∉ message := fun hm => hs (by simp [hm])
    exact ⟨message, rfl, rfl, messageLine_of_newline_notMem hmessage⟩

theorem otherRemark?_eq_some_iff {s : List Char} (hs : '\n' ∉ s) {remark : Remark} :
    otherRemark? s = some remark ↔
      ':' ∉ remark.category ∧
        s = ": ".toList ++ remark.category ++ ": ".toList ++ remark.message := by
  obtain ⟨category, message⟩ := remark
  constructor
  · intro h
    obtain ⟨rest, hrest, hm⟩ := Option.bind_eq_some_iff.1 h
    obtain ⟨said, hsaid, heq⟩ := Option.map_eq_some_iff.1 hm
    obtain ⟨rfl, rfl⟩ := Remark.mk.inj heq
    have htext : rest = rest.takeWhile (· != ':') ++ (": ".toList ++ said) := by
      rw [← Text.after?_eq_some_iff.1 hsaid, List.takeWhile_append_dropWhile]
    have hcolon : ':' ∉ rest.takeWhile (· != ':') := fun hin => by
      simpa using List.all_eq_true.1 (List.all_takeWhile (p := (· != ':')) (l := rest)) _ hin
    have hline : '\n' ∉ said := by
      intro hin
      apply hs
      rw [Text.after?_eq_some_iff.1 hrest, htext]
      simp [hin]
    refine ⟨hcolon, ?_⟩
    rw [messageLine_of_newline_notMem hline, Text.after?_eq_some_iff.1 hrest]
    simpa using htext
  · rintro ⟨hcolon, rfl⟩
    have hline : '\n' ∉ message := fun hin => hs (by simp [hin])
    have htake := Text.takeWhile_append_cons (' ' :: message) (Text.bne_of_notMem hcolon)
      (show (':' != ':') = false from rfl)
    have hdrop := Text.dropWhile_append_cons (' ' :: message) (Text.bne_of_notMem hcolon)
      (show (':' != ':') = false from rfl)
    have htext : ": ".toList ++ category ++ ": ".toList ++ message =
        ": ".toList ++ (category ++ ':' :: ' ' :: message) := by simp
    have hafter : Text.after? ": ".toList (':' :: ' ' :: message) = some message :=
      Text.after?_append ": ".toList message
    rw [otherRemark?, htext, Text.after?_append, Option.bind_some, htake, hdrop, hafter,
      Option.map_some, messageLine_of_newline_notMem hline]

theorem remark?_eq_some_iff (k : Kind) {s : List Char} (hs : '\n' ∉ s) {remark : Remark} :
    k.remark? s = some remark ↔
      ∃ introduction, k.Introduces introduction remark.category ∧
        s = introduction ++ remark.message := by
  cases k with
  | error =>
      rw [remark?, codedRemark?_eq_some_iff hs]
      constructor
      · rintro ⟨hc, code, hcode, rfl⟩
        exact ⟨_, ⟨hc, code, hcode, rfl⟩, rfl⟩
      · rintro ⟨_, ⟨hc, code, hcode, rfl⟩, rfl⟩
        exact ⟨hc, code, hcode, rfl⟩
  | warning =>
      rw [remark?, codedRemark?_eq_some_iff hs]
      constructor
      · rintro ⟨hc, code, hcode, rfl⟩
        exact ⟨_, ⟨hc, code, hcode, rfl⟩, rfl⟩
      · rintro ⟨_, ⟨hc, code, hcode, rfl⟩, rfl⟩
        exact ⟨hc, code, hcode, rfl⟩
  | note =>
      rw [remark?, noteRemark?_eq_some_iff hs]
      constructor
      · rintro ⟨hc, rfl⟩
        exact ⟨_, ⟨hc, rfl⟩, rfl⟩
      · rintro ⟨_, ⟨hc, rfl⟩, rfl⟩
        exact ⟨hc, rfl⟩
  | other =>
      rw [remark?, otherRemark?_eq_some_iff hs]
      constructor
      · rintro ⟨hc, rfl⟩
        exact ⟨_, ⟨hc, rfl⟩, rfl⟩
      · rintro ⟨_, ⟨hc, rfl⟩, rfl⟩
        exact ⟨hc, rfl⟩

theorem header?_eq_some_iff (k : Kind) {s : List Char} (hs : '\n' ∉ s) {p : Place}
    {remark : Remark} :
    header? k.remark? s = some (p, remark) ↔ k.Header p remark s := by
  constructor
  · intro h
    obtain ⟨⟨q, rest⟩, hplace, hm⟩ := Option.bind_eq_some_iff.1 h
    obtain ⟨said, hsaid, heq⟩ := Option.map_eq_some_iff.1 hm
    obtain ⟨rfl, rfl⟩ := Prod.mk.inj heq
    obtain ⟨inner, hinner, rfl⟩ := place?_eq_some_iff.1 hplace
    have hrest : '\n' ∉ rest := fun hin => hs (by simp [hin])
    obtain ⟨introduction, hi, rfl⟩ := (k.remark?_eq_some_iff hrest).1 hsaid
    exact ⟨inner, introduction, hinner, hi, rfl⟩
  · rintro ⟨inner, introduction, hinner, hi, rfl⟩
    have hrest : '\n' ∉ introduction ++ remark.message := fun hin =>
      hs (List.mem_append_right _ (List.mem_cons_of_mem _ hin))
    have hremark := (k.remark?_eq_some_iff hrest).2 ⟨introduction, hi, rfl⟩
    simp [header?, place?_of_spells hinner, hremark]

end Kind

section Search

variable {β : Type} {head? : List Char → Option β}

theorem eq_append_of_atLastParenthesis? {s before : List Char} {b : β} (hs : '\n' ∉ s)
    (h : atLastParenthesis? head? s = some (before, b)) :
    ∃ tail, s = before ++ '(' :: tail ∧ head? tail = some b := by
  induction s generalizing before with
  | nil => cases h
  | cons c s ih =>
      have hc : c ≠ '\n' := fun hn => hs (by simp [hn])
      rw [atLastParenthesis?, if_neg hc] at h
      split at h
      · next found hfound =>
          obtain ⟨rfl, rfl⟩ := Prod.mk.inj (Option.some.inj h)
          obtain ⟨tail, rfl, hb⟩ := ih (fun hm => hs (by simp [hm])) hfound
          exact ⟨tail, rfl, hb⟩
      · split at h
        · next hp =>
            obtain ⟨b', hb, heq⟩ := Option.map_eq_some_iff.1 h
            obtain ⟨rfl, rfl⟩ := Prod.mk.inj heq
            exact ⟨s, by rw [hp]; rfl, hb⟩
        · cases h

theorem exists_atLastParenthesis? {u v : List Char} {b : β} (hu : '\n' ∉ u)
    (hb : head? v = some b) :
    ∃ before b', atLastParenthesis? head? (u ++ '(' :: v) = some (before, b') ∧
      u.length ≤ before.length := by
  induction u with
  | nil =>
      cases hv : atLastParenthesis? head? v with
      | none => exact ⟨[], b, atLastParenthesis?_eq_some (by simp) hv hb, by simp⟩
      | some found => exact ⟨'(' :: found.1, found.2, by simp [atLastParenthesis?, hv], by simp⟩
  | cons c u ih =>
      have hc : c ≠ '\n' := fun hn => hu (by simp [hn])
      obtain ⟨before, b', hfound, hle⟩ := ih fun hm => hu (by simp [hm])
      exact ⟨c :: before, b', by simp [atLastParenthesis?, hc, hfound], by simpa using hle⟩

theorem atLastParenthesis?_eq_some_iff {s before : List Char} {b : β} (hs : '\n' ∉ s) :
    atLastParenthesis? head? s = some (before, b) ↔
      ∃ tail, s = before ++ '(' :: tail ∧ head? tail = some b ∧
        ∀ u v, s = u ++ '(' :: v → (head? v).isSome = true → u.length ≤ before.length := by
  constructor
  · intro h
    obtain ⟨tail, htail, hb⟩ := eq_append_of_atLastParenthesis? hs h
    refine ⟨tail, htail, hb, ?_⟩
    rintro u v rfl hv
    obtain ⟨x, hx⟩ := Option.isSome_iff_exists.1 hv
    obtain ⟨before', b', hfound, hle⟩ := exists_atLastParenthesis? (u := u)
      (fun hm => hs (by simp [hm])) hx
    rw [hfound] at h
    obtain ⟨rfl, -⟩ := Prod.mk.inj (Option.some.inj h)
    exact hle
  · rintro ⟨tail, rfl, hb, hlast⟩
    obtain ⟨before', b', hfound, hle⟩ := exists_atLastParenthesis? (u := before)
      (fun hm => hs (by simp [hm])) hb
    obtain ⟨tail', heq, hb'⟩ := eq_append_of_atLastParenthesis? hs hfound
    -- Nothing is found behind the last parenthesis, so both cuts are at the same place.
    have hge := hlast before' tail' heq (by simp [hb'])
    obtain ⟨rfl, htail⟩ := List.append_inj heq (Nat.le_antisymm hle hge)
    obtain ⟨-, rfl⟩ := List.cons.inj htail
    rw [hb] at hb'
    rw [hfound, Option.some.inj hb']

end Search

/-! ## Locations -/

/-- The numbers of a location, read from the digits of its place. -/
structure Place.Locates (p : Place) (l : Location) : Prop where
  line_eq : l.line = Text.digitsValue p.line
  line_lt : Text.digitsValue p.line < Text.word64Bound
  column_eq : l.column =
    if p.column = [] ∨ Text.word64Bound ≤ Text.digitsValue p.column then none
    else some (Text.digitsValue p.column)

theorem word64?_eq_ite (digits : List Char) :
    Text.word64? digits =
      if digits = [] ∨ Text.word64Bound ≤ Text.digitsValue digits then none
      else some (Text.digitsValue digits) := by
  unfold Text.word64?
  by_cases hne : digits = []
  · simp [hne]
  · by_cases hlt : Text.digitsValue digits < Text.word64Bound
    · simp [hne, hlt, Nat.not_le.2 hlt]
    · simp [hne, hlt, Nat.not_lt.1 hlt]

theorem location?_eq_some_iff {file : List Char} {p : Place} {l : Location} (hp : p.line ≠ []) :
    location? file p = some l ↔ file = l.file.toList ∧ p.Locates l := by
  obtain ⟨name, line, column⟩ := l
  simp only [location?, Option.map_eq_some_iff, Text.word64?_eq_some_iff, Location.mk.injEq]
  constructor
  · rintro ⟨n, ⟨-, rfl, hlt⟩, rfl, rfl, rfl⟩
    exact ⟨by simp, rfl, hlt, word64?_eq_ite p.column⟩
  · rintro ⟨rfl, hline, hlt, hcolumn⟩
    refine ⟨Text.digitsValue p.line, ⟨hp, rfl, hlt⟩, by simp, hline.symm, ?_⟩
    exact (word64?_eq_ite p.column).trans hcolumn.symm

/-! ## Lines with a remark -/

/-- A line that is cut at its last parenthesis that opens a header of the kind. -/
def Kind.Remarked (k : Kind) (s : List Char) (l : Location) (remark : Remark) : Prop :=
  ∃ p tail, s = l.file.toList ++ '(' :: tail ∧ k.Header p remark tail ∧ p.Locates l ∧
    ∀ u v, s = u ++ '(' :: v → (∃ q said, k.Header q said v) → u.length ≤ l.file.toList.length

theorem Kind.remarked?_eq_some_iff (k : Kind) {s : List Char} (hs : '\n' ∉ s)
    {make : Location → List Char → List Char → ReportLine} {r : ReportLine} :
    remarked? k.remark? make s = some r ↔
      ∃ l remark, k.Remarked s l remark ∧ make l remark.category remark.message = r := by
  have hheader {u v : List Char} (huv : s = u ++ '(' :: v) {p : Place} {remark : Remark} :
      header? k.remark? v = some (p, remark) ↔ k.Header p remark v :=
    k.header?_eq_some_iff fun hm => hs (by simp [huv, hm])
  simp only [remarked?, findPlace?_of_newline_notMem hs, Option.bind_eq_some_iff,
    Option.map_eq_some_iff]
  constructor
  · rintro ⟨⟨file, p, remark⟩, hfound, l, hl, rfl⟩
    obtain ⟨tail, htail, hhead, hlast⟩ := (atLastParenthesis?_eq_some_iff hs).1 hfound
    have hspells := (hheader htail).1 hhead
    obtain ⟨inner, -, hinner, -⟩ := id hspells
    obtain ⟨rfl, hlocates⟩ := (location?_eq_some_iff hinner.line_ne_nil).1 hl
    refine ⟨l, remark, ⟨p, tail, htail, hspells, hlocates, ?_⟩, rfl⟩
    rintro u v huv ⟨q, said, hq⟩
    exact hlast u v huv (by rw [(hheader huv).2 hq]; rfl)
  · rintro ⟨l, remark, ⟨p, tail, htail, hspells, hlocates, hlast⟩, rfl⟩
    obtain ⟨inner, -, hinner, -⟩ := id hspells
    refine ⟨(l.file.toList, p, remark), ?_, l,
      (location?_eq_some_iff hinner.line_ne_nil).2 ⟨rfl, hlocates⟩, rfl⟩
    refine (atLastParenthesis?_eq_some_iff hs).2 ⟨tail, htail, (hheader htail).2 hspells, ?_⟩
    intro u v huv hv
    obtain ⟨⟨q, said⟩, hq⟩ := Option.isSome_iff_exists.1 hv
    exact hlast u v huv ⟨q, said, (hheader huv).1 hq⟩

/-! ## Fatal errors -/

/-- A line whose first parenthesis opens a place with a fatal error behind it. -/
def FatalAt (s file : List Char) (p : Place) : Prop :=
  (∀ c ∈ file, isParenthesis c = false) ∧
    ∃ inner blank code message, p.Spells inner ∧ (blank = [] ∨ blank = [' ']) ∧ IsCode code ∧
      s = file ++ '(' :: (inner ++ ')' :: (blank ++ coded "fatal error" code ++ message))

/-- A fatal error that is introduced in front of any parenthesis. -/
def FatalAhead (s : List Char) : Prop :=
  ∃ before code message, (∀ c ∈ before, isParenthesis c = false) ∧ IsCode code ∧
    s = before ++ coded "fatal error" code ++ message

theorem isSome_afterCoded?_iff {kind : String} {s : List Char} :
    (afterCoded? kind s).isSome = true ↔
      ∃ code rest, IsCode code ∧ s = coded kind code ++ rest := by
  simp only [Option.isSome_iff_exists, afterCoded?_eq_some_iff]
  constructor
  · rintro ⟨rest, code, h⟩
    exact ⟨code, rest, h⟩
  · rintro ⟨code, rest, h⟩
    exact ⟨rest, code, h⟩

theorem mentionsFatal_iff {s : List Char} :
    mentionsFatal s = true ↔
      ∃ before code rest, IsCode code ∧ s = before ++ coded "fatal error" code ++ rest := by
  induction s with
  | nil => simp [mentionsFatal, coded]
  | cons c s ih =>
      rw [mentionsFatal, Bool.or_eq_true, isSome_afterCoded?_iff, ih]
      constructor
      · rintro (⟨code, rest, hcode, h⟩ | ⟨before, code, rest, hcode, rfl⟩)
        · exact ⟨[], code, rest, hcode, h⟩
        · exact ⟨c :: before, code, rest, hcode, rfl⟩
      · rintro ⟨before, code, rest, hcode, h⟩
        cases before with
        | nil => exact .inl ⟨code, rest, hcode, h⟩
        | cons d before =>
            obtain ⟨rfl, hs⟩ := List.cons.inj h
            exact .inr ⟨before, code, rest, hcode, hs⟩

theorem not_isParenthesis_coded {code : String} (h : IsCode code) :
    ∀ c ∈ coded "fatal error" code, isParenthesis c = false := by
  have hsplit : coded "fatal error" code =
      ": fatal error C".toList ++ (code.toList ++ ": ".toList) := by simp [coded]
  have hstart : ∀ c ∈ ": fatal error C".toList, isParenthesis c = false := by
    simp [isParenthesis]
  have hend : ∀ c ∈ ": ".toList, isParenthesis c = false := by simp [isParenthesis]
  intro c hc
  rw [hsplit] at hc
  rcases List.mem_append.1 hc with hc | hc
  · exact hstart c hc
  · rcases List.mem_append.1 hc with hc | hc
    · have hdigit := h.isDigit c hc
      cases hp : isParenthesis c with
      | false => rfl
      | true =>
          simp only [isParenthesis, Bool.or_eq_true, beq_iff_eq] at hp
          rcases hp with rfl | rfl <;> cases hdigit
    · exact hend c hc

theorem mentionsFatal_takeWhile_iff {s : List Char} :
    mentionsFatal (s.takeWhile (!isParenthesis ·)) = true ↔ FatalAhead s := by
  rw [mentionsFatal_iff]
  constructor
  · rintro ⟨before, code, rest, hcode, h⟩
    have hs : s = before ++ coded "fatal error" code ++
        (rest ++ s.dropWhile (!isParenthesis ·)) := by
      rw [← List.append_assoc, ← h, List.takeWhile_append_dropWhile]
    refine ⟨before, code, _, ?_, hcode, hs⟩
    intro c hc
    have hall := List.all_eq_true.1 (List.all_takeWhile (p := (!isParenthesis ·)) (l := s)) c
      (by rw [h]; simp [hc])
    simpa using hall
  · rintro ⟨before, code, message, hbefore, hcode, rfl⟩
    refine ⟨before, code, message.takeWhile (!isParenthesis ·), hcode, ?_⟩
    apply List.takeWhile_append_of_pos
    intro c hc
    rcases List.mem_append.1 hc with hc | hc
    · simp [hbefore c hc]
    · simp [not_isParenthesis_coded hcode c hc]

theorem dropSpace_append_coded {blank : List Char} (h : blank = [] ∨ blank = [' '])
    (kind code : String) (rest : List Char) :
    dropSpace (blank ++ coded kind code ++ rest) = coded kind code ++ rest := by
  have hstart : coded kind code ++ rest =
      ':' :: ((" " ++ kind ++ " C" ++ code ++ ": ").toList ++ rest) := by
    simp [coded]
  rw [List.append_assoc, hstart]
  rcases h with rfl | rfl <;> rfl

theorem FatalAt.takeWhile {s file : List Char} {p : Place} (h : FatalAt s file p) :
    s.takeWhile (!isParenthesis ·) = file := by
  obtain ⟨hfile, inner, blank, code, message, -, -, -, rfl⟩ := h
  exact Text.takeWhile_append_cons _ (by simpa using hfile) rfl

theorem fatalPlace?_eq_some_iff {s : List Char} {p : Place} :
    fatalPlace? s = some p ↔ ∃ file, FatalAt s file p := by
  constructor
  · intro h
    unfold fatalPlace? at h
    split at h
    · next tail htail =>
        obtain ⟨⟨q, rest⟩, hplace, hfatal⟩ := Option.bind_eq_some_iff.1 h
        split at hfatal
        · next hcoded =>
            obtain rfl := Option.some.inj hfatal
            obtain ⟨inner, hinner, rfl⟩ := place?_eq_some_iff.1 hplace
            obtain ⟨code, message, hcode, hmessage⟩ := isSome_afterCoded?_iff.1 hcoded
            obtain ⟨blank, hblank, hkind⟩ := eq_dropSpace rest
            refine ⟨s.takeWhile (!isParenthesis ·), ?_, inner, blank, code, message, hinner, hkind,
              hcode, ?_⟩
            · simpa using List.all_eq_true.1
                (List.all_takeWhile (p := (!isParenthesis ·)) (l := s))
            · rw [List.append_assoc blank, ← hmessage, ← hblank, ← htail,
                List.takeWhile_append_dropWhile]
        · cases hfatal
    · cases h
  · rintro ⟨file, hfile, inner, blank, code, message, hinner, hblank, hcode, rfl⟩
    have hdrop := Text.dropWhile_append_cons (p := (!isParenthesis ·)) (c := '(')
      (inner ++ ')' :: (blank ++ coded "fatal error" code ++ message)) (by simpa using hfile) rfl
    have hcoded : (afterCoded? "fatal error" (coded "fatal error" code ++ message)).isSome = true :=
      isSome_afterCoded?_iff.2 ⟨code, message, hcode, rfl⟩
    rw [fatalPlace?, hdrop]
    simp [place?_of_spells hinner, -List.append_assoc, dropSpace_append_coded hblank, hcoded]

theorem fatal?_eq_some_iff {s : List Char} {r : ReportLine} :
    fatal? s = some r ↔
      (∃ l p, FatalAt s l.file.toList p ∧ p.Locates l ∧
        r = .fatal (some l) (String.ofList s)) ∨
      ((∀ file p, ¬ FatalAt s file p) ∧ FatalAhead s ∧ r = .fatal none (String.ofList s)) := by
  simp only [fatal?]
  cases hplace : fatalPlace? s with
  | some p =>
      obtain ⟨file, hfile⟩ := fatalPlace?_eq_some_iff.1 hplace
      obtain ⟨-, inner, -, -, -, hinner, -⟩ := id hfile
      rw [hfile.takeWhile]
      constructor
      · intro h
        obtain ⟨l, hl, rfl⟩ := Option.map_eq_some_iff.1 h
        obtain ⟨rfl, hlocates⟩ := (location?_eq_some_iff hinner.line_ne_nil).1 hl
        exact .inl ⟨l, p, hfile, hlocates, rfl⟩
      · rintro (⟨l, q, hq, hlocates, rfl⟩ | ⟨hnot, -⟩)
        · have hsame : p = q := Option.some.inj
            (hplace.symm.trans (fatalPlace?_eq_some_iff.2 ⟨_, hq⟩))
          subst hsame
          apply Option.map_eq_some_iff.2
          refine ⟨l, (location?_eq_some_iff hinner.line_ne_nil).2 ⟨?_, hlocates⟩, rfl⟩
          rw [← hfile.takeWhile, hq.takeWhile]
        · exact (hnot file p hfile).elim
  | none =>
      have hnot (file : List Char) (p : Place) : ¬ FatalAt s file p := fun h => by
        rw [fatalPlace?_eq_some_iff.2 ⟨file, h⟩] at hplace
        cases hplace
      constructor
      · intro h
        dsimp only at h
        split at h
        · next hm => exact .inr ⟨hnot, mentionsFatal_takeWhile_iff.1 hm, (Option.some.inj h).symm⟩
        · cases h
      · rintro (⟨l, p, hp, -⟩ | ⟨-, hahead, rfl⟩)
        · exact (hnot _ p hp).elim
        · simp [mentionsFatal_takeWhile_iff.2 hahead]

/-! ## All grammars -/

/-- The line of a kind that is read at a location. A note keeps the whole line. -/
def Kind.line (s : List Char) (l : Location) (remark : Remark) : Kind → ReportLine
  | error => .error l (String.ofList remark.message)
  | warning => .warning l (String.ofList remark.message)
  | note => .note l (String.ofList remark.message) (String.ofList s)
  | other => .unknown l (String.ofList remark.category) (String.ofList remark.message)

/-- What the grammars say of a line. -/
inductive Fits (s : List Char) : ReportLine → Prop
  | remarked (k : Kind) {l : Location} {remark : Remark} (h : k.Remarked s l remark) :
      Fits s (k.line s l remark)
  | fatalAt {l : Location} {p : Place} (h : FatalAt s l.file.toList p) (hl : p.Locates l) :
      Fits s (.fatal (some l) (String.ofList s))
  | fatalAhead (hnot : ∀ file p, ¬ FatalAt s file p) (h : FatalAhead s) :
      Fits s (.fatal none (String.ofList s))

/-- The grammars, the first to try in front. -/
def grammars : List (List Char → Option ReportLine) :=
  [error?, fatal?, warning?, note?, unknown?]

/-- The place of a line's grammar among all of them. -/
def rank : ReportLine → Nat
  | error .. => 0
  | fatal .. => 1
  | warning .. => 2
  | note .. => 3
  | unknown .. => 4

theorem classify_eq_findSome? (line : String) :
    classify line = grammars.findSome? fun g => g line.toList := by
  simp only [classify, grammars, List.findSome?_cons, List.findSome?_nil]
  cases error? line.toList <;> cases fatal? line.toList <;> cases warning? line.toList <;>
    cases note? line.toList <;> cases unknown? line.toList <;> rfl

theorem exists_remarked_iff {k : Kind} {s : List Char} {r : ReportLine} {n : Nat}
    (hk : ∀ l remark, (k.line s l remark).rank = n) :
    (∃ l remark, k.Remarked s l remark ∧ k.line s l remark = r) ↔ Fits s r ∧ r.rank = n := by
  constructor
  · rintro ⟨l, remark, h, rfl⟩
    exact ⟨.remarked k h, hk l remark⟩
  · rintro ⟨h, hrank⟩
    cases h with
    | @remarked k' l remark h =>
        have hsame : k = k' := by
          have := (hk l remark).trans hrank.symm
          cases k <;> cases k' <;> first | rfl | cases this
        subst hsame
        exact ⟨l, remark, h, rfl⟩
    | @fatalAt l p h hl =>
        have := (hk l ⟨[], []⟩).trans hrank.symm
        cases k <;> cases this
    | fatalAhead hnot h =>
        have := (hk ⟨"", 0, none⟩ ⟨[], []⟩).trans hrank.symm
        cases k <;> cases this

theorem fatal?_eq_some_iff_fits {s : List Char} {r : ReportLine} :
    fatal? s = some r ↔ Fits s r ∧ r.rank = 1 := by
  rw [fatal?_eq_some_iff]
  constructor
  · rintro (⟨l, p, h, hl, rfl⟩ | ⟨hnot, h, rfl⟩)
    · exact ⟨.fatalAt h hl, rfl⟩
    · exact ⟨.fatalAhead hnot h, rfl⟩
  · rintro ⟨h, hrank⟩
    cases h with
    | remarked k h => cases k <;> cases hrank
    | fatalAt h hl => exact .inl ⟨_, _, h, hl, rfl⟩
    | fatalAhead hnot h => exact .inr ⟨hnot, h, rfl⟩

theorem grammar_eq_some_iff {s : List Char} (hs : '\n' ∉ s) {n : Nat}
    {g : List Char → Option ReportLine} (hg : grammars[n]? = some g) (r : ReportLine) :
    g s = some r ↔ Fits s r ∧ r.rank = n := by
  match n with
  | 0 =>
      obtain rfl := Option.some.inj hg
      exact (Kind.error.remarked?_eq_some_iff hs).trans (exists_remarked_iff fun _ _ => rfl)
  | 1 =>
      obtain rfl := Option.some.inj hg
      exact fatal?_eq_some_iff_fits
  | 2 =>
      obtain rfl := Option.some.inj hg
      exact (Kind.warning.remarked?_eq_some_iff hs).trans (exists_remarked_iff fun _ _ => rfl)
  | 3 =>
      obtain rfl := Option.some.inj hg
      exact (Kind.note.remarked?_eq_some_iff hs).trans (exists_remarked_iff fun _ _ => rfl)
  | 4 =>
      obtain rfl := Option.some.inj hg
      exact (Kind.other.remarked?_eq_some_iff hs).trans (exists_remarked_iff fun _ _ => rfl)
  | n + 5 => cases hg

theorem rank_lt (r : ReportLine) : r.rank < grammars.length := by
  cases r <;> simp [rank, grammars]

/-- The first of some grammars that reads anything, when each says what fits it by rank. -/
theorem findSome?_eq_some_iff_rank {gs : List (List Char → Option ReportLine)} {s : List Char}
    (hgs : ∀ (n : Nat) g, gs[n]? = some g → ∀ r, g s = some r ↔ Fits s r ∧ r.rank = n)
    (hrank : ∀ r : ReportLine, r.rank < gs.length) (r : ReportLine) :
    gs.findSome? (fun g => g s) = some r ↔ Fits s r ∧ ∀ r', Fits s r' → r.rank ≤ r'.rank := by
  rw [List.findSome?_eq_some_iff]
  constructor
  · rintro ⟨before, g, after, heq, hg, hnone⟩
    have hat : gs[before.length]? = some g := by simp [heq]
    obtain ⟨hfits, hr⟩ := (hgs _ g hat r).1 hg
    refine ⟨hfits, ?_⟩
    intro r' hr'
    apply Nat.le_of_not_lt
    intro hlt
    rw [hr] at hlt
    have hbefore : gs[r'.rank]? = some before[r'.rank] := by
      rw [heq, List.getElem?_append_left hlt, List.getElem?_eq_getElem hlt]
    have hread := (hgs _ _ hbefore r').2 ⟨hr', rfl⟩
    rw [hnone _ (List.getElem_mem hlt)] at hread
    cases hread
  · rintro ⟨hfits, hleast⟩
    have hlt := hrank r
    refine ⟨gs.take r.rank, gs[r.rank], gs.drop (r.rank + 1), by simp,
      (hgs _ _ (List.getElem?_eq_getElem hlt) r).2 ⟨hfits, rfl⟩, ?_⟩
    intro g hg
    obtain ⟨n, hn, rfl⟩ := List.mem_take_iff_getElem.1 hg
    have hn' : n < gs.length := by omega
    cases hread : gs[n] s with
    | none => rfl
    | some r' =>
        obtain ⟨hfits', hr'⟩ := (hgs _ _ (List.getElem?_eq_getElem hn') r').1 hread
        have := hleast r' hfits'
        omega

theorem classify_eq_some_iff_least {line : String} (h : '\n' ∉ line.toList) (r : ReportLine) :
    classify line = some r ↔
      Fits line.toList r ∧ ∀ r', Fits line.toList r' → r.rank ≤ r'.rank := by
  rw [classify_eq_findSome?]
  exact findSome?_eq_some_iff_rank (fun _ _ hg => grammar_eq_some_iff h hg) rank_lt r

/-- Each grammar reads what fits it and nothing else, and a line is of the first kind of all
that fit it. -/
theorem classify_eq_some_iff_fits {line : String} (h : '\n' ∉ line.toList) :
    (∀ (n : Nat) g, grammars[n]? = some g →
      ∀ r, g line.toList = some r ↔ Fits line.toList r ∧ r.rank = n) ∧
    (∀ r, classify line = some r ↔
      Fits line.toList r ∧ ∀ r', Fits line.toList r' → r.rank ≤ r'.rank) ∧
    (classify line = none ↔ ∀ r, ¬ Fits line.toList r) := by
  have hgrammars (n : Nat) (g) (hg : grammars[n]? = some g) := grammar_eq_some_iff h hg
  refine ⟨hgrammars, classify_eq_some_iff_least h, ?_⟩
  · rw [classify_eq_findSome?, List.findSome?_eq_none_iff]
    constructor
    · intro hnone r hr
      have hat := List.getElem?_eq_getElem (rank_lt r)
      have hread := (hgrammars _ _ hat r).2 ⟨hr, rfl⟩
      rw [hnone _ (List.getElem_mem _)] at hread
      cases hread
    · intro hnot g hg
      obtain ⟨n, hn, rfl⟩ := List.getElem_of_mem hg
      cases hread : grammars[n] line.toList with
      | none => rfl
      | some r =>
          exact (hnot r ((hgrammars _ _ (List.getElem?_eq_getElem hn) r).1 hread).1).elim

/-- The number of the last place is too large for the first grammar, which does not go back to
an earlier place, and a later grammar takes the line. -/
theorem classify_eq_some_iff_fits_overflow :
    '\n' ∉ "f(2): note: (18446744073709551616): error C2065: b".toList ∧
      Fits "f(2): note: (18446744073709551616): error C2065: b".toList
        (.note ⟨"f", 2, none⟩ "(18446744073709551616): error C2065: b"
          "f(2): note: (18446744073709551616): error C2065: b") ∧
      ∀ r, Fits "f(2): note: (18446744073709551616): error C2065: b".toList r → 3 ≤ r.rank := by
  have hline : '\n' ∉ "f(2): note: (18446744073709551616): error C2065: b".toList := by
    decide
  have hread : classify "f(2): note: (18446744073709551616): error C2065: b" =
      some (.note ⟨"f", 2, none⟩ "(18446744073709551616): error C2065: b"
        "f(2): note: (18446744073709551616): error C2065: b") := by
    decide +kernel
  exact ⟨hline, ((classify_eq_some_iff_fits hline).2.1 _).1 hread⟩

end ReportLine

end FenceCheck
