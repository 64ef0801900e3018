import FenceCheck.Proofs.Report.Fit

namespace FenceCheck

/-!
# Fatal errors and the names of files

A fatal error is written behind a place or, without one, behind the name of a file. It is
read as it was meant exactly if that name has no parentheses. Behind any other name a
fatal error with a place is taken for a line of an unknown category, so that only its message
is reported, and one without a place escapes the policy for such errors.
-/

/-- A fatal error without a place, as it is written behind the name of a file. -/
def Location.fatalUnplaced (file code message : String) : String :=
  file ++ " : fatal error C" ++ code ++ ": " ++ message

/-- The category for which a fatal error can be mistaken. -/
def ReportLine.fatalCategory (code : String) : String :=
  "fatal error C" ++ code

namespace Location

theorem spells_inner (l : Location) : l.digits.Spells l.inner.toList := by
  obtain ⟨inner, hinner, heq⟩ := ReportLine.place?_eq_some_iff.1 (l.place?_inner [])
  rw [List.append_inj_left' heq rfl]
  exact hinner

theorem locates_digits {l : Location} (h : l.Fits) : l.digits.Locates l :=
  ((ReportLine.location?_eq_some_iff l.spells_inner.line_ne_nil).1 (location?_digits h)).2

theorem toList_coded_fatal (l : Location) (code message : String) :
    (l.coded "fatal error" code message).toList =
      l.file.toList ++ '(' :: (l.inner.toList ++ ')' ::
        ([] ++ ReportLine.coded "fatal error" code ++ message.toList)) :=
  l.toList_saying _ message

theorem toList_fatalUnplaced (file code message : String) :
    (fatalUnplaced file code message).toList =
      (file.toList ++ [' ']) ++ ReportLine.coded "fatal error" code ++ message.toList := by
  simp [fatalUnplaced, ReportLine.coded]

end Location

namespace ReportLine

theorem infix_coded_fatal (code : String) :
    ": fatal error C".toList <:+: coded "fatal error" code :=
  ⟨[], code.toList ++ ": ".toList, by simp [coded]⟩

theorem IsCode.introduces_fatal {code : String} (h : IsCode code) :
    Introduces (": " ++ "fatal error" ++ " C" ++ code ++ ": ") :=
  h.introduces ⟨by decide, by decide⟩

theorem parenthesis_notMem_coded {code : String} (h : IsCode code) :
    '(' ∉ coded "fatal error" code :=
  h.introduces_fatal.parenthesis_notMem

section Placed

variable {l : Location} {code message : String} (h : Readable l message) (hcode : IsCode code)

include h hcode in
theorem remarked?_coded_fatal_eq_none {remark? : List Char → Option Remark} (hr : Spaced remark?)
    (make : Location → List Char → List Char → ReportLine)
    (hnone : ∀ rest, remark? (": fatal error C".toList ++ rest) = none) :
    remarked? remark? make (l.coded "fatal error" code message).toList = none := by
  apply remarked?_saying_eq_none h.file h.message hcode.introduces_fatal hr
  have htext : (": " ++ "fatal error" ++ " C" ++ code ++ ": ").toList ++ message.toList =
      ": fatal error C".toList ++ (code.toList ++ ": ".toList ++ message.toList) := by
    simp
  rw [htext]
  exact hnone _

theorem codedRemark?_fatal_eq_none (kind : String)
    (h₁ : ¬ (": " ++ kind ++ " C").toList <+: ": fatal error C".toList)
    (h₂ : ¬ ": fatal error C".toList <+: (": " ++ kind ++ " C").toList) (rest : List Char) :
    codedRemark? kind (": fatal error C".toList ++ rest) = none := by
  rw [codedRemark?, afterCoded?_eq_none kind ": fatal error C" h₁ h₂]
  rfl

theorem noteRemark?_fatal_eq_none (rest : List Char) :
    noteRemark? (": fatal error C".toList ++ rest) = none := by
  rw [noteRemark?, Text.after?_append_eq_none (by decide) (by decide)]
  rfl

include h hcode in
theorem error?_coded_fatal_eq_none : error? (l.coded "fatal error" code message).toList = none :=
  remarked?_coded_fatal_eq_none h hcode (spaced_codedRemark? "error") _
    (codedRemark?_fatal_eq_none "error" (by decide) (by decide))

include h hcode in
theorem classify_fatal_of_plain_name (hname : ∀ c ∈ l.file.toList, isParenthesis c = false) :
    classify (l.coded "fatal error" code message) =
      some (.fatal (some l) (l.coded "fatal error" code message)) := by
  have hat : FatalAt (l.coded "fatal error" code message).toList l.file.toList l.digits :=
    ⟨hname, l.inner.toList, [], code, message.toList, l.spells_inner, .inl rfl, hcode,
      l.toList_coded_fatal code message⟩
  have hfatal := fatal?_eq_some_iff.2
    (.inl ⟨l, l.digits, hat, Location.locates_digits h.fits, rfl⟩)
  rw [String.ofList_toList] at hfatal
  simp [classify, error?_coded_fatal_eq_none h hcode, hfatal]

include h hcode in
theorem classify_fatal_of_mem {c : Char} (hc : c ∈ l.file.toList) (hp : isParenthesis c = true) :
    classify (l.coded "fatal error" code message) =
      some (.unknown l (fatalCategory code) message) := by
  have hfatal : fatal? (l.coded "fatal error" code message).toList = none := by
    rw [l.toList_coded_fatal]
    exact fatal?_eq_none_of_mem h.file.not_fatal hc hp
  have hwarning : warning? (l.coded "fatal error" code message).toList = none :=
    remarked?_coded_fatal_eq_none h hcode (spaced_codedRemark? "warning") _
      (codedRemark?_fatal_eq_none "warning" (by decide) (by decide))
  have hnote : note? (l.coded "fatal error" code message).toList = none :=
    remarked?_coded_fatal_eq_none h hcode spaced_noteRemark? _ noteRemark?_fatal_eq_none
  have hcolon : ':' ∉ (fatalCategory code).toList := by
    intro hm
    rw [fatalCategory, String.toList_append] at hm
    rcases List.mem_append.1 hm with hm | hm
    · revert hm
      decide
    · cases hcode.isDigit ':' hm
  have hother : unknown? (l.coded "fatal error" code message).toList =
      some (.unknown l (fatalCategory code) message) := by
    have hline : '\n' ∉ (": " ++ "fatal error" ++ " C" ++ code ++ ": ").toList ++
        message.toList := by
      simp only [List.mem_append, not_or]
      exact ⟨hcode.introduces_fatal.newline_notMem, h.message.newline_notMem⟩
    have hremark : otherRemark? ((": " ++ "fatal error" ++ " C" ++ code ++ ": ").toList ++
        message.toList) = some ⟨(fatalCategory code).toList, message.toList⟩ :=
      (Kind.otherRemark?_eq_some_iff hline).2 ⟨hcolon, by simp [fatalCategory]⟩
    have hread := remarked?_saying_eq_some h.fits h.file h.message hcode.introduces_fatal
      Kind.other.spaced_remark? (fun location category said =>
        .unknown location (String.ofList category) (String.ofList said)) hremark
    rw [String.ofList_toList, String.ofList_toList] at hread
    exact hread
  simp [classify, error?_coded_fatal_eq_none h hcode, hfatal, hwarning, hnote, hother]

end Placed

section Unplaced

variable {file code message : String} (hfile : PlainFile file) (hmessage : Plain message)
  (hcode : IsCode code)

include hfile hmessage hcode in
theorem newline_notMem_fatalUnplaced :
    '\n' ∉ (Location.fatalUnplaced file code message).toList := by
  have hcoded : '\n' ∉ coded "fatal error" code := hcode.introduces_fatal.newline_notMem
  rw [Location.toList_fatalUnplaced]
  simp [hfile.newline_notMem, hcoded, hmessage.newline_notMem]

include hfile hmessage hcode in
theorem classify_fatalUnplaced (hname : ∀ c ∈ file.toList, isParenthesis c = false)
    (hquiet : ¬ ": fatal error C".toList <:+: message.toList) :
    classify (Location.fatalUnplaced file code message) =
      some (.fatal none (Location.fatalUnplaced file code message)) := by
  have hline := newline_notMem_fatalUnplaced hfile hmessage hcode
  have hfront : '(' ∉ (file.toList ++ [' ']) ++ coded "fatal error" code := by
    have hopen : '(' ∉ file.toList := fun hm => by cases hname _ hm
    simp [hopen, parenthesis_notMem_coded hcode]
  have hheader : ¬ HeaderBearing (Location.fatalUnplaced file code message).toList := by
    rw [Location.toList_fatalUnplaced]
    exact not_headerBearing_append hfront hmessage.headerless
  have herror : error? (Location.fatalUnplaced file code message).toList = none := by
    rw [error?, remarked?, findPlace?_of_newline_notMem hline,
      atLastParenthesis?_header?_eq_none (spaced_codedRemark? "error") hline hheader]
    rfl
  have hnot : ∀ name p, ¬ FatalAt (Location.fatalUnplaced file code message).toList name p := by
    rintro name p ⟨-, inner, blank, code', said, -, -, -, heq⟩
    rw [Location.toList_fatalUnplaced] at heq
    -- The parenthesis would stand in the message, and the fatal error behind it as well.
    obtain ⟨w, -, hw⟩ := Text.exists_eq_append_of_notMem hfront heq
    apply hquiet
    rw [hw]
    refine (infix_coded_fatal code').trans ⟨w ++ '(' :: (inner ++ ')' :: blank), said, ?_⟩
    simp
  have hahead : FatalAhead (Location.fatalUnplaced file code message).toList := by
    refine ⟨file.toList ++ [' '], code, message.toList, ?_, hcode,
      Location.toList_fatalUnplaced file code message⟩
    intro c hc
    rcases List.mem_append.1 hc with hc | hc
    · exact hname c hc
    · rw [List.mem_singleton.1 hc]
      rfl
  have hfatal := fatal?_eq_some_iff.2 (.inr ⟨hnot, hahead, rfl⟩)
  rw [String.ofList_toList] at hfatal
  simp [classify, herror, hfatal]

theorem FatalAhead.of_fits {s : List Char} {text : String} (h : Fits s (.fatal none text)) :
    FatalAhead s := by
  generalize hr : ReportLine.fatal none text = r at h
  cases h with
  | remarked k h => cases k <;> cases hr
  | fatalAt h hl => cases hr
  | fatalAhead hnot h => exact h

theorem not_fatalAhead_of_mem {s rest : List Char} {c : Char}
    (hs : ¬ ": fatal error C".toList <:+: s) (hc : c ∈ s) (hp : isParenthesis c = true) :
    ¬ FatalAhead (s ++ rest) := by
  rintro ⟨before, code, message, hbefore, hcode, heq⟩
  have hnot : c ∉ before ++ coded "fatal error" code := by
    intro hm
    rcases List.mem_append.1 hm with hm | hm
    · rw [hbefore c hm] at hp
      cases hp
    · rw [not_isParenthesis_coded hcode c hm] at hp
      cases hp
  obtain ⟨u, v, rfl⟩ := List.append_of_mem hc
  have heq' : (before ++ coded "fatal error" code) ++ message = u ++ c :: (v ++ rest) := by
    rw [← heq]
    simp
  obtain ⟨w, rfl, -⟩ := Text.exists_eq_append_of_notMem hnot heq'
  exact hs ((infix_coded_fatal code).trans ⟨before, w ++ c :: v, by simp⟩)

include hfile hmessage hcode in
theorem classify_fatalUnplaced_ne {c : Char} (hc : c ∈ file.toList)
    (hp : isParenthesis c = true) (text : String) :
    classify (Location.fatalUnplaced file code message) ≠ some (.fatal none text) := by
  intro h
  have hline := newline_notMem_fatalUnplaced hfile hmessage hcode
  have hahead := FatalAhead.of_fits ((classify_eq_some_iff_least hline _).1 h).1
  rw [Location.toList_fatalUnplaced, List.append_assoc, List.append_assoc] at hahead
  exact not_fatalAhead_of_mem hfile.not_fatal hc hp hahead

end Unplaced

end ReportLine

namespace Subject

open ReportLine

/-- Only a fatal error without a place is subject to the policy for such errors. -/
theorem role_fatalPolicy (r : Subject) {line : String}
    (h : ∀ text, classify line ≠ some (.fatal none text)) (policy : FatalPolicy) :
    ({ r with fatalPolicy := policy } : Subject).role line = r.role line := by
  unfold role
  cases hk : classify line with
  | none => rfl
  | some k =>
      cases k with
      | fatal l text =>
          cases l with
          | none => exact (h text hk).elim
          | some l => rfl
      | error l message => rfl
      | warning l message => rfl
      | note l message text => rfl
      | unknown l category message => rfl

/-- Behind a name without parentheses a fatal error is reported with its whole line, or, without
a place, left to the policy. Behind a name with parentheses only the message is reported, or
the policy makes no difference. -/
theorem step_fatal {l : Location} {code message : String} (h : Readable l message)
    (hcode : IsCode code) (hquiet : ¬ ": fatal error C".toList <:+: message.toList)
    (r : Subject) (s : Scan) :
    let placed := l.coded "fatal error" code message
    let unplaced := Location.fatalUnplaced l.file code message
    ((∀ c ∈ l.file.toList, isParenthesis c = false) →
      classify placed = some (.fatal (some l) placed) ∧
      (r.step s placed).1 = s.push (r.diagnostic .error (r.position l) placed) ∧
      classify unplaced = some (.fatal none unplaced) ∧
      (r.step s unplaced).1 =
        match r.fatalPolicy with
        | .skip => s
        | .documentStart =>
            s.push (r.diagnostic .error (r.document.positionAt 1 0) unplaced)) ∧
    ((∃ c ∈ l.file.toList, isParenthesis c = true) →
      classify placed = some (.unknown l (fatalCategory code) message) ∧
      (r.step s placed).1 = s.push (r.diagnostic .error (r.position l) message) ∧
      (∀ text, classify unplaced ≠ some (.fatal none text)) ∧
      ∀ policy, (({ r with fatalPolicy := policy } : Subject).step s unplaced).1 =
        (r.step s unplaced).1) := by
  intro placed unplaced
  constructor
  · intro hname
    have hplaced := classify_fatal_of_plain_name h hcode hname
    have hunplaced := classify_fatalUnplaced h.file h.message hcode hname hquiet
    refine ⟨hplaced, ?_, hunplaced, ?_⟩
    · rw [step_fst, role, hplaced]
      rfl
    · rw [step_fst, role, hunplaced]
      cases r.fatalPolicy <;> rfl
  · rintro ⟨c, hc, hp⟩
    have hplaced := classify_fatal_of_mem h hcode hc hp
    have hunplaced := classify_fatalUnplaced_ne h.file h.message hcode hc hp
    refine ⟨hplaced, ?_, hunplaced, ?_⟩
    · rw [step_fst, role, hplaced]
      rfl
    · intro policy
      rw [step_fst, step_fst, role_fatalPolicy r hunplaced]

theorem step_fatal_parentheses :
    Readable ⟨"C:/Program Files (x86)/docs/guide.md", 3, some 4⟩ "no such file" ∧
      IsCode "1083" ∧ ¬ ": fatal error C".toList <:+: "no such file".toList ∧
      classify "C:/Program Files (x86)/docs/guide.md(3,4): fatal error C1083: no such file" =
        some (.unknown ⟨"C:/Program Files (x86)/docs/guide.md", 3, some 4⟩ "fatal error C1083"
          "no such file") ∧
      ∀ text, classify "C:/Program Files (x86)/docs/guide.md : fatal error C1083: no such file" ≠
        some (.fatal none text) := by
  have hread : Readable ⟨"C:/Program Files (x86)/docs/guide.md", 3, some 4⟩ "no such file" := by
    decide +kernel
  have hquiet : ¬ ": fatal error C".toList <:+: "no such file".toList :=
    Text.split?_eq_none_iff.1 (by decide)
  have hname : ∃ c ∈ "C:/Program Files (x86)/docs/guide.md".toList, isParenthesis c = true :=
    ⟨'(', by decide, rfl⟩
  have h := (step_fatal hread (show IsCode "1083" by decide) hquiet
    ⟨⟨"g.md", ""⟩, .lineDirective, "docs", .documentStart⟩ .start).2 hname
  exact ⟨hread, by decide, hquiet, h.1, h.2.2.1⟩

/-- An error is read behind such a name and a fatal error is not, with a place or without. -/
theorem classify_fatal_programFiles :
    Readable ⟨"C:/Program Files (x86)/docs/guide.md", 3, some 4⟩ "boom" ∧
      classify "C:/Program Files (x86)/docs/guide.md(3,4): error C2065: boom" =
        some (.error ⟨"C:/Program Files (x86)/docs/guide.md", 3, some 4⟩ "boom") ∧
      classify "C:/Program Files (x86)/docs/guide.md(3,4): fatal error C1083: boom" ≠
        some (.fatal (some ⟨"C:/Program Files (x86)/docs/guide.md", 3, some 4⟩)
          "C:/Program Files (x86)/docs/guide.md(3,4): fatal error C1083: boom") ∧
      classify "C:/Program Files (x86)/docs/guide.md : fatal error C1083: boom" = none := by
  decide +kernel

end Subject

end FenceCheck
