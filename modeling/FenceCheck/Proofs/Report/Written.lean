import FenceCheck.Proofs.Report.Grammar
import FenceCheck.Proofs.Text.Numeral
import FenceCheck.Proofs.Text.FirstOccurrence

namespace FenceCheck

/-!
# Lines as a compiler writes them

A location is written as its file, its line and, if it has one, its column, and a remark
follows it. The grammars read such a line back as it was meant, provided that neither the
name of the file nor the message could pass for a place with a remark of its own, and that
the name does not speak of a fatal error.
-/

/-- A text that can stand in a written line. -/
structure ReportLine.Plain (s : String) : Prop where
  newline_notMem : '\n' ∉ s.toList
  headerless : ¬ HeaderBearing s.toList

/-- A name that a written line can begin with. -/
structure ReportLine.PlainFile (s : String) : Prop extends Plain s where
  not_fatal : ¬ ": fatal error C".toList <:+: s.toList

section Decide

open ReportLine

instance (s : String) : Decidable (Plain s) :=
  decidable_of_iff ('\n' ∉ s.toList ∧ ¬ HeaderBearing s.toList)
    ⟨fun h => ⟨h.1, h.2⟩, fun h => ⟨h.1, h.2⟩⟩

instance (s : String) : Decidable (PlainFile s) :=
  decidable_of_iff (Plain s ∧ Text.split? ": fatal error C".toList s.toList = none)
    ⟨fun h => ⟨h.1, Text.split?_eq_none_iff.1 h.2⟩, fun h => ⟨h.1, Text.split?_eq_none_iff.2 h.2⟩⟩

end Decide

namespace Location

/-- What stands between the parentheses of a written location. -/
def inner (l : Location) : String :=
  String.ofList (Text.decimal l.line) ++
    match l.column with
    | some column => "," ++ String.ofList (Text.decimal column)
    | none => ""

def written (l : Location) : String :=
  l.file ++ "(" ++ l.inner ++ ")"

/-- A location with a remark: what introduces the remark, and its message. -/
def saying (l : Location) (introduction message : String) : String :=
  l.written ++ introduction ++ message

def coded (l : Location) (kind code message : String) : String :=
  l.saying (": " ++ kind ++ " C" ++ code ++ ": ") message

def noted (l : Location) (message : String) : String :=
  l.saying ": note: " message

theorem toList_saying (l : Location) (introduction message : String) :
    (l.saying introduction message).toList =
      l.file.toList ++ '(' :: (l.inner.toList ++ ')' ::
        (introduction.toList ++ message.toList)) := by
  simp [saying, written]

/-- Whether 64 bits hold the numbers of a location. -/
def Fits (l : Location) : Prop :=
  l.line < Text.word64Bound ∧ ∀ column ∈ l.column, column < Text.word64Bound

instance (l : Location) : Decidable l.Fits :=
  inferInstanceAs (Decidable (_ ∧ _))

/-- The digits of a written location. -/
def digits (l : Location) : ReportLine.Place :=
  ⟨Text.decimal l.line, (l.column.map Text.decimal).getD []⟩

theorem place?_inner (l : Location) (rest : List Char) :
    ReportLine.place? (l.inner.toList ++ ')' :: rest) = some (l.digits, rest) := by
  obtain ⟨file, line, column⟩ := l
  have hne := Text.decimal_ne_nil line
  cases column with
  | none =>
      have h := ReportLine.place?_line hne Text.isDigit_of_mem_decimal rest
      simpa [inner, digits] using h
  | some column =>
      have h := ReportLine.place?_line_column hne Text.isDigit_of_mem_decimal
        (Text.isDigit_of_mem_decimal (n := column)) rest
      simpa [inner, digits] using h

theorem writtenPlace_inner (l : Location) : ReportLine.WrittenPlace l.inner.toList := by
  obtain ⟨inner, hinner, heq⟩ := ReportLine.writtenPlace_of_place? (l.place?_inner [])
  rw [List.append_inj_left' heq rfl]
  exact hinner

/-- A location is read back from its digits. -/
theorem location?_digits {l : Location} (h : l.Fits) :
    ReportLine.location? l.file.toList l.digits = some l := by
  obtain ⟨file, line, column⟩ := l
  obtain ⟨hline, hcolumn⟩ := h
  have hread : Text.word64? ((column.map Text.decimal).getD []) = column := by
    cases column with
    | none => rfl
    | some column => exact Text.word64?_decimal (hcolumn column rfl)
  simp [ReportLine.location?, digits, Text.word64?_decimal hline, hread]

end Location

namespace ReportLine

/-- What comes before the first parenthesis that opens makes no text header-bearing. -/
theorem not_headerBearing_append {x s : List Char} (hx : '(' ∉ x) (hs : ¬ HeaderBearing s) :
    ¬ HeaderBearing (x ++ s) := by
  rintro ⟨before, rest, heq, hrest⟩
  obtain ⟨w, -, hw⟩ := Text.exists_eq_append_of_notMem hx heq
  exact hs ⟨w, rest, hw, hrest⟩

section Line

variable {file tail : List Char} {remark? : List Char → Option Remark}

theorem findPlace?_eq_some (hr : Spaced remark?) (hfile : '\n' ∉ file) (hline : '\n' ∉ tail)
    (htail : ¬ HeaderBearing tail) {found : Place × Remark}
    (hfound : header? remark? tail = some found) :
    findPlace? (header? remark?) (file ++ '(' :: tail) = some (file, found) := by
  have hall : '\n' ∉ file ++ '(' :: tail := by simp [hfile, hline]
  rw [findPlace?_of_newline_notMem hall]
  exact atLastParenthesis?_eq_some hfile (atLastParenthesis?_header?_eq_none hr hline htail) hfound

/-- A grammar that does not fit behind the place of a line fits nowhere on it. -/
theorem findPlace?_eq_none (hr : Spaced remark?) (hfile : '\n' ∉ file) (hline : '\n' ∉ tail)
    (hplain : ¬ HeaderBearing file) (htail : ¬ HeaderBearing tail)
    (hnone : header? remark? tail = none) :
    findPlace? (header? remark?) (file ++ '(' :: tail) = none := by
  have hall : '\n' ∉ file ++ '(' :: tail := by simp [hfile, hline]
  rw [findPlace?_of_newline_notMem hall]
  apply atLastParenthesis?_eq_none hall
  intro u v huv
  cases hv : header? remark? v with
  | none => rfl
  | some found =>
      have hheader := beginsHeader_of_header? hr hv
      -- The parenthesis stands behind the place, opens it, or is one of the file.
      rcases List.append_eq_append_iff.1 huv with ⟨w, rfl, hw⟩ | ⟨w, rfl, hw⟩
      · cases w with
        | nil =>
            obtain ⟨-, rfl⟩ := List.cons.inj hw
            rw [hnone] at hv
            cases hv
        | cons c w =>
            obtain ⟨-, hw⟩ := List.cons.inj hw
            exact (htail ⟨w, v, hw, hheader⟩).elim
      · cases w with
        | nil =>
            obtain ⟨-, rfl⟩ := List.cons.inj hw
            rw [hnone] at hv
            cases hv
        | cons c w =>
            obtain ⟨rfl, rfl⟩ := List.cons.inj hw
            exact (hplain ⟨u, w, rfl, hheader.of_append⟩).elim

end Line

theorem newline_notMem_saying {l : Location} {introduction message : String}
    (hfile : '\n' ∉ l.file.toList) (hi : '\n' ∉ introduction.toList)
    (hmessage : '\n' ∉ message.toList) : '\n' ∉ (l.saying introduction message).toList := by
  have hinner := l.writtenPlace_inner.notMem (c := '\n') rfl (by decide)
  rw [l.toList_saying]
  simp [hfile, hinner, hi, hmessage]

theorem messageLine_of_newline_notMem {s : List Char} (h : '\n' ∉ s) : messageLine s = s := by
  have htake : (s ++ []).takeWhile (· != '\n') = s ++ [] :=
    List.takeWhile_append_of_pos (Text.bne_of_notMem h)
  rw [List.append_nil] at htake
  exact htake

structure Introduces (introduction : String) : Prop where
  parenthesis_notMem : '(' ∉ introduction.toList
  newline_notMem : '\n' ∉ introduction.toList

section Saying

variable {l : Location} {introduction message : String} (hl : l.Fits) (hfile : PlainFile l.file)
  (hmessage : Plain message) (hi : Introduces introduction)

include hmessage hi in
theorem tail_saying :
    '\n' ∉ l.inner.toList ++ ')' :: (introduction.toList ++ message.toList) ∧
      ¬ HeaderBearing (l.inner.toList ++ ')' :: (introduction.toList ++ message.toList)) := by
  constructor
  · have h := l.writtenPlace_inner.notMem (c := '\n') rfl (by decide)
    simp [h, hi.newline_notMem, hmessage.newline_notMem]
  · have hbody : '(' ∉ l.inner.toList ++ ')' :: introduction.toList := by
      have h := l.writtenPlace_inner.notMem (c := '(') rfl (by decide)
      simp [h, hi.parenthesis_notMem]
    have h := not_headerBearing_append hbody hmessage.headerless
    simpa using h

include hl hfile hmessage hi in
theorem remarked?_saying_eq_some {remark? : List Char → Option Remark} (hr : Spaced remark?)
    (make : Location → List Char → List Char → ReportLine) {remark : Remark}
    (h : remark? (introduction.toList ++ message.toList) = some remark) :
    remarked? remark? make (l.saying introduction message).toList =
      some (make l remark.category remark.message) := by
  obtain ⟨hline, htail⟩ := tail_saying (l := l) hmessage hi
  have hheader : header? remark?
      (l.inner.toList ++ ')' :: (introduction.toList ++ message.toList)) =
        some (l.digits, remark) := by
    simp [header?, l.place?_inner, h]
  have hfind := findPlace?_eq_some hr hfile.newline_notMem hline htail hheader
  simp [remarked?, l.toList_saying, hfind, Location.location?_digits hl]

include hfile hmessage hi in
theorem remarked?_saying_eq_none {remark? : List Char → Option Remark} (hr : Spaced remark?)
    (make : Location → List Char → List Char → ReportLine)
    (h : remark? (introduction.toList ++ message.toList) = none) :
    remarked? remark? make (l.saying introduction message).toList = none := by
  obtain ⟨hline, htail⟩ := tail_saying (l := l) hmessage hi
  have hheader : header? remark?
      (l.inner.toList ++ ')' :: (introduction.toList ++ message.toList)) = none := by
    simp [header?, l.place?_inner, h]
  have hfind := findPlace?_eq_none hr hfile.newline_notMem hline hfile.headerless htail hheader
  simp [remarked?, l.toList_saying, hfind]

include hfile in
theorem fatal?_saying_eq_none
    (h : afterCoded? "fatal error" (dropSpace (introduction.toList ++ message.toList)) = none) :
    fatal? (l.saying introduction message).toList = none := by
  rw [l.toList_saying]
  apply fatal?_eq_none hfile.not_fatal
  intro p rest hp
  rw [l.place?_inner] at hp
  obtain ⟨-, rfl⟩ := Prod.mk.inj (Option.some.inj hp)
  rw [h]
  rfl

end Saying

/-- The digits of an error or a warning code. -/
structure IsCode (code : String) : Prop where
  length : 4 ≤ code.toList.length
  isDigit : ∀ c ∈ code.toList, c.isDigit = true

instance (code : String) : Decidable (IsCode code) :=
  decidable_of_iff (4 ≤ code.toList.length ∧ code.toList.all Char.isDigit = true)
    ⟨fun h => ⟨h.1, List.all_eq_true.1 h.2⟩, fun h => ⟨h.1, List.all_eq_true.2 h.2⟩⟩

theorem IsCode.introduces {code : String} (h : IsCode code) {kind : String}
    (hkind : Introduces kind) : Introduces (": " ++ kind ++ " C" ++ code ++ ": ") := by
  have hnot {c : Char} (hc : c.isDigit = false) : c ∉ code.toList := by
    intro hm
    rw [h.isDigit c hm] at hc
    cases hc
  constructor
  · have := hnot (c := '(') rfl
    simp [hkind.parenthesis_notMem, this]
  · have := hnot (c := '\n') rfl
    simp [hkind.newline_notMem, this]

theorem afterCode?_code {code : String} (h : IsCode code) (rest : List Char) :
    afterCode? (code.toList ++ ": ".toList ++ rest) = some rest := by
  have htext : code.toList ++ ": ".toList ++ rest = code.toList ++ ':' :: (' ' :: rest) := by
    simp
  have htake := Text.takeWhile_append_cons (' ' :: rest) h.isDigit
    (show Char.isDigit ':' = false from rfl)
  have hdrop := Text.dropWhile_append_cons (' ' :: rest) h.isDigit
    (show Char.isDigit ':' = false from rfl)
  rw [htext, afterCode?, htake, hdrop, if_pos h.length]
  exact Text.after?_append ": ".toList rest

theorem afterCoded?_coded {code : String} (h : IsCode code) (kind : String) (rest : List Char) :
    afterCoded? kind ((": " ++ kind ++ " C" ++ code ++ ": ").toList ++ rest) = some rest := by
  have htext : (": " ++ kind ++ " C" ++ code ++ ": ").toList ++ rest =
      (": " ++ kind ++ " C").toList ++ (code.toList ++ ": ".toList ++ rest) := by
    simp
  rw [afterCoded?, htext, Text.after?_append, Option.bind_some, afterCode?_code h]

theorem codedRemark?_coded {code : String} (h : IsCode code) (kind : String) {message : String}
    (hmessage : Plain message) :
    codedRemark? kind ((": " ++ kind ++ " C" ++ code ++ ": ").toList ++ message.toList) =
      some ⟨[], message.toList⟩ := by
  rw [codedRemark?, afterCoded?_coded h, Option.map_some,
    messageLine_of_newline_notMem hmessage.newline_notMem]

theorem introduces_error : Introduces "error" := ⟨by decide, by decide⟩

theorem introduces_warning : Introduces "warning" := ⟨by decide, by decide⟩

theorem introduces_note : Introduces ": note: " := ⟨by decide, by decide⟩

/-- A grammar of coded lines does not fit lines of another kind. -/
theorem afterCoded?_eq_none (kind start : String)
    (h₁ : ¬ (": " ++ kind ++ " C").toList <+: start.toList)
    (h₂ : ¬ start.toList <+: (": " ++ kind ++ " C").toList) (s : List Char) :
    afterCoded? kind (start.toList ++ s) = none := by
  rw [afterCoded?, Text.after?_append_eq_none h₁ h₂]
  rfl

/-- Whether a line with a location and a message is read as it was meant. -/
structure Readable (l : Location) (message : String) : Prop where
  fits : l.Fits
  file : PlainFile l.file
  message : Plain message

instance (l : Location) (message : String) : Decidable (Readable l message) :=
  decidable_of_iff (l.Fits ∧ PlainFile l.file ∧ Plain message)
    ⟨fun h => ⟨h.1, h.2.1, h.2.2⟩, fun h => ⟨h.1, h.2, h.3⟩⟩

section Classify

variable {l : Location} {code message : String}

theorem remarked?_coded (h : Readable l message) (hcode : IsCode code) {kind : String}
    (hkind : Introduces kind) (make : Location → List Char → List Char → ReportLine) :
    remarked? (codedRemark? kind) make (l.coded kind code message).toList =
      some (make l [] message.toList) :=
  remarked?_saying_eq_some h.fits h.file h.message (hcode.introduces hkind)
    (spaced_codedRemark? kind) make (codedRemark?_coded hcode kind h.message)

theorem classify_error (h : Readable l message) (hcode : IsCode code) :
    classify (l.coded "error" code message) = some (.error l message) := by
  have herror : error? (l.coded "error" code message).toList = some (.error l message) := by
    rw [error?, remarked?_coded h hcode introduces_error, String.ofList_toList]
  simp [classify, herror]

theorem classify_warning (h : Readable l message) (hcode : IsCode code) :
    classify (l.coded "warning" code message) = some (.warning l message) := by
  have hstart : (": warning C" ++ code ++ ": ").toList ++ message.toList =
      ": warning C".toList ++ (code.toList ++ ": ".toList ++ message.toList) := by
    simp
  have hi := hcode.introduces introduces_warning
  have herror : error? (l.coded "warning" code message).toList = none := by
    apply remarked?_saying_eq_none h.file h.message hi (spaced_codedRemark? "error")
    have hnone := afterCoded?_eq_none "error" ": warning C" (by decide) (by decide)
      (code.toList ++ ": ".toList ++ message.toList)
    rw [codedRemark?, show ": " ++ "warning" ++ " C" = ": warning C" from rfl, hstart, hnone]
    rfl
  have hfatal : fatal? (l.coded "warning" code message).toList = none := by
    apply fatal?_saying_eq_none h.file
    have hnone := afterCoded?_eq_none "fatal error" ": warning C" (by decide)
      (by decide) (code.toList ++ ": ".toList ++ message.toList)
    rw [show ": " ++ "warning" ++ " C" = ": warning C" from rfl, hstart]
    exact hnone
  have hwarning : warning? (l.coded "warning" code message).toList =
      some (.warning l message) := by
    rw [warning?, remarked?_coded h hcode introduces_warning, String.ofList_toList]
  simp [classify, herror, hfatal, hwarning]

theorem classify_note (h : Readable l message) :
    classify (l.noted message) = some (.note l message (l.noted message)) := by
  have hcoded (kind : String) (h₁ : ¬ (": " ++ kind ++ " C").toList <+: ": note: ".toList)
      (h₂ : ¬ ": note: ".toList <+: (": " ++ kind ++ " C").toList)
      (make : Location → List Char → List Char → ReportLine) :
      remarked? (codedRemark? kind) make (l.noted message).toList = none := by
    apply remarked?_saying_eq_none h.file h.message introduces_note (spaced_codedRemark? kind)
    rw [codedRemark?, afterCoded?_eq_none kind ": note: " h₁ h₂]
    rfl
  have herror : error? (l.noted message).toList = none :=
    hcoded "error" (by decide) (by decide) _
  have hwarning : warning? (l.noted message).toList = none :=
    hcoded "warning" (by decide) (by decide) _
  have hfatal : fatal? (l.noted message).toList = none := by
    apply fatal?_saying_eq_none h.file
    exact afterCoded?_eq_none "fatal error" ": note: " (by decide) (by decide) _
  have hnote : note? (l.noted message).toList = some (.note l message (l.noted message)) := by
    have hremark : noteRemark? (": note: ".toList ++ message.toList) =
        some ⟨[], message.toList⟩ := by
      rw [noteRemark?, Text.after?_append, Option.map_some,
        messageLine_of_newline_notMem h.message.newline_notMem]
    have hread := remarked?_saying_eq_some h.fits h.file h.message introduces_note
      spaced_noteRemark?
      (fun location _ said => .note location (String.ofList said)
        (String.ofList (l.noted message).toList)) hremark
    rw [note?, String.ofList_toList]
    rw [String.ofList_toList, String.ofList_toList] at hread
    exact hread
  simp [classify, herror, hfatal, hwarning, hnote]

end Classify

end ReportLine

end FenceCheck
