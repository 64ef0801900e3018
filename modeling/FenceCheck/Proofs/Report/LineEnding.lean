import FenceCheck.Proofs.Document.Address
import FenceCheck.Proofs.Fragment.LineEnding
import FenceCheck.Proofs.Report.Role

namespace FenceCheck

/-!
# Reports and documents under returned line ends

Returned line ends change nothing that is counted in lines or columns. A position moves by
one byte for every line before it, and a report says the same however its lines end. What is
read off a report depends on the document only through the positions that it gives out.
-/

/-- A position moved by one byte for every line before its own. -/
def Position.crlf (p : Position) : Position :=
  { p with offset := p.offset + p.line }

namespace Document

def crlf (d : Document) : Document :=
  { d with text := String.ofList (Text.crlf d.text.toList) }

theorem clampLine_crlf (d : Document) (line : Nat) : d.crlf.clampLine line = d.clampLine line := by
  simp only [clampLine, lineCount_eq, crlf, String.toList_ofList, Text.count_crlf]

theorem positionAt_crlf {d : Document} (h : '\r' ∉ d.text.toList) (line column : Nat) :
    d.crlf.positionAt line column = (d.positionAt line column).crlf := by
  obtain ⟨u, l, v, htext, hframed, hline⟩ := d.exists_framed_clampLine line
  obtain ⟨r, v', hreturned, hframed', hr⟩ := hframed.crlf
  have hl : l.getLast? ≠ some '\r' := fun hlast =>
    h (by simp [htext, List.mem_of_getLast? hlast])
  have hbare : Text.bare (l ++ r) = Text.bare l := by
    rcases hr with rfl | rfl
    · rw [List.append_nil]
    · rw [Text.bare_append_return, Text.bare_of_getLast?_ne hl]
  have htext' : d.crlf.text.toList = Text.crlf u ++ (l ++ r) ++ v' := by
    rw [crlf, String.toList_ofList, htext, hreturned]
  have hline' : d.crlf.clampLine line = (Text.crlf u).count '\n' + 1 := by
    rw [clampLine_crlf, Text.count_crlf, hline]
  rw [positionAt_of_clampLine column hline (getElem?_table_of_framed htext hframed),
    positionAt_of_clampLine column hline' (getElem?_table_of_framed htext' hframed'), hbare,
    Text.count_crlf, Text.byteLength_crlf, Position.crlf, Nat.add_right_comm]

end Document

section Moved

variable (f : Position → Position)

def Diagnostic.moved (d : Diagnostic) : Diagnostic :=
  { d with
    span := ⟨f d.span.start, f d.span.stop⟩
    related := d.related.map fun q => ⟨f q.position, q.message⟩ }

def Role.moved : Role → Role
  | .opening d => .opening (d.moved f)
  | .related q => .related ⟨f q.position, q.message⟩
  | .aside => .aside
  | .silent => .silent
  | .loose => .loose

def Scan.moved (s : Scan) : Scan :=
  { s with newestFirst := s.newestFirst.map (Diagnostic.moved f) }

theorem Scan.moved_amend {change change' : Diagnostic → Diagnostic}
    (h : ∀ d : Diagnostic, change' (d.moved f) = (change d).moved f) (s : Scan) :
    (s.moved f).amend change' = (s.amend change).moved f := by
  obtain ⟨openUnit, newestFirst⟩ := s
  cases newestFirst with
  | nil => rfl
  | cons d ds => simp [Scan.amend, Scan.moved, h]

/-- A line does to a moved scan what it does to the scan. -/
theorem Scan.absorb_moved (s : Scan) (line : String) (role : Role) :
    (s.moved f).absorb line (role.moved f) = (s.absorb line role).moved f := by
  have hline (d : Diagnostic) : (d.moved f).addLine line = (d.addLine line).moved f := rfl
  cases role with
  | opening d => rfl
  | related q =>
      apply Scan.moved_amend
      intro d
      simp [Diagnostic.moved, Diagnostic.addRelated]
  | aside => exact Scan.moved_amend f hline s
  | silent => rfl
  | loose =>
      simp only [Role.moved, Scan.absorb]
      have hunit : (s.moved f).openUnit = s.openUnit := rfl
      rw [hunit]
      split
      · rfl
      · split
        · rfl
        · exact Scan.moved_amend f hline s

namespace Subject

variable {f} {r r' : Subject}

/-- Whether two subjects differ at most in the positions that their documents give out. -/
structure Moves (f : Position → Position) (r r' : Subject) : Prop where
  identity : r'.document.identity = r.document.identity
  anchor : r'.anchor = r.anchor
  source : r'.source = r.source
  fatalPolicy : r'.fatalPolicy = r.fatalPolicy
  positionAt : ∀ line column,
    r'.document.positionAt line column = f (r.document.positionAt line column)

theorem Moves.position (h : Moves f r r') (l : Location) : r'.position l = f (r.position l) := by
  simp only [Subject.position, place, h.anchor, h.positionAt]

theorem Moves.diagnostic (h : Moves f r r') (severity : Severity) (p : Position)
    (message : String) :
    r'.diagnostic severity (f p) message = (r.diagnostic severity p message).moved f := by
  rw [Subject.diagnostic, h.source]
  rfl

theorem Moves.role (h : Moves f r r') (line : String) : r'.role line = (r.role line).moved f := by
  have hin (l : Location) : r'.isInDocument l = r.isInDocument l := by
    rw [isInDocument, isInDocument, h.anchor, h.identity]
  unfold Subject.role
  cases ReportLine.classify line with
  | none => rfl
  | some k =>
      cases k with
      | error l message => simp only [h.position, h.diagnostic, Role.moved]
      | warning l message => simp only [h.position, h.diagnostic, Role.moved]
      | unknown l category message => simp only [h.position, h.diagnostic, Role.moved]
      | fatal location text =>
          cases location with
          | some l => simp only [h.position, h.diagnostic, Role.moved]
          | none =>
              simp only [h.fatalPolicy]
              cases r.fatalPolicy with
              | skip => rfl
              | documentStart => simp only [h.positionAt, h.diagnostic, Role.moved]
      | note l message text =>
          simp only [hin, h.position]
          split
          · rfl
          · rfl

theorem Moves.after (h : Moves f r r') (s : Scan) (lines : List String) :
    r'.after (s.moved f) lines = (r.after s lines).moved f := by
  induction lines generalizing s with
  | nil => rfl
  | cons line lines ih => rw [after_cons, after_cons, h.role, Scan.absorb_moved, ih]

theorem Moves.read (h : Moves f r r') (output : String) :
    (r'.read output).1 = (r.read output).1.map (Diagnostic.moved f) := by
  have hafter := h.after .start (reportLines output)
  have hstart : Scan.start.moved f = Scan.start := rfl
  rw [hstart] at hafter
  rw [read_fst, read_fst, hafter, Scan.diagnostics, Scan.diagnostics, List.map_reverse]
  rfl

end Subject

end Moved

namespace Subject

theorem reportLines_crlf {output : String}
    (h : ∀ l ∈ Text.lines output.toList, l.getLast? ≠ some '\r') :
    reportLines (String.ofList (Text.crlf output.toList)) = reportLines output := by
  have hlines := congrArg (List.map String.ofList) (Text.map_bare_lines_crlf h)
  rw [List.map_map, List.map_map] at hlines
  rw [reportLines, String.toList_ofList]
  exact hlines

theorem reportLines_append_replicate (output : String) (n : Nat) :
    reportLines (output ++ String.ofList (List.replicate n '\n')) =
      reportLines output ++ List.replicate n "" := by
  simp [reportLines, Text.lines_append_replicate, Text.bare]

theorem classify_empty : ReportLine.classify "" = none := by
  decide +kernel

/-- An empty line closes a unit and says nothing. -/
theorem newestFirst_absorb_empty (r : Subject) (s : Scan) :
    (s.absorb "" (r.role "")).newestFirst = s.newestFirst := by
  have hrole : r.role "" = .loose := by rw [role, classify_empty]
  rw [hrole, Scan.absorb]
  split
  · rfl
  · rw [if_pos rfl]

theorem newestFirst_after_replicate (r : Subject) (s : Scan) (n : Nat) :
    (r.after s (List.replicate n "")).newestFirst = s.newestFirst := by
  induction n generalizing s with
  | zero => rfl
  | succ n ih => rw [List.replicate_succ, after_cons, ih, newestFirst_absorb_empty]

theorem read_append_replicate (r : Subject) (output : String) (n : Nat) :
    (r.read (output ++ String.ofList (List.replicate n '\n'))).1 = (r.read output).1 := by
  rw [read_fst, read_fst, reportLines_append_replicate, after_append, Scan.diagnostics,
    newestFirst_after_replicate, Scan.diagnostics]

end Subject

namespace Document

variable {d : Document}

theorem moves_crlf (h : '\r' ∉ d.text.toList) (a : Anchor) (source : String)
    (policy : FatalPolicy) :
    Subject.Moves Position.crlf ⟨d, a, source, policy⟩ ⟨d.crlf, a, source, policy⟩ :=
  ⟨rfl, rfl, rfl, rfl, positionAt_crlf h⟩

/-- Returned line ends change no number, line, column, tag or message, and every offset by one
byte for each line before it. A report may also end in empty lines. -/
theorem extract_positionAt_read_crlf (h : '\r' ∉ d.text.toList) :
    (∀ (t : Fragment.Target) (identity : String), '\n' ∉ identity.toList →
      Fragment.extract t d.crlf.text identity =
        (Fragment.extract t d.text identity).map Fragment.crlf) ∧
    (∀ line column, d.crlf.positionAt line column = (d.positionAt line column).crlf) ∧
    ∀ (a : Anchor) (source : String) (policy : FatalPolicy) (output : String),
      (∀ l ∈ Text.lines output.toList, l.getLast? ≠ some '\r') →
      ∀ n, ∀ output' ∈ [output, String.ofList (Text.crlf output.toList),
        output ++ String.ofList (List.replicate n '\n')],
        (Subject.read ⟨d, a, source, policy⟩ output').1 =
          (Subject.read ⟨d, a, source, policy⟩ output).1 ∧
        (Subject.read ⟨d.crlf, a, source, policy⟩ output').1 =
          (Subject.read ⟨d, a, source, policy⟩ output).1.map
            (Diagnostic.moved Position.crlf) := by
  refine ⟨fun t identity hidentity => Fragment.extract_crlf hidentity t d.text,
    positionAt_crlf h, ?_⟩
  intro a source policy output houtput n output' hmem
  have hsame (r : Subject) : (r.read output').1 = (r.read output).1 := by
    simp only [List.mem_cons, List.not_mem_nil, or_false] at hmem
    rcases hmem with rfl | rfl | rfl
    · rfl
    · rw [Subject.read, Subject.read, Subject.reportLines_crlf houtput]
    · exact r.read_append_replicate output n
  refine ⟨hsame _, ?_⟩
  rw [hsame]
  exact (moves_crlf h a source policy).read output

/-- A document with a wide character in front of its fragment, read through a report whose line
ends are returned too. -/
theorem extract_positionAt_read_crlf_wide :
    let d : Document := ⟨"d.md", "é\n```cpp\nx\n```\n"⟩
    let output := "s.cpp\ns.cpp(2,1): error C2065: y\n  ^\n"
    Fragment.extract ⟨"cpp", .firstLineOffset⟩ d.crlf.text "d.md" =
        [⟨1, some "cpp", 2, 4, "\r\nx\r\n", .compile⟩] ∧
      d.crlf.positionAt 3 0 = ⟨2, 0, 12⟩ ∧
      (Subject.read ⟨d.crlf, .firstLineOffset 2 "s.cpp", "docs", .skip⟩
          (String.ofList (Text.crlf output.toList))).1 =
        [⟨.error, .point ⟨2, 0, 12⟩, "y\n  ^", [], "docs"⟩] := by
  intro d output
  obtain ⟨hextract, hposition, hread⟩ :=
    extract_positionAt_read_crlf (d := d) (by decide +kernel)
  refine ⟨?_, ?_, ?_⟩
  · rw [hextract _ "d.md" (by decide +kernel)]
    decide +kernel
  · rw [hposition]
    decide +kernel
  · have hboth := hread (.firstLineOffset 2 "s.cpp") "docs" .skip output (by decide +kernel) 0
      (String.ofList (Text.crlf output.toList)) (by simp)
    rw [hboth.2]
    decide +kernel

end Document

end FenceCheck
