import FenceCheck.Proofs.Report.Segment
import FenceCheck.Proofs.Report.Written
import FenceCheck.Proofs.Text.LineFrame

namespace FenceCheck

/-!
# Reports written and read back

A transcript is what a compiler means to say: the name of a unit, and then the errors and
warnings, each with the notes and the further lines that belong to it. Written as a report
it is read back in full, whichever way the fragment is anchored. The unit is opened by the
first line and stays open, because no line of a transcript is empty; so every further line
finds its way to the diagnostic in front of it.
-/

namespace Anchor

/-- The number that a compiler gives to a line of the document. -/
def compilerLine (a : Anchor) (line : Nat) : Nat :=
  match a with
  | .lineDirective => line
  | .firstLineOffset startLine _ => line + 1 - startLine

/-- Whether a compiler has a number for a line of the document that is read back in 64 bits: the
line is not above the fragment, and the sum of the numbers of the two does not start over. -/
def Reaches (a : Anchor) (line : Nat) : Prop :=
  match a with
  | .lineDirective => True
  | .firstLineOffset startLine _ =>
      startLine ≤ line ∧ startLine + a.compilerLine line < Text.word64Bound

instance : (a : Anchor) → (line : Nat) → Decidable (a.Reaches line)
  | .lineDirective, _ => isTrue trivial
  | .firstLineOffset .., _ => inferInstanceAs (Decidable (_ ∧ _))

theorem documentLine_compilerLine {a : Anchor} {line : Nat} (h : a.Reaches line) :
    a.documentLine (a.compilerLine line) = line := by
  cases a with
  | lineDirective => rfl
  | firstLineOffset startLine stagedPath =>
      obtain ⟨hle, hsum⟩ := h
      have hnext : startLine + (Anchor.firstLineOffset startLine stagedPath).compilerLine line =
          line + 1 := by
        simp only [compilerLine]
        omega
      rw [documentLine, Nat.mod_eq_of_lt hsum, hnext, Nat.add_sub_cancel]

def reported (a : Anchor) (l : Location) : Location :=
  { l with line := a.compilerLine l.line }

end Anchor

def Document.positionOf (d : Document) (l : Location) : Position :=
  d.positionAt l.line (l.column.getD 1 - 1)

theorem Subject.position_reported {r : Subject} {l : Location} (h : r.anchor.Reaches l.line) :
    r.position (r.anchor.reported l) = r.document.positionOf l := by
  simp only [position, place, Anchor.reported, Anchor.documentLine_compilerLine h]
  rfl

namespace Transcript

/-- What can follow an error or a warning. The location of a note in the document is
counted as the document counts, that of another note as the compiler does. -/
inductive Item
  | inside (l : Location) (message : String)
  | outside (l : Location) (message : String)
  | continuation (line : String)

namespace Item

def line (a : Anchor) : Item → String
  | inside l message => (a.reported l).noted message
  | outside l message => l.noted message
  | continuation line => line

/-- The line by which an item extends the message before it. -/
def addition? : Item → Option String
  | inside .. => none
  | outside l message => some (l.noted message)
  | continuation line => some line

def related? (d : Document) : Item → Option Related
  | inside l message => some ⟨d.positionOf l, message⟩
  | outside .. | continuation .. => none

def WellFormed (r : Subject) : Item → Prop
  | inside l message =>
      r.anchor.Reaches l.line ∧ r.anchor.namesDocument l.file r.document.identity = true ∧
        ReportLine.Readable (r.anchor.reported l) message
  | outside l message =>
      r.anchor.namesDocument l.file r.document.identity = false ∧ ReportLine.Readable l message
  | continuation line =>
      line ≠ "" ∧ ReportLine.classify line = none ∧ '\n' ∉ line.toList

instance (r : Subject) : DecidablePred (WellFormed r)
  | inside .. => inferInstanceAs (Decidable (_ ∧ _ ∧ _))
  | outside .. => inferInstanceAs (Decidable (_ ∧ _))
  | continuation _ => inferInstanceAs (Decidable (_ ∧ _ ∧ _))

end Item

inductive Grade
  | error
  | warning

def Grade.kind : Grade → String
  | error => "error"
  | warning => "warning"

def Grade.severity : Grade → Severity
  | error => .error
  | warning => .warning

structure Block where
  grade : Grade
  /-- Counted as the document counts. -/
  location : Location
  code : String
  message : String
  items : List Item

namespace Block

def opening (a : Anchor) (b : Block) : String :=
  (a.reported b.location).coded b.grade.kind b.code b.message

def lines (a : Anchor) (b : Block) : List String :=
  b.opening a :: b.items.map (Item.line a)

def diagnostic (r : Subject) (b : Block) : Diagnostic where
  severity := b.grade.severity
  span := .point (r.document.positionOf b.location)
  message := String.intercalate "\n" (b.message :: b.items.filterMap Item.addition?)
  related := b.items.filterMap (Item.related? r.document)
  source := r.source

structure WellFormed (r : Subject) (b : Block) : Prop where
  reaches : r.anchor.Reaches b.location.line
  readable : ReportLine.Readable (r.anchor.reported b.location) b.message
  code : ReportLine.IsCode b.code
  items : ∀ item ∈ b.items, item.WellFormed r

instance (r : Subject) (b : Block) : Decidable (b.WellFormed r) :=
  decidable_of_iff (r.anchor.Reaches b.location.line ∧
      ReportLine.Readable (r.anchor.reported b.location) b.message ∧ ReportLine.IsCode b.code ∧
      ∀ item ∈ b.items, item.WellFormed r)
    ⟨fun h => ⟨h.1, h.2.1, h.2.2.1, h.2.2.2⟩, fun h => ⟨h.1, h.2, h.3, h.4⟩⟩

end Block

end Transcript

structure Transcript where
  unit : String
  blocks : List Transcript.Block

namespace Transcript

def lines (a : Anchor) (t : Transcript) : List String :=
  t.unit :: t.blocks.flatMap (Block.lines a)

/-- A transcript as a report, with a line ending of the compiler's between its lines. -/
def render (a : Anchor) (ending : String) (t : Transcript) : String :=
  String.intercalate ending (t.lines a)

structure WellFormed (r : Subject) (t : Transcript) : Prop where
  unit_ne_empty : t.unit ≠ ""
  unit_isLoose : ReportLine.classify t.unit = none
  newline_notMem_unit : '\n' ∉ t.unit.toList
  blocks : ∀ b ∈ t.blocks, b.WellFormed r
  /-- No line ends in what would be taken for a part of the line ending. -/
  return_notLast : ∀ line ∈ t.lines r.anchor, line.toList.getLast? ≠ some '\r'

instance (r : Subject) (t : Transcript) : Decidable (t.WellFormed r) :=
  decidable_of_iff (t.unit ≠ "" ∧ ReportLine.classify t.unit = none ∧ '\n' ∉ t.unit.toList ∧
      (∀ b ∈ t.blocks, b.WellFormed r) ∧
      ∀ line ∈ t.lines r.anchor, line.toList.getLast? ≠ some '\r')
    ⟨fun h => ⟨h.1, h.2.1, h.2.2.1, h.2.2.2.1, h.2.2.2.2⟩, fun h => ⟨h.1, h.2, h.3, h.4, h.5⟩⟩

section Read

open Subject

variable {r : Subject} {earlier : List String}

/-- How a report with an open unit takes the line of an item. -/
theorem Item.taken {item : Item} (h : item.WellFormed r) (hopen : unitOpen earlier = true) :
    r.emits (item.line r.anchor) = false ∧
      r.relatedPlace? (item.line r.anchor) = item.related? r.document ∧
      (if r.isForeignNote (item.line r.anchor) || continues earlier (item.line r.anchor) then
        [item.line r.anchor] else []) = item.addition?.toList ∧
      unitOpen (earlier ++ [item.line r.anchor]) = true := by
  -- Only a continuation needs the open unit; the notes leave it as it is.
  cases item with
  | inside l message =>
      obtain ⟨hreaches, hname, hread⟩ := h
      have hk := ReportLine.classify_note hread
      have hin : r.isInDocument (r.anchor.reported l) = true := hname
      have hposition := position_reported hreaches
      simp [line, related?, addition?, emits, relatedPlace?, isForeignNote, continues,
        unitOpen_append_singleton, ReportLine.isLoose, hk, hin, hposition, hopen]
  | outside l message =>
      obtain ⟨hname, hread⟩ := h
      have hk := ReportLine.classify_note hread
      have hin : r.isInDocument l = false := hname
      simp [line, related?, addition?, emits, relatedPlace?, isForeignNote, continues,
        unitOpen_append_singleton, ReportLine.isLoose, hk, hin, hopen]
  | continuation more =>
      obtain ⟨hne, hk, -⟩ := h
      simp [line, related?, addition?, emits, relatedPlace?, isForeignNote, continues,
        unitOpen_append_singleton, ReportLine.isLoose, hk, hne, hopen]

theorem items_taken {items : List Item} (h : ∀ item ∈ items, item.WellFormed r)
    (hopen : unitOpen earlier = true) :
    (∀ line ∈ items.map (Item.line r.anchor), r.emits line = false) ∧
      (items.map (Item.line r.anchor)).filterMap r.relatedPlace? =
        items.filterMap (Item.related? r.document) ∧
      r.extension earlier (items.map (Item.line r.anchor)) = items.filterMap Item.addition? ∧
      unitOpen (earlier ++ items.map (Item.line r.anchor)) = true := by
  induction items generalizing earlier with
  | nil => simp [extension, hopen]
  | cons item items ih =>
      obtain ⟨hquiet, hrelated, hadded, hstill⟩ := Item.taken (h item (by simp)) hopen
      obtain ⟨hquiets, hrelateds, haddeds, hend⟩ :=
        ih (fun i hi => h i (by simp [hi])) hstill
      refine ⟨?_, ?_, ?_, ?_⟩
      · intro line hline
        rcases List.mem_cons.1 hline with rfl | hline
        · exact hquiet
        · exact hquiets line hline
      · rw [List.map_cons, List.filterMap_cons, List.filterMap_cons, hrelated, hrelateds]
      · rw [List.map_cons, extension, hadded, haddeds]
        cases ha : item.addition? <;> simp [ha]
      · rw [List.map_cons, List.append_cons]
        exact hend

theorem Block.opening_emits {b : Block} (h : b.WellFormed r) :
    r.emits (b.opening r.anchor) = true ∧
      r.role (b.opening r.anchor) = .opening
        (r.diagnostic b.grade.severity (r.document.positionOf b.location) b.message) := by
  have hposition := position_reported h.reaches
  obtain ⟨grade, location, code, message, items⟩ := b
  cases grade with
  | error =>
      have hk := ReportLine.classify_error h.readable h.code
      simp [opening, Grade.kind, Grade.severity, emits, role, hk, hposition]
  | warning =>
      have hk := ReportLine.classify_warning h.readable h.code
      simp [opening, Grade.kind, Grade.severity, emits, role, hk, hposition]

variable {s : Scan}

theorem newestFirst_after_lines (hs : Agrees s earlier) (hopen : unitOpen earlier = true)
    {b : Block} (h : b.WellFormed r) :
    (r.after s (b.lines r.anchor)).newestFirst = b.diagnostic r :: s.newestFirst ∧
      unitOpen (earlier ++ b.lines r.anchor) = true := by
  obtain ⟨hemits, hrole⟩ := Block.opening_emits h
  have hfirst : unitOpen (earlier ++ [b.opening r.anchor]) = true := by
    rw [unitOpen_append_singleton, r.isLoose_of_emits hemits]
    exact hopen
  obtain ⟨hquiet, hrelated, hadded, hend⟩ := items_taken h.items hfirst
  constructor
  · have hagrees := hs.absorb (r := r) (b.opening r.anchor)
    rw [Block.lines, after_cons, newestFirst_after_of_not_emits hagrees hquiet, hrole]
    simp [Scan.absorb, attach, hrelated, hadded, Block.diagnostic, Subject.diagnostic,
      Diagnostic.point]
  · rw [Block.lines, List.append_cons]
    exact hend

theorem newestFirst_after_blocks (hs : Agrees s earlier) (hopen : unitOpen earlier = true)
    {bs : List Block} (h : ∀ b ∈ bs, b.WellFormed r) :
    (r.after s (bs.flatMap (Block.lines r.anchor))).newestFirst =
      (bs.map (Block.diagnostic r)).reverse ++ s.newestFirst := by
  -- The unit is still open behind a block, so the next one starts from the same assumptions.
  induction bs generalizing s earlier with
  | nil => rfl
  | cons b bs ih =>
      obtain ⟨hnewest, hstill⟩ := newestFirst_after_lines hs hopen (h b (by simp))
      have hmore := ih (hs.after (r := r) (b.lines r.anchor)) hstill fun c hc => h c (by simp [hc])
      rw [List.flatMap_cons, after_append, hmore, hnewest]
      simp

def IsEnding (ending : String) : Prop :=
  ending = "\n" ∨ ending = "\r\n"

theorem reportLines_append {ending line : String} (he : IsEnding ending)
    (hline : '\n' ∉ line.toList) (hlast : line.toList.getLast? ≠ some '\r') (rest : String) :
    reportLines (line ++ ending ++ rest) = line :: reportLines rest := by
  have hbare : Text.bare line.toList = line.toList := by
    rw [Text.bare, if_neg hlast]
  rcases he with rfl | rfl
  · have htext : (line ++ "\n" ++ rest).toList = line.toList ++ '\n' :: rest.toList := by
      simp
    rw [reportLines, htext, Text.lines, Text.cells_append_cons, Text.cells_of_notMem hline]
    simp [reportLines, hbare]
  · have htext : (line ++ "\r\n" ++ rest).toList =
        (line.toList ++ ['\r']) ++ '\n' :: rest.toList := by
      simp
    have hreturn : '\n' ∉ line.toList ++ ['\r'] := by simp [hline]
    rw [reportLines, htext, Text.lines, Text.cells_append_cons, Text.cells_of_notMem hreturn]
    simp [reportLines, Text.bare]

theorem reportLines_intercalate {ending : String} (he : IsEnding ending) {lines : List String}
    (hne : lines ≠ []) (hline : ∀ line ∈ lines, '\n' ∉ line.toList)
    (hlast : ∀ line ∈ lines, line.toList.getLast? ≠ some '\r') :
    reportLines (String.intercalate ending lines) = lines := by
  induction lines with
  | nil => exact (hne rfl).elim
  | cons line lines ih =>
      have hl := hline line (by simp)
      have hr := hlast line (by simp)
      cases lines with
      | nil =>
          have hbare : Text.bare line.toList = line.toList := by
            rw [Text.bare, if_neg hr]
          simp [reportLines, Text.lines, Text.cells_of_notMem hl, hbare]
      | cons next lines =>
          have hmore := ih (by simp) (fun l hm => hline l (by simp [hm]))
            fun l hm => hlast l (by simp [hm])
          rw [String.intercalate_cons_cons, reportLines_append he hl hr, hmore]

theorem Item.newline_notMem_line {item : Item} (h : item.WellFormed r) :
    '\n' ∉ (item.line r.anchor).toList := by
  cases item with
  | inside l message =>
      obtain ⟨-, -, hread⟩ := h
      exact ReportLine.newline_notMem_saying hread.file.newline_notMem (by decide)
        hread.message.newline_notMem
  | outside l message =>
      obtain ⟨-, hread⟩ := h
      exact ReportLine.newline_notMem_saying hread.file.newline_notMem (by decide)
        hread.message.newline_notMem
  | continuation more => exact h.2.2

theorem Block.newline_notMem_lines {b : Block} (h : b.WellFormed r) :
    ∀ line ∈ b.lines r.anchor, '\n' ∉ line.toList := by
  intro line hline
  rcases List.mem_cons.1 hline with rfl | hline
  · have hkind : ReportLine.Introduces b.grade.kind := by
      cases b.grade
      · exact ReportLine.introduces_error
      · exact ReportLine.introduces_warning
    exact ReportLine.newline_notMem_saying h.readable.file.newline_notMem
      (h.code.introduces hkind).newline_notMem h.readable.message.newline_notMem
  · obtain ⟨item, hitem, rfl⟩ := List.mem_map.1 hline
    exact Item.newline_notMem_line (h.items item hitem)

theorem reportLines_render {t : Transcript} (h : t.WellFormed r) {ending : String}
    (he : IsEnding ending) : reportLines (t.render r.anchor ending) = t.lines r.anchor := by
  apply reportLines_intercalate he (List.cons_ne_nil _ _) _ h.return_notLast
  intro line hline
  rcases List.mem_cons.1 hline with rfl | hline
  · exact h.newline_notMem_unit
  · obtain ⟨b, hb, hline⟩ := List.mem_flatMap.1 hline
    exact Block.newline_notMem_lines (h.blocks b hb) line hline

/-- What is written as a report is read back: a diagnostic for each block, in their order,
with its severity, position and message, and with the notes and lines that follow it. -/
theorem read_render {t : Transcript} (h : t.WellFormed r) {ending : String}
    (he : IsEnding ending) :
    (r.read (t.render r.anchor ending)).1 = t.blocks.map (Block.diagnostic r) := by
  let opened : Scan := { Scan.start with openUnit := t.unit }
  have hfirst : Scan.start.absorb t.unit (r.role t.unit) = opened := by
    simp [role, h.unit_isLoose, Scan.absorb, Scan.start, opened]
  have hopen : unitOpen [t.unit] = true := by
    simp [unitOpen, ReportLine.isLoose, h.unit_isLoose, h.unit_ne_empty]
  have hagrees : Agrees opened [t.unit] := by
    simp [Agrees, hopen, opened, h.unit_ne_empty]
  have hnewest := newestFirst_after_blocks hagrees hopen h.blocks
  rw [read_fst, reportLines_render h he, Transcript.lines, after_cons, hfirst, Scan.diagnostics,
    hnewest]
  simp [opened, Scan.start]

end Read

/-- A fragment without a line directive, from the second line of its document on. -/
def staged : Subject :=
  ⟨⟨"g.md", "a\nbc\nd\n"⟩, .firstLineOffset 2 "s.cpp", "docs", .skip⟩

def unused : Transcript where
  unit := "s.cpp"
  blocks :=
    [{ grade := .warning
       location := ⟨"s.cpp", 3, some 2⟩
       code := "4101"
       message := "x"
       items :=
         [.inside ⟨"G.md", 2, none⟩ "here", .outside ⟨"v (x86).h", 9, some 1⟩ "far",
           .continuation "  ^"] },
     { grade := .error, location := ⟨"./s.cpp", 2, none⟩, code := "2065", message := "y",
       items := [] }]

theorem read_render_unused :
    unused.render staged.anchor "\r\n" =
        "s.cpp\r\ns.cpp(2,2): warning C4101: x\r\nG.md(1): note: here\r\n" ++
          "v (x86).h(9,1): note: far\r\n  ^\r\n./s.cpp(1): error C2065: y" ∧
      (staged.read (unused.render staged.anchor "\r\n")).1 =
        [⟨.warning, .point ⟨2, 1, 6⟩, "x\nv (x86).h(9,1): note: far\n  ^",
            [⟨⟨1, 0, 2⟩, "here"⟩], "docs"⟩,
          ⟨.error, .point ⟨1, 0, 2⟩, "y", [], "docs"⟩] := by
  have h : unused.WellFormed staged := by decide +kernel
  refine ⟨by decide +kernel, ?_⟩
  rw [read_render h (.inr rfl)]
  decide +kernel

end Transcript

end FenceCheck
