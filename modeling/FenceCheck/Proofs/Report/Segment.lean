import FenceCheck.Proofs.Report.Role

namespace FenceCheck

/-!
# Segments of a report

A report falls into segments, each of them a line that opens a diagnostic with the lines
up to the next such line. The diagnostic is made from its segment alone, except that an
earlier line can decide whether a line of no known kind continues a message: it does if it
is not empty and the nearest line before it that is of no known kind is not empty either.
-/

namespace ReportLine

def severity : ReportLine → Severity
  | warning .. => .warning
  | _ => .error

def site? : ReportLine → Option Location
  | error l _ | warning l _ | note l _ _ | unknown l _ _ => some l
  | fatal l _ => l

/-- The first line of the message that a line gives; a fatal error gives itself. -/
def headline (line : String) : ReportLine → String
  | error _ message | warning _ message | note _ message _ | unknown _ _ message => message
  | fatal .. => line

end ReportLine

namespace Subject

variable (r : Subject)

def emits (line : String) : Bool :=
  match ReportLine.classify line with
  | some (.error ..) | some (.warning ..) | some (.unknown ..) => true
  | some (.fatal location _) => location.isSome || r.fatalPolicy == .documentStart
  | some (.note ..) | none => false

/-- Where a line puts its diagnostic: without a location, at the start of the document. -/
def site (k : ReportLine) : Position :=
  match k.site? with
  | some l => r.position l
  | none => r.document.positionAt 1 0

def relatedPlace? (line : String) : Option Related :=
  match ReportLine.classify line with
  | some (.note l message _) => if r.isInDocument l then some ⟨r.position l, message⟩ else none
  | _ => none

def isForeignNote (line : String) : Bool :=
  match ReportLine.classify line with
  | some (.note l _ _) => !r.isInDocument l
  | _ => false

/-- Whether a unit is open behind some lines. -/
def unitOpen (earlier : List String) : Bool :=
  (earlier.filter ReportLine.isLoose).getLast?.any (· != "")

def continues (earlier : List String) (line : String) : Bool :=
  ReportLine.isLoose line && line != "" && unitOpen earlier

/-- The lines of a segment that extend the message, after some earlier lines. -/
def extension : List String → List String → List String
  | _, [] => []
  | earlier, line :: more =>
      (if r.isForeignNote line || continues earlier line then [line] else []) ++
        extension (earlier ++ [line]) more

/-- A diagnostic with what the lines behind it add. -/
def attach (earlier between : List String) (d : Diagnostic) : Diagnostic :=
  { d with
    message := String.intercalate "\n" (d.message :: r.extension earlier between)
    related := d.related ++ between.filterMap r.relatedPlace? }

theorem attach_nil (earlier : List String) (d : Diagnostic) : r.attach earlier [] d = d := by
  simp [attach, extension]

theorem attach_cons (earlier between : List String) (line : String) (d : Diagnostic) :
    r.attach earlier (line :: between) d =
      r.attach (earlier ++ [line]) between (r.attach earlier [line] d) := by
  cases hx : r.isForeignNote line || continues earlier line <;> cases hq : r.relatedPlace? line <;>
    simp [attach, extension, hx, hq]

section Single

variable {r} {earlier : List String} {line : String}

theorem attach_singleton_of_related {q : Related} (hq : r.relatedPlace? line = some q)
    (hx : (r.isForeignNote line || continues earlier line) = false) :
    r.attach earlier [line] = (·.addRelated q) := by
  funext d
  simp [attach, extension, hq, hx, Diagnostic.addRelated]

theorem attach_singleton_of_extends (hq : r.relatedPlace? line = none)
    (hx : (r.isForeignNote line || continues earlier line) = true) :
    r.attach earlier [line] = (·.addLine line) := by
  funext d
  simp [attach, extension, hq, hx, Diagnostic.addLine]

theorem attach_singleton_of_silent (hq : r.relatedPlace? line = none)
    (hx : (r.isForeignNote line || continues earlier line) = false) :
    r.attach earlier [line] = id := by
  funext d
  simp [attach, extension, hq, hx]

end Single

theorem unitOpen_append_singleton (earlier : List String) (line : String) :
    unitOpen (earlier ++ [line]) =
      if ReportLine.isLoose line then line != "" else unitOpen earlier := by
  by_cases h : ReportLine.isLoose line = true <;> simp [unitOpen, h]

/-- A line that opens a diagnostic makes it of what the line says. -/
theorem role_of_emits {line : String} {k : ReportLine} (hk : ReportLine.classify line = some k)
    (h : r.emits line = true) :
    r.role line = .opening (r.diagnostic k.severity (r.site k) (k.headline line)) := by
  unfold emits at h
  unfold role
  rw [hk] at h ⊢
  cases k with
  | error | warning | unknown => rfl
  | note => cases h
  | fatal location text =>
      cases location with
      | some l => rfl
      | none =>
          have hpolicy : r.fatalPolicy = .documentStart := by simpa using h
          simp only [hpolicy]
          rfl

/-- How a line that opens no diagnostic is taken. -/
theorem role_of_not_emits {line : String} (h : r.emits line = false) :
    (∃ q, r.role line = .related q ∧ r.relatedPlace? line = some q ∧
      r.isForeignNote line = false ∧ ReportLine.isLoose line = false) ∨
    (r.role line = .aside ∧ r.relatedPlace? line = none ∧
      r.isForeignNote line = true ∧ ReportLine.isLoose line = false) ∨
    (r.role line = .silent ∧ r.relatedPlace? line = none ∧
      r.isForeignNote line = false ∧ ReportLine.isLoose line = false) ∨
    (r.role line = .loose ∧ r.relatedPlace? line = none ∧
      r.isForeignNote line = false ∧ ReportLine.isLoose line = true) := by
  unfold emits at h
  simp only [role, relatedPlace?, isForeignNote, ReportLine.isLoose]
  cases hk : ReportLine.classify line with
  | none => simp
  | some k =>
      rw [hk] at h
      cases k with
      | error | warning | unknown => cases h
      | note l message text => by_cases hin : r.isInDocument l <;> simp [hin]
      | fatal location text =>
          cases location with
          | some l => cases h
          | none =>
              have hpolicy : r.fatalPolicy = .skip := by
                cases hp : r.fatalPolicy with
                | skip => rfl
                | documentStart => simp [hp] at h
              simp [hpolicy]

theorem isLoose_of_emits {line : String} (h : r.emits line = true) :
    ReportLine.isLoose line = false := by
  unfold emits at h
  unfold ReportLine.isLoose
  cases hk : ReportLine.classify line with
  | none => simp [hk] at h
  | some k => rfl

theorem exists_classify_of_emits {line : String} (h : r.emits line = true) :
    ∃ k, ReportLine.classify line = some k := by
  unfold emits at h
  cases hk : ReportLine.classify line with
  | none => simp [hk] at h
  | some k => exact ⟨k, rfl⟩

/-- Whether the scan and the lines that it has read agree about the unit. -/
def Agrees (s : Scan) (earlier : List String) : Prop :=
  s.openUnit = "" ↔ unitOpen earlier = false

variable {r} {s : Scan} {earlier : List String}

theorem Agrees.absorb (h : Agrees s earlier) (line : String) :
    Agrees (s.absorb line (r.role line)) (earlier ++ [line]) := by
  unfold Agrees at h ⊢
  rw [unitOpen_append_singleton]
  cases he : r.emits line with
  | true =>
      obtain ⟨k, hk⟩ := r.exists_classify_of_emits he
      rw [r.role_of_emits hk he, r.isLoose_of_emits he]
      exact h
  | false =>
      rcases r.role_of_not_emits he with ⟨q, hr, -, -, hl⟩ | ⟨hr, -, -, hl⟩ | ⟨hr, -, -, hl⟩ |
        ⟨hr, -, -, hl⟩
      · simpa [hr, hl, Scan.absorb] using h
      · simpa [hr, hl, Scan.absorb] using h
      · simpa [hr, hl, Scan.absorb] using h
      · rw [hr, hl]
        by_cases hopen : s.openUnit = ""
        · simp [Scan.absorb, hopen]
        · by_cases hline : line = "" <;> simp [Scan.absorb, hopen, hline]

theorem Agrees.after (h : Agrees s earlier) (lines : List String) :
    Agrees (r.after s lines) (earlier ++ lines) := by
  induction lines generalizing s earlier with
  | nil => simpa using h
  | cons line lines ih =>
      have := ih (h.absorb (r := r) line)
      simpa using this

/-- A line that opens no diagnostic adds to the newest one. -/
theorem newestFirst_absorb_of_not_emits (h : Agrees s earlier) {line : String}
    (he : r.emits line = false) :
    (s.absorb line (r.role line)).newestFirst =
      s.newestFirst.modifyHead (r.attach earlier [line]) := by
  have hid : s.newestFirst.modifyHead id = s.newestFirst := by
    cases s.newestFirst <;> rfl
  rcases r.role_of_not_emits he with ⟨q, hr, hq, hf, hl⟩ | ⟨hr, hq, hf, hl⟩ | ⟨hr, hq, hf, hl⟩ |
    ⟨hr, hq, hf, hl⟩
  · rw [hr, attach_singleton_of_related hq (by simp [hf, continues, hl])]
    rfl
  · rw [hr, attach_singleton_of_extends hq (by simp [hf])]
    rfl
  · rw [hr, attach_singleton_of_silent hq (by simp [hf, continues, hl]), hid]
    rfl
  · rw [hr]
    by_cases hc : continues earlier line = true
    · rw [attach_singleton_of_extends hq (by simp [hc])]
      simp only [continues, Bool.and_eq_true, bne_iff_ne] at hc
      have hopen : s.openUnit ≠ "" := fun hn => by simp [h.1 hn] at hc
      simp [Scan.absorb, hopen, hc.1.2]
    · rw [attach_singleton_of_silent hq (by simp [hf, hc]), hid]
      by_cases hopen : s.openUnit = ""
      · simp [Scan.absorb, hopen]
      · have hunit : unitOpen earlier = true := by
          cases hu : unitOpen earlier with
          | true => rfl
          | false => exact (hopen (h.2 hu)).elim
        have hline : line = "" := by simpa [continues, hl, hunit] using hc
        simp [Scan.absorb, hopen, hline]

theorem newestFirst_after_of_not_emits (h : Agrees s earlier) {between : List String}
    (hb : ∀ line ∈ between, r.emits line = false) :
    (r.after s between).newestFirst = s.newestFirst.modifyHead (r.attach earlier between) := by
  induction between generalizing s earlier with
  | nil =>
      have hattach : r.attach earlier [] = id := funext (r.attach_nil earlier)
      rw [hattach]
      cases hs : s.newestFirst <;> simp [hs]
  | cons line between ih =>
      have hline := newestFirst_absorb_of_not_emits h (hb line (by simp))
      have hmore := ih (h.absorb (r := r) line) fun l hl => hb l (by simp [hl])
      rw [after_cons, hmore, hline, List.modifyHead_modifyHead]
      congr 1
      funext d
      exact (r.attach_cons earlier between line d).symm

/-- Reading on changes the newest diagnostic at most, and puts others in front of it. -/
theorem exists_newestFirst_after (h : Agrees s earlier) (lines : List String) :
    ∃ newer, (r.after s lines).newestFirst = newer ++ s.newestFirst.tail ∧
      newer.length + s.newestFirst.tail.length = lines.countP r.emits + s.newestFirst.length := by
  induction lines generalizing s earlier with
  | nil =>
      cases hs : s.newestFirst with
      | nil => exact ⟨[], by simp [hs], by simp⟩
      | cons d ds => exact ⟨[d], by simp [hs], by simp; omega⟩
  | cons line lines ih =>
      obtain ⟨newer, hnewer, hlength⟩ := ih (h.absorb (r := r) line)
      rw [after_cons, hnewer]
      cases he : r.emits line with
      | true =>
          obtain ⟨k, hk⟩ := r.exists_classify_of_emits he
          rw [r.role_of_emits hk he] at hlength ⊢
          simp only [Scan.absorb, Scan.newestFirst_push, List.tail_cons, List.length_cons]
            at hlength ⊢
          rw [List.countP_cons_of_pos he]
          cases hs : s.newestFirst with
          | nil => exact ⟨newer, by simp, by simp [hs] at hlength ⊢; omega⟩
          | cons d ds =>
              exact ⟨newer ++ [d], by simp, by simp [hs] at hlength ⊢; omega⟩
      | false =>
          have hline := newestFirst_absorb_of_not_emits h he
          rw [hline] at hlength ⊢
          rw [List.countP_cons_of_neg (by simp [he])]
          cases hs : s.newestFirst with
          | nil => exact ⟨newer, by simp, by simpa [hs] using hlength⟩
          | cons d ds => exact ⟨newer, by simp, by simpa [hs] using hlength⟩

theorem agrees_start : Agrees Scan.start [] := by
  simp [Agrees, Scan.start, unitOpen]

theorem length_newestFirst_after (r : Subject) (lines : List String) :
    (r.after .start lines).newestFirst.length = lines.countP r.emits := by
  obtain ⟨newer, hnewer, hlength⟩ := exists_newestFirst_after (r := r) agrees_start lines
  rw [hnewer]
  simpa [Scan.start] using hlength

theorem length_read (r : Subject) (text : String) :
    (r.read text).1.length = (reportLines text).countP r.emits := by
  rw [read_fst, Scan.diagnostics, List.length_reverse, length_newestFirst_after]

/-- A report has one diagnostic for each line that opens one, in their order, and each is
made of the line that opens it and of the lines up to the next such line. -/
theorem getElem?_read_eq_segment (r : Subject) (text : String) :
    (r.read text).1.length = (reportLines text).countP r.emits ∧
      ∀ before line between after k,
        reportLines text = before ++ line :: (between ++ after) →
        ReportLine.classify line = some k → r.emits line = true →
        (∀ l ∈ between, r.emits l = false) → (∀ next ∈ after.head?, r.emits next = true) →
        (r.read text).1[before.countP r.emits]? = some
          { severity := k.severity
            span := .point (r.site k)
            message := String.intercalate "\n"
              (k.headline line :: r.extension (before ++ [line]) between)
            related := between.filterMap r.relatedPlace?
            source := r.source } := by
  refine ⟨length_read r text, fun before line between after k htext hk he hquiet hnext => ?_⟩
  -- The scan behind the line, behind what follows it quietly, and at the end.
  let d := r.diagnostic k.severity (r.site k) (k.headline line)
  let first := r.after .start before
  have hfirst : Agrees first before := agrees_start.after before
  have hopened : first.absorb line (r.role line) = first.push d := by
    rw [r.role_of_emits hk he]
    rfl
  have hsecond : Agrees (first.push d) (before ++ [line]) := hopened ▸ hfirst.absorb line
  have hthird := newestFirst_after_of_not_emits hsecond hquiet
  have hend : ∃ newer, (r.after .start (reportLines text)).newestFirst =
      newer ++ r.attach (before ++ [line]) between d :: first.newestFirst := by
    have hrun : r.after .start (reportLines text) =
        r.after (r.after (first.push d) between) after := by
      rw [htext, after_append, after_cons, after_append, hopened]
    rw [hrun]
    cases after with
    | nil => exact ⟨[], hthird⟩
    | cons next more =>
        have hagrees := (hsecond.after (r := r) between).absorb (r := r) next
        obtain ⟨newer, hnewer, -⟩ := exists_newestFirst_after (r := r) hagrees more
        obtain ⟨k', hk'⟩ := r.exists_classify_of_emits (hnext next (by simp))
        refine ⟨newer, ?_⟩
        rw [after_cons, hnewer, r.role_of_emits hk' (hnext next (by simp))]
        simp [Scan.absorb, hthird]
  obtain ⟨newer, hnewer⟩ := hend
  have hindex : before.countP r.emits = first.newestFirst.reverse.length := by
    rw [List.length_reverse, length_newestFirst_after]
  rw [read_fst, Scan.diagnostics, hnewer, List.reverse_append, List.reverse_cons,
    List.append_assoc, hindex, List.getElem?_append_right (Nat.le_refl _)]
  simp [attach, d, diagnostic, Diagnostic.point]

def guide : Subject :=
  ⟨⟨"g.md", "one\ntwo\nthree\n"⟩, .lineDirective, "docs", .skip⟩

/-- A report in which a unit is closed and opened again between the parts of a segment. -/
def reopenedUnit : String :=
  "u\r\ng.md(2,3): warning C4101: x\n  d\nv.h(9): note: far\n\n" ++
    "u\ncl : fatal error C1083: z\ng.md(1): note: here\ng.md(3): error C2065: y"

theorem getElem?_read_eq_segment_reopenedUnit :
    reportLines reopenedUnit = ["u"] ++ "g.md(2,3): warning C4101: x" ::
        (["  d", "v.h(9): note: far", "", "u", "cl : fatal error C1083: z",
          "g.md(1): note: here"] ++ ["g.md(3): error C2065: y"]) ∧
      (guide.read reopenedUnit).1[0]? = some
        { severity := .warning
          span := .point ⟨1, 2, 6⟩
          message := "x\n  d\nv.h(9): note: far"
          related := [⟨⟨0, 0, 0⟩, "here"⟩]
          source := "docs" } := by
  have htext : reportLines reopenedUnit =
      ["u"] ++ "g.md(2,3): warning C4101: x" ::
        (["  d", "v.h(9): note: far", "", "u", "cl : fatal error C1083: z",
          "g.md(1): note: here"] ++ ["g.md(3): error C2065: y"]) := by
    decide +kernel
  have hkind : ReportLine.classify "g.md(2,3): warning C4101: x" =
      some (.warning ⟨"g.md", 2, some 3⟩ "x") := by
    decide +kernel
  have h := (getElem?_read_eq_segment guide reopenedUnit).2 _ _ _ _ _ htext hkind
    (by decide +kernel) (by decide +kernel) (by decide +kernel)
  have hcount : ["u"].countP guide.emits = 0 := by decide +kernel
  rw [hcount] at h
  refine ⟨htext, ?_⟩
  rw [h]
  decide +kernel

end Subject

end FenceCheck
