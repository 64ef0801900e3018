import FenceCheck.Proofs.Document.Address
import FenceCheck.Proofs.Pass.Outcome
import FenceCheck.Proofs.Report.Role

namespace FenceCheck

/-!
# What is published stands in the document

Whatever a compiler writes, each diagnostic that is read from it is a point of the document,
and the places related to it are too. Lines and columns come in by the position of a location
only, and the document moves these to a place of its own.
-/

/-- Whether a diagnostic is a point of a document, under a tag. -/
structure Diagnostic.Placed (d : Document) (source : String) (x : Diagnostic) : Prop where
  point : x.span.start = x.span.stop
  addressed : d.Addresses x.span.start
  related : ∀ q ∈ x.related, d.Addresses q.position
  source_eq : x.source = source

namespace Diagnostic.Placed

variable {d : Document} {source : String} {x : Diagnostic}

theorem addLine (h : x.Placed d source) (line : String) : (x.addLine line).Placed d source :=
  ⟨h.point, h.addressed, h.related, h.source_eq⟩

theorem addRelated (h : x.Placed d source) {q : Related} (hq : d.Addresses q.position) :
    (x.addRelated q).Placed d source := by
  refine ⟨h.point, h.addressed, ?_, h.source_eq⟩
  intro p hp
  rcases List.mem_append.1 hp with hp | hp
  · exact h.related p hp
  · rw [List.mem_singleton.1 hp]
    exact hq

end Diagnostic.Placed

/-- Whether what a line brings in stands in a document. -/
def Role.Placed (d : Document) (source : String) : Role → Prop
  | .opening x => x.Placed d source
  | .related q => d.Addresses q.position
  | .aside | .silent | .loose => True

namespace Scan

def Placed (d : Document) (source : String) (s : Scan) : Prop :=
  ∀ x ∈ s.newestFirst, x.Placed d source

variable {d : Document} {source : String} {s : Scan}

theorem Placed.amend (h : s.Placed d source) {f : Diagnostic → Diagnostic}
    (hf : ∀ x : Diagnostic, x.Placed d source → (f x).Placed d source) :
    (s.amend f).Placed d source := by
  obtain ⟨unit, ds⟩ := s
  cases ds with
  | nil => exact h
  | cons first ds =>
      intro x hx
      rcases List.mem_cons.1 hx with rfl | hx
      · exact hf first (h first (by simp))
      · exact h x (by simp [hx])

theorem Placed.absorb (h : s.Placed d source) {role : Role} (hrole : role.Placed d source)
    (line : String) : (s.absorb line role).Placed d source := by
  cases role with
  | opening x =>
      intro y hy
      rcases List.mem_cons.1 hy with rfl | hy
      · exact hrole
      · exact h y hy
  | related q => exact h.amend fun x hx => hx.addRelated hrole
  | aside => exact h.amend fun x hx => hx.addLine line
  | silent => exact h
  | loose =>
      dsimp only [Scan.absorb]
      split
      · exact h
      · split
        · exact h
        · exact h.amend fun x hx => hx.addLine line

end Scan

namespace Subject

variable (r : Subject)

theorem placed_diagnostic (severity : Severity) (line column : Nat) (message : String) :
    (r.diagnostic severity (r.document.positionAt line column) message).Placed r.document
      r.source :=
  ⟨rfl, r.document.addresses_positionAt line column, nofun, rfl⟩

theorem placed_role (line : String) : (r.role line).Placed r.document r.source := by
  unfold role
  cases ReportLine.classify line with
  | none => trivial
  | some k =>
      cases k with
      | error l message => exact r.placed_diagnostic ..
      | warning l message => exact r.placed_diagnostic ..
      | unknown l category message => exact r.placed_diagnostic ..
      | note l message text =>
          dsimp only
          split
          · exact r.document.addresses_positionAt ..
          · trivial
      | fatal location text =>
          cases location with
          | some l => exact r.placed_diagnostic ..
          | none =>
              dsimp only
              split
              · trivial
              · exact r.placed_diagnostic ..

theorem placed_after {s : Scan} (h : s.Placed r.document r.source) (lines : List String) :
    (r.after s lines).Placed r.document r.source := by
  induction lines generalizing s with
  | nil => exact h
  | cons line lines ih => exact ih (h.absorb (r.placed_role line) line)

theorem placed_of_mem_read {text : String} {x : Diagnostic} (h : x ∈ (r.read text).1) :
    x.Placed r.document r.source := by
  have hstart : Scan.start.Placed r.document r.source := nofun
  rw [read_fst] at h
  exact r.placed_after hstart _ x (List.mem_reverse.1 h)

end Subject

namespace Checker

variable {σ : Type} (w : Workbench σ) (c : Checker) (d : Document) (b : Board) (env : σ)

theorem placed_of_mem_findings {x : Diagnostic} (h : x ∈ c.findings w d env) :
    x.Placed d c.config.sourceTag := by
  obtain ⟨r, -, hx⟩ := List.mem_flatMap.1 h
  unfold reported at hx
  cases houtcome : r.outcome with
  | error fault =>
      rw [houtcome] at hx
      cases hx
  | ok run =>
      simp only [houtcome] at hx
      split at hx
      · cases hx
      · exact (c.subject d r.fragment _).placed_of_mem_read hx

/-- After a pass all that the board shows for the document stands in it, and the bytes from
which positions are read can be cut out for any line and column. -/
theorem checkDocument_placed :
    (∀ line column, d.positionBySlice? line column = some (d.positionAt line column)) ∧
      ∃ ds, (c.checkDocument w d b env).board.get? d.identity = some ds ∧
        ∀ x ∈ ds, x.Placed d c.config.sourceTag := by
  refine ⟨d.positionBySlice?_eq, c.findings w d env, ?_, fun x hx => ?_⟩
  · rw [board_checkDocument, Board.get?_set_clear]
  · exact c.placed_of_mem_findings w d env hx

end Checker

end FenceCheck
