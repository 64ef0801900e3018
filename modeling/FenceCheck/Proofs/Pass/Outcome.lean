import FenceCheck.Proofs.Board.Entries
import FenceCheck.Proofs.Fragment.Cut
import FenceCheck.Proofs.Pass.Round

namespace FenceCheck

/-!
# What a pass comes to

A pass carries out the rounds of the fragments to be compiled up to the first that cannot be
written. On the board it leaves what these rounds report, at the end and in place of all that
stood there for the document. It fails exactly if a write failed.
-/

/-- The file given to the compiler, if the event is that. -/
def Event.compiled? : Event → Option Path
  | .compile path => some path
  | _ => none

namespace Round

variable {s : Stager} {rs : List Round}

theorem failure?_eq_none_iff {r : Round} : r.failure? s = none ↔ r.staged = true := by
  unfold failure? staged
  cases r.outcome <;> simp

theorem findSome?_failure?_eq_none_iff :
    rs.findSome? (failure? s) = none ↔ rs.takeWhile staged = rs := by
  rw [List.findSome?_eq_none_iff, List.takeWhile_eq_self_iff]
  exact forall₂_congr fun r _ => failure?_eq_none_iff

theorem filterMap_compiled?_events (r : Round) :
    (r.events s).filterMap Event.compiled? =
      if r.staged then [s.path r.fragment.id] else [] := by
  have hdeletions : (r.removal.map (Event.delete (s.path r.fragment.id))).filterMap
      Event.compiled? = [] := by
    simp [List.filterMap_map, Function.comp_def, Event.compiled?]
  unfold events staged
  cases r.outcome <;> simp [List.filterMap_cons, Event.compiled?, hdeletions]

/-- A file is given to the compiler in each round before the first failed write. -/
theorem filterMap_compiled?_carriedOut (s : Stager) (rs : List Round) :
    ((carriedOut rs).flatMap (events s)).filterMap Event.compiled? =
      (rs.takeWhile staged).map fun r => s.path r.fragment.id := by
  induction rs with
  | nil => rfl
  | cons r rs ih =>
      rw [carriedOut_cons]
      cases hstaged : r.staged with
      | true => simp [hstaged, filterMap_compiled?_events, ih]
      | false => simp [hstaged, filterMap_compiled?_events]

end Round

namespace Checker

variable {σ : Type} (w : Workbench σ) (c : Checker) (d : Document) (b : Board) (env : σ)

/-- The fragments of a document that are to be compiled. -/
def compilable : List Fragment :=
  (Fragment.extract c.config.target d.text d.identity).filter Fragment.isCompilable

/-- How the fragments of a document are staged. -/
def stagerOf : Stager :=
  c.stager (stagingDir (w.holds · env) c.dir ⟨d.identity⟩)

theorem pairwise_id_compilable : ((c.compilable d).map Fragment.id).Pairwise (· < ·) :=
  (Fragment.pairwise_id_extract c.config.target d.text d.identity).sublist
    (List.filter_sublist.map Fragment.id)

/-- The rounds of a document, as if none of them ended the pass. -/
def rounds : List Round :=
  (c.stagerOf w d env).rounds w (c.compilable d) env

theorem map_fragment_rounds : (c.rounds w d env).map Round.fragment = c.compilable d :=
  Stager.map_fragment_rounds w ..

/-- No two rounds of a document use one file. -/
theorem nodup_path_rounds :
    ((c.rounds w d env).map fun r => (c.stagerOf w d env).path r.fragment.id).Nodup := by
  have hids := c.pairwise_id_compilable d
  rw [← c.map_fragment_rounds w d env, List.map_map, List.pairwise_map] at hids
  rw [List.Nodup, List.pairwise_map]
  exact hids.imp fun hlt heq => Nat.ne_of_lt hlt (Stager.path_injective heq)

/-- What the rounds of a document report up to the first failed write. -/
def findings : List Diagnostic :=
  ((c.rounds w d env).takeWhile Round.staged).flatMap (c.reported d (c.stagerOf w d env))

theorem events_checkDocument :
    (c.checkDocument w d b env).trace.events =
      (Round.carriedOut (c.rounds w d env)).flatMap (Round.events (c.stagerOf w d env)) := by
  have htrace : (c.checkDocument w d b env).trace.events =
      (c.checkFragments w (c.stagerOf w d env) d (c.compilable d) env).2.1.events := by
    simp [checkDocument, stagerOf, compilable]
  rw [htrace]
  exact (checkFragments_eq w c (c.stagerOf w d env) d (c.compilable d) env).2

theorem board_checkDocument :
    (c.checkDocument w d b env).board =
      (b.clear d.identity).set d.identity (c.findings w d env) := by
  have h := (checkFragments_eq w c (c.stagerOf w d env) d (c.compilable d) env).1
  exact congrArg (fun g => (b.clear d.identity).set d.identity g.diagnostics) h

theorem result_checkDocument :
    (c.checkDocument w d b env).result =
      match (c.rounds w d env).findSome? (Round.failure? (c.stagerOf w d env)) with
      | some e => .error (.staging e)
      | none => .ok
          { fragments := (Region.cut d.text.toList).1.length
            compiled := (c.compilable d).length
            compilerFailures := (c.rounds w d env).countP Round.neverRan
            diagnostics := (c.findings w d env).length } := by
  have h := (checkFragments_eq w c (c.stagerOf w d env) d (c.compilable d) env).1
  have hresult : (c.checkDocument w d b env).result =
      match (c.checkFragments w (c.stagerOf w d env) d (c.compilable d) env).1.failure with
      | some e => .error (.staging e)
      | none => .ok ((c.checkFragments w (c.stagerOf w d env) d (c.compilable d) env).1.summary
          (Fragment.extract c.config.target d.text d.identity).length) := rfl
  rw [hresult, h]
  cases hfailure : (c.rounds w d env).findSome? (Round.failure? (c.stagerOf w d env)) with
  | some e =>
      rw [rounds] at hfailure
      simp only [hfailure]
  | none =>
      have hall := Round.findSome?_failure?_eq_none_iff.1 hfailure
      have hlength : (c.rounds w d env).length = (c.compilable d).length := by
        rw [← c.map_fragment_rounds w d env, List.length_map]
      rw [rounds] at hfailure hall hlength
      simp only [hfailure, Gathered.summary, findings, rounds, hall, hlength,
        Fragment.length_extract]

/-- A pass compiles the fragments before the first that cannot be written, one run each, and
no other; it shows what these runs report in place of all that stood there for the document,
and nothing else on the board changes; it fails exactly if a write failed. -/
theorem checkDocument_of_rounds :
    ((c.rounds w d env).map Round.fragment = c.compilable d ∧
      ((c.compilable d).map Fragment.id).Pairwise (· < ·)) ∧
    let s := c.stagerOf w d env
    let rs := c.rounds w d env
    let done := rs.takeWhile Round.staged
    let found := done.flatMap (c.reported d s)
    let o := c.checkDocument w d b env
    (o.trace.events.filterMap Event.compiled? = done.map (fun r => s.path r.fragment.id) ∧
      (o.trace.events.filterMap Event.compiled?).Nodup) ∧
    o.board.entries = b.entries.filter (fun e => e.1 != d.identity) ++ [(d.identity, found)] ∧
    o.result =
      match rs.findSome? (Round.failure? s) with
      | some e => .error (.staging e)
      | none => .ok
          { fragments := (Region.cut d.text.toList).1.length
            compiled := (c.compilable d).length
            compilerFailures := rs.countP Round.neverRan
            diagnostics := found.length } := by
  refine ⟨⟨c.map_fragment_rounds w d env, c.pairwise_id_compilable d⟩, ?_⟩
  intro s rs done found o
  have hcalls : o.trace.events.filterMap Event.compiled? =
      done.map fun r => s.path r.fragment.id := by
    rw [events_checkDocument]
    exact Round.filterMap_compiled?_carriedOut s rs
  have hdistinct : (done.map fun r => s.path r.fragment.id).Nodup :=
    (c.nodup_path_rounds w d env).sublist ((List.takeWhile_sublist Round.staged).map _)
  refine ⟨⟨hcalls, hcalls ▸ hdistinct⟩, ?_, result_checkDocument w c d b env⟩
  rw [board_checkDocument, Board.entries_set_clear]
  rfl

end Checker

end FenceCheck
