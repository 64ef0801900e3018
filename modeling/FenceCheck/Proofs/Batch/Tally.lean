import FenceCheck.Proofs.Batch.ExitCode
import FenceCheck.Proofs.Pass.Outcome

namespace FenceCheck

/-!
# What a batch counts and what it shows

A batch counts what is found in the passes that come to an end. It shows what is found in the
last pass of each document, whether or not that pass comes to an end. So it counts too little
if such a pass is cut short, and too much if a document is checked again, as it is when it is
given under two names.
-/

/-- A pass over a document that could be read. -/
structure Pass where
  document : String
  found : List Diagnostic
  /-- Whether each fragment to be compiled was staged. -/
  finished : Bool

namespace Pass

/-- The passes behind which there is no other one of the same document. -/
def standing : List Pass → List Pass
  | [] => []
  | a :: as => if a.document ∈ as.map document then standing as else a :: standing as

/-- The passes behind which there is another one of the same document. -/
def replaced : List Pass → List Pass
  | [] => []
  | a :: as => if a.document ∈ as.map document then a :: replaced as else replaced as

/-- How much was found in some passes. -/
def tally (as : List Pass) : Nat :=
  (as.flatMap found).length

@[simp] theorem tally_nil : tally [] = 0 := rfl

@[simp] theorem tally_cons (a : Pass) (as : List Pass) :
    tally (a :: as) = a.found.length + tally as := by
  simp [tally]

/-- What is found in finished passes is found in standing ones, but for those that are not
finished, or in replaced ones. -/
theorem tally_finished (as : List Pass) :
    tally (as.filter finished) + tally ((standing as).filter fun a => !a.finished) =
      tally (standing as) + tally ((replaced as).filter finished) := by
  induction as with
  | nil => rfl
  | cons a as ih =>
      by_cases hlater : a.document ∈ as.map document
      · rw [standing, replaced, if_pos hlater, if_pos hlater]
        cases hfinished : a.finished with
        | true =>
            simp only [List.filter_cons, hfinished, if_true, tally_cons]
            omega
        | false =>
            simp only [List.filter_cons, hfinished, Bool.false_eq_true, if_false]
            exact ih
      · rw [standing, replaced, if_neg hlater, if_neg hlater]
        cases hfinished : a.finished with
        | true =>
            simp only [List.filter_cons, hfinished, if_true, Bool.not_true, Bool.false_eq_true,
              if_false, tally_cons]
            omega
        | false =>
            simp only [List.filter_cons, hfinished, Bool.false_eq_true, if_false, Bool.not_false,
              if_true, tally_cons]
            omega

theorem standing_sublist (as : List Pass) : (standing as).Sublist as := by
  induction as with
  | nil => exact List.Sublist.refl _
  | cons a as ih =>
      rw [standing]
      split
      · exact ih.cons a
      · exact ih.cons_cons a

/-- If all passes are finished and nothing is found in them, nothing stands. -/
theorem tally_standing_eq_zero {as : List Pass} (hfound : tally (as.filter finished) = 0)
    (hfinished : as.filter (fun a => !a.finished) = []) : tally (standing as) = 0 := by
  have hstanding : (standing as).filter (fun a => !a.finished) = [] := by
    have h := (standing_sublist as).filter fun a => !a.finished
    rw [hfinished] at h
    exact List.sublist_nil.1 h
  have hbalance := tally_finished as
  rw [hstanding, tally_nil, hfound] at hbalance
  omega

theorem standing_append (as bs : List Pass) :
    standing (as ++ bs) =
      (standing as).filter (fun a => a.document ∉ bs.map document) ++ standing bs := by
  induction as with
  | nil => rfl
  | cons a as ih =>
      rw [List.cons_append, standing, standing, ih, List.map_append]
      by_cases has : a.document ∈ as.map document
      · rw [if_pos (List.mem_append_left _ has), if_pos has]
      · rw [if_neg has]
        by_cases hbs : a.document ∈ bs.map document
        · rw [if_pos (List.mem_append_right _ hbs), List.filter_cons_of_neg (by simpa using hbs)]
        · rw [if_neg (by simp only [List.mem_append, has, hbs, or_self, not_false_eq_true]),
            List.filter_cons_of_pos (by simpa using hbs), List.cons_append]

/-- The entry of a pass on a board. -/
def entry (a : Pass) : String × List Diagnostic :=
  (a.document, a.found)

/-- The entries of a board after some passes. -/
def posted (es : List (String × List Diagnostic)) (as : List Pass) :
    List (String × List Diagnostic) :=
  es.filter (fun e => e.1 ∉ as.map document) ++ (standing as).map entry

@[simp] theorem posted_nil (es : List (String × List Diagnostic)) : posted es [] = es := by
  simp [posted, standing]

theorem posted_append (es : List (String × List Diagnostic)) (as bs : List Pass) :
    posted es (as ++ bs) = posted (posted es as) bs := by
  have hold : (es.filter fun e => e.1 ∉ as.map document).filter
      (fun e => e.1 ∉ bs.map document) =
        es.filter fun e => e.1 ∉ (as ++ bs).map document := by
    rw [List.filter_filter]
    refine List.filter_congr fun e _ => ?_
    rw [List.map_append, ← Bool.decide_and, decide_eq_decide, List.mem_append, not_or, and_comm]
  have hnew : ((standing as).map entry).filter (fun e => e.1 ∉ bs.map document) =
      ((standing as).filter fun a => a.document ∉ bs.map document).map entry := by
    rw [List.filter_map]
    rfl
  rw [posted, posted, posted, List.filter_append, hold, hnew, standing_append,
    List.map_append (f := entry), List.append_assoc]

end Pass

namespace Checker

variable {σ : Type} (w : Workbench σ) (c : Checker)

def pass (d : Document) (env : σ) : Pass where
  document := d.identity
  found := c.findings w d env
  finished := (c.rounds w d env).all Round.staged

/-- The pass over a file, unless that cannot be read. -/
def pass? (p : Path) (env : σ) : Option Pass :=
  match w.readText p env with
  | .error _ => none
  | .ok text => some (c.pass w ⟨(Path.absolute w.cwd p).text, text⟩ env)

/-- The passes over some files. What the board shows has no effect on them. -/
def passes : List Path → σ → List Pass
  | [], _ => []
  | p :: ps, env => (c.pass? w p env).toList ++ passes ps (c.checkFile w p .empty env).env

/-- How much of a pass is counted. -/
def counted (o : Outcome σ) : Nat :=
  match o.result with
  | .ok s => s.diagnostics
  | .error _ => 0

def failed (o : Outcome σ) : Bool :=
  match o.result with
  | .ok _ => false
  | .error _ => true

theorem finished_pass_iff (d : Document) (env : σ) :
    (c.pass w d env).finished = true ↔
      (c.rounds w d env).findSome? (Round.failure? (c.stagerOf w d env)) = none := by
  rw [Round.findSome?_failure?_eq_none_iff, List.takeWhile_eq_self_iff]
  exact List.all_eq_true

theorem failed_checkDocument (d : Document) (b : Board) (env : σ) :
    failed (c.checkDocument w d b env) = !(c.pass w d env).finished := by
  have hfinished := c.finished_pass_iff w d env
  unfold failed
  rw [result_checkDocument]
  cases hfailure : (c.rounds w d env).findSome? (Round.failure? (c.stagerOf w d env)) with
  | some e => simpa [hfailure] using hfinished
  | none => simpa [hfailure] using hfinished

theorem counted_checkDocument (d : Document) (b : Board) (env : σ) :
    counted (c.checkDocument w d b env) =
      if (c.pass w d env).finished then (c.pass w d env).found.length else 0 := by
  have hfinished := c.finished_pass_iff w d env
  unfold counted
  rw [result_checkDocument]
  cases hfailure : (c.rounds w d env).findSome? (Round.failure? (c.stagerOf w d env)) with
  | some e => rw [if_neg (by simp [hfinished, hfailure])]
  | none =>
      rw [if_pos (hfinished.2 hfailure)]
      rfl

theorem counted_checkFile (p : Path) (b : Board) (env : σ) :
    counted (c.checkFile w p b env) =
      Pass.tally ((c.pass? w p env).toList.filter Pass.finished) := by
  unfold checkFile pass?
  cases w.readText p env with
  | error fault => rfl
  | ok text =>
      dsimp only
      rw [counted_checkDocument, Option.toList_some, List.filter_cons]
      split <;> simp

/-- A file fails if its pass is not finished. -/
theorem length_unfinished_le_failed (p : Path) (b : Board) (env : σ) :
    ((c.pass? w p env).toList.filter fun a => !a.finished).length ≤
      (failed (c.checkFile w p b env)).toNat := by
  unfold checkFile pass?
  cases w.readText p env with
  | error fault => exact Nat.zero_le _
  | ok text =>
      dsimp only
      rw [failed_checkDocument, Option.toList_some]
      cases hfinished : (c.pass w ⟨(Path.absolute w.cwd p).text, text⟩ env).finished with
      | true => simp [hfinished]
      | false => simp [hfinished]

theorem entries_checkDocument (d : Document) (b : Board) (env : σ) :
    (c.checkDocument w d b env).board.entries = Pass.posted b.entries [c.pass w d env] := by
  rw [board_checkDocument, Board.entries_set_clear, Pass.posted]
  congr 1
  refine List.filter_congr fun e _ => ?_
  simp [pass, bne, beq_eq_decide]

theorem entries_checkFile (p : Path) (b : Board) (env : σ) :
    (c.checkFile w p b env).board.entries = Pass.posted b.entries (c.pass? w p env).toList := by
  unfold checkFile pass?
  cases w.readText p env with
  | error fault => exact (Pass.posted_nil b.entries).symm
  | ok text => exact c.entries_checkDocument w _ b env

theorem env_checkFile (p : Path) (b : Board) (env : σ) :
    (c.checkFile w p b env).env = (c.checkFile w p .empty env).env := by
  unfold checkFile
  cases w.readText p env <;> rfl

end Checker

namespace Batch

variable {σ : Type} (w : Workbench σ) (c : Checker)

theorem diagnostics_add (b : Batch σ) (o : Checker.Outcome σ) :
    (b.add o).summary.diagnostics = b.summary.diagnostics + Checker.counted o := by
  unfold add Checker.counted
  cases o.result <;> rfl

theorem failures_add (b : Batch σ) (o : Checker.Outcome σ) :
    (b.add o).failures = b.failures + (Checker.failed o).toNat := by
  unfold add Checker.failed
  cases o.result <;> rfl

theorem board_add (b : Batch σ) (o : Checker.Outcome σ) : (b.add o).board = o.board := by
  unfold add
  cases o.result <;> rfl

theorem env_add (b : Batch σ) (o : Checker.Outcome σ) : (b.add o).env = o.env := by
  unfold add
  cases o.result <;> rfl

theorem diagnostics_checkAll (ps : List Path) (b : Batch σ) :
    (b.checkAll w c ps).summary.diagnostics =
      b.summary.diagnostics + Pass.tally ((c.passes w ps b.env).filter Pass.finished) := by
  induction ps generalizing b with
  | nil => rfl
  | cons p ps ih =>
      have hstep : b.checkAll w c (p :: ps) =
          (b.add (c.checkFile w p b.board b.env)).checkAll w c ps := rfl
      rw [hstep, ih, diagnostics_add, Checker.counted_checkFile, env_add, Checker.env_checkFile]
      simp [Checker.passes, Pass.tally, Nat.add_assoc]

theorem length_unfinished_le_failures (ps : List Path) (b : Batch σ) :
    b.failures + ((c.passes w ps b.env).filter fun a => !a.finished).length ≤
      (b.checkAll w c ps).failures := by
  induction ps generalizing b with
  | nil => exact Nat.le_refl _
  | cons p ps ih =>
      have hlater := ih (b.add (c.checkFile w p b.board b.env))
      have hfirst := c.length_unfinished_le_failed w p b.board b.env
      rw [failures_add, env_add, Checker.env_checkFile] at hlater
      rw [Checker.passes, List.filter_append, List.length_append]
      show _ ≤ ((b.add (c.checkFile w p b.board b.env)).checkAll w c ps).failures
      omega

theorem unfinished_eq_nil (ps : List Path) (b : Batch σ) (h : (b.checkAll w c ps).failures = 0) :
    ((c.passes w ps b.env).filter fun a => !a.finished) = [] := by
  have hle := length_unfinished_le_failures w c ps b
  exact List.length_eq_zero_iff.1 (by omega)

theorem entries_checkAll (ps : List Path) (b : Batch σ) :
    (b.checkAll w c ps).board.entries = Pass.posted b.board.entries (c.passes w ps b.env) := by
  induction ps generalizing b with
  | nil => exact (Pass.posted_nil b.board.entries).symm
  | cons p ps ih =>
      have hstep : b.checkAll w c (p :: ps) =
          (b.add (c.checkFile w p b.board b.env)).checkAll w c ps := rfl
      rw [hstep, ih, board_add, env_add, Checker.env_checkFile, Checker.entries_checkFile,
        Checker.passes, Pass.posted_append]

end Batch

namespace Cli

def Plan.passes (p : Plan) (launch : Launcher) (d : Disk) : List Pass :=
  p.checker.passes (p.workbench launch d) p.files d

theorem Plan.diagnostics_carryOut (p : Plan) (launch : Launcher) (d : Disk) :
    (p.carryOut launch d).summary.diagnostics =
      Pass.tally ((p.passes launch d).filter Pass.finished) := by
  have h := Batch.diagnostics_checkAll (p.workbench launch d) p.checker p.files (.start d)
  rwa [show (Batch.start d).summary.diagnostics = 0 from rfl, Nat.zero_add] at h

theorem Plan.entries_carryOut (p : Plan) (launch : Launcher) (d : Disk) :
    (p.carryOut launch d).board.entries = (Pass.standing (p.passes launch d)).map Pass.entry :=
  Batch.entries_checkAll (p.workbench launch d) p.checker p.files (.start d)

/-- A check that ends with zero has nothing to show. -/
theorem Plan.tally_standing_of_exitCode {p : Plan} {launch : Launcher} {d : Disk}
    (h : (p.carryOut launch d).exitCode = 0) :
    Pass.tally (Pass.standing (p.passes launch d)) = 0 := by
  obtain ⟨hfailures, -, hdiagnostics⟩ := Batch.exitCode_eq_zero_iff.1 h
  rw [p.diagnostics_carryOut] at hdiagnostics
  exact Pass.tally_standing_eq_zero hdiagnostics
    (Batch.unfinished_eq_nil (p.workbench launch d) p.checker p.files (.start d) hfailures)

/-- What is found is shown document by document, or in one array; what is counted differs from
that by the passes that were cut short and by those that were replaced. -/
theorem diagnostics_check (launch : Launcher) (m : Manner) (r : CheckRequest) (d : Disk) :
    match r.plan d with
    | (.error text, log) => (check launch m r d).1 = .screen (m.failed log text)
    | (.ok p, _) => ∃ rep, (check launch m r d).1 = .report m r.format r.quiet rep ∧
        let as := p.passes launch d
        let shown := rep.results.flatMap Prod.snd
        rep.results = (Pass.standing as).map (fun a => (shownName d.cwdPath a.document, a.found)) ∧
        (∀ quiet elapsed, ∃ items, items.length = shown.length ∧
          rep.stdout m .json quiet elapsed = (Json.array items).print ++ "\n") ∧
        rep.summary.diagnostics = Pass.tally (as.filter Pass.finished) ∧
        rep.summary.diagnostics +
            Pass.tally ((Pass.standing as).filter fun a => !a.finished) =
          shown.length + Pass.tally ((Pass.replaced as).filter Pass.finished) ∧
        (rep.exitCode = 0 → shown = []) := by
  unfold check
  rcases r.plan d with ⟨planned, log⟩
  cases planned with
  | error text => rfl
  | ok p =>
      refine ⟨_, rfl, ?_⟩
      intro as shown
      have hresults : (Report.ofBatch d.cwdPath p.files.length log (p.carryOut launch d)).results =
          (Pass.standing as).map fun a => (shownName d.cwdPath a.document, a.found) := by
        rw [Report.ofBatch, p.entries_carryOut, List.map_map]
        rfl
      have hshown : shown.length = Pass.tally (Pass.standing as) := by
        simp only [shown, hresults, Pass.tally, List.flatMap_map]
      have hcount := p.diagnostics_carryOut launch d
      refine ⟨hresults, fun quiet elapsed => ⟨_, ?_, rfl⟩, hcount, ?_, fun hzero => ?_⟩
      · simp [shown, List.length_flatMap]
      · rw [hshown]
        show (p.carryOut launch d).summary.diagnostics + _ = _
        rw [hcount]
        exact Pass.tally_finished as
      · exact List.length_eq_zero_iff.1 (hshown.trans (Plan.tally_standing_of_exitCode hzero))

/-- What a check counts and how much it shows. -/
def Result.counts? : Result → Option (Nat × Nat)
  | .screen _ => none
  | .report _ _ _ rep => some (rep.summary.diagnostics, (rep.results.flatMap Prod.snd).length)

/-- A compiler that finds the same fault in all that it is given. -/
def complaining : Launcher := fun _ d _ _ =>
  (.ok ⟨some 2, "a.md(2): error C2065: x".toUTF8, ByteArray.empty, 0⟩, d)

/-- A document with two fragments, of which the second cannot be staged. -/
def obstructed : Disk :=
  ⟨.dir [("a.md", .file "```cpp\nx\n```\n```cpp\ny\n```".toUTF8), ("snippet-2.cpp", .dir [])], []⟩

/-- One document under two names. -/
def doubled : Plan :=
  ⟨.default, ⟨"/"⟩, [⟨"/a.md"⟩, ⟨"a.md"⟩]⟩

/-- Less can be counted than is shown, and more. -/
theorem counts_ne_shown :
    (check complaining ⟨false, false⟩ failing obstructed).1.counts? = some (0, 1) ∧
      (doubled.carryOut complaining snippet).summary.diagnostics = 2 ∧
        (doubled.carryOut complaining snippet).board.total = 1 := by
  decide +kernel

end Cli

end FenceCheck
