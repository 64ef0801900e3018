import FenceCheck.Cli
import FenceCheck.Host
import FenceCheck.Proofs.Report.Segment

namespace FenceCheck

/-!
# The exit code of a check

The exit code counts diagnostics and not the runs that failed. A check ends with zero
exactly if nothing it needed was missing and every run was quiet: it succeeded, or it took
place and no line of what it wrote opens a diagnostic. So a compiler that fails without a
word, or with words of no known kind, passes for one that found nothing wrong.
-/

namespace CompilerRun

/-- Whether nothing comes of a run, because it succeeded or because what it wrote says
nothing of a known kind. -/
def Quiet (r : Subject) (run : CompilerRun) : Prop :=
  run.succeeded = true ∨ run.spawnError = none ∧
    ∀ text ∈ run.report?, ∀ line ∈ Subject.reportLines text, r.emits line = false

instance (r : Subject) (run : CompilerRun) : Decidable (run.Quiet r) :=
  inferInstanceAs (Decidable (_ ∨ _ ∧ _))

theorem quiet_iff {r : Subject} {run : CompilerRun} :
    run.Quiet r ↔ run.spawnError = none ∧
      ∀ text ∈ run.report?, ∀ line ∈ Subject.reportLines text, r.emits line = false := by
  constructor
  · rintro (h | h)
    · have hnone := (report?_eq_none_iff run).2 h
      have hspawn : run.spawnError = none := by
        simp only [succeeded, Bool.and_eq_true, Option.isNone_iff_eq_none] at h
        exact h.1
      exact ⟨hspawn, by simp [hnone]⟩
    · exact h
  · exact Or.inr

end CompilerRun

namespace Checker

variable {σ : Type} (w : Workbench σ) (c : Checker) (P : Subject → CompilerRun → Prop)

/-- Whether each of some fragments is staged and its run satisfies a condition. -/
def EveryRun (s : Stager) (d : Document) : List Fragment → σ → Prop
  | [], _ => True
  | f :: fs, env =>
      let (staged, _, env) := s.stage w f.id f.text env
      let (run, _, env) := w.compile (s.path f.id) env
      staged = .ok () ∧ P (c.subject d f (s.path f.id)) run ∧
        EveryRun s d fs (s.release w f.id env).2

/-- The same of the fragments to be compiled of a file, which can be read. -/
def EveryRunOf (p : Path) (env : σ) : Prop :=
  ∃ text, w.readText p env = .ok text ∧
    let d : Document := ⟨(Path.absolute w.cwd p).text, text⟩
    c.EveryRun w P (c.stager (stagingDir (w.holds · env) c.dir ⟨d.identity⟩)) d
      ((Fragment.extract c.config.target d.text d.identity).filter Fragment.isCompilable) env

section Decide

variable [∀ r run, Decidable (P r run)]

instance decidableStaged : (staged : Except StagingError Unit) → Decidable (staged = .ok ())
  | .ok () => isTrue rfl
  | .error _ => isFalse nofun

instance decidableEveryRun (s : Stager) (d : Document) :
    (fs : List Fragment) → (env : σ) → Decidable (c.EveryRun w P s d fs env)
  | [], _ => isTrue trivial
  | f :: fs, env =>
      have := decidableEveryRun s d fs
      let one := s.stage w f.id f.text env
      let ran := w.compile (s.path f.id) one.2.2
      decidable_of_iff (one.1 = .ok () ∧ P (c.subject d f (s.path f.id)) ran.1 ∧
        c.EveryRun w P s d fs (s.release w f.id ran.2.2).2) Iff.rfl

instance (p : Path) (env : σ) : Decidable (c.EveryRunOf w P p env) :=
  match htext : w.readText p env with
  | .error _ => isFalse fun ⟨_, h, _⟩ => by
      rw [htext] at h
      cases h
  | .ok text =>
      let d : Document := ⟨(Path.absolute w.cwd p).text, text⟩
      decidable_of_iff
        (c.EveryRun w P (c.stager (stagingDir (w.holds · env) c.dir ⟨d.identity⟩)) d
          ((Fragment.extract c.config.target d.text d.identity).filter Fragment.isCompilable) env)
        (by simp [EveryRunOf, htext, d])

end Decide

/-- Whether nothing stands in the way of some fragments, and nothing is found in them. -/
structure Gathered.Clean (g : Gathered) : Prop where
  failure : g.failure = none
  compilerFailures : g.compilerFailures = 0
  diagnostics : g.diagnostics = []

def Outcome.Clean (o : Outcome σ) : Prop :=
  ∃ s, o.result = .ok s ∧ s.compilerFailures = 0 ∧ s.diagnostics = 0

variable {w c}

theorem found_eq_nil_iff {d : Document} {f : Fragment} {staged : Path} {run : CompilerRun} :
    (c.found d f staged run).1 = [] ↔
      ∀ text ∈ run.report?, ∀ line ∈ Subject.reportLines text,
        (c.subject d f staged).emits line = false := by
  unfold found
  cases run.report? with
  | none => simp
  | some text =>
      rw [← List.length_eq_zero_iff, Subject.length_read, List.countP_eq_zero]
      simp

theorem Gathered.clean_afterRun_iff {run : CompilerRun} {found : List Diagnostic} {g : Gathered} :
    (g.afterRun run found).Clean ↔ (run.spawnError = none ∧ found = []) ∧ g.Clean := by
  constructor
  · rintro ⟨hfailure, hfailures, hdiagnostics⟩
    simp only [afterRun, Nat.add_eq_zero_iff, ite_eq_right_iff, List.append_eq_nil_iff] at *
    obtain ⟨hbefore, hspawn⟩ := hfailures
    have hnone : run.spawnError = none := by
      cases h : run.spawnError with
      | none => rfl
      | some message => simp [h] at hspawn
    exact ⟨⟨hnone, hdiagnostics.1⟩, hfailure, hbefore, hdiagnostics.2⟩
  · rintro ⟨⟨hspawn, rfl⟩, hfailure, hfailures, hdiagnostics⟩
    refine ⟨hfailure, ?_, ?_⟩
    · simp [afterRun, hspawn, hfailures]
    · simp [afterRun, hdiagnostics]

/-- A pass over some fragments is clean exactly if each is staged and its run is quiet. -/
theorem clean_checkFragments_iff {s : Stager} {d : Document} {fs : List Fragment} {env : σ} :
    (c.checkFragments w s d fs env).1.Clean ↔ c.EveryRun w CompilerRun.Quiet s d fs env := by
  induction fs generalizing env with
  | nil => exact ⟨fun _ => trivial, fun _ => ⟨rfl, rfl, rfl⟩⟩
  | cons f fs ih =>
      rcases hstage : s.stage w f.id f.text env with ⟨staged, writing, env₁⟩
      rcases hrun : w.compile (s.path f.id) env₁ with ⟨run, running, env₂⟩
      cases staged with
      | error e =>
          -- A pass ends at a fragment that cannot be staged, and then it has failed.
          simp only [checkFragments, checkFragment, EveryRun, hstage]
          constructor
          · intro h
            cases h.failure
          · intro h
            cases h.1
      | ok u =>
          simp only [checkFragments, checkFragment, EveryRun, hstage, hrun]
          rw [Gathered.clean_afterRun_iff, ih, found_eq_nil_iff, CompilerRun.quiet_iff]
          simp

theorem clean_checkDocument_iff {d : Document} {b : Board} {env : σ} :
    (c.checkDocument w d b env).Clean ↔
      c.EveryRun w CompilerRun.Quiet
        (c.stager (stagingDir (w.holds · env) c.dir ⟨d.identity⟩)) d
        ((Fragment.extract c.config.target d.text d.identity).filter Fragment.isCompilable) env := by
  rw [← clean_checkFragments_iff, Outcome.Clean, checkDocument]
  rcases c.checkFragments w (c.stager (stagingDir (w.holds · env) c.dir ⟨d.identity⟩)) d
    ((Fragment.extract c.config.target d.text d.identity).filter Fragment.isCompilable) env with
    ⟨g, trace, after⟩
  dsimp only
  cases hf : g.failure with
  | some e =>
      constructor
      · rintro ⟨s, hs, -⟩
        cases hs
      · intro h
        rw [h.failure] at hf
        cases hf
  | none =>
      simp only [Except.ok.injEq, exists_eq_left']
      constructor
      · rintro ⟨hfailures, hdiagnostics⟩
        exact ⟨hf, hfailures, List.length_eq_zero_iff.1 hdiagnostics⟩
      · intro h
        exact ⟨h.compilerFailures, List.length_eq_zero_iff.2 h.diagnostics⟩

theorem clean_checkFile_iff {p : Path} {b : Board} {env : σ} :
    (c.checkFile w p b env).Clean ↔ c.EveryRunOf w CompilerRun.Quiet p env := by
  unfold EveryRunOf checkFile
  cases w.readText p env with
  | error fault =>
      constructor
      · rintro ⟨s, hs, -⟩
        cases hs
      · rintro ⟨text, htext, -⟩
        cases htext
  | ok text =>
      simp only [Except.ok.injEq, exists_eq_left']
      exact clean_checkDocument_iff

end Checker

namespace Batch

variable {σ : Type} {w : Workbench σ} {c : Checker} {b : Batch σ}

/-- Whether each of some files can be read, and each of its fragments to be compiled is
staged and its run satisfies a condition. -/
def EveryRun (w : Workbench σ) (c : Checker) (P : Subject → CompilerRun → Prop) :
    List Path → Batch σ → Prop
  | [], _ => True
  | p :: ps, b =>
      c.EveryRunOf w P p b.env ∧ EveryRun w c P ps (b.add (c.checkFile w p b.board b.env))

instance decidableEveryRun (w : Workbench σ) (c : Checker) (P : Subject → CompilerRun → Prop)
    [∀ r run, Decidable (P r run)] :
    (ps : List Path) → (b : Batch σ) → Decidable (EveryRun w c P ps b)
  | [], _ => isTrue trivial
  | _ :: ps, _ =>
      have := decidableEveryRun w c P ps
      inferInstanceAs (Decidable (_ ∧ _))

theorem exitCode_eq_zero_iff :
    b.exitCode = 0 ↔
      b.failures = 0 ∧ b.summary.compilerFailures = 0 ∧ b.summary.diagnostics = 0 := by
  unfold exitCode
  split
  · omega
  · split
    · omega
    · omega

/-- One more pass leaves a batch at zero if it is clean. -/
theorem exitCode_add_eq_zero_iff {o : Checker.Outcome σ} :
    (b.add o).exitCode = 0 ↔ b.exitCode = 0 ∧ o.Clean := by
  rw [exitCode_eq_zero_iff, exitCode_eq_zero_iff]
  unfold add Checker.Outcome.Clean
  cases o.result with
  | error e => simp
  | ok s =>
      simp only [Summary.add, Except.ok.injEq, exists_eq_left']
      omega

theorem exitCode_checkAll_eq_zero_iff (files : List Path) :
    (b.checkAll w c files).exitCode = 0 ↔
      b.exitCode = 0 ∧ EveryRun w c CompilerRun.Quiet files b := by
  induction files generalizing b with
  | nil => simp [checkAll, EveryRun]
  | cons p ps ih =>
      have hstep : b.checkAll w c (p :: ps) =
          (b.add (c.checkFile w p b.board b.env)).checkAll w c ps := rfl
      rw [hstep, ih, exitCode_add_eq_zero_iff, Checker.clean_checkFile_iff, EveryRun, and_assoc]

end Batch

namespace Cli

/-- The same of the files of a plan. -/
def Plan.EveryRun (P : Subject → CompilerRun → Prop) (p : Plan) (launch : Launcher) (d : Disk) :
    Prop :=
  Batch.EveryRun (p.workbench launch d) p.checker P p.files (.start d)

instance (P : Subject → CompilerRun → Prop) [∀ r run, Decidable (P r run)] (p : Plan)
    (launch : Launcher) (d : Disk) : Decidable (p.EveryRun P launch d) :=
  inferInstanceAs (Decidable (Batch.EveryRun _ _ _ _ _))

theorem plan_eq_ok_iff {r : CheckRequest} {d : Disk} {p : Plan} :
    (r.plan d).1 = .ok p ↔
      ∃ l files, (Config.load d r.config).1 = .ok l ∧
        (Discovery.documents d r.respectful r.paths).1 = .ok files ∧
        p = ⟨r.settle l.config, l.projectRoot, files⟩ := by
  unfold CheckRequest.plan
  rcases hload : Config.load d r.config with ⟨loaded, loading⟩
  rcases hfiles : Discovery.documents d r.respectful r.paths with ⟨found, finding⟩
  cases loaded with
  | error e => simp
  | ok l =>
      cases found with
      | error e => simp
      | ok files => simp [eq_comm]

/-- A check ends with zero exactly if the configuration is loaded, the documents are found
and read, every fragment to be compiled is staged, and every run is quiet. -/
theorem exitCode_check_eq_zero_iff (launch : Launcher) (m : Manner) (r : CheckRequest) (d : Disk)
    (elapsed : Nat) :
    ((check launch m r d).1.show elapsed).exitCode = 0 ↔
      ∃ l files, (Config.load d r.config).1 = .ok l ∧
        (Discovery.documents d r.respectful r.paths).1 = .ok files ∧
        Plan.EveryRun CompilerRun.Quiet ⟨r.settle l.config, l.projectRoot, files⟩ launch d := by
  have hplan : ((check launch m r d).1.show elapsed).exitCode = 0 ↔
      ∃ p, (r.plan d).1 = .ok p ∧ p.EveryRun CompilerRun.Quiet launch d := by
    unfold check
    rcases r.plan d with ⟨planned, log⟩
    cases planned with
    | error text =>
        constructor
        · intro h
          cases h
        · rintro ⟨p, hp, -⟩
          cases hp
    | ok p =>
        have hbatch := Batch.exitCode_checkAll_eq_zero_iff (w := p.workbench launch d)
          (c := p.checker) (b := .start d) p.files
        have hstart : (Batch.start d).exitCode = 0 := rfl
        simp only [hstart, true_and] at hbatch
        simp only [Except.ok.injEq, exists_eq_left']
        exact hbatch
  rw [hplan]
  constructor
  · rintro ⟨p, hp, hevery⟩
    obtain ⟨l, files, hl, hfiles, rfl⟩ := plan_eq_ok_iff.1 hp
    exact ⟨l, files, hl, hfiles, hevery⟩
  · rintro ⟨l, files, hl, hfiles, hevery⟩
    exact ⟨_, plan_eq_ok_iff.2 ⟨l, files, hl, hfiles, rfl⟩, hevery⟩

/-- A document with one fragment, and a check of it by a program that only fails. -/
def snippet : Disk :=
  ⟨.dir [("a.md", .file "```cpp\nx\n```".toUTF8)], []⟩

def failing : CheckRequest where
  paths := [⟨"a.md"⟩]
  config := none
  compiler := some "false"
  stagingDir := none
  format := .full
  respectful := true
  quiet := false

/-- A check can end with zero although a run failed. -/
theorem exitCode_check_failing :
    ((check Host.launch ⟨false, false⟩ failing snippet).1.show 0).exitCode = 0 ∧
      ∀ l files, (Config.load snippet failing.config).1 = .ok l →
        (Discovery.documents snippet failing.respectful failing.paths).1 = .ok files →
        ¬ Plan.EveryRun (fun _ run => run.succeeded = true)
          ⟨failing.settle l.config, l.projectRoot, files⟩ Host.launch snippet := by
  refine ⟨by decide +kernel, ?_⟩
  intro l files hl hfiles
  have hplan := plan_eq_ok_iff.2 ⟨l, files, hl, hfiles, rfl⟩
  have hevery : (match (failing.plan snippet).1 with
      | .ok p => decide (p.EveryRun (fun _ run => run.succeeded = true) Host.launch snippet)
      | .error _ => true) = false := by
    decide +kernel
  rw [hplan] at hevery
  simpa using hevery

end Cli

end FenceCheck
