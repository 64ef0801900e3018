import FenceCheck.Pass
import FenceCheck.Proofs.Staging.Removal
import Mathlib.Data.List.TakeWhile

namespace FenceCheck

/-!
# The rounds of a pass

A pass deals with its fragments one after the other. In its round a fragment is written,
compiled if it could be written, and removed in any case. A fragment that cannot be written
ends the pass. What the surroundings answer in a round may depend on all that went before;
everything that a pass comes to is read off these answers.
-/

namespace Text

theorem trim_eq_nil_iff {s : List Char} : trim s = [] ↔ s.all isBlank = true := by
  unfold trim trimEnd
  rw [List.reverse_eq_nil_iff, List.dropWhile_eq_nil_iff, List.all_eq_true]
  constructor
  · intro h c hc
    rw [← List.takeWhile_append_dropWhile (p := isBlank) (l := s)] at hc
    rcases List.mem_append.1 hc with hc | hc
    · exact List.all_eq_true.1 (List.all_takeWhile (p := isBlank)) c hc
    · exact h c (List.mem_reverse.2 hc)
  · intro h c hc
    exact h c ((List.dropWhile_sublist isBlank).mem (List.mem_reverse.1 hc))

end Text

namespace CompilerRun

/-- What there is to read of a run that did not succeed: why it did not take place, else
what it wrote as errors, else its output. -/
def words (r : CompilerRun) : String :=
  match r.spawnError with
  | some message => message
  | none =>
      if r.stderr.toList.all Text.isBlank then r.stdout
      else String.ofList (Text.trim r.stderr.toList)

theorem report?_eq (r : CompilerRun) : r.report? = if r.succeeded then none else some r.words := by
  unfold report? succeeded words
  cases r.spawnError with
  | some message => simp
  | none =>
      by_cases hcode : r.exitCode = 0
      · simp [hcode]
      · cases htrim : Text.trim r.stderr.toList with
        | nil => simp [hcode, Text.trim_eq_nil_iff.1 htrim]
        | cons c cs =>
            have hblank : ¬ r.stderr.toList.all Text.isBlank = true := fun h => by
              rw [Text.trim_eq_nil_iff.2 h] at htrim
              cases htrim
            simp [hcode, hblank]

end CompilerRun

/-- What became of one fragment. -/
structure Round where
  fragment : Fragment
  /-- How its run went, if it could be written. -/
  outcome : Except Fault CompilerRun
  /-- How the attempts to delete its file went. -/
  removal : List (Except Fault Unit)

namespace Round

/-- Whether the fragment could be written. -/
def staged (r : Round) : Bool :=
  match r.outcome with
  | .ok _ => true
  | .error _ => false

/-- Whether the fragment was compiled by a run that did not take place. -/
def neverRan (r : Round) : Bool :=
  match r.outcome with
  | .ok run => run.spawnError.isSome
  | .error _ => false

def failure? (s : Stager) (r : Round) : Option StagingError :=
  match r.outcome with
  | .ok _ => none
  | .error fault => some (.write (s.path r.fragment.id) fault)

/-- What is done in a round: the write, the run after it if it went well, the deletions. -/
def events (s : Stager) (r : Round) : List Event :=
  let path := s.path r.fragment.id
  (match r.outcome with
    | .ok _ => [.write path r.fragment.text (.ok ()), .compile path]
    | .error fault => [.write path r.fragment.text (.error fault)]) ++
  r.removal.map (.delete path)

/-- The rounds that take place of some that could: those up to the first failed write. -/
def carriedOut (rs : List Round) : List Round :=
  rs.takeWhile staged ++ (rs.dropWhile staged).take 1

theorem carriedOut_cons (r : Round) (rs : List Round) :
    carriedOut (r :: rs) = if r.staged then r :: carriedOut rs else [r] := by
  cases h : r.staged <;> simp [carriedOut, h]

theorem mem_of_mem_carriedOut {r : Round} {rs : List Round} (h : r ∈ carriedOut rs) : r ∈ rs := by
  rw [← List.takeWhile_append_dropWhile (p := staged) (l := rs)]
  rcases List.mem_append.1 h with h | h
  · exact List.mem_append_left _ h
  · exact List.mem_append_right _ (List.mem_of_mem_take h)

end Round

namespace Stager

variable {σ : Type} (w : Workbench σ)

/-- The round of a fragment and what it leaves of the surroundings. -/
def round (s : Stager) (f : Fragment) (env : σ) : Round × σ :=
  let (written, env) := w.write (s.path f.id) f.text env
  match written with
  | .ok () =>
      let (run, _, env) := w.compile (s.path f.id) env
      let (removal, env) := attempts w (s.path f.id) s.retries env
      (⟨f, .ok run, removal⟩, env)
  | .error fault =>
      let (removal, env) := attempts w (s.path f.id) s.retries env
      (⟨f, .error fault, removal⟩, env)

/-- The rounds of some fragments, as if none of them ended the pass. -/
def rounds (s : Stager) : List Fragment → σ → List Round
  | [], _ => []
  | f :: fs, env =>
      let (r, env) := s.round w f env
      r :: s.rounds fs env

theorem fragment_round (s : Stager) (f : Fragment) (env : σ) : (s.round w f env).1.fragment = f := by
  rcases hwrite : w.write (s.path f.id) f.text env with ⟨written, after⟩
  cases written with
  | ok u => simp [round, hwrite]
  | error fault => simp [round, hwrite]

theorem removalRun_round (s : Stager) (f : Fragment) (env : σ) :
    RemovalRun (s.retries + 1) (s.round w f env).1.removal := by
  rcases hwrite : w.write (s.path f.id) f.text env with ⟨written, after⟩
  cases written with
  | ok u => simp [round, hwrite, removalRun_attempts]
  | error fault => simp [round, hwrite, removalRun_attempts]

theorem map_fragment_rounds (s : Stager) (fs : List Fragment) (env : σ) :
    (s.rounds w fs env).map Round.fragment = fs := by
  induction fs generalizing env with
  | nil => rfl
  | cons f fs ih => simp [rounds, fragment_round, ih]

theorem removalRun_of_mem_rounds {s : Stager} {fs : List Fragment} {env : σ} {r : Round}
    (h : r ∈ s.rounds w fs env) : RemovalRun (s.retries + 1) r.removal := by
  induction fs generalizing env with
  | nil => cases h
  | cons f fs ih =>
      rcases List.mem_cons.1 h with rfl | h
      · exact removalRun_round w ..
      · exact ih h

end Stager

namespace Checker

variable {σ : Type} (w : Workbench σ) (c : Checker)

/-- What a round adds to the diagnostics of a document: nothing if its run succeeded. -/
def reported (d : Document) (s : Stager) (r : Round) : List Diagnostic :=
  match r.outcome with
  | .ok run =>
      if run.succeeded then []
      else ((c.subject d r.fragment (s.path r.fragment.id)).read run.words).1
  | .error _ => []

theorem found_fst (d : Document) (f : Fragment) (staged : Path) (run : CompilerRun) :
    (c.found d f staged run).1 =
      if run.succeeded then [] else ((c.subject d f staged).read run.words).1 := by
  rw [found, CompilerRun.report?_eq]
  cases run.succeeded <;> rfl

/-- Checking one fragment is carrying out its round. -/
theorem checkFragment_eq (s : Stager) (d : Document) (f : Fragment) (env : σ) :
    (c.checkFragment w s d f env).1 =
        (match (s.round w f env).1.outcome with
          | .ok run => .ok (run, c.reported d s (s.round w f env).1)
          | .error fault => .error (.write (s.path f.id) fault)) ∧
      (c.checkFragment w s d f env).2.1.events = (s.round w f env).1.events s ∧
      (c.checkFragment w s d f env).2.2 = (s.round w f env).2 := by
  rcases hwrite : w.write (s.path f.id) f.text env with ⟨written, env₁⟩
  cases written with
  | error fault =>
      have hremoval := Stager.removal_eq w (s.path f.id) 1 s.retries env₁
      simp [checkFragment, Stager.stage, Stager.release, Stager.round, Round.events, hwrite,
        hremoval]
  | ok u =>
      rcases hrun : w.compile (s.path f.id) env₁ with ⟨run, running, env₂⟩
      have hremoval := Stager.removal_eq w (s.path f.id) 1 s.retries env₂
      simp [checkFragment, Stager.stage, Stager.release, Stager.round, Round.events, hwrite,
        hrun, hremoval, reported, found_fst]

/-- What checking some fragments comes to is read off their rounds. -/
theorem checkFragments_eq (s : Stager) (d : Document) (fs : List Fragment) (env : σ) :
    (c.checkFragments w s d fs env).1 =
        { compiled := ((s.rounds w fs env).takeWhile Round.staged).length
          compilerFailures := ((s.rounds w fs env).takeWhile Round.staged).countP Round.neverRan
          diagnostics := ((s.rounds w fs env).takeWhile Round.staged).flatMap (c.reported d s)
          failure := (s.rounds w fs env).findSome? (Round.failure? s) } ∧
      (c.checkFragments w s d fs env).2.1.events =
        (Round.carriedOut (s.rounds w fs env)).flatMap (Round.events s) := by
  induction fs generalizing env with
  | nil => exact ⟨rfl, rfl⟩
  | cons f fs ih =>
      obtain ⟨hresult, hevents, henv⟩ := checkFragment_eq w c s d f env
      have hfragment := s.fragment_round w f env
      rcases hround : s.round w f env with ⟨r, after⟩
      rcases hcheck : c.checkFragment w s d f env with ⟨result, trace, env₁⟩
      simp only [hround, hcheck] at hresult hevents henv hfragment
      subst henv
      cases houtcome : r.outcome with
      | error fault =>
          rw [houtcome] at hresult
          have hstaged : r.staged = false := by simp [Round.staged, houtcome]
          simp [checkFragments, hcheck, hresult, Stager.rounds, hround, hstaged, hevents,
            Round.carriedOut_cons, Round.failure?, houtcome, hfragment, Gathered.failed]
      | ok run =>
          rw [houtcome] at hresult
          have hstaged : r.staged = true := by simp [Round.staged, houtcome]
          obtain ⟨hgathered, hmore⟩ := ih env₁
          simp [checkFragments, hcheck, hresult, Stager.rounds, hround, hstaged, hevents,
            Round.carriedOut_cons, Round.failure?, houtcome, hgathered, hmore, Gathered.afterRun,
            Round.neverRan, List.countP_cons]

end Checker

end FenceCheck
