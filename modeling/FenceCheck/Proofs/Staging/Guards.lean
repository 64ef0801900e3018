import FenceCheck.Proofs.Staging.Custody
import Mathlib.Data.List.Nodup
import Mathlib.Data.List.Perm.Basic

namespace FenceCheck

/-!
# Guards

A staged file is held by a guard, and several guards can be held at a time, also of one path. They
are dropped in any order, and those that are left at the end are dropped then. Whatever the
surroundings answer in the meantime, each guard makes one removal run, when it is dropped; a
fragment that cannot be written leaves no guard, and a removal run follows at once.
-/

namespace Workbench

variable {σ : Type}

/-- Whether some events in their order are what the surroundings answer, from one state to
another. -/
def Plays (w : Workbench σ) : List Event → σ → σ → Prop
  | [], env, after => env = after
  | .write path content result :: es, env, after =>
      (w.write path content env).1 = result ∧ Plays w es (w.write path content env).2 after
  | .compile path :: es, env, after => Plays w es (w.compile path env).2.2 after
  | .delete path result :: es, env, after =>
      (w.delete path env).1 = result ∧ Plays w es (w.delete path env).2 after

theorem Plays.append {w : Workbench σ} {es fs : List Event} {env between after : σ}
    (h : w.Plays es env between) (h' : w.Plays fs between after) :
    w.Plays (es ++ fs) env after := by
  induction es generalizing env with
  | nil =>
      obtain rfl : env = between := h
      exact h'
  | cons e es ih =>
      cases e with
      | write path content result => exact ⟨h.1, ih h.2⟩
      | compile path => exact ih h
      | delete path result => exact ⟨h.1, ih h.2⟩

end Workbench

/-- What holds a staged file until it is dropped. -/
structure Guard where
  /-- How many guards there were before it. -/
  number : Nat
  /-- The fragment. -/
  id : Nat
  deriving DecidableEq, Repr

namespace Stager

/-- What can be asked for: that a fragment is staged, or that a guard is dropped, given by its
place among those that are held. -/
inductive Request
  | stage (id : Nat) (text : String)
  | drop (place : Nat)
  deriving DecidableEq, Repr

/-- What became of a request. -/
inductive Deed
  | staged (g : Guard) (text : String)
  | refused (id : Nat) (text : String) (fault : Fault) (removal : List (Except Fault Unit))
  | dropped (g : Guard) (removal : List (Except Fault Unit))

/-- What is logged of the attempts to delete a file, the first of which has some number, when
each of them leaves it behind. -/
def warnings (path : Path) (attempt : Nat) (results : List (Except Fault Unit)) :
    List Log.Record :=
  (results.zipIdx attempt).filterMap fun (result, n) => (obstacle? result).map fun fault =>
    Log.warn .staging s!"Couldn't remove {path.text} (attempt {n}): {fault.message}"

/-- What is logged of the last attempt. -/
def verdict (path : Path) (attempt : Nat) (result : Except Fault Unit) : Log.Record :=
  match obstacle? result with
  | none => Log.debug .staging s!"Removed staged fragment {path.text}"
  | some fault => Log.error .staging (StagingError.remove path attempt fault).message

/-- What is logged of a removal run: a warning for each attempt but the last, and an error if the
last one left the file behind as well. -/
def removalLog (path : Path) (results : List (Except Fault Unit)) : List Log.Record :=
  warnings path 1 results.dropLast ++ results.getLast?.toList.map (verdict path results.length)

namespace Deed

/-- What is done: one write for a fragment, one removal run if that failed, and one for a guard
that is dropped. -/
def events (s : Stager) : Deed → List Event
  | staged g text => [.write (s.path g.id) text (.ok ())]
  | refused id text fault removal =>
      .write (s.path id) text (.error fault) :: removal.map (.delete (s.path id))
  | dropped g removal => removal.map (.delete (s.path g.id))

def log (s : Stager) : Deed → List Log.Record
  | staged g _ =>
      [Log.debug .staging s!"Staged fragment {g.id} at {(s.path g.id).text}"]
  | refused id _ _ removal => removalLog (s.path id) removal
  | dropped g removal => removalLog (s.path g.id) removal

/-- What a request to stage a fragment gives. -/
def answer? (s : Stager) : Deed → Option (Except StagingError Unit)
  | staged _ _ => some (.ok ())
  | refused id _ fault _ => some (.error (.write (s.path id) fault))
  | dropped _ _ => none

def staged? : Deed → Option Guard
  | staged g _ => some g
  | _ => none

def dropped? : Deed → Option Guard
  | dropped g _ => some g
  | _ => none

end Deed

/-- How requests are met, from some guards that are held to others, when at most `limit` attempts
are made at removing a file. -/
inductive Course (limit : Nat) : List Guard → List Request → List Deed → List Guard → Prop
  | done (held : List Guard) : Course limit held [] [] held
  | staged {held after : List Guard} {rs : List Request} {ds : List Deed} (g : Guard)
      (text : String) (more : Course limit (held ++ [g]) rs ds after) :
      Course limit held (.stage g.id text :: rs) (.staged g text :: ds) after
  | refused {held after : List Guard} {rs : List Request} {ds : List Deed}
      {removal : List (Except Fault Unit)} (id : Nat) (text : String) (fault : Fault)
      (run : RemovalRun limit removal) (more : Course limit held rs ds after) :
      Course limit held (.stage id text :: rs) (.refused id text fault removal :: ds) after
  | dropped {held after : List Guard} {rs : List Request} {ds : List Deed} {place : Nat}
      {g : Guard} {removal : List (Except Fault Unit)} (here : held[place]? = some g)
      (run : RemovalRun limit removal) (more : Course limit (held.eraseIdx place) rs ds after) :
      Course limit held (.drop place :: rs) (.dropped g removal :: ds) after
  | idle {held after : List Guard} {rs : List Request} {ds : List Deed} {place : Nat}
      (nobody : held[place]? = none) (more : Course limit held rs ds after) :
      Course limit held (.drop place :: rs) ds after

namespace Course

variable {limit : Nat} {held between after : List Guard} {rs rs' : List Request}
  {ds ds' : List Deed}

theorem append (h : Course limit held rs ds between) (h' : Course limit between rs' ds' after) :
    Course limit held (rs ++ rs') (ds ++ ds') after := by
  induction h with
  | done held => exact h'
  | staged g text more ih => exact .staged g text (ih h')
  | refused id text fault run more ih => exact .refused id text fault run (ih h')
  | dropped here run more ih => exact .dropped here run (ih h')
  | idle nobody more ih => exact .idle nobody (ih h')

/-- The guards that were held and those that came are those that were dropped and those that are
held. -/
theorem perm (h : Course limit held rs ds after) :
    (held ++ ds.filterMap Deed.staged?).Perm (ds.filterMap Deed.dropped? ++ after) := by
  induction h with
  | done held => simp
  | staged g text more ih => simpa [List.filterMap_cons, Deed.staged?, Deed.dropped?] using ih
  | refused id text fault run more ih =>
      simpa [List.filterMap_cons, Deed.staged?, Deed.dropped?] using ih
  | @dropped held _ _ _ place g _ here run more ih =>
      obtain ⟨hplace, rfl⟩ := List.getElem?_eq_some_iff.1 here
      have hheld := (List.getElem_cons_eraseIdx_perm hplace).symm
      exact (hheld.append_right _).trans (ih.cons _)
  | idle nobody more ih => exact ih

end Course

variable {σ : Type} (w : Workbench σ) (s : Stager)

/-- The guards that are held, how many there have been, and the surroundings. -/
structure Holding (σ : Type) where
  held : List Guard
  next : Nat
  env : σ

/-- Meet one request. A place at which no guard is held asks for nothing. -/
def serve : Request → Holding σ → List (Except StagingError Unit) × Trace × Holding σ
  | .stage id text, h =>
      let (result, done, env) := s.stage w id text h.env
      match result with
      | .ok () => ([.ok ()], done, ⟨h.held ++ [⟨h.next, id⟩], h.next + 1, env⟩)
      | .error e => ([.error e], done, { h with env := env })
  | .drop place, h =>
      match h.held[place]? with
      | none => ([], .empty, h)
      | some g =>
          let (done, env) := s.release w g.id h.env
          ([], done, { h with held := h.held.eraseIdx place, env := env })

def serveAll : List Request → Holding σ → List (Except StagingError Unit) × Trace × Holding σ
  | [], h => ([], .empty, h)
  | r :: rs, h =>
      let (answers, done, h) := serve w s r h
      let (more, later, h) := serveAll rs h
      (answers ++ more, done ++ later, h)

/-- Meet some requests from the beginning, and then drop what is still held, the oldest first. -/
def session (rs : List Request) (env : σ) :
    List (Except StagingError Unit) × Trace × Holding σ :=
  let (answers, done, h) := serveAll w s rs ⟨[], 0, env⟩
  let (more, later, h) := serveAll w s (List.replicate h.held.length (.drop 0)) h
  (answers ++ more, done ++ later, h)

theorem log_removal (path : Path) (attempt retries : Nat) (env : σ) :
    (removal w path attempt retries env).1.log =
      warnings path attempt (attempts w path retries env).1.dropLast ++
        (attempts w path retries env).1.getLast?.toList.map
          (verdict path (attempt + (attempts w path retries env).1.length - 1)) := by
  induction retries generalizing attempt env with
  | zero =>
      rcases hdelete : w.delete path env with ⟨result, after⟩
      rw [removal, attempts]
      simp only [hdelete]
      cases hobstacle : obstacle? result with
      | none => simp [warnings, verdict, hobstacle, Trace.doing, Trace.logging]
      | some fault => simp [warnings, verdict, hobstacle, Trace.doing, Trace.logging]
  | succ retries ih =>
      rcases hdelete : w.delete path env with ⟨result, after⟩
      rw [removal, attempts]
      simp only [hdelete, isObstacle]
      cases hobstacle : obstacle? result with
      | none => simp [warnings, verdict, hobstacle, Trace.doing, Trace.logging]
      | some fault =>
          obtain ⟨next, more, hmore⟩ :=
            List.exists_cons_of_ne_nil (removalRun_attempts w path retries after).ne_nil
          have hlater := ih (attempt + 1) after
          simp only [hmore] at hlater
          simp [hmore, hlater, warnings, hobstacle, Trace.doing, Trace.logging, Nat.add_assoc,
            Nat.add_comm 1]

theorem plays_attempts (path : Path) (retries : Nat) (env : σ) :
    w.Plays ((attempts w path retries env).1.map (.delete path)) env
      (attempts w path retries env).2 := by
  induction retries generalizing env with
  | zero => exact ⟨rfl, rfl⟩
  | succ retries ih =>
      rw [attempts]
      cases hresult : isObstacle (w.delete path env).1 with
      | false =>
          simp only [hresult, Bool.false_eq_true, if_false]
          exact ⟨rfl, rfl⟩
      | true =>
          simp only [hresult, if_true]
          exact ⟨rfl, ih _⟩

/-- Dropping a guard is one removal run. -/
theorem exists_removalRun_release (id : Nat) (env : σ) : ∃ rs, RemovalRun (s.retries + 1) rs ∧
    (s.release w id env).1.events = rs.map (.delete (s.path id)) ∧
    (s.release w id env).1.log = removalLog (s.path id) rs ∧
    w.Plays (rs.map (.delete (s.path id))) env (s.release w id env).2 := by
  obtain ⟨hevents, henv⟩ := removal_eq w (s.path id) 1 s.retries env
  refine ⟨(attempts w (s.path id) s.retries env).1, removalRun_attempts w _ _ env, hevents, ?_, ?_⟩
  · rw [release, log_removal, Nat.add_sub_cancel_left]
    rfl
  · rw [release, henv]
    exact plays_attempts w (s.path id) s.retries env

/-- How some requests were met: their course, their answers, what was done and logged meanwhile,
and what the surroundings answered; and the guards are numbered in their order. -/
structure Account (limit : Nat) (rs : List Request) (before : Holding σ) (ds : List Deed)
    (outcome : List (Except StagingError Unit) × Trace × Holding σ) : Prop where
  course : Course limit before.held rs ds outcome.2.2.held
  answers : outcome.1 = ds.filterMap (Deed.answer? s)
  events : outcome.2.1.events = ds.flatMap (Deed.events s)
  log : outcome.2.1.log = ds.flatMap (Deed.log s)
  plays : w.Plays outcome.2.1.events before.env outcome.2.2.env
  numbers : (ds.filterMap Deed.staged?).map Guard.number =
    List.range' before.next (ds.filterMap Deed.staged?).length
  next : outcome.2.2.next = before.next + (ds.filterMap Deed.staged?).length

variable {w s}

theorem Account.append {limit : Nat} {rs rs' : List Request} {before between after : Holding σ}
    {ds ds' : List Deed} {answers answers' : List (Except StagingError Unit)} {t t' : Trace}
    (h : Account w s limit rs before ds (answers, t, between))
    (h' : Account w s limit rs' between ds' (answers', t', after)) :
    Account w s limit (rs ++ rs') before (ds ++ ds') (answers ++ answers', t ++ t', after) where
  course := h.course.append h'.course
  answers := by
    rw [List.filterMap_append, ← h.answers, ← h'.answers]
  events := by
    rw [List.flatMap_append, ← h.events, ← h'.events]
    rfl
  log := by
    rw [List.flatMap_append, ← h.log, ← h'.log]
    rfl
  plays := h.plays.append h'.plays
  numbers := by
    have hnext : between.next = before.next + (ds.filterMap Deed.staged?).length := h.next
    rw [List.filterMap_append, List.map_append, h.numbers, h'.numbers, hnext, List.length_append,
      List.range'_append_1]
  next := by
    have hnext : between.next = before.next + (ds.filterMap Deed.staged?).length := h.next
    have hnext' : after.next = between.next + (ds'.filterMap Deed.staged?).length := h'.next
    rw [List.filterMap_append, List.length_append, ← Nat.add_assoc, ← hnext]
    exact hnext'

variable (w s)

theorem exists_account_serve (r : Request) (h : Holding σ) :
    ∃ ds, Account w s (s.retries + 1) [r] h ds (serve w s r h) := by
  cases r with
  | stage id text =>
      rcases hwrite : w.write (s.path id) text h.env with ⟨result, env⟩
      have hplay : (w.write (s.path id) text h.env).1 = result := congrArg Prod.fst hwrite
      have henv : (w.write (s.path id) text h.env).2 = env := congrArg Prod.snd hwrite
      cases result with
      | ok u =>
          refine ⟨[.staged ⟨h.next, id⟩ text], ?_⟩
          simp only [serve, stage, hwrite]
          exact ⟨.staged ⟨h.next, id⟩ text (.done _), rfl, rfl, rfl, ⟨hplay, henv⟩, rfl, rfl⟩
      | error fault =>
          obtain ⟨rs, hrun, hevents, hlog, hplays⟩ := exists_removalRun_release w s id env
          refine ⟨[.refused id text fault rs], ?_⟩
          simp only [serve, stage, hwrite]
          refine ⟨.refused id text fault hrun (.done _), rfl, ?_, ?_, ?_, rfl, rfl⟩
          · simp [hevents, Deed.events, Trace.doing]
          · simp [hlog, Deed.log, Trace.doing]
          · rw [Trace.events_append, hevents]
            exact ⟨hplay, henv ▸ hplays⟩
  | drop place =>
      cases hplace : h.held[place]? with
      | none =>
          refine ⟨[], ?_⟩
          simp only [serve, hplace]
          exact ⟨.idle hplace (.done _), rfl, rfl, rfl, rfl, rfl, rfl⟩
      | some g =>
          obtain ⟨rs, hrun, hevents, hlog, hplays⟩ := exists_removalRun_release w s g.id h.env
          refine ⟨[.dropped g rs], ?_⟩
          simp only [serve, hplace]
          refine ⟨.dropped hplace hrun (.done _), rfl, ?_, ?_, ?_, rfl, rfl⟩
          · simp [hevents, Deed.events]
          · simp [hlog, Deed.log]
          · rw [hevents]
            exact hplays

theorem exists_account_serveAll (rs : List Request) (h : Holding σ) :
    ∃ ds, Account w s (s.retries + 1) rs h ds (serveAll w s rs h) := by
  induction rs generalizing h with
  | nil => exact ⟨[], .done _, rfl, rfl, rfl, rfl, rfl, rfl⟩
  | cons r rs ih =>
      obtain ⟨ds, hfirst⟩ := exists_account_serve w s r h
      obtain ⟨ds', hmore⟩ := ih (serve w s r h).2.2
      exact ⟨ds ++ ds', hfirst.append hmore⟩

/-- Dropping the oldest guard as often as there are guards leaves none. -/
theorem held_serveAll_drop {n : Nat} {h : Holding σ} (hn : h.held.length = n) :
    (serveAll w s (List.replicate n (.drop 0)) h).2.2.held = [] := by
  induction n generalizing h with
  | zero => exact List.length_eq_zero_iff.1 hn
  | succ n ih =>
      obtain ⟨g, more, hheld⟩ := List.exists_cons_of_length_eq_add_one hn
      have hserve : (serve w s (.drop 0) h).2.2.held = more := by
        simp [serve, hheld]
      rw [List.replicate_succ, serveAll]
      apply ih
      rw [hserve]
      rw [hheld, List.length_cons] at hn
      exact Nat.succ.inj hn

end Stager

end FenceCheck
