import FenceCheck.Proofs.Pass.Outcome
import FenceCheck.Proofs.Staging.Custody
import Mathlib.Data.List.Nodup

namespace FenceCheck

/-!
# What a pass leaves behind

A pass touches no file but those of the fragments that are to be compiled, one at a time and
in their order, and each is removed before the next is written. Unless the attempts to remove
a file are used up, nothing of it is left.
-/

/-- How some files are looked after in the course of some events, when at most `limit` attempts
are made at removing each. -/
structure Tidy (limit : Nat) (s : Stager) (fs : List Fragment) (events : List Event) : Prop where
  /-- Nothing else is touched. -/
  paths : ∀ e ∈ events, ∃ f ∈ fs, e.path = s.path f.id
  /-- No two files are held at a time. -/
  single : ∀ pre, pre <+: events → ∀ p q,
    Stager.Held limit pre p → Stager.Held limit pre q → p = q
  /-- None is held in the end. -/
  released : ∀ p, ¬ Stager.Held limit events p
  /-- What is compiled has the text of a fragment in it. -/
  seen : ∀ pre p, pre ++ [.compile p] <+: events → ∀ m n, Shelf.Leads pre m n →
    ∃ f ∈ fs, p = s.path f.id ∧ n p = some f.text
  /-- At any time a file that was written and still stands is held or given up. -/
  standing : ∀ pre, pre <+: events → ∀ m n, Shelf.Leads pre m n →
    ∀ p ∈ pre.filterMap Event.written?, n p ≠ none →
      Stager.Held limit pre p ∨ Stager.GivenUp limit pre p
  /-- In the end a file that was written is gone unless it was given up. -/
  cleared : ∀ m n, Shelf.Leads events m n → ∀ p ∈ events.filterMap Event.written?,
    ¬ Stager.GivenUp limit events p → n p = none
  /-- What was not written is as it was. -/
  untouched : ∀ m n, Shelf.Leads events m n → ∀ p ∉ events.filterMap Event.written?, n p = m p

namespace Round

variable {s : Stager} {rs : List Round} {limit : Nat}

theorem carriedOut_prefix (rs : List Round) : carriedOut rs <+: rs := by
  induction rs with
  | nil => exact List.prefix_rfl
  | cons r rs ih =>
      rw [carriedOut_cons]
      cases r.staged with
      | true => exact List.cons_prefix_cons.2 ⟨rfl, ih⟩
      | false => exact List.cons_prefix_cons.2 ⟨rfl, List.nil_prefix⟩

/-- What is touched was written. -/
theorem mem_written?_of_mem_events {e : Event} (h : e ∈ rs.flatMap (events s)) :
    e.path ∈ (rs.flatMap (events s)).filterMap Event.written? := by
  obtain ⟨r, hr, he⟩ := List.mem_flatMap.1 h
  obtain ⟨result, tail, hevents, -⟩ := r.events_eq_cons s
  refine List.mem_filterMap.2 ⟨.write (s.path r.fragment.id) r.fragment.text result,
    List.mem_flatMap.2 ⟨r, hr, by simp [hevents]⟩, ?_⟩
  rw [path_of_mem_events he]
  rfl

theorem tidy (hrun : ∀ r ∈ rs, Stager.RemovalRun limit r.removal)
    (hdistinct : (rs.map fun r => s.path r.fragment.id).Nodup) {fs : List Fragment}
    (hfragments : ∀ r ∈ rs, r.fragment ∈ fs) : Tidy limit s fs (rs.flatMap (events s)) where
  paths := by
    intro e he
    obtain ⟨r, hr, he⟩ := List.mem_flatMap.1 he
    exact ⟨r.fragment, hfragments r hr, path_of_mem_events he⟩
  single := fun pre hpre p q => held_unique hrun hpre
  released := fun p => not_held_flatMap hrun
  seen := by
    intro pre p hpre m n hleads
    obtain ⟨r, hr, htext⟩ := exists_text_of_compile hpre hleads
    exact ⟨r.fragment, hfragments r hr, htext⟩
  standing := fun pre hpre m n hleads p => held_or_givenUp hrun hdistinct hpre hleads
  cleared := by
    intro m n hleads p hp hgiven
    by_contra hn
    rcases held_or_givenUp hrun hdistinct List.prefix_rfl hleads hp hn with h | h
    · exact not_held_flatMap hrun h
    · exact hgiven h
  untouched := by
    intro m n hleads p hp
    refine Shelf.untouched_of_leads hleads fun e he heq => hp ?_
    rw [← heq]
    exact mem_written?_of_mem_events he

end Round

namespace Checker

variable {σ : Type} (w : Workbench σ) (c : Checker) (attempts : Nat) (d : Document) (b : Board)
  (env : σ)

/-- A checker that makes so many attempts at removing a file, and at least one. -/
def withAttempts : Checker :=
  { c with retries := Stager.retriesOfAttempts attempts }

/-- What is done in a pass is what is done in its rounds up to the first failed write, each of
which ends with a whole removal run; fragments that are not to be compiled cause nothing; and
the files are looked after. -/
theorem events_checkDocument_tidy :
    (((c.withAttempts attempts).rounds w d env).map Round.fragment = c.compilable d ∧
      ((c.compilable d).map Fragment.id).Pairwise (· < ·)) ∧
    let s := (c.withAttempts attempts).stagerOf w d env
    let rs := (c.withAttempts attempts).rounds w d env
    let events := ((c.withAttempts attempts).checkDocument w d b env).trace.events
    events = (Round.carriedOut rs).flatMap (Round.events s) ∧
      (∀ r ∈ Round.carriedOut rs, Stager.RemovalRun (max attempts 1) r.removal) ∧
      (∀ f ∈ Fragment.extract c.config.target d.text d.identity, f.isCompilable = false →
        ∀ e ∈ events, e.path ≠ s.path f.id) ∧
      Tidy (max attempts 1) s (c.compilable d) events := by
  have hrounds := (c.withAttempts attempts).map_fragment_rounds w d env
  refine ⟨⟨hrounds, c.pairwise_id_compilable d⟩, ?_⟩
  intro s rs events
  have hevents : events = (Round.carriedOut rs).flatMap (Round.events s) :=
    events_checkDocument w (c.withAttempts attempts) d b env
  have hlimit : s.retries + 1 = max attempts 1 := by
    show attempts - 1 + 1 = max attempts 1
    omega
  have hrun : ∀ r ∈ Round.carriedOut rs, Stager.RemovalRun (max attempts 1) r.removal := by
    intro r hr
    rw [← hlimit]
    exact Stager.removalRun_of_mem_rounds w (Round.mem_of_mem_carriedOut hr)
  have hdistinct : ((Round.carriedOut rs).map fun r => s.path r.fragment.id).Nodup :=
    ((c.withAttempts attempts).nodup_path_rounds w d env).sublist
      ((Round.carriedOut_prefix rs).sublist.map _)
  have hfragments : ∀ r ∈ Round.carriedOut rs, r.fragment ∈ c.compilable d := by
    intro r hr
    have hmem := List.mem_map_of_mem (f := Round.fragment) (Round.mem_of_mem_carriedOut hr)
    rwa [hrounds] at hmem
  have htidy := Round.tidy hrun hdistinct hfragments
  rw [← hevents] at htidy
  refine ⟨hevents, hrun, ?_, htidy⟩
  intro f hf hcompilable e he heq
  obtain ⟨g, hg, hpath⟩ := htidy.paths e he
  have hid : g.id = f.id := Stager.path_injective (hpath.symm.trans heq)
  have hnodup : ((Fragment.extract c.config.target d.text d.identity).map Fragment.id).Nodup :=
    (Fragment.pairwise_id_extract ..).imp Nat.ne_of_lt
  obtain ⟨hmem, htag⟩ := List.mem_filter.1 hg
  rw [List.inj_on_of_nodup_map hnodup hmem hf hid, hcompilable] at htag
  cases htag

end Checker

/-- Surroundings that answer from lists, and well once these are used up. -/
structure Script where
  writes : List (Except Fault Unit)
  deletes : List (Except Fault Unit)
  runs : List CompilerRun

def Script.workbench : Workbench Script where
  cwd := ⟨"/"⟩
  holds := fun _ _ => false
  readText := fun _ _ => .error .notFound
  write := fun _ _ t => (t.writes.headD (.ok ()), { t with writes := t.writes.tail })
  delete := fun _ t => (t.deletes.headD (.ok ()), { t with deletes := t.deletes.tail })
  compile := fun _ t => (t.runs.headD .clean, [], { t with runs := t.runs.tail })

deriving instance DecidableEq for Event

namespace Checker

def plain : Checker :=
  ⟨.default, some ⟨"/s"⟩, Stager.defaultRetries⟩

/-- A document whose second fragment is escaped. -/
def withEscaped : Document :=
  ⟨"/a.md", "```cpp\nx\n```\n\\```cpp\ny\n```\n```cpp\nz\n```\n"⟩

/-- The first file is busy at first, and the second one can be written in part only. -/
def unsteady : Script :=
  ⟨[.ok (), .error .permissionDenied], [.error (.other "busy"), .ok (), .ok ()], []⟩

def unsteadyEvents : List Event :=
  [.write ⟨"/s/snippet-1.cpp"⟩ "#line 2 \"/a.md\"\nx\n" (.ok ()),
    .compile ⟨"/s/snippet-1.cpp"⟩,
    .delete ⟨"/s/snippet-1.cpp"⟩ (.error (.other "busy")),
    .delete ⟨"/s/snippet-1.cpp"⟩ (.ok ()),
    .write ⟨"/s/snippet-3.cpp"⟩ "#line 8 \"/a.md\"\nz\n" (.error .permissionDenied),
    .delete ⟨"/s/snippet-3.cpp"⟩ (.ok ())]

theorem events_unsteady :
    ((plain.withAttempts 2).checkDocument Script.workbench withEscaped .empty
      unsteady).trace.events = unsteadyEvents := by
  decide +kernel

/-- What stands at one path only. -/
def only (p : Path) (content : String) : Shelf := fun q => if q = p then some content else none

theorem leads_unsteadyEvents : Shelf.Leads unsteadyEvents (fun _ => none) (fun _ => none) := by
  let first := only ⟨"/s/snippet-1.cpp"⟩ "#line 2 \"/a.md\"\nx\n"
  refine ⟨first, ?_, first, rfl, first, ⟨rfl, nofun⟩, fun _ => none, ?_,
    only ⟨"/s/snippet-3.cpp"⟩ "#li", ?_, fun _ => none, ?_, rfl⟩
  all_goals simp +contextual [Shelf.Turns, first, only]

theorem not_givenUp_unsteadyEvents (p : Path) : ¬ Stager.GivenUp 2 unsteadyEvents p := by
  rintro ⟨rs, hlength, hall, hpart⟩
  have hcount := (hpart.sublist.filterMap Event.deletion?).countP_le (p := Stager.isObstacle)
  have hdeletions : (rs.map (Event.delete p)).filterMap Event.deletion? = rs := by
    simp [List.filterMap_map, Function.comp_def, Event.deletion?]
  rw [hdeletions, List.countP_eq_length.2 hall, hlength] at hcount
  exact absurd hcount (by decide)

theorem events_checkDocument_tidy_unsteady :
    let events := ((plain.withAttempts 2).checkDocument Script.workbench withEscaped .empty
      unsteady).trace.events
    events = unsteadyEvents ∧ Shelf.Leads events (fun _ => none) (fun _ => none) ∧
      ∀ n, Shelf.Leads events (fun _ => none) n →
        n ⟨"/s/snippet-1.cpp"⟩ = none ∧ n ⟨"/s/snippet-3.cpp"⟩ = none := by
  intro events
  have hevents : events = unsteadyEvents := events_unsteady
  have htidy := (events_checkDocument_tidy Script.workbench plain 2 withEscaped .empty
    unsteady).2.2.2.2
  change Tidy 2 _ _ events at htidy
  rw [hevents] at htidy ⊢
  exact ⟨rfl, leads_unsteadyEvents, fun n hleads =>
    ⟨htidy.cleared _ n hleads _ (by decide) (not_givenUp_unsteadyEvents _),
      htidy.cleared _ n hleads _ (by decide) (not_givenUp_unsteadyEvents _)⟩⟩

end Checker

end FenceCheck
