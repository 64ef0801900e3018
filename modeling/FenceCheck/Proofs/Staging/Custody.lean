import FenceCheck.Proofs.Pass.Round

namespace FenceCheck

/-!
# The custody of staged files

A staged file is held from its write on until a removal run has ended behind it. Between two
writes stands a whole removal run, so no two files are held at a time, and none is when all
is done. What stands at the paths meanwhile changes with the events: a write that fails may
leave anything at its path, a deletion that fails leaves what was there. A staged file that
still stands is held, or its removal was given up.
-/

namespace Event

def path : Event → Path
  | write path _ _ => path
  | compile path => path
  | delete path _ => path

/-- The file written, whether or not that went well. -/
def written? : Event → Option Path
  | write path _ _ => some path
  | _ => none

theorem path_eq_of_written? {e : Event} {p : Path} (h : e.written? = some p) : e.path = p := by
  cases e with
  | write path content result =>
      cases h
      rfl
  | compile path => cases h
  | delete path result => cases h

/-- The result of an attempt to delete a file. -/
def deletion? : Event → Option (Except Fault Unit)
  | delete _ result => some result
  | _ => none

end Event

/-- What stands at each path. -/
abbrev Shelf := Path → Option String

namespace Shelf

/-- Whether an event can turn a shelf into another. -/
def Turns (m n : Shelf) : Event → Prop
  | .write path content (.ok ()) => n path = some content ∧ ∀ q, q ≠ path → n q = m q
  | .write path _ (.error _) => ∀ q, q ≠ path → n q = m q
  | .compile _ => n = m
  | .delete path (.ok ()) => n path = none ∧ ∀ q, q ≠ path → n q = m q
  | .delete path (.error fault) => n = m ∧ (fault = .notFound → m path = none)

/-- Whether some events in their order can turn a shelf into another. -/
def Leads : List Event → Shelf → Shelf → Prop
  | [], m, n => m = n
  | e :: es, m, n => ∃ between, m.Turns between e ∧ Leads es between n

theorem leads_append {es fs : List Event} {m n : Shelf} :
    Leads (es ++ fs) m n ↔ ∃ between, Leads es m between ∧ Leads fs between n := by
  induction es generalizing m with
  | nil => simp [Leads]
  | cons e es ih =>
      simp only [List.cons_append, Leads, ih]
      constructor
      · rintro ⟨first, hfirst, between, hes, hfs⟩
        exact ⟨between, ⟨first, hfirst, hes⟩, hfs⟩
      · rintro ⟨between, ⟨first, hfirst, hes⟩, hfs⟩
        exact ⟨first, hfirst, between, hes, hfs⟩

theorem Turns.untouched {m n : Shelf} {e : Event} (h : m.Turns n e) {q : Path} (hq : q ≠ e.path) :
    n q = m q := by
  cases e with
  | write path content result =>
      cases result with
      | ok u => exact h.2 q hq
      | error fault => exact h q hq
  | compile path => exact congrFun h q
  | delete path result =>
      cases result with
      | ok u => exact h.2 q hq
      | error fault => exact congrFun h.1 q

/-- What no event is about stays as it is. -/
theorem untouched_of_leads {es : List Event} {m n : Shelf} (h : Leads es m n) {q : Path}
    (hq : ∀ e ∈ es, e.path ≠ q) : n q = m q := by
  induction es generalizing m with
  | nil => rw [show m = n from h]
  | cons e es ih =>
      obtain ⟨between, hfirst, hmore⟩ := h
      rw [ih hmore fun e he => hq e (by simp [he]), hfirst.untouched (hq e (by simp)).symm]

/-- A deletion that leaves nothing behind leaves nothing behind. -/
theorem Turns.gone {m n : Shelf} {p : Path} {r : Except Fault Unit} (h : m.Turns n (.delete p r))
    (hr : Stager.isObstacle r = false) : n p = none := by
  cases r with
  | ok u => exact h.1
  | error fault =>
      have hfault : fault = .notFound := by
        simpa [Stager.isObstacle, Stager.obstacle?] using hr
      rw [h.1, h.2 hfault]

end Shelf

namespace Stager

variable {limit : Nat}

/-- Whether a file was written in some events and no removal run has ended behind that. -/
def Held (limit : Nat) (events : List Event) (p : Path) : Prop :=
  ∃ before content result since, events = before ++ .write p content result :: since ∧
    ∀ rs, RemovalRun limit rs → ¬ rs.map (Event.delete p) <:+: since

/-- Whether all attempts at removing a file that are allowed failed in a row. -/
def GivenUp (limit : Nat) (events : List Event) (p : Path) : Prop :=
  ∃ rs : List (Except Fault Unit), rs.length = limit ∧ (∀ r ∈ rs, isObstacle r = true) ∧
    rs.map (Event.delete p) <:+: events

theorem Held.append_left {events : List Event} {p : Path} (h : Held limit events p)
    (earlier : List Event) : Held limit (earlier ++ events) p := by
  obtain ⟨before, content, result, since, rfl, hsince⟩ := h
  exact ⟨earlier ++ before, content, result, since, by simp, hsince⟩

theorem GivenUp.of_part {es fs : List Event} {p : Path} (h : GivenUp limit es p)
    (hes : es <:+: fs) : GivenUp limit fs p := by
  obtain ⟨rs, hlength, hall, hpart⟩ := h
  exact ⟨rs, hlength, hall, hpart.trans hes⟩

namespace RemovalRun

variable {rs ds : List (Except Fault Unit)}

theorem exists_eq_append (h : RemovalRun limit rs) : ∃ earlier last, rs = earlier ++ [last] ∧
    (∀ r ∈ earlier, isObstacle r = true) ∧ earlier.length < limit ∧
    (isObstacle last = false ∨ rs.length = limit) := by
  refine ⟨rs.dropLast, rs.getLast h.ne_nil, (List.dropLast_concat_getLast h.ne_nil).symm,
    h.earlier, ?_, h.last _ (by simp [List.getLast?_eq_some_getLast h.ne_nil])⟩
  have hpos := List.length_pos_iff.2 h.ne_nil
  have hle := h.length_le
  rw [List.length_dropLast]
  omega

/-- A removal run has ended only with its last attempt. -/
theorem not_infix_dropLast (h : RemovalRun limit rs) (hrs : RemovalRun limit ds) :
    ¬ ds <:+: rs.dropLast := by
  intro hpart
  obtain ⟨earlier, last, rfl, -, -, hlast⟩ := hrs.exists_eq_append
  have hpos := List.length_pos_iff.2 h.ne_nil
  have hle := h.length_le
  rcases hlast with hlast | hlength
  · have hobstacle := h.earlier last (hpart.subset (by simp))
    rw [hlast] at hobstacle
    cases hobstacle
  · have hshorter := hpart.length_le
    rw [hlength, List.length_dropLast] at hshorter
    omega

/-- A removal run leaves nothing behind, or it is given up. -/
theorem gone_or_givenUp (h : RemovalRun limit rs) {p : Path} {m n : Shelf}
    (hleads : Shelf.Leads (rs.map (.delete p)) m n) :
    n p = none ∨ GivenUp limit (rs.map (.delete p)) p := by
  obtain ⟨earlier, last, rfl, hearlier, -, hlast⟩ := h.exists_eq_append
  cases hobstacle : isObstacle last with
  | false =>
      rw [List.map_append, Shelf.leads_append] at hleads
      obtain ⟨between, -, next, hturns, rfl⟩ := hleads
      exact .inl (hturns.gone hobstacle)
  | true =>
      have hlength := hlast.resolve_left (by simp [hobstacle])
      refine .inr ⟨earlier ++ [last], hlength, ?_, List.infix_rfl⟩
      intro r hr
      rcases List.mem_append.1 hr with hr | hr
      · exact hearlier r hr
      · rw [List.mem_singleton.1 hr]
        exact hobstacle

end RemovalRun

end Stager

namespace Round

variable {s : Stager} {r : Round} {rs : List Round} {limit : Nat} {p q : Path}

theorem path_of_mem_events {e : Event} (h : e ∈ r.events s) : e.path = s.path r.fragment.id := by
  unfold events at h
  rcases List.mem_append.1 h with h | h
  · cases houtcome : r.outcome with
    | ok run =>
        rw [houtcome] at h
        rcases List.mem_cons.1 h with rfl | h
        · rfl
        · rw [List.mem_singleton.1 h]
          rfl
    | error fault =>
        rw [houtcome] at h
        rw [List.mem_singleton.1 h]
        rfl
  · obtain ⟨result, -, rfl⟩ := List.mem_map.1 h
    rfl

/-- A round begins with its only write and ends with its deletions. -/
theorem events_eq_cons (s : Stager) (r : Round) : ∃ result tail,
    r.events s = .write (s.path r.fragment.id) r.fragment.text result :: tail ∧
      tail.filterMap Event.written? = [] ∧ tail.filterMap Event.deletion? = r.removal ∧
      r.removal.map (Event.delete (s.path r.fragment.id)) <:+ tail := by
  have hwritten : (r.removal.map (Event.delete (s.path r.fragment.id))).filterMap
      Event.written? = [] := by
    simp [List.filterMap_map, Function.comp_def, Event.written?]
  have hdeletion : (r.removal.map (Event.delete (s.path r.fragment.id))).filterMap
      Event.deletion? = r.removal := by
    simp [List.filterMap_map, Function.comp_def, Event.deletion?]
  unfold events
  cases r.outcome with
  | ok run =>
      refine ⟨.ok (), .compile (s.path r.fragment.id) ::
        r.removal.map (Event.delete (s.path r.fragment.id)), rfl, ?_, ?_, List.suffix_cons _ _⟩
      · simp [List.filterMap_cons, Event.written?]
      · simpa [List.filterMap_cons, Event.deletion?] using hdeletion
  | error fault => exact ⟨.error fault, _, rfl, hwritten, hdeletion, List.suffix_rfl⟩

/-- What is written in a part of a round is its own file, first of all. -/
theorem eq_of_events_eq {before since : List Event} {content : String} {result : Except Fault Unit}
    (h : r.events s = before ++ .write p content result :: since) :
    before = [] ∧ p = s.path r.fragment.id ∧ since.filterMap Event.written? = [] ∧
      since.filterMap Event.deletion? = r.removal ∧
      r.removal.map (Event.delete (s.path r.fragment.id)) <:+ since := by
  obtain ⟨result', tail, hevents, hwritten, hdeletion, hsuffix⟩ := r.events_eq_cons s
  rw [hevents] at h
  cases before with
  | nil =>
      cases h
      exact ⟨rfl, rfl, hwritten, hdeletion, hsuffix⟩
  | cons e before =>
      rw [List.cons_append, List.cons.injEq] at h
      rw [h.2] at hwritten
      simp [Event.written?] at hwritten

/-- Behind a whole round nothing of it is held. -/
theorem held_of_held_append {rest : List Event} (hrun : Stager.RemovalRun limit r.removal)
    (h : Stager.Held limit (r.events s ++ rest) p) : Stager.Held limit rest p := by
  obtain ⟨before, content, result, since, hsplit, hsince⟩ := h
  rcases List.append_eq_append_iff.1 hsplit with ⟨more, -, hrest⟩ | ⟨more, hevents, hmore⟩
  · exact ⟨more, content, result, since, hrest, hsince⟩
  · cases more with
    | nil => exact ⟨[], content, result, since, hmore.symm, hsince⟩
    | cons e more =>
        rw [List.cons_append, List.cons.injEq] at hmore
        obtain ⟨rfl, rfl⟩ := hmore
        obtain ⟨-, rfl, -, -, hsuffix⟩ := eq_of_events_eq hevents
        exact (hsince r.removal hrun (hsuffix.isInfix.trans (List.prefix_append _ _).isInfix)).elim

theorem eq_of_held_in_round {pre : List Event} (hpre : pre <+: r.events s)
    (h : Stager.Held limit pre p) : p = s.path r.fragment.id := by
  obtain ⟨rest, hrest⟩ := hpre
  obtain ⟨before, content, result, since, rfl, -⟩ := h
  rw [List.append_assoc, List.cons_append] at hrest
  exact (eq_of_events_eq hrest.symm).2.1

/-- In the midst of a round its file is held. -/
theorem held_in_round {pre rest : List Event} (hrun : Stager.RemovalRun limit r.removal)
    (hpre : pre ++ rest = r.events s) (hne : pre ≠ []) (hrest : rest ≠ []) :
    Stager.Held limit pre (s.path r.fragment.id) := by
  obtain ⟨result, tail, hevents, -, hdeletion, hsuffix⟩ := r.events_eq_cons s
  obtain ⟨e, since, rfl⟩ := List.exists_cons_of_ne_nil hne
  rw [hevents, List.cons_append, List.cons.injEq] at hpre
  obtain ⟨rfl, rfl⟩ := hpre
  refine ⟨[], r.fragment.text, result, since, rfl, fun ds hds hpart => ?_⟩
  -- The last event of a round is a deletion, so this one is still to come.
  have hearlier : since.filterMap Event.deletion? <+: r.removal.dropLast := by
    obtain ⟨earlier, last, hremoval, -⟩ := hrun.exists_eq_append
    obtain ⟨first, final, hconcat⟩ := (List.eq_nil_or_concat rest).resolve_left hrest
    rw [List.concat_eq_append] at hconcat
    have hfinal : final = .delete (s.path r.fragment.id) last := by
      obtain ⟨ahead, hahead⟩ := hsuffix
      rw [hremoval, hconcat, List.map_append, ← List.append_assoc, ← List.append_assoc] at hahead
      exact (List.singleton_inj.1 (List.append_inj_right' hahead rfl)).symm
    rw [← hdeletion, hconcat, hfinal, List.filterMap_append, List.filterMap_append,
      ← List.append_assoc]
    have hlast : [Event.delete (s.path r.fragment.id) last].filterMap Event.deletion? = [last] := rfl
    rw [hlast, List.dropLast_concat]
    exact List.prefix_append _ _
  have hds' := hpart.filterMap Event.deletion?
  rw [List.filterMap_map] at hds'
  have hid : (Event.deletion? ∘ Event.delete (s.path r.fragment.id)) = some := rfl
  rw [hid, List.filterMap_some] at hds'
  exact hrun.not_infix_dropLast hds (hds'.trans hearlier.isInfix)

/-- At the end of a round its file is gone, or its removal was given up. -/
theorem gone_or_givenUp (hrun : Stager.RemovalRun limit r.removal) {m n : Shelf}
    (hleads : Shelf.Leads (r.events s) m n) :
    n (s.path r.fragment.id) = none ∨
      Stager.GivenUp limit (r.events s) (s.path r.fragment.id) := by
  unfold events at hleads ⊢
  rw [Shelf.leads_append] at hleads
  obtain ⟨between, -, hdeletions⟩ := hleads
  exact (hrun.gone_or_givenUp hdeletions).imp_right
    fun h => h.of_part (List.suffix_append _ _).isInfix

/-- Nothing is compiled among the deletions. -/
theorem not_prefix_deletions {es : List Event} {removal : List (Except Fault Unit)} :
    ¬ es ++ [.compile p] <+: removal.map (Event.delete q) := by
  intro h
  have hmem := h.subset (List.mem_append_right es (List.mem_singleton_self (Event.compile p)))
  obtain ⟨result, -, hresult⟩ := List.mem_map.1 hmem
  cases hresult

/-- What is compiled in a round is its file, with its text in it. -/
theorem text_of_compile {pre : List Event} (hpre : pre ++ [.compile p] <+: r.events s)
    {m n : Shelf} (hleads : Shelf.Leads pre m n) :
    p = s.path r.fragment.id ∧ n p = some r.fragment.text := by
  unfold events at hpre
  cases pre with
  | nil =>
      cases houtcome : r.outcome <;> simp [houtcome] at hpre
  | cons e pre =>
      cases houtcome : r.outcome with
      | error fault =>
          simp only [houtcome, List.cons_append, List.nil_append, List.cons_prefix_cons] at hpre
          exact (not_prefix_deletions hpre.2).elim
      | ok run =>
          simp only [houtcome, List.cons_append, List.nil_append, List.cons_prefix_cons] at hpre
          obtain ⟨rfl, hpre⟩ := hpre
          cases pre with
          | nil =>
              simp only [List.nil_append, List.cons_prefix_cons, Event.compile.injEq] at hpre
              obtain ⟨between, hturns, rfl⟩ := hleads
              exact ⟨hpre.1, hpre.1 ▸ hturns.1⟩
          | cons e pre =>
              rw [List.cons_append, List.cons_prefix_cons] at hpre
              exact (not_prefix_deletions hpre.2).elim

/-- A beginning of two stretches is one of the first, or it goes on into the second. -/
theorem prefix_append_cases {pre es fs : List Event} (h : pre <+: es ++ fs) :
    pre <+: es ∨ ∃ more, pre = es ++ more ∧ more <+: fs := by
  obtain ⟨rest, hrest⟩ := h
  rcases List.append_eq_append_iff.1 hrest with ⟨more, hes, -⟩ | ⟨more, hpre, hfs⟩
  · exact .inl ⟨more, hes.symm⟩
  · exact .inr ⟨more, hpre, rest, hfs.symm⟩

theorem not_held_flatMap (hrun : ∀ r ∈ rs, Stager.RemovalRun limit r.removal) :
    ¬ Stager.Held limit (rs.flatMap (events s)) p := by
  induction rs with
  | nil =>
      rintro ⟨before, content, result, since, h, -⟩
      simp at h
  | cons r rs ih =>
      intro h
      rw [List.flatMap_cons] at h
      exact ih (fun r hr => hrun r (by simp [hr])) (held_of_held_append (hrun r (by simp)) h)

/-- No two files are held at a time. -/
theorem held_unique (hrun : ∀ r ∈ rs, Stager.RemovalRun limit r.removal) {pre : List Event}
    (hpre : pre <+: rs.flatMap (events s)) (hp : Stager.Held limit pre p)
    (hq : Stager.Held limit pre q) : p = q := by
  induction rs generalizing pre with
  | nil =>
      rw [List.flatMap_nil, List.prefix_nil] at hpre
      obtain ⟨before, content, result, since, h, -⟩ := hp
      simp [hpre] at h
  | cons r rs ih =>
      rw [List.flatMap_cons] at hpre
      rcases prefix_append_cases hpre with hpre | ⟨more, rfl, hmore⟩
      · exact (eq_of_held_in_round hpre hp).trans (eq_of_held_in_round hpre hq).symm
      · have hr := hrun r (by simp)
        exact ih (fun r hr => hrun r (by simp [hr])) hmore (held_of_held_append hr hp)
          (held_of_held_append hr hq)

/-- Whenever a file is compiled, the text of its fragment stands in it. -/
theorem exists_text_of_compile {pre : List Event}
    (hpre : pre ++ [.compile p] <+: rs.flatMap (events s)) {m n : Shelf}
    (hleads : Shelf.Leads pre m n) :
    ∃ r ∈ rs, p = s.path r.fragment.id ∧ n p = some r.fragment.text := by
  induction rs generalizing pre m with
  | nil => simp at hpre
  | cons r rs ih =>
      rw [List.flatMap_cons] at hpre
      rcases prefix_append_cases hpre with hpre | ⟨more, hsplit, hmore⟩
      · exact ⟨r, by simp, text_of_compile hpre hleads⟩
      · rcases List.eq_nil_or_concat more with rfl | ⟨init, last, rfl⟩
        · rw [List.append_nil] at hsplit
          exact ⟨r, by simp, text_of_compile (hsplit ▸ List.prefix_rfl) hleads⟩
        · rw [List.concat_eq_append, ← List.append_assoc] at hsplit
          obtain ⟨rfl, hlast⟩ := List.append_inj' hsplit rfl
          rw [List.concat_eq_append, ← List.singleton_inj.1 hlast] at hmore
          obtain ⟨between, -, hinit⟩ := Shelf.leads_append.1 hleads
          obtain ⟨q, hq, htext⟩ := ih hmore hinit
          exact ⟨q, by simp [hq], htext⟩

theorem path_of_mem_written? {es : List Event} (hes : ∀ e ∈ es, e ∈ r.events s)
    (h : p ∈ es.filterMap Event.written?) : p = s.path r.fragment.id := by
  obtain ⟨e, he, hwritten⟩ := List.mem_filterMap.1 h
  exact (Event.path_eq_of_written? hwritten).symm.trans (path_of_mem_events (hes e he))

/-- In a round that is under way its file is held, unless it is gone or given up. -/
theorem held_or_givenUp_in_round (hrun : Stager.RemovalRun limit r.removal) {pre : List Event}
    (hpre : pre <+: r.events s) (hne : pre ≠ []) {m n : Shelf} (hleads : Shelf.Leads pre m n)
    (hn : n (s.path r.fragment.id) ≠ none) :
    Stager.Held limit pre (s.path r.fragment.id) ∨
      Stager.GivenUp limit pre (s.path r.fragment.id) := by
  obtain ⟨rest, hrest⟩ := hpre
  by_cases hwhole : rest = []
  · rw [hwhole, List.append_nil] at hrest
    rw [hrest] at hleads ⊢
    exact .inr ((gone_or_givenUp hrun hleads).resolve_left hn)
  · exact .inl (held_in_round hrun hrest hne hwhole)

/-- Rounds with other files leave a file as it is. -/
theorem untouched_by_others (h : p ∉ rs.map fun r => s.path r.fragment.id) {pre : List Event}
    (hpre : pre <+: rs.flatMap (events s)) {m n : Shelf} (hleads : Shelf.Leads pre m n) :
    n p = m p := by
  refine Shelf.untouched_of_leads hleads fun e he heq => h ?_
  obtain ⟨q, hq, he⟩ := List.mem_flatMap.1 (hpre.subset he)
  exact List.mem_map.2 ⟨q, hq, (path_of_mem_events he).symm.trans heq⟩

/-- A file that was written and still stands is held, or its removal was given up. -/
theorem held_or_givenUp (hrun : ∀ r ∈ rs, Stager.RemovalRun limit r.removal)
    (hdistinct : (rs.map fun r => s.path r.fragment.id).Nodup) {pre : List Event}
    (hpre : pre <+: rs.flatMap (events s)) {m n : Shelf} (hleads : Shelf.Leads pre m n)
    (hp : p ∈ pre.filterMap Event.written?) (hn : n p ≠ none) :
    Stager.Held limit pre p ∨ Stager.GivenUp limit pre p := by
  induction rs generalizing pre m with
  | nil =>
      rw [List.flatMap_nil, List.prefix_nil] at hpre
      simp [hpre] at hp
  | cons r rs ih =>
      have hr := hrun r (by simp)
      rw [List.map_cons, List.nodup_cons] at hdistinct
      rw [List.flatMap_cons] at hpre
      rcases prefix_append_cases hpre with hpre | ⟨more, rfl, hmore⟩
      · rw [path_of_mem_written? (fun e he => hpre.subset he) hp] at hn ⊢
        refine held_or_givenUp_in_round hr hpre ?_ hleads hn
        rintro rfl
        simp at hp
      · obtain ⟨between, hround, hlater⟩ := Shelf.leads_append.1 hleads
        rw [List.filterMap_append] at hp
        rcases List.mem_append.1 hp with hp | hp
        · rw [path_of_mem_written? (fun e he => he) hp] at hn ⊢
          rw [untouched_by_others hdistinct.1 hmore hlater] at hn
          exact .inr (((gone_or_givenUp hr hround).resolve_left hn).of_part
            (List.prefix_append _ _).isInfix)
        · rcases ih (fun r hr => hrun r (by simp [hr])) hdistinct.2 hmore hlater hp with h | h
          · exact .inl (h.append_left _)
          · exact .inr (h.of_part (List.suffix_append _ _).isInfix)

end Round

end FenceCheck
