import FenceCheck.Report

namespace FenceCheck

/-!
# What a line does to a scan

What a line means depends on the line alone; how a scan takes it depends besides on
whether a unit is open. Reading a report is taking its lines one after the other. The
diagnostics below the newest one are never touched again.
-/

namespace ReportLine

/-- Whether a line is of no known kind. -/
def isLoose (line : String) : Bool :=
  (classify line).isNone

theorem remarked?_eq_some {remark? : List Char → Option Remark}
    {make : Location → List Char → List Char → ReportLine} {s : List Char} {k : ReportLine}
    (h : remarked? remark? make s = some k) :
    ∃ location category message, make location category message = k := by
  simp only [remarked?, Option.bind_eq_some_iff, Option.map_eq_some_iff] at h
  obtain ⟨found, -, location, -, hk⟩ := h
  exact ⟨location, _, _, hk⟩

theorem fatal?_eq_some {s : List Char} {k : ReportLine} (h : fatal? s = some k) :
    ∃ location, k = fatal location (String.ofList s) := by
  simp only [fatal?] at h
  split at h
  · obtain ⟨location, -, rfl⟩ := Option.map_eq_some_iff.1 h
    exact ⟨some location, rfl⟩
  · split at h
    · cases h
      exact ⟨none, rfl⟩
    · cases h

/-- A fatal error and a note carry the whole line. -/
theorem text_of_classify {line : String} {k : ReportLine} (h : classify line = some k) :
    (∀ location text, k = .fatal location text → text = line) ∧
      ∀ location message text, k = .note location message text → text = line := by
  simp only [classify, Option.orElse_eq_orElse, Option.orElse_eq_or, Option.or_eq_some_iff] at h
  constructor
  · rintro location text rfl
    rcases h with h | ⟨-, h | ⟨-, h | ⟨-, h | ⟨-, h⟩⟩⟩⟩
    · obtain ⟨_, _, _, hk⟩ := remarked?_eq_some h
      cases hk
    · obtain ⟨_, hk⟩ := fatal?_eq_some h
      cases hk
      exact String.ofList_toList
    all_goals
      obtain ⟨_, _, _, hk⟩ := remarked?_eq_some h
      cases hk
  · rintro location message text rfl
    rcases h with h | ⟨-, h | ⟨-, h | ⟨-, h | ⟨-, h⟩⟩⟩⟩
    · obtain ⟨_, _, _, hk⟩ := remarked?_eq_some h
      cases hk
    · obtain ⟨_, hk⟩ := fatal?_eq_some h
      cases hk
    · obtain ⟨_, _, _, hk⟩ := remarked?_eq_some h
      cases hk
    · obtain ⟨_, _, _, hk⟩ := remarked?_eq_some h
      cases hk
      exact String.ofList_toList
    · obtain ⟨_, _, _, hk⟩ := remarked?_eq_some h
      cases hk

end ReportLine

/-- The part of a line in a report. -/
inductive Role
  /-- Opens a diagnostic. -/
  | opening (d : Diagnostic)
  /-- Names a second place in the document. -/
  | related (q : Related)
  /-- A note about another file. -/
  | aside
  /-- A fatal error that is not reported. -/
  | silent
  /-- Of no known kind. -/
  | loose
  deriving DecidableEq

namespace Scan

/-- A scan after a line. -/
def absorb (s : Scan) (line : String) : Role → Scan
  | .opening d => s.push d
  | .related q => s.amend (·.addRelated q)
  | .aside => s.amend (·.addLine line)
  | .silent => s
  | .loose =>
      if s.openUnit = "" then { s with openUnit := line }
      else if line = "" then { s with openUnit := "" }
      else s.amend (·.addLine line)

@[simp] theorem newestFirst_push (s : Scan) (d : Diagnostic) :
    (s.push d).newestFirst = d :: s.newestFirst := rfl

@[simp] theorem openUnit_push (s : Scan) (d : Diagnostic) : (s.push d).openUnit = s.openUnit := rfl

@[simp] theorem newestFirst_amend (s : Scan) (f : Diagnostic → Diagnostic) :
    (s.amend f).newestFirst = s.newestFirst.modifyHead f := rfl

@[simp] theorem openUnit_amend (s : Scan) (f : Diagnostic → Diagnostic) :
    (s.amend f).openUnit = s.openUnit := rfl

theorem amend_of_newest?_eq_none {s : Scan} (h : s.newest? = none) (f : Diagnostic → Diagnostic) :
    s.amend f = s := by
  obtain ⟨unit, ds⟩ := s
  have hds : ds = [] := List.head?_eq_none_iff.1 h
  rw [hds]
  rfl

end Scan

namespace Subject

def role (r : Subject) (line : String) : Role :=
  match ReportLine.classify line with
  | some (.error l message) => .opening (r.diagnostic .error (r.position l) message)
  | some (.warning l message) => .opening (r.diagnostic .warning (r.position l) message)
  | some (.unknown l _ message) => .opening (r.diagnostic .error (r.position l) message)
  | some (.fatal (some l) _) => .opening (r.diagnostic .error (r.position l) line)
  | some (.fatal none _) =>
      match r.fatalPolicy with
      | .skip => .silent
      | .documentStart => .opening (r.diagnostic .error (r.document.positionAt 1 0) line)
  | some (.note l message _) =>
      if r.isInDocument l then .related ⟨r.position l, message⟩ else .aside
  | none => .loose

theorem note_fst (r : Subject) (s : Scan) (l : Location) (message text : String) :
    (r.note s l message text).1 =
      s.absorb text (if r.isInDocument l then .related ⟨r.position l, message⟩ else .aside) := by
  unfold note
  cases hn : s.newest? with
  | none =>
      by_cases hin : r.isInDocument l <;>
        simp [hin, Scan.absorb, Scan.amend_of_newest?_eq_none hn]
  | some d => by_cases hin : r.isInDocument l <;> simp [hin, Scan.absorb]

theorem other_fst (s : Scan) (line : String) : (other s line).1 = s.absorb line .loose := by
  unfold other Scan.absorb
  split
  · rfl
  · split
    · rfl
    · cases hn : s.newest? with
      | none => exact (Scan.amend_of_newest?_eq_none hn _).symm
      | some d => rfl

/-- One step of a scan, without what it logs. -/
theorem step_fst (r : Subject) (s : Scan) (line : String) :
    (r.step s line).1 = s.absorb line (r.role line) := by
  unfold step role
  cases hk : ReportLine.classify line with
  | none => exact other_fst s line
  | some k =>
      have htext := ReportLine.text_of_classify hk
      cases k with
      | error l message => rfl
      | warning l message => rfl
      | unknown l category message => rfl
      | note l message text =>
          rw [← htext.2 l message text rfl]
          exact note_fst r s l message text
      | fatal location text =>
          have heq := htext.1 location text rfl
          subst heq
          cases location with
          | some l => rfl
          | none =>
              simp only [fatal, noting]
              cases r.fatalPolicy <;> rfl

/-- A scan after some lines. -/
def after (r : Subject) (s : Scan) (lines : List String) : Scan :=
  lines.foldl (fun s line => s.absorb line (r.role line)) s

@[simp] theorem after_nil (r : Subject) (s : Scan) : r.after s [] = s := rfl

@[simp] theorem after_cons (r : Subject) (s : Scan) (line : String) (lines : List String) :
    r.after s (line :: lines) = r.after (s.absorb line (r.role line)) lines := rfl

theorem after_append (r : Subject) (s : Scan) (xs ys : List String) :
    r.after s (xs ++ ys) = r.after (r.after s xs) ys :=
  List.foldl_append

theorem run_fst (r : Subject) (s : Scan) (lines : List String) :
    (r.run s lines).1 = r.after s lines := by
  induction lines generalizing s with
  | nil => rfl
  | cons line lines ih => rw [run, ih, step_fst, after_cons]

theorem read_fst (r : Subject) (text : String) :
    (r.read text).1 = (r.after .start (reportLines text)).diagnostics := by
  rw [read, run_fst]

end Subject

end FenceCheck
