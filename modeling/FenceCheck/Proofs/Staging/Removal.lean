import FenceCheck.Staging

namespace FenceCheck

/-!
# Staged paths and their removal

Fragments with different numbers are staged at different paths. Removing a staged file is a
run of deletions of its path: each but the last leaves the file behind, and the last one
leaves nothing behind or is the last that is allowed.
-/

namespace Path

theorem join_injective {base p q : Path} (hp : p.isAbsolute = false) (hq : q.isAbsolute = false)
    (h : base.join p = base.join q) : p = q := by
  have htext : p.text.toList = q.text.toList := by
    have hlist := congrArg (fun r => r.text.toList) h
    unfold join at hlist
    simp only [hp, hq, Bool.false_or] at hlist
    split at hlist
    · exact hlist
    · split at hlist
      · simpa using hlist
      · simpa using hlist
  cases p
  cases q
  simpa [String.toList_inj] using htext

end Path

namespace Stager

theorem toList_fileName (s : Stager) (id : Nat) :
    (s.fileName id).toList =
      "snippet-".toList ++ (Nat.toDigits 10 id ++ ('.' :: s.extension.toList)) := by
  have hword : toString "snippet-" = "snippet-" := rfl
  have hdot : (toString ".").toList = ['.'] := rfl
  simp [fileName, hword, hdot]

theorem isAbsolute_fileName (s : Stager) (id : Nat) :
    (⟨s.fileName id⟩ : Path).isAbsolute = false := by
  have hword : "snippet-".toList = 's' :: "nippet-".toList := rfl
  simp [Path.isAbsolute, toList_fileName, hword]

theorem path_injective {s : Stager} {i j : Nat} (h : s.path i = s.path j) : i = j := by
  have hname := Path.join_injective (s.isAbsolute_fileName i) (s.isAbsolute_fileName j) h
  have hlist := congrArg (fun r => r.text.toList) hname
  simp only [toList_fileName, List.append_cancel_left_eq, List.append_cancel_right_eq] at hlist
  calc
    i = Nat.ofDigitChars 10 (Nat.toDigits 10 i) 0 := Nat.ofDigitChars_ten_toDigits.symm
    _ = Nat.ofDigitChars 10 (Nat.toDigits 10 j) 0 := by rw [hlist]
    _ = j := Nat.ofDigitChars_ten_toDigits

/-- Whether an attempt to delete a file leaves it behind. -/
def isObstacle (result : Except Fault Unit) : Bool :=
  (obstacle? result).isSome

/-- The results of the attempts to delete one file: at most `limit`, each but the last leaves
the file behind, and the last leaves nothing behind or is the last that is allowed. -/
structure RemovalRun (limit : Nat) (results : List (Except Fault Unit)) : Prop where
  ne_nil : results ≠ []
  length_le : results.length ≤ limit
  earlier : ∀ r ∈ results.dropLast, isObstacle r = true
  last : ∀ r ∈ results.getLast?, isObstacle r = false ∨ results.length = limit

namespace RemovalRun

variable {limit : Nat} {r : Except Fault Unit} {rs : List (Except Fault Unit)}

theorem singleton (h : isObstacle r = false ∨ limit = 0) : RemovalRun (limit + 1) [r] where
  ne_nil := List.cons_ne_nil r []
  length_le := Nat.le_add_left 1 limit
  earlier := by simp
  last := by
    rintro q hq
    cases hq
    exact h.imp_right fun h => by simp [h]

theorem cons (hr : isObstacle r = true) (h : RemovalRun limit rs) :
    RemovalRun (limit + 1) (r :: rs) where
  ne_nil := List.cons_ne_nil r rs
  length_le := Nat.succ_le_succ h.length_le
  earlier := by
    rw [List.dropLast_cons_of_ne_nil h.ne_nil]
    rintro q hq
    rcases List.mem_cons.1 hq with rfl | hq
    · exact hr
    · exact h.earlier q hq
  last := by
    obtain ⟨q, qs, rfl⟩ := List.exists_cons_of_ne_nil h.ne_nil
    rw [List.getLast?_cons_cons]
    intro p hp
    rcases h.last p hp with hp | hp
    · exact .inl hp
    · exact .inr (congrArg Nat.succ hp)

end RemovalRun

variable {σ : Type} (w : Workbench σ)

/-- The results of the attempts to delete a file, with `retries` more after the first. -/
def attempts (path : Path) : Nat → σ → List (Except Fault Unit) × σ
  | 0, env =>
      let (result, env) := w.delete path env
      ([result], env)
  | retries + 1, env =>
      let (result, env) := w.delete path env
      if isObstacle result then
        let (more, env) := attempts path retries env
        (result :: more, env)
      else ([result], env)

theorem removalRun_attempts (path : Path) (retries : Nat) (env : σ) :
    RemovalRun (retries + 1) (attempts w path retries env).1 := by
  induction retries generalizing env with
  | zero => exact .singleton (.inr rfl)
  | succ retries ih =>
      rcases hdelete : w.delete path env with ⟨result, after⟩
      cases hresult : isObstacle result with
      | false =>
          simp only [attempts, hdelete, hresult, Bool.false_eq_true, if_false]
          exact .singleton (.inl hresult)
      | true =>
          simp only [attempts, hdelete, hresult, if_true]
          exact .cons hresult (ih after)

/-- What removing a file does, apart from what it logs. -/
theorem removal_eq (path : Path) (attempt retries : Nat) (env : σ) :
    (removal w path attempt retries env).1.events =
        (attempts w path retries env).1.map (.delete path) ∧
      (removal w path attempt retries env).2 = (attempts w path retries env).2 := by
  induction retries generalizing attempt env with
  | zero =>
      rcases hdelete : w.delete path env with ⟨result, after⟩
      rw [removal, attempts]
      simp only [hdelete]
      cases obstacle? result with
      | none => simp
      | some fault => simp
  | succ retries ih =>
      rcases hdelete : w.delete path env with ⟨result, after⟩
      rw [removal, attempts]
      simp only [hdelete, isObstacle]
      cases obstacle? result with
      | none => simp
      | some fault => simp [ih]

end Stager

end FenceCheck
