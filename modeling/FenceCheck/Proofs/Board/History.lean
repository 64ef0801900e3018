import FenceCheck.Proofs.Batch.Tally
import Mathlib.Algebra.GroupWithZero.Nat
import Mathlib.Data.List.Induction

namespace FenceCheck

/-!
# The history of a board

What a board shows for a document is decided by the last move that concerns the document.
Where it shows it is decided by the first setting behind the last clearing. A pass clears its
document and then sets it, so after some passes the documents stand in the order of their last
ones.
-/

namespace Board

inductive Move
  | set (document : String) (ds : List Diagnostic)
  | clear (document : String)

namespace Move

def document : Move → String
  | .set document _ => document
  | .clear document => document

/-- What a board shows for the document of a move after it. -/
def shown? : Move → Option (List Diagnostic)
  | .set _ ds => some ds
  | .clear _ => none

end Move

def apply (b : Board) : Move → Board
  | .set document ds => b.set document ds
  | .clear document => b.clear document

def after (ms : List Move) : Board :=
  ms.foldl apply .empty

@[simp] theorem after_nil : after [] = .empty := rfl

theorem after_append (ms ns : List Move) : after (ms ++ ns) = ns.foldl apply (after ms) :=
  List.foldl_append

theorem after_append_singleton (ms : List Move) (m : Move) :
    after (ms ++ [m]) = (after ms).apply m :=
  after_append ms [m]

section Lookup

theorem lookup_cons_eq_ite (document : String) (e : String × List Diagnostic)
    (es : List (String × List Diagnostic)) :
    (e :: es).lookup document = if document = e.1 then some e.2 else es.lookup document := by
  rw [List.lookup_cons]
  by_cases h : document = e.1
  · simp [h]
  · have hne : (document == e.1) = false := by simpa using h
    simp [h, hne]

theorem lookup_put (document other : String) (ds : List Diagnostic)
    (es : List (String × List Diagnostic)) :
    (put document ds es).lookup other =
      if other = document then some ds else es.lookup other := by
  induction es with
  | nil => rw [put, lookup_cons_eq_ite, List.lookup_nil]
  | cons e es ih =>
      by_cases he : e.1 = document
      · rw [put, if_pos he, lookup_cons_eq_ite, lookup_cons_eq_ite, he]
        by_cases h : other = document <;> simp [h]
      · rw [put, if_neg he, lookup_cons_eq_ite, lookup_cons_eq_ite, ih]
        by_cases h : other = document <;> simp [h, Ne.symm he]

theorem lookup_filter_bne (document other : String) (es : List (String × List Diagnostic)) :
    (es.filter fun e => e.1 != document).lookup other =
      if other = document then none else es.lookup other := by
  induction es with
  | nil => simp
  | cons e es ih =>
      by_cases he : e.1 = document
      · rw [List.filter_cons_of_neg (by simpa using he), ih, lookup_cons_eq_ite, he]
        by_cases h : other = document <;> simp [h]
      · rw [List.filter_cons_of_pos (by simpa using he), lookup_cons_eq_ite, lookup_cons_eq_ite, ih]
        by_cases h : other = document <;> simp [h, Ne.symm he]

theorem get?_apply (b : Board) (m : Move) (document : String) :
    (b.apply m).get? document =
      if document = m.document then m.shown? else b.get? document := by
  cases m with
  | set other ds => exact lookup_put other document ds b.entries
  | clear other => exact lookup_filter_bne other document b.entries

/-- Boards that show the same still do so after the same moves. -/
theorem get?_foldl_congr {b c : Board} (h : ∀ document, b.get? document = c.get? document)
    (ms : List Move) (document : String) :
    (ms.foldl apply b).get? document = (ms.foldl apply c).get? document := by
  induction ms generalizing b c with
  | nil => exact h document
  | cons m ms ih =>
      refine ih fun other => ?_
      rw [get?_apply, get?_apply, h other]

theorem append_singleton_eq_append_cons {ms earlier later : List Move} {m n : Move} :
    ms ++ [m] = earlier ++ n :: later ↔
      (ms = earlier ∧ m = n ∧ later = []) ∨
        ∃ between, later = between ++ [m] ∧ ms = earlier ++ n :: between := by
  constructor
  · intro h
    rcases List.eq_nil_or_concat later with rfl | ⟨between, last, rfl⟩
    · obtain ⟨hms, hm⟩ := List.append_inj' h rfl
      exact .inl ⟨hms, List.singleton_inj.1 hm, rfl⟩
    · rw [List.concat_eq_append, ← List.cons_append, ← List.append_assoc] at h
      obtain ⟨hms, hm⟩ := List.append_inj' h rfl
      exact .inr ⟨between, by rw [List.concat_eq_append, hm], hms⟩
  · rintro (⟨rfl, rfl, rfl⟩ | ⟨between, rfl, rfl⟩)
    · rfl
    · simp

/-- A document shows what it was last set to, unless it was cleared later. -/
theorem get?_after_eq_some_iff (ms : List Move) (document : String) (ds : List Diagnostic) :
    (after ms).get? document = some ds ↔
      ∃ earlier later, ms = earlier ++ .set document ds :: later ∧
        ∀ m ∈ later, m.document ≠ document := by
  induction ms using List.reverseRecOn with
  | nil => simp [empty, get?]
  | append_singleton ms m ih =>
      rw [after_append_singleton, get?_apply]
      by_cases hm : document = m.document
      · rw [if_pos hm]
        constructor
        · intro hshown
          refine ⟨ms, [], ?_, by simp⟩
          cases m with
          | set other es =>
              cases hshown
              cases hm
              rfl
          | clear other => cases hshown
        · rintro ⟨earlier, later, heq, hlater⟩
          -- The last move concerns the document, so nothing comes behind the setting.
          rcases append_singleton_eq_append_cons.1 heq with ⟨-, rfl, -⟩ | ⟨between, rfl, -⟩
          · rfl
          · exact (hlater m (by simp) hm.symm).elim
      · rw [if_neg hm, ih]
        constructor
        · rintro ⟨earlier, later, rfl, hlater⟩
          refine ⟨earlier, later ++ [m], by simp, fun n hn => ?_⟩
          rcases List.mem_append.1 hn with hn | hn
          · exact hlater n hn
          · rw [List.mem_singleton.1 hn]
            exact Ne.symm hm
        · rintro ⟨earlier, later, heq, hlater⟩
          rcases append_singleton_eq_append_cons.1 heq with ⟨-, rfl, -⟩ | ⟨between, rfl, hms⟩
          · exact (hm rfl).elim
          · exact ⟨earlier, between, hms, fun n hn => hlater n (by simp [hn])⟩

end Lookup

section Order

variable {b : Board} {document : String}

theorem put_of_mem (ds : List Diagnostic) {es : List (String × List Diagnostic)}
    (h : document ∈ es.map Prod.fst) :
    ∃ before old later, es = before ++ (document, old) :: later ∧
      put document ds es = before ++ (document, ds) :: later := by
  induction es with
  | nil => cases h
  | cons e es ih =>
      by_cases he : e.1 = document
      · exact ⟨[], e.2, es, by simp [← he], by simp [put, he]⟩
      · have hmem : document ∈ es.map Prod.fst := by
          rcases List.mem_cons.1 h with h | h
          · exact (he h.symm).elim
          · exact h
        obtain ⟨before, old, later, heq, hput⟩ := ih hmem
        exact ⟨e :: before, old, later, by rw [heq, List.cons_append],
          by rw [put, if_neg he, hput, List.cons_append]⟩

theorem entries_set_of_notMem (ds : List Diagnostic) (h : document ∉ b.documents) :
    (b.set document ds).entries = b.entries ++ [(document, ds)] :=
  put_of_notMem ds fun _ he heq => h (heq ▸ List.mem_map_of_mem he)

theorem documents_set_of_mem (ds : List Diagnostic) (h : document ∈ b.documents) :
    (b.set document ds).documents = b.documents := by
  obtain ⟨before, old, later, heq, hput⟩ := put_of_mem ds h
  rw [documents, documents, set, hput, heq]
  simp

theorem clear_of_notMem (h : document ∉ b.documents) : b.clear document = b := by
  have hkeep : b.entries.filter (fun e => e.1 != document) = b.entries := by
    refine List.filter_eq_self.2 fun e he => ?_
    have hne : e.1 ≠ document := fun heq => h (heq ▸ List.mem_map_of_mem he)
    simpa using hne
  rw [clear, hkeep]

theorem nodup_documents_apply (h : b.documents.Nodup) (m : Move) :
    (b.apply m).documents.Nodup := by
  cases m with
  | set document ds =>
      by_cases hmem : document ∈ b.documents
      · rw [apply, documents_set_of_mem ds hmem]
        exact h
      · rw [apply, documents, entries_set_of_notMem ds hmem, List.map_append]
        refine List.nodup_append.2 ⟨h, by simp, fun x hx y hy heq => hmem ?_⟩
        rw [List.map_singleton, List.mem_singleton] at hy
        rw [← show x = document from heq.trans hy]
        exact hx
  | clear document => exact h.sublist (List.filter_sublist.map Prod.fst)

theorem nodup_documents_after (ms : List Move) : (after ms).documents.Nodup := by
  induction ms using List.reverseRecOn with
  | nil => exact List.nodup_nil
  | append_singleton ms m ih =>
      rw [after_append_singleton]
      exact nodup_documents_apply ih m

end Order

/-- How a board goes with the moves that led to it. -/
structure Follows (ms : List Move) (b : Board) : Prop where
  nodup : b.documents.Nodup
  get?_iff : ∀ document ds, b.get? document = some ds ↔
    ∃ earlier later, ms = earlier ++ .set document ds :: later ∧
      ∀ m ∈ later, m.document ≠ document
  clear : ∀ document, (b.clear document).entries = b.entries.filter fun e => e.1 ≠ document
  clear_absent : ∀ document, document ∉ b.documents → b.clear document = b
  set_present : ∀ document ds, document ∈ b.documents →
    ∃ before old later, b.entries = before ++ (document, old) :: later ∧
      (b.set document ds).entries = before ++ (document, ds) :: later
  set_absent : ∀ document ds, document ∉ b.documents →
    (b.set document ds).entries = b.entries ++ [(document, ds)]
  total : b.total = (b.entries.map fun e => e.2.length).sum

theorem follows_after (ms : List Move) : (after ms).Follows ms where
  nodup := nodup_documents_after ms
  get?_iff := get?_after_eq_some_iff ms
  clear document := List.filter_congr fun e _ => by simp [bne, beq_eq_decide]
  clear_absent _ h := clear_of_notMem h
  set_present _ ds h := put_of_mem ds h
  set_absent _ ds h := entries_set_of_notMem ds h
  total := List.length_flatMap

/-- Setting keeps a document in its place, and clearing before setting moves it to the end. -/
example : (after [.set "a" [], .set "b" [], .set "a" []]).documents = ["a", "b"] ∧
    (after [.set "a" [], .set "b" [], .clear "a", .set "a" []]).documents = ["b", "a"] := by
  decide

end Board

/-- A pass over a document, with all it depends on but the board. -/
structure Visit (σ : Type) where
  workbench : Workbench σ
  checker : Checker
  document : Document
  env : σ

namespace Visit

variable {σ : Type}

def pass (v : Visit σ) : Pass :=
  v.checker.pass v.workbench v.document v.env

def post (b : Board) (v : Visit σ) : Board :=
  (v.checker.checkDocument v.workbench v.document b v.env).board

end Visit

namespace Pass

def moves (a : Pass) : List Board.Move :=
  [.clear a.document, .set a.document a.found]

theorem mem_documents_standing_iff {as : List Pass} {document : String} :
    document ∈ (standing as).map Pass.document ↔ document ∈ as.map Pass.document := by
  induction as with
  | nil => exact Iff.rfl
  | cons a as ih =>
      rw [standing, List.map_cons, List.mem_cons]
      by_cases ha : a.document ∈ as.map Pass.document
      · rw [if_pos ha, ih]
        refine ⟨.inr, ?_⟩
        rintro (rfl | h)
        · exact ha
        · exact h
      · rw [if_neg ha, List.map_cons, List.mem_cons, ih]

/-- Two passes over different documents lead to the same entries in either order. -/
theorem get?_swap {a a' : Pass} (h : a.document ≠ a'.document) (b : Board) (document : String) :
    ((a.moves ++ a'.moves).foldl Board.apply b).get? document =
      ((a'.moves ++ a.moves).foldl Board.apply b).get? document := by
  simp only [moves, List.cons_append, List.nil_append, List.foldl_cons, List.foldl_nil,
    Board.get?_apply, Board.Move.document, Board.Move.shown?]
  by_cases ha : document = a.document
  · have ha' : document ≠ a'.document := ha ▸ h
    simp only [if_pos ha, if_neg ha']
  · by_cases ha' : document = a'.document
    · simp [ha', Ne.symm h]
    · simp [ha, ha']

end Pass

namespace Visit

variable {σ : Type}

theorem post_eq (b : Board) (v : Visit σ) : v.post b = v.pass.moves.foldl Board.apply b :=
  v.checker.board_checkDocument v.workbench v.document b v.env

theorem foldl_post_eq (b : Board) (vs : List (Visit σ)) :
    vs.foldl post b = ((vs.map pass).flatMap Pass.moves).foldl Board.apply b := by
  induction vs generalizing b with
  | nil => rfl
  | cons v vs ih =>
      rw [List.foldl_cons, ih, post_eq, List.map_cons, List.flatMap_cons, List.foldl_append]

theorem entries_foldl_post (b : Board) (vs : List (Visit σ)) :
    (vs.foldl post b).entries = Pass.posted b.entries (vs.map pass) := by
  induction vs generalizing b with
  | nil => exact (Pass.posted_nil b.entries).symm
  | cons v vs ih =>
      have hfirst : (v.post b).entries = Pass.posted b.entries [v.pass] :=
        v.checker.entries_checkDocument v.workbench v.document b v.env
      rw [List.foldl_cons, ih, hfirst, ← Pass.posted_append]
      rfl

/-- Two passes in a row over different documents can be exchanged. -/
theorem get?_foldl_post_swap {v v' : Visit σ}
    (h : v.document.identity ≠ v'.document.identity) (b : Board) (later : List (Visit σ))
    (document : String) :
    ((v :: v' :: later).foldl post b).get? document =
      ((v' :: v :: later).foldl post b).get? document := by
  have hswap : ∀ other, ((v' :: [v]).foldl post b).get? other =
      ((v :: [v']).foldl post b).get? other := by
    intro other
    have hne : v'.pass.document ≠ v.pass.document := Ne.symm h
    have hpasses := Pass.get?_swap hne b other
    rw [foldl_post_eq, foldl_post_eq]
    simpa using hpasses
  have hlater := Board.get?_foldl_congr hswap ((later.map pass).flatMap Pass.moves) document
  rw [← foldl_post_eq, ← foldl_post_eq] at hlater
  exact hlater.symm

end Visit

namespace Board

variable {σ : Type}

/-- A board shows what its history says, and after some passes just the last pass of each
document, in the order of these. -/
theorem shows_last_passes (ms : List Move) (vs : List (Visit σ)) :
    (after ms).Follows ms ∧
    let as := vs.map Visit.pass
    let b := vs.foldl Visit.post .empty
    b = after (as.flatMap Pass.moves) ∧
    b.entries = (Pass.standing as).map Pass.entry ∧
    b.documents.Nodup ∧
    (∀ document, document ∈ b.documents ↔ document ∈ as.map Pass.document) ∧
    ∀ earlier v v' later, vs = earlier ++ v :: v' :: later →
      v.document.identity ≠ v'.document.identity → ∀ document,
        ((earlier ++ v' :: v :: later).foldl Visit.post .empty).get? document =
          b.get? document := by
  refine ⟨follows_after ms, ?_⟩
  intro as b
  have hmoves : b = after (as.flatMap Pass.moves) := Visit.foldl_post_eq .empty vs
  have hentries : b.entries = (Pass.standing as).map Pass.entry :=
    Visit.entries_foldl_post .empty vs
  refine ⟨hmoves, hentries, hmoves ▸ nodup_documents_after _, ?_, ?_⟩
  · intro document
    rw [documents, hentries, List.map_map]
    exact Pass.mem_documents_standing_iff
  · rintro earlier v v' later rfl hne document
    have hswap := Visit.get?_foldl_post_swap hne (earlier.foldl Visit.post .empty) later document
    rw [← List.foldl_append, ← List.foldl_append] at hswap
    exact hswap.symm

end Board

end FenceCheck
