import FenceCheck.Board

namespace FenceCheck.Board

/-!
# What a board shows after a pass

Clearing a document and then setting what was found for it moves it to the end of the board
and leaves the other documents as they are.
-/

theorem put_of_notMem {document : String} (ds : List Diagnostic)
    {es : List (String × List Diagnostic)} (h : ∀ e ∈ es, e.1 ≠ document) :
    put document ds es = es ++ [(document, ds)] := by
  induction es with
  | nil => rfl
  | cons e es ih =>
      have he : e.1 ≠ document := h e (by simp)
      simp [put, he, ih fun e hm => h e (by simp [hm])]

theorem entries_set_clear (b : Board) (document : String) (ds : List Diagnostic) :
    ((b.clear document).set document ds).entries =
      b.entries.filter (fun e => e.1 != document) ++ [(document, ds)] :=
  put_of_notMem ds fun e he => by
    simpa using (List.mem_filter.1 he).2

theorem get?_set_clear (b : Board) (document : String) (ds : List Diagnostic) :
    ((b.clear document).set document ds).get? document = some ds := by
  have hnone : (b.entries.filter fun e => e.1 != document).lookup document = none := by
    rw [List.lookup_eq_none_iff]
    intro e he
    have hne : e.1 ≠ document := by simpa using (List.mem_filter.1 he).2
    simpa using hne.symm
  rw [get?, entries_set_clear, List.lookup_append, hnone]
  simp

end FenceCheck.Board
