import FenceCheck.Diagnostic

namespace FenceCheck

/-!
# Boards

A board shows for each document what its last pass found, in the order of those passes.
-/

structure Board where
  entries : List (String × List Diagnostic)
  deriving DecidableEq, Repr

namespace Board

def empty : Board := ⟨[]⟩

def documents (b : Board) : List String :=
  b.entries.map Prod.fst

def get? (b : Board) (document : String) : Option (List Diagnostic) :=
  b.entries.lookup document

def clear (b : Board) (document : String) : Board :=
  ⟨b.entries.filter fun e => e.1 != document⟩

def put (document : String) (ds : List Diagnostic) :
    List (String × List Diagnostic) → List (String × List Diagnostic)
  | [] => [(document, ds)]
  | e :: es => if e.1 = document then (document, ds) :: es else e :: put document ds es

/-- Show diagnostics for a document, in its old place if it has one, else at the end. -/
def set (b : Board) (document : String) (ds : List Diagnostic) : Board :=
  ⟨put document ds b.entries⟩

def total (b : Board) : Nat :=
  (b.entries.flatMap Prod.snd).length

end Board

end FenceCheck
