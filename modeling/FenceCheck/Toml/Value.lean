namespace FenceCheck.Toml

/-!
# Values

Numbers with a fraction and dates are kept as written: nothing is computed with them.
A table keeps its keys in the order in which they were defined.
-/

inductive Value
  | string (text : String)
  | integer (n : Int)
  | float (text : String)
  | boolean (b : Bool)
  | date (text : String)
  | array (items : List Value)
  | table (entries : List (String × Value))
  deriving Repr, Inhabited

abbrev Table := List (String × Value)

namespace Table

def keys (t : Table) : List String :=
  t.map Prod.fst

def get? (t : Table) (key : String) : Option Value :=
  t.lookup key

/-- The table without the keys that fail a test. -/
def keep (t : Table) (p : String → Bool) : Table :=
  t.filter fun e => p e.1

end Table

end FenceCheck.Toml
