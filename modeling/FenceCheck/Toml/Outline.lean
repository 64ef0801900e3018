import FenceCheck.Toml.Value

namespace FenceCheck.Toml

/-!
# Tables while a document is read

What may still be added to a table depends on how it came about. A value, an inline
table included, is closed. A table that only a longer header implied may get a header
of its own, and one that a dotted key made may get more dotted keys.
-/

inductive Origin
  | header
  | implied
  | dotted
  deriving DecidableEq, Repr

inductive Node
  | leaf (v : Value)
  | table (origin : Origin) (entries : List (String × Node))
  /-- The tables of an array, the newest first. -/
  | tables (newestFirst : List (List (String × Node)))
  deriving Inhabited

abbrev Entries := List (String × Node)

namespace Entries

/-- The entries with a new node for one key, in its place or at the end. -/
def put (key : String) (n : Node) : Entries → Entries
  | [] => [(key, n)]
  | e :: es => if e.1 = key then (key, n) :: es else e :: put key n es

def openTable : List String → Entries → Option Entries
  | [], _ => none
  | [key], es =>
      match es.lookup key with
      | none => some (put key (.table .header []) es)
      | some (.table .implied inner) => some (put key (.table .header inner) es)
      | _ => none
  | key :: path, es =>
      match es.lookup key with
      | none => (openTable path []).map fun inner => put key (.table .implied inner) es
      | some (.table origin inner) =>
          (openTable path inner).map fun inner => put key (.table origin inner) es
      | some (.tables (last :: others)) =>
          (openTable path last).map fun last => put key (.tables (last :: others)) es
      | _ => none

def openElement : List String → Entries → Option Entries
  | [], _ => none
  | [key], es =>
      match es.lookup key with
      | none => some (put key (.tables [[]]) es)
      | some (.tables ts) => some (put key (.tables ([] :: ts)) es)
      | _ => none
  | key :: path, es =>
      match es.lookup key with
      | none => (openElement path []).map fun inner => put key (.table .implied inner) es
      | some (.table origin inner) =>
          (openElement path inner).map fun inner => put key (.table origin inner) es
      | some (.tables (last :: others)) =>
          (openElement path last).map fun last => put key (.tables (last :: others)) es
      | _ => none

/-- Give a dotted key its value. `origin` is that of the table at hand, and `deep` says
that a dotted key led to it. -/
def assign (v : Value) : List String → Bool → Origin → Entries → Option Entries
  | [], _, _, _ => none
  | [key], deep, origin, es =>
      if deep && origin != .dotted then none
      else
        match es.lookup key with
        | none => some (put key (.leaf v) es)
        | some _ => none
  | key :: path, _, _, es =>
      match es.lookup key with
      | none => (assign v path true .dotted []).map fun inner => put key (.table .dotted inner) es
      | some (.table .header _) => none
      | some (.table origin inner) =>
          (assign v path true origin inner).map fun inner => put key (.table origin inner) es
      | _ => none

/-- Change the entries of the table that a header opened. -/
def within (f : Entries → Option Entries) : List String → Entries → Option Entries
  | [], es => f es
  | key :: path, es =>
      match es.lookup key with
      | some (.table origin inner) =>
          (within f path inner).map fun inner => put key (.table origin inner) es
      | some (.tables (last :: others)) =>
          (within f path last).map fun last => put key (.tables (last :: others)) es
      | _ => none

end Entries

mutual

def Node.value : Node → Value
  | .leaf v => v
  | .table _ es => .table (Entries.values es)
  | .tables ts => .array (Entries.arrayOf ts).reverse

def Entries.values : List (String × Node) → List (String × Value)
  | [] => []
  | (key, n) :: es => (key, n.value) :: Entries.values es

def Entries.arrayOf : List (List (String × Node)) → List Value
  | [] => []
  | t :: ts => .table (Entries.values t) :: Entries.arrayOf ts

end

end FenceCheck.Toml
