import FenceCheck.Text.Lines

namespace FenceCheck

/-!
# Paths

A path is kept as it was written. What it means is the list of its components: empty
cells and inner dots say nothing. Parents, ancestors and remainders are cut from the
text, so what is left of it looks as it was written. Nothing here asks a disk; in
particular two dots stay what they are.
-/

structure Path where
  text : String
  deriving DecidableEq, Repr, Inhabited

/-- The parts of a path that mean something. -/
inductive Component
  | root
  | here
  | up
  | name (letters : List Char)
  deriving DecidableEq, Repr

namespace Component

/-- Components are ordered by kind and then by the code points of their names. -/
def key : Component → List Nat
  | root => [0]
  | here => [1]
  | up => [2]
  | name letters => 3 :: letters.map Char.toNat

def text : Component → String
  | root => "/"
  | here => "."
  | up => ".."
  | name letters => String.ofList letters

/-- What a cell means behind the first one. -/
def ofCell? (cell : List Char) : Option Component :=
  if cell = [] ∨ cell = ['.'] then none
  else if cell = ['.', '.'] then some up
  else some (name cell)

/-- What the first cell means. -/
def ofFirst? (cell : List Char) : Option Component :=
  if cell = ['.'] then some here else ofCell? cell

end Component

namespace Path

def cells (p : Path) : List (List Char) :=
  Text.cells '/' p.text.toList

def isAbsolute (p : Path) : Bool :=
  p.text.toList.head? == some '/'

def endsWithSlash (p : Path) : Bool :=
  p.text.toList.getLast? == some '/'

def meaning (p : Path) : List (List Char × Option Component) :=
  match p.cells with
  | [] => []
  | first :: rest =>
      (first, if p.isAbsolute then some .root else Component.ofFirst? first) ::
        rest.map fun cell => (cell, Component.ofCell? cell)

def components (p : Path) : List Component :=
  p.meaning.filterMap Prod.snd

/-- Paths are compared component by component. -/
def key (p : Path) : List (List Nat) :=
  p.components.map Component.key

def le (p q : Path) : Bool :=
  !decide (q.key < p.key)

def sameAs (p q : Path) : Bool :=
  p.key == q.key

def ofCells (cells : List (List Char)) : Path :=
  ⟨String.ofList (List.intercalate ['/'] cells)⟩

/-- Whether a cell behind the first means nothing. -/
def isFiller (cell : List Char) : Bool :=
  cell == [] || cell == ['.']

def dropTrailing (cells : List (List Char)) : List (List Char) :=
  (cells.reverse.dropWhile isFiller).reverse

/-- The path without its last component; a root and the empty path have no parent. -/
def parent? (p : Path) : Option Path :=
  match p.cells with
  | [] => none
  | first :: rest =>
      match dropTrailing rest with
      | [] => if first = [] then none else some ⟨""⟩
      | kept =>
          match dropTrailing kept.dropLast with
          | [] => some (if p.isAbsolute then ⟨"/"⟩ else ofCells [first])
          | kept => some (ofCells (first :: kept))

/-- At most `n` ancestors, the path itself first. -/
def ancestorsUpTo : Nat → Path → List Path
  | 0, _ => []
  | n + 1, p =>
      p :: match p.parent? with
        | none => []
        | some q => ancestorsUpTo n q

/-- Every parent is shorter, so the length of the path bounds their number. -/
def ancestors (p : Path) : List Path :=
  p.ancestorsUpTo (p.text.length + 1)

/-- A path below `base`, or the path alone if it is absolute. -/
def join (base p : Path) : Path :=
  if p.isAbsolute || base.text == "" then p
  else if base.endsWithSlash then ⟨base.text ++ p.text⟩
  else ⟨base.text ++ "/" ++ p.text⟩

/-- The cells behind the first `n` components. -/
def cellsAfter : Nat → List (List Char × Option Component) → List (List Char)
  | 0, cells => cells.map Prod.fst
  | _ + 1, [] => []
  | n + 1, (_, some _) :: cells => cellsAfter n cells
  | n + 1, (_, none) :: cells => cellsAfter (n + 1) cells

/-- What follows the components of `base`. -/
def relativeTo? (base p : Path) : Option Path :=
  if base.components.isPrefixOf p.components then
    some (ofCells (dropTrailing ((cellsAfter base.components.length p.meaning).dropWhile isFiller)))
  else none

/-- The path without a dot in front. -/
def clean (p : Path) : Path :=
  ((⟨"./"⟩ : Path).relativeTo? p).getD p

/-- The path as seen from the root, for a working directory. Two slashes in front are
kept, more count as one, and so does a final slash. -/
def absolute (cwd p : Path) : Path :=
  let parts := (((⟨"."⟩ : Path).relativeTo? p).getD p).components
  let extend (base : Path) (parts : List Component) : Path :=
    parts.foldl (fun q c => q.join ⟨c.text⟩) base
  let whole :=
    match p.isAbsolute, p.text.toList with
    | true, '/' :: '/' :: '/' :: _ => extend ⟨""⟩ parts
    | true, '/' :: '/' :: _ => extend ⟨"//"⟩ parts.tail
    | true, _ => extend ⟨""⟩ parts
    | false, _ => extend cwd parts
  if p.endsWithSlash then whole.join ⟨""⟩ else whole

/-- Neighbours that mean the same path, all but the first of them left out. -/
def dropRepeats : List Path → List Path
  | [] => []
  | p :: ps =>
      match dropRepeats ps with
      | [] => [p]
      | q :: qs => if p.sameAs q then p :: qs else p :: q :: qs

/-- Sorted by component, each path once, in the first of its spellings. -/
def sortedSet (ps : List Path) : List Path :=
  dropRepeats (ps.mergeSort le)

end Path

end FenceCheck
