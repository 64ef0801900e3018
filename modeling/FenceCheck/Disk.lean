import FenceCheck.Path
import FenceCheck.Text.Utf8

namespace FenceCheck

/-!
# Disks

A disk is a tree of directories and files together with a working directory. Paths are
followed one cell at a time, and every cell wants a directory to start from, also an
empty one or a dot. Nothing is linked, so two dots lead to the directory above.
-/

inductive Fault
  | notFound
  | notDirectory
  | isDirectory
  | permissionDenied
  | nameTooLong
  | nulInName
  | nulInData
  | notUtf8
  | other (text : String)
  deriving DecidableEq, Repr

namespace Fault

def reason : Fault → String
  | notFound => "No such file or directory"
  | notDirectory => "Not a directory"
  | isDirectory => "Is a directory"
  | permissionDenied => "Permission denied"
  | nameTooLong => "File name too long"
  | nulInName => "file name contained an unexpected NUL byte"
  | nulInData => "nul byte found in provided data"
  | notUtf8 => "stream did not contain valid UTF-8"
  | other text => text

/-- The number of a fault that the system reports. -/
def code? : Fault → Option Nat
  | notFound => some 2
  | permissionDenied => some 13
  | notDirectory => some 20
  | isDirectory => some 21
  | nameTooLong => some 36
  | _ => none

def message (f : Fault) : String :=
  match f.code? with
  | some code => s!"{f.reason} (os error {code})"
  | none => f.reason

end Fault

inductive Node
  | file (bytes : ByteArray)
  | dir (entries : List (String × Node))
  deriving Inhabited

namespace Node

abbrev Entries := List (String × Node)

def isDir : Node → Bool
  | dir _ => true
  | file _ => false

def child? (name : String) : Node → Option Node
  | dir entries => entries.lookup name
  | file _ => none

/-- What stands at the end of a chain of names. -/
def at? : List String → Node → Option Node
  | [], n => some n
  | name :: names, n => (n.child? name).bind (at? names)

def Entries.put (name : String) (n : Node) : Entries → Entries
  | [] => [(name, n)]
  | e :: es => if e.1 = name then (name, n) :: es else e :: put name n es

def Entries.drop (name : String) (es : Entries) : Entries :=
  es.filter fun e => e.1 != name

/-- Put a node at the end of a chain of names; directories on the way are made. -/
def put (new : Node) : List String → Node → Node
  | [], _ => new
  | name :: names, dir entries =>
      dir (Entries.put name (put new names ((entries.lookup name).getD (dir []))) entries)
  | _ :: _, file bytes => file bytes

/-- Take away what stands at the end of a chain of names. -/
def remove : List String → Node → Node
  | [name], dir entries => dir (Entries.drop name entries)
  | name :: names, dir entries =>
      match entries.lookup name with
      | some n => dir (Entries.put name (remove names n) entries)
      | none => dir entries
  | _, n => n

mutual

/-- The chains of names that lead to files. -/
def files : Node → List (List String)
  | file _ => [[]]
  | dir entries => filesIn entries

def filesIn : List (String × Node) → List (List String)
  | [] => []
  | (name, n) :: es => (files n).map (name :: ·) ++ filesIn es

end

end Node

structure Disk where
  root : Node
  /-- The names from the root to the working directory. -/
  cwd : List String
  deriving Inhabited

namespace Disk

def cwdPath (d : Disk) : Path :=
  ⟨"/" ++ String.intercalate "/" d.cwd⟩

def isDirAt (d : Disk) (names : List String) : Bool :=
  match d.root.at? names with
  | some n => n.isDir
  | none => false

/-- Follow one cell from a directory, given by its names with the innermost first. -/
def follow (d : Disk) (stack : List String) (cell : List Char) : Except Fault (List String) :=
  if !d.isDirAt stack.reverse then .error .notDirectory
  else if cell = [] ∨ cell = ['.'] then .ok stack
  else if cell = ['.', '.'] then .ok stack.tail
  else if 255 < Text.byteLength cell then .error .nameTooLong
  else
    let name := String.ofList cell
    match d.root.at? (name :: stack).reverse with
    | some _ => .ok (name :: stack)
    | none => .error .notFound

def startOf (d : Disk) (p : Path) : List String :=
  if p.isAbsolute then [] else d.cwd.reverse

def checkName (p : Path) : Except Fault Unit :=
  if p.text.toList.any (·.toNat == 0) then .error .nulInName
  else if p.text = "" then .error .notFound
  else .ok ()

/-- The names that a path leads to, if something stands there. -/
def resolve (d : Disk) (p : Path) : Except Fault (List String) := do
  checkName p
  let found ← p.cells.foldlM d.follow (d.startOf p)
  return found.reverse

def node? (d : Disk) (p : Path) : Except Fault Node := do
  let names ← d.resolve p
  match d.root.at? names with
  | some n => return n
  | none => throw .notFound

def pathExists (d : Disk) (p : Path) : Bool :=
  match d.node? p with
  | .ok _ => true
  | .error _ => false

def isFile (d : Disk) (p : Path) : Bool :=
  match d.node? p with
  | .ok (.file _) => true
  | _ => false

def read (d : Disk) (p : Path) : Except Fault ByteArray := do
  match ← d.node? p with
  | .file bytes => return bytes
  | .dir _ => throw .isDirectory

def readText (d : Disk) (p : Path) : Except Fault String := do
  match Text.decode? (← d.read p) with
  | some text => return text
  | none => throw .notUtf8

/-- The names that a file would have, whose directory must exist. -/
def place (d : Disk) (p : Path) : Except Fault (List String) := do
  checkName p
  let above ← p.cells.dropLast.foldlM d.follow (d.startOf p)
  if !d.isDirAt above.reverse then throw .notDirectory
  let last := p.cells.getLastD []
  if Path.isFiller last || last == ['.', '.'] then throw .isDirectory
  if 255 < Text.byteLength last then throw .nameTooLong
  return (String.ofList last :: above).reverse

/-- Write a file, over an older one if there is one. -/
def write (d : Disk) (p : Path) (bytes : ByteArray) : Except Fault Disk := do
  let names ← d.place p
  if d.isDirAt names then throw .isDirectory
  return { d with root := Node.put (.file bytes) names d.root }

def makeDir (d : Disk) (p : Path) : Except Fault Disk := do
  let names ← d.place p
  if (d.root.at? names).isSome then throw (.other "File exists")
  return { d with root := Node.put (.dir []) names d.root }

def delete (d : Disk) (p : Path) : Except Fault Disk := do
  let names ← d.resolve p
  if d.isDirAt names then throw .isDirectory
  return { d with root := d.root.remove names }

end Disk

end FenceCheck
