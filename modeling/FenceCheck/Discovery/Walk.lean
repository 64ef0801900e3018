import FenceCheck.Discovery.IgnoreRule

namespace FenceCheck

/-!
# Walks through directories

A walk goes down from a directory and reports the Markdown files that no rule ignores.
Ignore files of four kinds count, an own kind before the general ones; within a kind the
nearest directory that has something to say decides, also above the start of the walk.
Hidden directories are not entered unless a rule keeps them.
-/

/-- The kinds of ignore files, by falling precedence. -/
inductive IgnoreKind
  | own
  | general
  | repository
  | exclude
  deriving DecidableEq, Repr

namespace IgnoreKind

def all : List IgnoreKind := [own, general, repository, exclude]

/-- Where the file lies below its directory. -/
def place : IgnoreKind → List String
  | own => [".snipcheckignore"]
  | general => [".ignore"]
  | repository => [".gitignore"]
  | exclude => [".git", "info", "exclude"]

def path (k : IgnoreKind) (dir : Path) : Path :=
  k.place.foldl (fun p name => p.join ⟨name⟩) dir

end IgnoreKind

abbrev IgnoreFiles := List (IgnoreKind × IgnoreFile)

namespace IgnoreFiles

def read (kinds : List IgnoreKind) (dir : Path) (n : Node) : IgnoreFiles × List String :=
  let found := kinds.filterMap fun k =>
    (n.at? k.place).map fun file => (k, IgnoreFile.read dir (k.path dir) file)
  (found.map fun e => (e.1, e.2.1), found.flatMap fun e => e.2.2)

def verdict? (fs : IgnoreFiles) (k : IgnoreKind) (path : List Char) (isDir : Bool) :
    Option Verdict :=
  (fs.lookup k).bind fun f => f.verdict? path isDir

end IgnoreFiles

structure Walk where
  kinds : List IgnoreKind
  /-- The start of the walk as it was written, and its names from the root. -/
  start : Path
  place : List String
  /-- The ignore files of the directories entered, the nearest first. -/
  entered : List IgnoreFiles
  /-- The ignore files above the start, the nearest first. -/
  above : List IgnoreFiles

namespace Walk

def absoluteText (names : List String) : String :=
  "/" ++ String.intercalate "/" names

/-- A path of the walk as seen from the root. -/
def absolutePath (w : Walk) (path : List Char) : List Char :=
  let dir := IgnoreFile.without IgnoreFile.dotSlash w.start.text.toList
  let below :=
    if w.start.sameAs ⟨"."⟩ then path
    else IgnoreFile.without ['/'] (IgnoreFile.without dir path)
  ((⟨absoluteText w.place⟩ : Path).join ⟨String.ofList below⟩).text.toList

def verdict? (w : Walk) (path : Path) (isDir : Bool) : Option Verdict :=
  let path := IgnoreFile.without IgnoreFile.dotSlash path.text.toList
  w.kinds.findSome? fun k =>
    (w.entered.findSome? fun fs => fs.verdict? k path isDir).or
      (w.above.findSome? fun fs => fs.verdict? k (w.absolutePath path) isDir)

def endings : List String := [".md", ".markdown"]

def isMarkdown (name : String) : Bool :=
  endings.any fun e => e.toList.isSuffixOf name.toList

def isHidden (name : String) : Bool :=
  name.toList.head? == some '.'

def skips (w : Walk) (path : Path) (name : String) (isDir : Bool) : Bool :=
  match w.verdict? path isDir with
  | some .ignored => true
  | some .kept => !isDir && !isMarkdown name
  | none => if isDir then isHidden name else !isMarkdown name

def enter (w : Walk) (path : Path) (n : Node) : Walk :=
  { w with entered := (IgnoreFiles.read w.kinds path n).1 :: w.entered }

mutual

/-- The files that a walk reports at a path. -/
def reported (w : Walk) (path : Path) : Node → List Path
  | .file _ => [path]
  | .dir entries => reportedIn (w.enter path (.dir entries)) path entries

def reportedIn (w : Walk) (path : Path) : List (String × Node) → List Path
  | [] => []
  | (name, n) :: entries =>
      (if w.skips (path.join ⟨name⟩) name n.isDir then []
        else reported w (path.join ⟨name⟩) n) ++ reportedIn w path entries

end

/-- The directories above a place, the outermost first. -/
def dirsAbove (place : List String) : List (List String) :=
  (List.range place.length).map place.take

/-- A walk from a directory, before it is entered, with complaints about the ignore files
above. Without `respectful`, only files of the own kind inside the walk count. -/
def begin (d : Disk) (respectful : Bool) (start : Path) (place : List String) :
    Walk × List String :=
  let kinds := if respectful then IgnoreKind.all else [.own]
  let above := if !respectful then [] else
    (dirsAbove place).filterMap fun names =>
      (d.root.at? names).map fun n => IgnoreFiles.read kinds ⟨absoluteText names⟩ n
  (⟨kinds, start, place, [], (above.map Prod.fst).reverse⟩, above.flatMap Prod.snd)

/-- The files under a directory, with complaints. -/
def files (d : Disk) (respectful : Bool) (start : Path) : List Path × List String :=
  match d.resolve start with
  | .error _ => ([], [])
  | .ok place =>
      match d.root.at? place with
      | none => ([], [])
      | some n =>
          let (w, complaints) := begin d respectful start place
          (w.reported start n, complaints)

end Walk

end FenceCheck
