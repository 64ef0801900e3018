import FenceCheck.Discovery.Glob
import FenceCheck.Disk
import FenceCheck.Text.Blank

namespace FenceCheck

/-!
# Ignore rules

An ignore file has a rule on each line. A rule without a slash holds at any depth, one
with a slash is read from the directory of its file. Of the rules that match a path the
last one decides.
-/

inductive Verdict
  | ignored
  | kept
  deriving DecidableEq, Repr

structure IgnoreRule where
  glob : Glob
  verdict : Verdict
  dirsOnly : Bool

namespace IgnoreRule

/-- The text of a line that counts. Blanks at its end do not, unless the last of them is
escaped. -/
def trimmed (line : List Char) : List Char :=
  if ['\\', ' '].isSuffixOf line then line else Text.trimEnd line

def isComment (line : List Char) : Bool :=
  line.head? == some '#'

/-- A pattern with the signs around it taken away. -/
structure Parts where
  verdict : Verdict
  /-- Whether a slash in front ties the pattern to the directory of its file. -/
  anchored : Bool
  dirsOnly : Bool
  pattern : List Char

/-- A slash at the end, with a backslash in front of it if there is one, asks for a
directory. -/
def Parts.ofTail (verdict : Verdict) (anchored : Bool) (s : List Char) : Parts :=
  if s.getLast? = some '/' then
    let s := s.dropLast
    ⟨verdict, anchored, true, if s.getLast? = some '\\' then s.dropLast else s⟩
  else ⟨verdict, anchored, false, s⟩

def Parts.ofUnsigned (verdict : Verdict) : List Char → Parts
  | '/' :: s => .ofTail verdict true s
  | s => .ofTail verdict false s

/-- A mark of exclamation in front keeps what matches. Escaped, it stands for itself, and
so does a number sign. -/
def Parts.ofLine : List Char → Parts
  | '\\' :: '!' :: s => .ofTail .ignored false ('!' :: s)
  | '\\' :: '#' :: s => .ofTail .ignored false ('#' :: s)
  | '!' :: s => .ofUnsigned .kept s
  | s => .ofUnsigned .ignored s

/-- The pattern for a path as seen from the directory of the file. What ends in two stars
means everything inside a directory, but not the directory. -/
def Parts.fullPattern (p : Parts) : List Char :=
  let anywhere := ['*', '*', '/']
  let isFree := !p.anchored && !p.pattern.contains '/'
  let pattern :=
    if isFree && !anywhere.isPrefixOf p.pattern && p.pattern != ['*', '*'] then
      anywhere ++ p.pattern
    else p.pattern
  if ['/', '*', '*'].isSuffixOf pattern then pattern ++ ['/', '*'] else pattern

/-- The rule of a line, if it has one. -/
def ofLine? (line : List Char) : Except (String × GlobError) (Option IgnoreRule) :=
  let line := trimmed line
  if isComment line || line.isEmpty then .ok none
  else
    let parts := Parts.ofLine line
    match Glob.parse parts.fullPattern with
    | .ok glob => .ok (some ⟨glob, parts.verdict, parts.dirsOnly⟩)
    | .error e => .error (String.ofList line, e)

def applies (r : IgnoreRule) (path : List Char) (isDir : Bool) : Bool :=
  (isDir || !r.dirsOnly) && r.glob.accepts path

end IgnoreRule

structure IgnoreFile where
  /-- The directory that paths are seen from, as it was written. -/
  dir : List Char
  rules : List IgnoreRule

namespace IgnoreFile

/-- What follows `start`, or the whole text if it does not begin so. -/
def without (start s : List Char) : List Char :=
  (Text.after? start s).getD s

def dotSlash : List Char := ['.', '/']

/-- A path as seen from the directory of the file. The working directory, written as a
dot, is no beginning of a path. -/
def relative (f : IgnoreFile) (path : List Char) : List Char :=
  let path := without dotSlash path
  let dir := without dotSlash f.dir
  if (⟨String.ofList dir⟩ : Path).sameAs ⟨"."⟩ || !path.contains '/' then path
  else
    match Text.after? dir path with
    | some rest => without ['/'] rest
    | none => path

def verdict? (f : IgnoreFile) (path : List Char) (isDir : Bool) : Option Verdict :=
  (f.rules.reverse.find? fun r => r.applies (f.relative path) isDir).map IgnoreRule.verdict

/-- A line ends at a line feed, with a carriage return in front of it if there is one. A
final line feed opens no further line. -/
def rawLines (bytes : List UInt8) : List (List UInt8) :=
  let all := Text.cells 10 bytes
  let last := all.getLastD []
  (all.dropLast.map fun line => if line.getLast? = some 13 then line.dropLast else line) ++
    if last = [] then [] else [last]

/-- The lines of a file, up to the first that is not text. A byte order mark in front of
the first one is skipped. -/
def linesOf (bytes : ByteArray) : List (Except Fault (List Char)) :=
  let lines := (rawLines bytes.toList).map fun raw =>
    match Text.decode? ⟨raw.toArray⟩ with
    | some line => Except.ok line.toList
    | none => .error .notUtf8
  let whole := lines.takeWhile Except.isOk
  let marked := whole.modifyHead fun line => line.map (·.dropWhile (·.toNat == 0xFEFF))
  marked ++ (lines.drop whole.length).take 1

/-- The rules that a node holds as an ignore file, and complaints about its lines. -/
def read (dir path : Path) (n : Node) : IgnoreFile × List String :=
  let lines := match n with
    | .file bytes => linesOf bytes
    | .dir _ => [.error .isDirectory]
  let read := lines.map fun line =>
    match line with
    | .error fault => Except.error fault.message
    | .ok line =>
        match IgnoreRule.ofLine? line with
        | .error (text, e) => .error s!"error parsing glob \x27{text}\x27: {e.message}"
        | .ok rule => .ok rule
  let complaints := read.zipIdx.filterMap fun e =>
    match e.1 with
    | .error text => some s!"{path.text}: line {e.2 + 1}: {text}"
    | .ok _ => none
  (⟨dir.text.toList, read.filterMap fun r =>
    match r with
    | .ok rule => rule
    | .error _ => none⟩, complaints)

end IgnoreFile

end FenceCheck
