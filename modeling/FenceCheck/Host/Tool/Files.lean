import FenceCheck.Host.Tool

namespace FenceCheck.Host.Tool

/-!
# Tools for files and names
-/

def cat : Tool := fun t =>
  let a := Arguments.read [] t.args
  t.each (a.operandsOr "-") fun t operand =>
    match t.source operand with
    | .ok bytes => t.prints bytes
    | .error fault => t.complains 1 s!"{operand}: {fault.reason}"

/-- How much of a file is wanted: lines or bytes. -/
structure Extent where
  inBytes : Bool
  count : Nat
  /-- Whether the count says where to begin. -/
  fromStart : Bool

def extent (a : Arguments) : Extent :=
  let read (s : String) : Nat × Bool :=
    match s.toList with
    | '+' :: ds => ((String.ofList ds).toNat?.getD 1, true)
    | ds => ((String.ofList (ds.dropWhile (· == '-'))).toNat?.getD 10, false)
  match a.setting? 'c', a.setting? 'n' with
  | some s, _ => ⟨true, (read s).1, (read s).2⟩
  | none, some s => ⟨false, (read s).1, (read s).2⟩
  | none, none =>
      match a.flags.filter Char.isDigit with
      | [] => ⟨false, 10, false⟩
      | ds => ⟨false, (String.ofList ds).toNat?.getD 10, false⟩

def firstPart (e : Extent) (bytes : List UInt8) : List UInt8 :=
  if e.inBytes then bytes.take e.count
  else
    let (lines, ended) := linesOf bytes
    if e.count < lines.length then unlines (lines.take e.count) else unlinesAs ended lines

def lastPart (e : Extent) (bytes : List UInt8) : List UInt8 :=
  if e.inBytes then
    bytes.drop (if e.fromStart then e.count - 1 else bytes.length - e.count)
  else
    let (lines, ended) := linesOf bytes
    unlinesAs ended
      (lines.drop (if e.fromStart then e.count - 1 else lines.length - e.count))

/-- Parts of files, with headings if there are several. -/
def parts (select : Extent → List UInt8 → List UInt8) : Tool := fun t =>
  let a := Arguments.read ['n', 'c'] t.args
  let e := extent a
  let operands := a.operandsOr "-"
  t.each operands fun t operand =>
    let heading := if operands.length < 2 then [] else bytesOf s!"==> {operand} <==\n"
    if operand = "/dev/zero" ∧ e.inBytes then t.prints (List.replicate e.count 0)
    else
      match t.source operand with
      | .ok bytes => t.prints (heading ++ select e bytes)
      | .error .isDirectory => t.complains 1 s!"error reading \x27{operand}\x27: Is a directory"
      | .error fault =>
          t.complains 1 s!"cannot open \x27{operand}\x27 for reading: {fault.reason}"

def head : Tool := parts firstPart

def tail : Tool := parts lastPart

/-- The last name of a path without slashes at its end. -/
def lastName (p : List Char) : List Char :=
  let bare := (p.reverse.dropWhile (· == '/')).reverse
  if bare.isEmpty then (if p.isEmpty then [] else ['/'])
  else (bare.reverse.takeWhile (· != '/')).reverse

def basename : Tool := fun t =>
  match (Arguments.read [] t.args).operands with
  | [] => t.complains 1 "missing operand"
  | p :: more =>
      let name := lastName p.toList
      let suffix := (more.headD "").toList
      let name :=
        if !suffix.isEmpty && suffix.isSuffixOf name && name != suffix then
          name.take (name.length - suffix.length)
        else name
      t.writes (String.ofList name ++ "\n")

def dirname : Tool := fun t =>
  match (Arguments.read [] t.args).operands with
  | [] => t.complains 1 "missing operand"
  | ps => t.writes (String.join (ps.map fun p =>
      let bare := (p.toList.reverse.dropWhile (· == '/'))
      let above := bare.dropWhile (· != '/')
      let dir := (above.dropWhile (· == '/')).reverse
      (if above.isEmpty then (if bare.isEmpty && !p.isEmpty then "/" else ".")
        else if dir.isEmpty then "/" else String.ofList dir) ++ "\n"))

def pwd : Tool := fun t => t.writes (t.disk.cwdPath.text ++ "\n")

/-- The names of directories, also those with files in them, are taken away at once. -/
def removeAll (d : Disk) (p : Path) : Except Fault Disk := do
  let names ← d.resolve p
  return { d with root := d.root.remove names }

def rm : Tool := fun t =>
  let a := Arguments.read [] t.args
  let deep := a.has 'r' || a.has 'R'
  if a.operands.isEmpty then
    if a.has 'f' then t.done 0 else t.complains 1 "missing operand"
  else
    t.each a.operands fun t operand =>
      match if deep then removeAll t.disk ⟨operand⟩ else t.disk.delete ⟨operand⟩ with
      | .ok d => ⟨0, [], "", d, 0⟩
      | .error .notFound =>
          if a.has 'f' then t.done 0
          else t.complains 1 s!"cannot remove \x27{operand}\x27: No such file or directory"
      | .error fault => t.complains 1 s!"cannot remove \x27{operand}\x27: {fault.reason}"

def touch : Tool := fun t =>
  t.each (Arguments.read ['d', 't'] t.args).operands fun t operand =>
    if t.disk.pathExists ⟨operand⟩ then t.done 0
    else t.withDisk 1 (fun f => s!"cannot touch \x27{operand}\x27: {f.reason}")
      (t.disk.write ⟨operand⟩ .empty)

def mkdir : Tool := fun t =>
  let a := Arguments.read ['m'] t.args
  t.each a.operands fun t operand =>
    let goals := if a.has 'p' then (Path.ancestors ⟨operand⟩).reverse else [⟨operand⟩]
    let goals := if a.has 'p' then goals.filter fun p => p.text != "" && !t.disk.pathExists p
      else goals
    t.withDisk 1 (fun f => s!"cannot create directory \x27{operand}\x27: {f.reason}")
      (goals.foldlM (fun d p => d.makeDir p) t.disk)

/-- Directories are taken away only if nothing is in them. -/
def rmdir : Tool := fun t =>
  t.each (Arguments.read [] t.args).operands fun t operand =>
    t.withDisk 1 (fun f => s!"failed to remove \x27{operand}\x27: {f.reason}") do
      match ← t.disk.node? ⟨operand⟩ with
      | .dir [] => removeAll t.disk ⟨operand⟩
      | .dir _ => throw (.other "Directory not empty")
      | .file _ => throw .notDirectory

/-- Where a file goes: into a directory under its old name, else to the path itself. -/
def goal (d : Disk) (source target : String) : Path :=
  match d.node? ⟨target⟩ with
  | .ok (.dir _) => Path.join ⟨target⟩ ⟨String.ofList (lastName source.toList)⟩
  | _ => ⟨target⟩

def transfer (keep : Bool) : Tool := fun t =>
  match (Arguments.read [] t.args).operands with
  | [source, target] =>
      t.withDisk 1 (fun f => s!"cannot stat \x27{source}\x27: {f.reason}") do
        let bytes ← t.disk.read ⟨source⟩
        let d ← t.disk.write (goal t.disk source target) bytes
        if keep then return d else d.delete ⟨source⟩
  | _ => t.complains 1 "missing file operand"

def list : Tool := fun t =>
  let a := Arguments.read [] t.args
  t.each (a.operandsOr ".") fun t operand =>
    match t.disk.node? ⟨operand⟩ with
    | .ok (.file _) => t.writes (operand ++ "\n")
    | .ok (.dir entries) =>
        let names := (entries.map Prod.fst).filter fun name =>
          a.has 'a' || a.has 'A' || !name.startsWith "."
        t.writes (String.join ((names.mergeSort fun x y => decide (x ≤ y)).map (· ++ "\n")))
    | .error fault => t.complains 2 s!"cannot access \x27{operand}\x27: {fault.reason}"

def tee : Tool := fun t =>
  let a := Arguments.read [] t.args
  let copied := t.each a.operands fun t operand =>
    let old := if a.has 'a' then ((t.disk.read ⟨operand⟩).toOption.getD .empty).toList else []
    t.withDisk 1 (fun f => s!"{operand}: {f.reason}")
      (t.disk.write ⟨operand⟩ ⟨(old ++ t.input).toArray⟩)
  { copied with out := t.input }

end FenceCheck.Host.Tool
