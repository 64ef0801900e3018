import FenceCheck.Cli
import FenceCheck.Host

/-!
# The program

Reads the directories that a command can see, runs the command on them, and writes back
the files that it left or took away.
-/

namespace FenceCheck.Program

/-- An entry of a directory, with everything below it. -/
partial def load (entry : IO.FS.DirEntry) : IO Node := do
  try
    let mut nodes := []
    for below in ← entry.path.readDir do
      nodes := (below.fileName, ← load below) :: nodes
    return .dir nodes
  catch _ => return .file (← IO.FS.readBinFile entry.path)

/-- The files above the working directory that a command looks for. -/
def visibleNames : List String :=
  Config.fileNames ++ (IgnoreKind.all.map IgnoreKind.place).filterMap fun place =>
    if place.length = 1 then place.head? else none

/-- What a directory above the working directory shows. -/
def glimpse (entry : IO.FS.DirEntry) : IO Node := do
  let mut entries := []
  for below in ← entry.path.readDir do
    if visibleNames.contains below.fileName then
      try
        entries := (below.fileName, .file (← IO.FS.readBinFile below.path)) :: entries
      catch _ => entries := (below.fileName, .dir []) :: entries
    else if below.fileName == Config.repositoryMarker.text then
      entries := (below.fileName, .dir []) :: entries
  return .dir entries

def loadDisk (names : List String) : IO Disk := do
  let mut root := Node.dir []
  for above in Walk.dirsAbove names do
    root := Node.put (← glimpse ⟨"/", String.intercalate "/" above⟩) above root
  root := Node.put (← load ⟨"/", String.intercalate "/" names⟩) names root
  return ⟨root, names⟩

def contents? (n : Node) (names : List String) : Option ByteArray :=
  match n.at? names with
  | some (.file bytes) => some bytes
  | _ => none

def store (before after : Disk) : IO Unit := do
  for names in after.root.files do
    if contents? before.root names != contents? after.root names then
      if let some bytes := contents? after.root names then
        IO.FS.writeBinFile (Walk.absoluteText names) bytes
  for names in before.root.files do
    if (contents? after.root names).isNone then
      IO.FS.removeFile (Walk.absoluteText names)

def wantsColour : IO Bool := do
  let forced ← IO.getEnv "CLICOLOR_FORCE"
  let refused ← IO.getEnv "NO_COLOR"
  return (forced.any (· != "0")) && refused.isNone

end FenceCheck.Program

open FenceCheck in
def main (args : List String) : IO UInt32 := do
  let started ← IO.monoMsNow
  let dir ← IO.currentDir
  let disk ← Program.loadDisk ((dir.toString.splitOn "/").filter (· != ""))
  let (result, after) := Cli.run Host.launch (← Program.wantsColour) args disk
  Program.store disk after
  let screen := result.show ((← IO.monoMsNow) - started)
  IO.print screen.stdout
  IO.eprint screen.stderr
  return UInt32.ofNat screen.exitCode
