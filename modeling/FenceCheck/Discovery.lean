import FenceCheck.Discovery.Walk
import FenceCheck.Log

namespace FenceCheck

/-!
# Finding documents

The documents of a check are the files on its list and those that walks from the
directories on it report, in the order of their paths and each of them once. Files on
the list count whatever their names.
-/

inductive DiscoveryError
  | notFound (path : Path)
  deriving DecidableEq, Repr

def DiscoveryError.message : DiscoveryError → String
  | .notFound path => "File not found: " ++ path.text

namespace Discovery

/-- Where an empty list looks. -/
def defaultStart : Path := ⟨"."⟩

def starts (d : Disk) (paths : List Path) : List Path :=
  if paths.isEmpty then [defaultStart] else paths.filter fun p => !d.isFile p

/-- The files on the list and under its directories, as they are met. -/
def gathered (d : Disk) (respectful : Bool) (paths : List Path) : List Path :=
  ((paths.filter d.isFile) ++
    (starts d paths).flatMap fun start => (Walk.files d respectful start).1).map Path.clean

/-- The documents for a list of paths, all of which must exist. -/
def documents (d : Disk) (respectful : Bool) (paths : List Path) :
    Logged (Except DiscoveryError (List Path)) :=
  match paths.find? fun p => !d.pathExists p with
  | some p => (.error (.notFound p), [])
  | none =>
      let files := Path.sortedSet (gathered d respectful paths)
      let complaints := ((starts d paths).filterMap fun start =>
        match (Walk.files d respectful start).2 with
        | [] => none
        | texts => some (String.intercalate "\n" texts)).eraseDups
      (.ok files,
        complaints.map (fun text => Log.warn .discovery ("Skipping unreadable path: " ++ text)) ++
          [Log.debug .discovery s!"Discovered {files.length} Markdown file(s)"])

end Discovery

end FenceCheck
