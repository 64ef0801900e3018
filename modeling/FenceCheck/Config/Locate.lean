import FenceCheck.Config.Field
import FenceCheck.Disk
import FenceCheck.Toml.Reader

namespace FenceCheck

/-!
# Finding and loading the configuration

The configuration is a given file, or the one in the nearest directory upward that has
one. The search does not leave a repository, but a file beside its `.git` still counts.
Whatever was loaded comes with the project root that paths in it refer to.
-/

inductive ConfigError
  | read (path : Path) (fault : Fault)
  /-- The file is not TOML, or a value does not fit its field. -/
  | malformed (path : Path)
  deriving DecidableEq, Repr

def ConfigError.message : ConfigError → String
  | .read path fault => s!"Failed to read config file at {path.text}: {fault.message}"
  | .malformed path => s!"Failed to parse config: {path.text}: not a configuration"

def ConfigError.cause? : ConfigError → Option Fault
  | .read _ fault => some fault
  | .malformed _ => none

namespace Config

/-- The names of configuration files, the preferred one first. -/
def fileNames : List String := [".snipcheck.toml", "snipcheck.toml"]

def repositoryMarker : Path := ⟨".git"⟩

/-- How many directories a search upward looks at. -/
def searchLimit : Nat := 100

def searchPath (start : Path) : List Path :=
  start.ancestorsUpTo searchLimit

def isRepository (d : Disk) (dir : Path) : Bool :=
  d.pathExists (dir.join repositoryMarker)

def fileIn? (d : Disk) (dir : Path) : Option Path :=
  (fileNames.map fun name => dir.join ⟨name⟩).find? d.isFile

def remark (text : String) : Log.Record :=
  Log.debug .config ("[snipcheck-config] " ++ text)

/-- The nearest repository upward, or the directory itself. -/
def projectRoot (d : Disk) (start : Path) : Logged Path :=
  match (searchPath start).find? (isRepository d) with
  | some root => (root, [remark s!"Found .git at: {root.text}"])
  | none => (start, [remark s!"No .git found, using {start.text} as project root"])

/-- The first directory that has a configuration file, up to the first repository, and
that file. -/
def nearest? (d : Disk) : List Path → Logged (Option (Path × Path))
  | [] => (none, [])
  | dir :: dirs =>
      let searching := remark s!"Searching for config in: {dir.text}"
      match fileIn? d dir with
      | some file => (some (dir, file), [searching, remark s!"Found config file: {file.text}"])
      | none =>
          if isRepository d dir then (none, [searching, remark "Stopping at .git directory"])
          else
            let (found, log) := nearest? d dirs
            (found, searching :: log)

/-- The configuration file for a directory, with the project root of the place where it
was found. -/
def discover? (d : Disk) (start : Path) : Logged (Option (Path × Path)) :=
  let (found, searching) := nearest? d (searchPath start)
  match found with
  | none => (none, searching)
  | some (dir, file) =>
      let (root, rooting) := projectRoot d dir
      (some (file, root), searching ++ rooting)

/-- Read a configuration file. Keys that no field has are reported and otherwise ignored. -/
def ofFile (d : Disk) (path : Path) : Logged (Except ConfigError Config) :=
  match d.readText path with
  | .error fault => (.error (.read path fault), [])
  | .ok text =>
      match Toml.read? text with
      | none => (.error (.malformed path), [])
      | some table =>
          (match ofTable? table with
            | some config => .ok config
            | none => .error (.malformed path),
          (unknownKeys table).map fun key =>
            Log.warn .config s!"[snipcheck-config] Unknown key \x27{key}\x27 in {path.text}")

/-- A configuration with the place it belongs to. -/
structure Located where
  config : Config
  file : Option Path
  projectRoot : Path
  deriving Repr

def locatedAt (d : Disk) (file : Path) (root : Logged Path) (before : List Log.Record) :
    Logged (Except ConfigError Located) :=
  let (result, reading) := ofFile d file
  match result with
  | .error e => (.error e, before ++ reading)
  | .ok config => (.ok ⟨config, some file, root.1⟩, before ++ reading ++ root.2)

def loadGiven (d : Disk) (file : Path) : Logged (Except ConfigError Located) :=
  let dir :=
    match file.parent? with
    | some parent => if parent.text = "" then d.cwdPath else d.cwdPath.join parent
    | none => d.cwdPath
  locatedAt d file (projectRoot d dir) [remark s!"Loading explicit config file: {file.text}"]

def loadNearest (d : Disk) : Logged (Except ConfigError Located) :=
  let (found, searching) := discover? d d.cwdPath
  match found with
  | some (file, root) => locatedAt d file (root, []) searching
  | none =>
      let (root, rooting) := projectRoot d d.cwdPath
      (.ok ⟨.default, none, root⟩,
        searching ++ remark "No config file found, using defaults" :: rooting)

/-- Load the configuration from a given file or from the nearest one. Without any, the
defaults hold. -/
def load (d : Disk) : Option Path → Logged (Except ConfigError Located)
  | some file => loadGiven d file
  | none => loadNearest d

end Config

end FenceCheck
