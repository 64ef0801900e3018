import FenceCheck.Config
import FenceCheck.Toml.Printer
import FenceCheck.Toml.Value

namespace FenceCheck

/-!
# The fields of a configuration file

Each field has a key, a way to take its value and a way to show it. Reading, printing
and the list of known keys all go through the same list of fields, so they agree. A
file is an overlay: a field whose key is absent stays as it was.
-/

structure Field (α : Type) where
  key : String
  /-- The settings with the field taken from a value, if the value fits. -/
  take? : Toml.Value → α → Option α
  show? : α → Option Toml.Setting

namespace Field

variable {α : Type}

def text? : Toml.Value → Option String
  | .string s => some s
  | _ => none

def texts? : Toml.Value → Option (List String)
  | .array items => items.mapM text?
  | _ => none

def natural? : Toml.Value → Option Nat
  | .integer n => if 0 ≤ n then some n.toNat else none
  | _ => none

/-- Whether a value holds nothing. -/
def isVoid : Toml.Value → Bool
  | .array [] => true
  | .table [] => true
  | _ => false

/-- A choice by name. A table with the name as its only key and nothing under it will do
as well. -/
def choice? (choices : List (String × α)) : Toml.Value → Option α
  | .string s => choices.lookup s
  | .table [(name, v)] => if isVoid v then choices.lookup name else none
  | _ => none

def takeAll? (fields : List (Field α)) (t : Toml.Table) (a : α) : Option α :=
  fields.foldlM (fun a f =>
    match t.get? f.key with
    | none => some a
    | some v => f.take? v a) a

/-- Take the fields in order from a sequence; those that it does not reach stay. -/
def takeSequence? (fields : List (Field α)) (items : List Toml.Value) (a : α) : Option α :=
  (fields.zip items).foldlM (fun a pair => pair.1.take? pair.2 a) a

/-- Take the fields of a group, given as a table or as a sequence. -/
def takeGroup? (fields : List (Field α)) (v : Toml.Value) (a : α) : Option α :=
  match v with
  | .table t => takeAll? fields t a
  | .array items => takeSequence? fields items a
  | _ => none

def keys (fields : List (Field α)) : List String :=
  fields.map Field.key

def showAll (fields : List (Field α)) (a : α) : List (String × Toml.Setting) :=
  fields.filterMap fun f => (f.show? a).map fun s => (f.key, s)

end Field

def Anchor.Mode.choices : List (String × Anchor.Mode) :=
  [("line-directive", .lineDirective), ("first-line-offset", .firstLineOffset)]

def Anchor.Mode.name : Anchor.Mode → String
  | .lineDirective => "line-directive"
  | .firstLineOffset => "first-line-offset"

def FatalPolicy.choices : List (String × FatalPolicy) :=
  [("skip", .skip), ("document-start", .documentStart)]

def FatalPolicy.name : FatalPolicy → String
  | .skip => "skip"
  | .documentStart => "document-start"

namespace CompilerConfig

def fields : List (Field CompilerConfig) :=
  [ ⟨"command", fun v c => (Field.text? v).map fun s => { c with command := s },
      fun c => some (.text c.command)⟩,
    ⟨"args", fun v c => (Field.texts? v).map fun ss => { c with args := ss },
      fun c => some (.texts c.args)⟩,
    ⟨"include-paths", fun v c => (Field.texts? v).map fun ss => { c with includePaths := ss },
      fun c => some (.texts c.includePaths)⟩,
    ⟨"include-flag", fun v c => (Field.text? v).map fun s => { c with includeFlag := s },
      fun c => some (.text c.includeFlag)⟩,
    ⟨"timeout", fun v c => (Field.natural? v).map fun n => { c with timeout := n },
      fun c => some (.number c.timeout)⟩ ]

end CompilerConfig

namespace Config

def compilerKey : String := "compiler"

/-- The fields of the file itself; the last one holds the compiler's group and is shown
as a group of its own. -/
def fields : List (Field Config) :=
  [ ⟨"language", fun v c => (Field.text? v).map fun s => { c with language := s },
      fun c => some (.text c.language)⟩,
    ⟨"extension", fun v c => (Field.text? v).map fun s => { c with extension := s },
      fun c => some (.text c.extension)⟩,
    ⟨"source-tag", fun v c => (Field.text? v).map fun s => { c with sourceTag := s },
      fun c => some (.text c.sourceTag)⟩,
    ⟨"staging-dir", fun v c => (Field.text? v).map fun s => { c with stagingDir := some s },
      fun c => c.stagingDir.map .text⟩,
    ⟨"rebase",
      fun v c => (Field.choice? Anchor.Mode.choices v).map fun m => { c with anchorMode := m },
      fun c => some (.text c.anchorMode.name)⟩,
    ⟨"fatal-without-location",
      fun v c => (Field.choice? FatalPolicy.choices v).map fun p => { c with fatalPolicy := p },
      fun c => some (.text c.fatalPolicy.name)⟩,
    ⟨compilerKey,
      fun v c =>
        (Field.takeGroup? CompilerConfig.fields v .default).map fun g => { c with compiler := g },
      fun _ => none⟩ ]

def ofTable? (t : Toml.Table) : Option Config :=
  Field.takeAll? fields t .default

/-- The keys that no field has: those of the table in order, then those of its group for
the compiler. -/
def unknownKeys (t : Toml.Table) : List String :=
  let unknown (known : List String) (t : Toml.Table) : List String :=
    (t.keys.filter fun k => !known.contains k).mergeSort fun a b => decide (a ≤ b)
  unknown (Field.keys fields) t ++
    match t.get? compilerKey with
    | some (.table inner) =>
        (unknown (Field.keys CompilerConfig.fields) inner).map (compilerKey ++ "." ++ ·)
    | _ => []

/-- The configuration as a document that reads back as itself. -/
def sheet (c : Config) : Toml.Sheet where
  settings := Field.showAll fields c
  groups := [(compilerKey, Field.showAll CompilerConfig.fields c.compiler)]

end Config

end FenceCheck
