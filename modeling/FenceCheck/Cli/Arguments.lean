import FenceCheck.Output
import FenceCheck.Path

namespace FenceCheck.Cli

/-!
# The command line

Arguments are read from the left, and the first that cannot be read decides. A switch
may be given once at each level. A hyphen alone is an operand, and behind two hyphens
everything is.
-/

/-- Why a command line was not taken for a request. -/
inductive Refusal
  | wantsVersion
  | wantsHelp
  | unexpected (arg : String)
  | missingValue (switch : String)
  | invalidValue (switch value : String)
  | unneededValue (switch value : String)
  | repeated (switch : String)
  | unknownCommand (name : String)
  | missingCommand
  deriving DecidableEq, Repr

namespace Refusal

def reason : Refusal → String
  | wantsVersion => ""
  | wantsHelp => ""
  | unexpected arg => s!"unexpected argument \x27{arg}\x27 found"
  | missingValue switch => s!"a value is required for \x27--{switch}\x27 but none was supplied"
  | invalidValue switch value => s!"invalid value \x27{value}\x27 for \x27--{switch}\x27"
  | unneededValue switch value => s!"unexpected value \x27{value}\x27 for \x27--{switch}\x27 found"
  | repeated switch => s!"the argument \x27--{switch}\x27 cannot be used multiple times"
  | unknownCommand name => s!"unrecognized subcommand \x27{name}\x27"
  | missingCommand => "a subcommand is required but none was provided"

end Refusal

/-- A switch with its names. If it takes a value, `accepts` tells which. -/
structure Switch where
  name : String
  letter : Option Char
  accepts : Option (String → Bool)

/-- What may stand on the command line in one place. -/
structure Level where
  switches : List Switch
  /-- Which operands are allowed. -/
  operand : String → Bool
  commands : List String
  hasVersion : Bool

inductive Item
  | given (switch value : String)
  | operand (s : String)
  deriving DecidableEq, Repr

/-- What was read of a level: its items, and the command below it with its arguments. -/
structure Reading where
  items : List Item
  command : Option (String × List String)

namespace Reading

def values (r : Reading) (switch : String) : List String :=
  r.items.filterMap fun item =>
    match item with
    | .given s v => if s = switch then some v else none
    | .operand _ => none

def has (r : Reading) (switch : String) : Bool :=
  !(r.values switch).isEmpty

def value? (r : Reading) (switch : String) : Option String :=
  (r.values switch).head?

def operands (r : Reading) : List String :=
  r.items.filterMap fun item =>
    match item with
    | .given _ _ => none
    | .operand s => some s

end Reading

namespace Level

/-- A switch that has not been given yet, with a value for it. -/
def give (s : Switch) (seen : List String) (value : String) : Except Refusal Item :=
  if seen.contains s.name then .error (.repeated s.name)
  else
    match s.accepts with
    | some f => if f value then .ok (.given s.name value) else .error (.invalidValue s.name value)
    | none => .ok (.given s.name value)

/-- The refusals that a name or letter asks for. -/
def standing? (l : Level) (name : String) : Option Refusal :=
  if name = "help" ∨ name = "h" then some .wantsHelp
  else if l.hasVersion ∧ (name = "version" ∨ name = "V") then some .wantsVersion
  else none

/-- What a cluster of letters comes to: its items, the names given so far, and the last
switch if its value is still to come. -/
structure Cluster where
  items : List Item
  seen : List String
  pending : Option Switch

/-- Letters behind a hyphen. A switch with a value takes what follows it, without an equals
sign in front. -/
def cluster (l : Level) (seen : List String) : List Char → Except Refusal Cluster
  | [] => .ok ⟨[], seen, none⟩
  | c :: cs => do
      match l.switches.find? fun s => s.letter == some c with
      | some s =>
          if s.accepts.isSome then
            match cs with
            | [] => return ⟨[], seen, some s⟩
            | '=' :: value => return ⟨[← give s seen (String.ofList value)], s.name :: seen, none⟩
            | value => return ⟨[← give s seen (String.ofList value)], s.name :: seen, none⟩
          else
            let item ← give s seen ""
            let more ← cluster l (s.name :: seen) cs
            return { more with items := item :: more.items }
      | none =>
          match l.standing? c.toString with
          | some r => throw r
          | none => throw (.unexpected ("-" ++ c.toString))

/-- Whether an argument can only be a switch. -/
def isSwitch (arg : String) : Bool :=
  match arg.toList with
  | '-' :: _ :: _ => true
  | _ => false

def readOperands (l : Level) (args : List String) : Except Refusal Reading :=
  match args.find? fun a => !l.operand a with
  | some a => .error (.unexpected a)
  | none => .ok ⟨args.map .operand, none⟩

def read (l : Level) (seen : List String) : List String → Except Refusal Reading
  | [] => .ok ⟨[], none⟩
  | arg :: args => do
      /- A switch whose value is the next argument. -/
      let pending (s : Switch) (items : List Item) (seen : List String) :
          Except Refusal (List Item × List String) :=
        match args with
        | [] => throw (.missingValue s.name)
        | v :: _ =>
            if isSwitch v then throw (.missingValue s.name)
            else return (items ++ [← give s seen v], s.name :: seen)
      let skipOne (items : List Item) (seen : List String) : Except Refusal Reading :=
        match args with
        | [] => .ok ⟨items, none⟩
        | _ :: args => do
            let more ← read l seen args
            return { more with items := items ++ more.items }
      match arg.toList with
      | ['-', '-'] => readOperands l args
      | '-' :: '-' :: s =>
          let name := String.ofList (s.takeWhile (· != '='))
          let attached := s.drop name.length
          match l.switches.find? fun s => s.name == name with
          | some s =>
              match s.accepts.isSome, attached with
              | true, [] =>
                  let (items, seen) ← pending s [] seen
                  skipOne items seen
              | true, _ :: value =>
                  let item ← give s seen (String.ofList value)
                  let more ← read l (s.name :: seen) args
                  return { more with items := item :: more.items }
              | false, [] =>
                  let item ← give s seen ""
                  let more ← read l (s.name :: seen) args
                  return { more with items := item :: more.items }
              | false, _ :: value => throw (.unneededValue s.name (String.ofList value))
          | none =>
              match l.standing? name, attached with
              | some r, [] => throw r
              | _, _ => throw (.unexpected ("--" ++ name))
      | '-' :: c :: cs =>
          let found ← cluster l seen (c :: cs)
          match found.pending with
          | some s =>
              let (items, seen) ← pending s found.items found.seen
              skipOne items seen
          | none =>
              let more ← read l found.seen args
              return { more with items := found.items ++ more.items }
      | _ =>
          if l.commands.contains arg then return ⟨[], some (arg, args)⟩
          else if !l.commands.isEmpty then throw (.unknownCommand arg)
          else if l.operand arg then
            let more ← read l seen args
            return { more with items := .operand arg :: more.items }
          else throw (.unexpected arg)

end Level

/-! ## Requests -/

structure CheckRequest where
  paths : List Path
  config : Option Path
  /-- A command in place of the configured one. -/
  compiler : Option String
  /-- A staging directory in place of the configured one. -/
  stagingDir : Option String
  format : Format
  respectful : Bool
  quiet : Bool

inductive Action
  | check (r : CheckRequest)
  | config (file : Option Path) (defaults : Bool)
  | schema

structure Request where
  verbose : Bool
  action : Action

namespace Request

def isPath (s : String) : Bool := s != ""

def verboseSwitch : Switch := ⟨"verbose", some 'v', none⟩

def configSwitch : Switch := ⟨"config", some 'c', some isPath⟩

def rootLevel : Level where
  switches := [verboseSwitch]
  operand := fun _ => false
  commands := ["check", "config", "schema", "help"]
  hasVersion := true

def checkLevel : Level where
  switches := [verboseSwitch, configSwitch, ⟨"compiler", none, some fun _ => true⟩,
    ⟨"staging-dir", none, some isPath⟩,
    ⟨"output-format", some 'o', some fun s => (Format.ofName? s).isSome⟩,
    ⟨"no-respect-gitignore", none, none⟩, ⟨"quiet", some 'q', none⟩]
  operand := isPath
  commands := []
  hasVersion := false

def configLevel : Level where
  switches := [verboseSwitch, configSwitch, ⟨"defaults", none, none⟩]
  operand := fun _ => false
  commands := []
  hasVersion := false

def schemaLevel : Level where
  switches := [verboseSwitch]
  operand := fun _ => false
  commands := []
  hasVersion := false

def checkAction (r : Reading) : Action :=
  .check
    { paths := r.operands.map Path.mk
      config := (r.value? "config").map Path.mk
      compiler := r.value? "compiler"
      stagingDir := r.value? "staging-dir"
      format := ((r.value? "output-format").bind Format.ofName?).getD .full
      respectful := !r.has "no-respect-gitignore"
      quiet := r.has "quiet" }

def configAction (r : Reading) : Action :=
  .config ((r.value? "config").map Path.mk) (r.has "defaults")

/-- Help for a command; there is none for others. -/
def helpFor (args : List String) : Refusal :=
  match args with
  | [] => .wantsHelp
  | [name] => if rootLevel.commands.contains name then .wantsHelp else .unknownCommand name
  | name :: _ :: _ => .unknownCommand name

def read (args : List String) : Except Refusal Request := do
  let root ← rootLevel.read [] args
  let below (l : Level) (rest : List String) (f : Reading → Action) : Except Refusal Request := do
    let r ← l.read [] rest
    return ⟨root.has "verbose" || r.has "verbose", f r⟩
  match root.command with
  | none => throw .missingCommand
  | some ("check", rest) => below checkLevel rest checkAction
  | some ("config", rest) => below configLevel rest configAction
  | some ("schema", rest) => below schemaLevel rest fun _ => .schema
  | some (_, rest) => throw (helpFor rest)

end Request

end FenceCheck.Cli
