import FenceCheck.Host.Arithmetic
import FenceCheck.Host.Script
import FenceCheck.Host.Tool.Files
import FenceCheck.Host.Tool.Lines
import FenceCheck.Host.Tool.Print

namespace FenceCheck.Host

/-!
# Running scripts

A session is what a shell knows while it runs: the disk, its variables, and where its
output goes. Running takes fuel, so a script without end is cut off and counts as one
that takes too long.
-/

def tools : List (String × Tool) :=
  [("[", Tool.bracket), ("basename", Tool.basename), ("cat", Tool.cat),
    ("cp", Tool.transfer true), ("cut", Tool.cut), ("dirname", Tool.dirname),
    ("echo", Tool.echo), ("egrep", Tool.grepWith ['E']), ("false", fun t => t.done 1),
    ("fgrep", Tool.grepWith ['F']), ("grep", Tool.grep), ("head", Tool.head),
    ("ls", Tool.list), ("mkdir", Tool.mkdir), ("mv", Tool.transfer false),
    ("printf", Tool.printf), ("pwd", Tool.pwd), ("rev", Tool.rev), ("rm", Tool.rm), ("rmdir", Tool.rmdir),
    ("sed", Tool.sed), ("seq", Tool.seq), ("sleep", Tool.sleep), ("sort", Tool.sort),
    ("tac", Tool.tac), ("tail", Tool.tail), ("tee", Tool.tee), ("test", Tool.test),
    ("touch", Tool.touch), ("tr", Tool.tr), ("true", fun t => t.done 0), ("uniq", Tool.uniq),
    ("wc", Tool.wc)]

def shellNames : List String := ["sh", "dash"]

def programDirs : List String := ["/bin/", "/usr/bin/"]

/-- What a name or path stands for among the programs. -/
inductive Program
  | tool (f : Tool)
  | shell
  | missing (fault : Fault)

def programNamed (name : String) : Program :=
  if shellNames.contains name then .shell
  else
    match tools.lookup name with
    | some f => .tool f
    | none => .missing (if name = "." ∨ name = ".." then .permissionDenied else .notFound)

/-- The program that a command starts. No file of the disk may be executed. -/
def program (d : Disk) (command : String) : Program :=
  if !command.toList.contains '/' then programNamed command
  else
    match programDirs.find? fun dir => dir.toList.isPrefixOf command.toList with
    | some dir =>
        match programNamed (String.ofList (command.toList.drop dir.length)) with
        | .missing _ => .missing (match d.node? ⟨command⟩ with
          | .ok _ => .permissionDenied
          | .error fault => fault)
        | p => p
    | none => .missing (match d.node? ⟨command⟩ with
        | .ok _ => .permissionDenied
        | .error fault => fault)

/-! ## Sessions -/

inductive Sink
  | out
  | err
  | file (p : Path)
  | nowhere

/-- What becomes of the commands that follow. -/
inductive Flow
  | running
  | exiting
  | breaking (loops : Nat)
  | continuing (loops : Nat)
  | returning
  | killed
  /-- Out of fuel, or out of time. -/
  | exhausted
  deriving DecidableEq

structure Session where
  disk : Disk
  bindings : List (String × String)
  functions : List (String × Command)
  zero : String
  arguments : List String
  input : List UInt8
  out : ByteArray
  err : ByteArray
  sinks : List (Nat × Sink)
  status : Nat
  /-- The status of the last script whose output became part of the command at hand. -/
  produced : Option Nat
  /-- Whether a command that fails ends the script. -/
  strict : Bool
  clock : Nat
  /-- When the clock must stop; zero is never. -/
  limit : Nat
  flow : Flow

namespace Session

def start (limit : Nat) (d : Disk) (zero : String) (arguments : List String)
    (input : List UInt8) : Session :=
  ⟨d, [], [], zero, arguments, input, .empty, .empty, [(1, .out), (2, .err)], 0, none, false, 0,
    limit, .running⟩

def isRunning (s : Session) : Bool := s.flow == .running

def processNumber : String := "4711"

def valueOf (s : Session) (name : String) : String :=
  if name = "0" then s.zero
  else if name = "#" then toString s.arguments.length
  else if name = "?" then toString s.status
  else if name = "$" then processNumber
  else if name = "*" ∨ name = "@" then String.intercalate " " s.arguments
  else
    match name.toNat? with
    | some n => s.arguments.getD (n - 1) ""
    | none => (s.bindings.lookup name).getD ""

/-- What stands for a name; a number sign in front asks for the length of the value. -/
def lookup (s : Session) (name : String) : String :=
  match name.toList with
  | '#' :: c :: cs => toString (s.valueOf (String.ofList (c :: cs))).utf8ByteSize
  | _ => s.valueOf name

def assign (s : Session) (name value : String) : Session :=
  { s with bindings := (name, value) :: s.bindings.filter fun e => e.1 != name }

def setSink (s : Session) (descriptor : Nat) (sink : Sink) : Session :=
  { s with sinks := (descriptor, sink) :: s.sinks.filter fun e => e.1 != descriptor }

def push (bytes : List UInt8) (onto : ByteArray) : ByteArray :=
  bytes.foldl ByteArray.push onto

def emit (s : Session) (descriptor : Nat) (bytes : List UInt8) : Session :=
  if bytes.isEmpty then s
  else
    match s.sinks.lookup descriptor with
    | some .out => { s with out := push bytes s.out }
    | some .err => { s with err := push bytes s.err }
    | some (.file p) =>
        let old := (s.disk.read p).toOption.getD .empty
        match s.disk.write p (push bytes old) with
        | .ok d => { s with disk := d }
        | .error _ => s
    | _ => s

/-- A complaint of the shell itself. -/
def complain (s : Session) (status : Nat) (text : String) : Session :=
  { s.emit 2 (bytesOf s!"{s.zero}: 1: {text}\n") with status := status }

def withStatus (s : Session) (status : Nat) : Session := { s with status := status }

def leaving (s : Session) (flow : Flow) : Session := { s with flow := flow }

/-- The session behind a command whose failure nothing looks at. -/
def settled (s : Session) : Session :=
  if s.strict ∧ s.isRunning ∧ s.status ≠ 0 then s.leaving .exiting else s

/-- The session while a command runs whose failure is looked at. -/
def lenient (s : Session) : Session := { s with strict := false }

def withStrict (strict : Bool) (s : Session) : Session := { s with strict := strict }

/-- The session after another one that ran on its behalf. -/
def after (s inner : Session) : Session :=
  { s with
    disk := inner.disk, err := inner.err, clock := inner.clock, status := inner.status,
    flow := if inner.flow = .killed ∨ inner.flow = .exhausted then inner.flow else s.flow }

/-- The session after one that shared its output. -/
def afterShared (s inner : Session) : Session :=
  { s.after inner with out := inner.out, disk := { inner.disk with cwd := s.disk.cwd } }

def capturing (s : Session) : Session :=
  { s with out := .empty, sinks := (1, .out) :: s.sinks.filter fun e => e.1 != 1 }

/-- The session when a time has passed. -/
def passing (s : Session) (elapsed : Nat) : Session :=
  let clock := s.clock + elapsed
  { s with
    clock := clock
    flow := if s.limit ≠ 0 ∧ s.limit ≤ clock then .exhausted else s.flow }

def apply (s : Session) (f : Tool) (name : String) (args : List String) : Session :=
  let d := f ⟨name, args, s.input, s.disk⟩
  let s := ({ s with disk := d.disk }.emit 1 d.out).emit 2 (bytesOf d.err)
  (s.withStatus d.code).passing d.elapsed

/-- The session behind a command that it does not wait for. -/
def leavingBehind (s inner : Session) : Session :=
  { s.afterShared { inner with flow := .running } with clock := s.clock, status := 0 }

end Session

def number? (s : String) : Option Nat :=
  if s.isEmpty || !s.toList.all Char.isDigit then none else s.toNat?

/-! ## Fields -/

/-- Words that are being put together; the finished ones newest first. -/
structure Fields where
  done : List (List Char)
  current : Option (List Char)

namespace Fields

def empty : Fields := ⟨[], none⟩

def append (f : Fields) (t : List Char) : Fields :=
  { f with current := some (f.current.getD [] ++ t) }

def close (f : Fields) : Fields :=
  match f.current with
  | none => f
  | some c => ⟨c :: f.done, none⟩

/-- Text that blanks divide. -/
def spread (f : Fields) (t : List Char) : Fields :=
  t.foldl (fun f c => if c = ' ' ∨ c = '\t' ∨ c = '\n' then f.close else f.append [c]) f

/-- Texts that stay apart; the first goes on with what is there, and so does what follows
with the last. -/
def several (f : Fields) : List String → Fields
  | [] => f
  | [a] => f.append a.toList
  | a :: more => several (f.append a.toList).close more

def toList (f : Fields) : List String :=
  (f.close.done.map String.ofList).reverse

end Fields

def Piece.inQuotes : Piece → Piece
  | .text s _ => .text s true
  | .value name fallback _ => .value (if name = "@" then "*" else name) fallback true
  | .output script _ => .output script true
  | .arithmetic pieces _ => .arithmetic pieces true

/-- The output of a script as text: without line feeds at its end. -/
def captured (bytes : ByteArray) : List Char :=
  let cs := (Text.decodeLossy bytes).toList.filter fun c => c.toNat != 0
  (cs.reverse.dropWhile (· == '\n')).reverse

/-- The values that a line gives to names; the last name takes all that is left. -/
def shares : List String → List Char → List (String × String)
  | [], _ => []
  | [name], line =>
      [(name, String.ofList ((line.dropWhile (· == ' ')).reverse.dropWhile (· == ' ')).reverse)]
  | name :: names, line =>
      let line := line.dropWhile (· == ' ')
      let word := line.takeWhile (· != ' ')
      (name, String.ofList word) :: shares names (line.drop word.length)

/-- Take a line from the input for the names given. -/
def readLine (s : Session) (names : List String) : Session :=
  let names := names.filter (· != "-r")
  let line := s.input.takeWhile (· != 10)
  let ended := line.length < s.input.length
  let s := { s with input := s.input.drop (line.length + 1) }
  let s := (shares names (textOf line).toList).foldl (fun s e => s.assign e.1 e.2) s
  s.withStatus (if ended then 0 else 1)

/-- The signals that do nothing, by number and name. -/
def idleSignals : List String := ["-0", "-CHLD", "-CONT", "-WINCH", "-URG"]

/-! ## Running -/

mutual

def expandPiece : Nat → Session → Fields → Piece → Session × Fields
  | 0, s, f, _ => (s.leaving .exhausted, f)
  | n + 1, s, f, p =>
      match p with
      | .text t _ => (s, f.append t)
      | .value name fallback quoted =>
          let v := s.lookup name
          if quoted then
            if name = "@" then (s, f.several s.arguments)
            else
              match v, fallback with
              | "", some pieces =>
                  let (s, t) := expandText n s pieces
                  (s, f.append t.toList)
              | v, _ => (s, f.append v.toList)
          else if name = "@" ∨ name = "*" then
            (s, s.arguments.foldl (fun f a => (f.spread a.toList).close) f)
          else
            match v, fallback with
            | "", some pieces =>
                let (s, t) := expandText n s pieces
                (s, f.spread t.toList)
            | v, _ => (s, f.spread v.toList)
      | .output script quoted =>
          let inner := run n s.capturing script
          let t := captured inner.out
          let s := { s.after inner with
            disk := { inner.disk with cwd := s.disk.cwd }
            status := s.status
            produced := some inner.status }
          (s, if quoted then f.append t else f.spread t)
      | .arithmetic pieces _ =>
          let (s, t) := expandText n s pieces
          let look (name : String) : Int := (s.lookup name).toInt?.getD 0
          match Arithmetic.value look t.toList with
          | .ok v => (s, f.append (toString v).toList)
          | .error cause =>
              ((s.complain 2 s!"arithmetic expression: {cause.message}: \"{t}\"").leaving
                .exiting, f)

def expandPieces : Nat → Session → Fields → List Piece → Session × Fields
  | 0, s, f, _ => (s.leaving .exhausted, f)
  | _ + 1, s, f, [] => (s, f)
  | n + 1, s, f, p :: ps =>
      let (s, f) := expandPiece n s f p
      expandPieces n s f ps

def expandText : Nat → Session → List Piece → Session × String
  | 0, s, _ => (s.leaving .exhausted, "")
  | n + 1, s, pieces =>
      let (s, f) := expandPieces n s .empty (pieces.map Piece.inQuotes)
      (s, String.join f.toList)

def expandWords : Nat → Session → List (List Piece) → Session × List String
  | 0, s, _ => (s.leaving .exhausted, [])
  | _ + 1, s, [] => (s, [])
  | n + 1, s, w :: ws =>
      let (s, f) := expandPieces n s .empty w
      let (s, more) := expandWords n s ws
      (s, f.toList ++ more)

def assignAll : Nat → Session → List (String × List Piece) → Session
  | 0, s, _ => s.leaving .exhausted
  | _ + 1, s, [] => s
  | n + 1, s, (name, value) :: more =>
      let (s, v) := expandText n s value
      assignAll n (s.assign name v) more

/-- Redirect input and output; a file that cannot be opened is an error. -/
def redirectAll : Nat → Session → List Redirect → Session × Bool
  | 0, s, _ => (s.leaving .exhausted, false)
  | _ + 1, s, [] => (s, true)
  | n + 1, s, .mk descriptor kind target :: more =>
      let (s, name) := expandText n s target
      match kind with
      | .duplicate =>
          let sink := ((number? name).bind fun k => s.sinks.lookup k).getD .nowhere
          redirectAll n (if descriptor = 0 then s else s.setSink descriptor sink) more
      | .read =>
          if name = "/dev/null" then redirectAll n { s with input := [] } more
          else
            match s.disk.read ⟨name⟩ with
            | .ok bytes => redirectAll n { s with input := bytes.toList } more
            | .error fault =>
                let reason := if fault = .notFound then "No such file" else fault.reason
                (s.complain 2 s!"cannot open {name}: {reason}", false)
      | _ =>
          if name = "/dev/null" then redirectAll n (s.setSink descriptor .nowhere) more
          else if name = "/dev/stdout" then
            redirectAll n (s.setSink descriptor ((s.sinks.lookup 1).getD .out)) more
          else if name = "/dev/stderr" then
            redirectAll n (s.setSink descriptor ((s.sinks.lookup 2).getD .err)) more
          else
            let old := if kind = .append then (s.disk.read ⟨name⟩).toOption.getD .empty else .empty
            match s.disk.write ⟨name⟩ old with
            | .ok d => redirectAll n ({ s with disk := d }.setSink descriptor (.file ⟨name⟩)) more
            | .error fault =>
                let reason := if fault = .notFound then "Directory nonexistent" else fault.reason
                (s.complain 2 s!"cannot create {name}: {reason}", false)

/-- Run a shell with arguments, for a session that waits for it. -/
def shell : Nat → Session → String → List String → Session
  | 0, s, _, _ => s.leaving .exhausted
  | n + 1, s, name, args =>
      match args with
      | [] => runText n { s with zero := name, arguments := [] } (textOf s.input)
      | option :: rest =>
          let cluster := option.toList
          if cluster.head? = some '-' ∧ cluster.contains 'c' then
            match rest with
            | [] => { s with zero := name }.complain 2 "-c requires an argument"
            | script :: more =>
                runText n { s with
                  zero := more.headD name
                  arguments := more.tail
                  strict := s.strict || cluster.contains 'e' } script
          else if cluster.head? = some '-' ∧ 1 < cluster.length then
            shell n (s.withStrict (s.strict || cluster.contains 'e')) name rest
          else
            match s.disk.read ⟨option⟩ with
            | .ok bytes => runText n { s with zero := option, arguments := rest } (textOf bytes.toList)
            | .error fault =>
                let reason := if fault = .notFound then "No such file" else fault.reason
                (s.emit 2 (bytesOf s!"{name}: 0: cannot open {option}: {reason}\n")).withStatus 2

def runText : Nat → Session → String → Session
  | 0, s, _ => s.leaving .exhausted
  | n + 1, s, text =>
      match Reader.script? text with
      | some c => run n s c
      | none => (s.complain 2 "Syntax error: unexpected end of file").leaving .exiting

def call : Nat → Session → List String → Session
  | 0, s, _ => s.leaving .exhausted
  | _ + 1, s, [] => s
  | n + 1, s, name :: args =>
      match s.functions.lookup name with
      | some body =>
          let inner := run n { s with arguments := args } body
          let flow := if inner.flow = .returning then .running else inner.flow
          { inner with arguments := s.arguments, flow := flow }
      | none =>
          let status := match args with
            | a :: _ => (number? a).map (· % 256)
            | [] => some s.status
          let count := ((args.head?.bind number?).getD 1)
          match name with
          | ":" => s.withStatus 0
          | "exit" =>
              match status with
              | some v => (s.withStatus v).leaving .exiting
              | none => (s.complain 2 ("exit: Illegal number: " ++ args.headD "")).leaving .exiting
          | "return" => (s.withStatus (status.getD 2)).leaving .returning
          | "break" => (s.withStatus 0).leaving (.breaking count)
          | "continue" => (s.withStatus 0).leaving (.continuing count)
          | "cd" =>
              let goal := args.headD ""
              match if goal = "" then .ok s.disk.cwd else s.disk.resolve ⟨goal⟩ with
              | .ok names =>
                  if s.disk.isDirAt names then
                    { s with disk := { s.disk with cwd := names }, status := 0 }
                  else s.complain 2 s!"cd: can\x27t cd to {goal}"
              | .error _ => s.complain 2 s!"cd: can\x27t cd to {goal}"
          | "set" =>
              match args with
              | "--" :: more => { s with arguments := more, status := 0 }
              | option :: more =>
                  if option.startsWith "-" ∨ option.startsWith "+" then
                    let s := s.withStatus 0
                    if option.toList.contains 'e' then s.withStrict (option.startsWith "-") else s
                  else { s with arguments := option :: more, status := 0 }
              | [] => s.withStatus 0
          | "shift" => { s with arguments := s.arguments.drop count, status := 0 }
          | "unset" =>
              { s with
                bindings := s.bindings.filter fun e => !args.contains e.1
                status := 0 }
          | "read" => readLine s args
          | "exec" =>
              if args.isEmpty then s.withStatus 0
              else
                let s := call n s args
                if s.isRunning then s.leaving .exiting else s
          | "eval" => runText n s (String.intercalate " " args)
          | "." =>
              match s.disk.read ⟨args.headD ""⟩ with
              | .ok bytes => runText n s (textOf bytes.toList)
              | .error _ => (s.complain 2 (".: " ++ args.headD "" ++ ": not found")).leaving .exiting
          | "command" => call n s args
          | "kill" =>
              if (args.drop (args.length - 1)).contains Session.processNumber then
                if args.any idleSignals.contains then s.withStatus 0 else s.leaving .killed
              else s.complain 1 "kill: No such process"
          | "echo" => s.apply Tool.shellEcho name args
          | _ =>
              if ["export", "readonly", "local"].contains name then
                (args.foldl (fun s a =>
                  match a.splitOn "=" with
                  | x :: v :: vs => s.assign x (String.intercalate "=" (v :: vs))
                  | _ => s) s).withStatus 0
              else if ["trap", "wait", "umask", "ulimit", "hash"].contains name then s.withStatus 0
              else
                match program s.disk name with
                | .tool f =>
                    let consumes := name = "cat" ∧ args.isEmpty
                    let s := s.apply f name args
                    if consumes then { s with input := [] } else s
                | .shell => s.afterShared (shell n s.lenient name args)
                | .missing fault =>
                    if fault = .permissionDenied then s.complain 126 s!"{name}: Permission denied"
                    else s.complain 127 s!"{name}: not found"

def runStages : Nat → Session → List Command → Session
  | 0, s, _ => s.leaving .exhausted
  | _ + 1, s, [] => s
  | n + 1, s, [c] => s.afterShared (run n s c)
  | n + 1, s, c :: cs =>
      let inner := run n s.capturing c
      let next := { s.after inner with
        disk := { inner.disk with cwd := s.disk.cwd }
        input := inner.out.toList
        clock := s.clock }
      let last := runStages n next cs
      { last with input := s.input, clock := max last.clock inner.clock }

def runAll : Nat → Session → List Command → Session
  | 0, s, _ => s.leaving .exhausted
  | _ + 1, s, [] => s
  | n + 1, s, c :: cs =>
      let s := run n s c
      if s.isRunning then runAll n s cs else s

def runConditional : Nat → Session → List (Command × Command) → Command → Session
  | 0, s, _, _ => s.leaving .exhausted
  | n + 1, s, [], otherwise => run n (s.withStatus 0) otherwise
  | n + 1, s, (test, body) :: arms, otherwise =>
      let strict := s.strict
      let s := (run n s.lenient test).withStrict strict
      if !s.isRunning then s
      else if s.status = 0 then run n s body
      else runConditional n s arms otherwise

def runLoop : Nat → Session → Bool → Command → Command → Nat → Session
  | 0, s, _, _, _, _ => s.leaving .exhausted
  | n + 1, s, wanted, test, body, status =>
      let strict := s.strict
      let s := (run n s.lenient test).withStrict strict
      if !s.isRunning then s
      else if (s.status == 0) != wanted then s.withStatus status
      else
        let s := run n s body
        match s.flow with
        | .running => runLoop n s wanted test body s.status
        | .continuing k =>
            if k ≤ 1 then runLoop n (s.leaving .running) wanted test body s.status
            else s.leaving (.continuing (k - 1))
        | .breaking k => s.leaving (if k ≤ 1 then .running else .breaking (k - 1))
        | _ => s

def runEach : Nat → Session → String → List String → Command → Session
  | 0, s, _, _, _ => s.leaving .exhausted
  | _ + 1, s, _, [], _ => s
  | n + 1, s, name, v :: vs, body =>
      let s := run n (s.assign name v) body
      match s.flow with
      | .running => runEach n s name vs body
      | .continuing k =>
          if k ≤ 1 then runEach n (s.leaving .running) name vs body
          else s.leaving (.continuing (k - 1))
      | .breaking k => s.leaving (if k ≤ 1 then .running else .breaking (k - 1))
      | _ => s

def runSelect : Nat → Session → String → List (List (List Piece) × Command) → Session
  | 0, s, _, _ => s.leaving .exhausted
  | _ + 1, s, _, [] => s.withStatus 0
  | n + 1, s, word, (patterns, body) :: arms =>
      let (s, texts) := expandWords n s (patterns.map fun p => p.map Piece.inQuotes)
      if texts.any fun t => Pattern.occursIn (Pattern.ofWildcards t.toList) word.toList then
        run n (s.withStatus 0) body
      else runSelect n s word arms

def run : Nat → Session → Command → Session
  | 0, s, _ => s.leaving .exhausted
  | n + 1, s, c =>
      match c with
      | .simple assignments words redirects =>
          let (t, fields) := expandWords n { s with produced := none } words
          if !t.isRunning then t
          else if fields.isEmpty then
            let t := assignAll n t assignments
            let t := t.withStatus (t.produced.getD 0)
            if redirects.isEmpty then t.settled
            else
              let (u, _) := redirectAll n t redirects
              { u with sinks := s.sinks, input := s.input }.settled
          else
            let (t, opened) := redirectAll n t redirects
            if !opened then { t with sinks := s.sinks, input := s.input }.settled
            else
              let begun := assignAll n t assignments
              let u := call n begun fields
              let u := if assignments.isEmpty then u else { u with bindings := t.bindings }
              if fields = ["exec"] then u
              else
                { u with
                  sinks := s.sinks
                  input := if redirects.any (fun | .mk d _ _ => d == 0) then s.input else u.input
                }.settled
      | .background c => s.leavingBehind (run n { s with input := [], limit := 0 } c)
      | .pipeline stages => (runStages n s.lenient stages |>.withStrict s.strict).settled
      | .negation c =>
          let u := (run n s.lenient c).withStrict s.strict
          if u.isRunning then u.withStatus (if u.status = 0 then 1 else 0) else u
      | .conjunction a b =>
          let u := (run n s.lenient a).withStrict s.strict
          if u.isRunning ∧ u.status = 0 then run n u b else u
      | .disjunction a b =>
          let u := (run n s.lenient a).withStrict s.strict
          if u.isRunning ∧ u.status ≠ 0 then run n u b else u
      | .sequence cs => runAll n s cs
      | .conditional arms otherwise => runConditional n s arms otherwise
      | .loop wanted test body => runLoop n s wanted test body 0
      | .each name words body =>
          match words with
          | none => runEach n s name s.arguments body
          | some ws =>
              let (s, values) := expandWords n s ws
              runEach n s name values body
      | .select word arms =>
          let (s, w) := expandText n s word
          runSelect n s w arms
      | .group isolated body redirects =>
          let (t, opened) := redirectAll n s redirects
          if !opened then { t with sinks := s.sinks, input := s.input }
          else if isolated then
            let u := t.afterShared (run n t body)
            { u with sinks := s.sinks, input := s.input }.settled
          else
            let u := run n t body
            { u with
              sinks := s.sinks
              input := if redirects.any (fun | .mk d _ _ => d == 0) then s.input else u.input }
      | .definition name body =>
          { s with functions := (name, body) :: s.functions.filter (fun e => e.1 != name), status := 0 }

end

end FenceCheck.Host
