import FenceCheck.Disk
import FenceCheck.Text.Numeral

namespace FenceCheck.Host

/-!
# Tools

A tool is a function from a task to what it came to. Its input is all there from the
start, and the time that it takes is only counted.
-/

structure Task where
  /-- The name under which the tool complains. -/
  name : String
  args : List String
  input : List UInt8
  disk : Disk

structure Done where
  code : Nat
  out : List UInt8
  err : String
  disk : Disk
  elapsed : Nat

abbrev Tool := Task → Done

def bytesOf (s : String) : List UInt8 := s.toUTF8.toList

def textOf (bytes : List UInt8) : String := Text.decodeLossy ⟨bytes.toArray⟩

namespace Done

/-- Two pieces of work, one after the other; the greater code counts. -/
def after (first second : Done) : Done :=
  ⟨max first.code second.code, first.out ++ second.out, first.err ++ second.err, second.disk,
    first.elapsed + second.elapsed⟩

end Done

namespace Task

def done (t : Task) (code : Nat) : Done := ⟨code, [], "", t.disk, 0⟩

def prints (t : Task) (out : List UInt8) : Done := ⟨0, out, "", t.disk, 0⟩

def writes (t : Task) (s : String) : Done := t.prints (bytesOf s)

/-- A complaint, with the exit code that goes with it. -/
def complains (t : Task) (code : Nat) (text : String) : Done :=
  ⟨code, [], t.name ++ ": " ++ text ++ "\n", t.disk, 0⟩

/-- The bytes of an operand; a hyphen stands for the input. -/
def source (t : Task) (operand : String) : Except Fault (List UInt8) :=
  if operand = "-" ∨ operand = "/dev/stdin" then .ok t.input
  else if operand = "/dev/null" then .ok []
  else (t.disk.read ⟨operand⟩).map fun bytes => bytes.toList

def withDisk (t : Task) (code : Nat) (wording : Fault → String) : Except Fault Disk → Done
  | .ok d => ⟨0, [], "", d, 0⟩
  | .error fault => t.complains code (wording fault)

/-- Work on one operand after the other, each on the disk that the last one left. -/
def each (t : Task) (operands : List String) (f : Task → String → Done) : Done :=
  operands.foldl (fun d operand => d.after (f { t with disk := d.disk } operand)) (t.done 0)

end Task

structure Arguments where
  flags : List Char
  settings : List (Char × String)
  operands : List String

namespace Arguments

def has (a : Arguments) (c : Char) : Bool := a.flags.contains c

def setting? (a : Arguments) (c : Char) : Option String := a.settings.lookup c

def operandsOr (a : Arguments) (default : String) : List String :=
  if a.operands.isEmpty then [default] else a.operands

/-- The letters of a cluster; a letter that takes a value takes what follows it. -/
def cluster (valued : List Char) : List Char → List Char × Option (Char × List Char)
  | [] => ([], none)
  | c :: s =>
      if valued.contains c then ([], some (c, s))
      else
        let (flags, setting) := cluster valued s
        (c :: flags, setting)

/-- The arguments of a tool whose letters in `valued` take values. -/
def read (valued : List Char) : List String → Arguments
  | [] => ⟨[], [], []⟩
  | arg :: args =>
      match arg.toList with
      | ['-', '-'] => ⟨[], [], args⟩
      | '-' :: c :: s =>
          let (flags, setting) := cluster valued (c :: s)
          match setting, args with
          | none, args =>
              let a := read valued args
              { a with flags := flags ++ a.flags }
          | some (o, []), v :: args =>
              let a := read valued args
              { a with flags := flags ++ a.flags, settings := (o, v) :: a.settings }
          | some (o, value), args =>
              let a := read valued args
              ⟨flags ++ a.flags, (o, String.ofList value) :: a.settings, a.operands⟩
      | _ =>
          let a := read valued args
          { a with operands := arg :: a.operands }

end Arguments

/-- Lines of bytes, and whether a line feed ends the last one. -/
def linesOf (bytes : List UInt8) : List (List UInt8) × Bool :=
  let all := Text.cells 10 bytes
  if all.getLast? = some [] then (all.dropLast, true) else (all, false)

def unlines (lines : List (List UInt8)) : List UInt8 :=
  lines.flatMap fun line => line ++ [10]

/-- Lines as they were, also at their end. -/
def unlinesAs (ended : Bool) (lines : List (List UInt8)) : List UInt8 :=
  if ended then unlines lines else (unlines lines).dropLast

end FenceCheck.Host
