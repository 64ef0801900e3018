import FenceCheck.Compiler

namespace FenceCheck

/-!
# Workbenches

What a check needs from its surroundings: files to read and to stage, and a compiler.
The surroundings are a state that every call may change. A trace keeps what was done to
them and what was logged, in order.
-/

structure Workbench (σ : Type) where
  cwd : Path
  /-- Whether something stands at a path. -/
  holds : Path → σ → Bool
  readText : Path → σ → Except Fault String
  write : Path → String → σ → Except Fault Unit × σ
  delete : Path → σ → Except Fault Unit × σ
  compile : Path → σ → CompilerRun × List Log.Record × σ

inductive Event
  | write (path : Path) (content : String) (result : Except Fault Unit)
  | compile (path : Path)
  | delete (path : Path) (result : Except Fault Unit)

structure Trace where
  events : List Event
  log : List Log.Record

namespace Trace

def empty : Trace := ⟨[], []⟩

def logging (r : Log.Record) : Trace := ⟨[], [r]⟩

def doing (e : Event) : Trace := ⟨[e], []⟩

def append (t u : Trace) : Trace :=
  ⟨t.events ++ u.events, t.log ++ u.log⟩

instance : Append Trace := ⟨append⟩

@[simp] theorem events_append (t u : Trace) : (t ++ u).events = t.events ++ u.events := rfl

@[simp] theorem log_append (t u : Trace) : (t ++ u).log = t.log ++ u.log := rfl

@[simp] theorem events_empty : empty.events = [] := rfl

@[simp] theorem events_logging (r : Log.Record) : (logging r).events = [] := rfl

@[simp] theorem events_doing (e : Event) : (doing e).events = [e] := rfl

end Trace

namespace Workbench

/-- The surroundings of a real check: a disk, and a compiler run on it. -/
def ofDisk (launch : Launcher) (i : Invocation) (cwd : Path) : Workbench Disk where
  cwd := cwd
  holds := fun p d => d.pathExists p
  readText := fun p d => d.readText p
  write := fun p content d =>
    match d.write p content.toUTF8 with
    | .ok d => (.ok (), d)
    | .error fault => (.error fault, d)
  delete := fun p d =>
    match d.delete p with
    | .ok d => (.ok (), d)
    | .error fault => (.error fault, d)
  compile := i.compile launch

end Workbench

end FenceCheck
