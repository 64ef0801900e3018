import FenceCheck.Pass

namespace FenceCheck

/-!
# Checking many documents

A batch checks documents one after the other on one board. A document that fails does not
stop it. What it came to decides the exit code: failures weigh more than diagnostics.
-/

inductive Notice
  | record (r : Log.Record)
  | failure (e : CheckError)

structure Batch (σ : Type) where
  board : Board
  /-- The sum over the passes that came to an end. -/
  summary : Summary
  /-- The documents whose check failed. -/
  failures : Nat
  notices : List Notice
  env : σ

namespace Batch

variable {σ : Type}

def start (env : σ) : Batch σ := ⟨.empty, .zero, 0, [], env⟩

def add (b : Batch σ) (o : Checker.Outcome σ) : Batch σ :=
  let told := b.notices ++ o.trace.log.map .record
  match o.result with
  | .ok s => ⟨o.board, b.summary.add s, b.failures, told, o.env⟩
  | .error e => ⟨o.board, b.summary, b.failures + 1, told ++ [.failure e], o.env⟩

def checkAll (w : Workbench σ) (c : Checker) (b : Batch σ) (files : List Path) : Batch σ :=
  files.foldl (fun b file => b.add (c.checkFile w file b.board b.env)) b

def exitCode (b : Batch σ) : Nat :=
  if 0 < b.failures ∨ 0 < b.summary.compilerFailures then 2
  else if 0 < b.summary.diagnostics then 1
  else 0

end Batch

end FenceCheck
