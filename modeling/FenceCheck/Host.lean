import FenceCheck.Compiler
import FenceCheck.Host.Shell

namespace FenceCheck

/-!
# Launching programs

A check launches its compiler on a disk. The programs here are a shell and the usual
text tools. They read nothing from their standard input.
-/

namespace Host

/-- How much a script may do before it counts as one without end. -/
def fuel : Nat := 20000

/-- The time that a script without end takes, in milliseconds. -/
def endless : Nat := Nat.pow 10 12

def ofSession (s : Session) : Except Fault Finished × Disk :=
  (.ok ⟨if s.flow = .killed then none else some s.status, s.out, s.err,
    if s.flow = .exhausted then endless else s.clock⟩, s.disk)

def launch : Launcher := fun limit d command args =>
  if (command :: args).any fun s => s.toList.any fun c => c.toNat == 0 then
    (.error .nulInData, d)
  else
    match program d command with
    | .missing fault => (.error fault, d)
    | .tool f =>
        let r := f ⟨command, args, [], d⟩
        (.ok ⟨some r.code, ⟨r.out.toArray⟩, r.err.toUTF8, r.elapsed⟩, { r.disk with cwd := d.cwd })
    | .shell =>
        let s := shell fuel (.start limit d command [] []) command args
        let (result, after) := ofSession s
        (result, { after with cwd := d.cwd })

end Host

end FenceCheck
