import FenceCheck.Discovery.Walk
import FenceCheck.Proofs.Disk.Tree

namespace FenceCheck.Walk

/-!
# What a walk reports

A walk joins names to its start, one for each step down. So on a tree with proper names every path
that it reports leads to the file it was reported for, whatever rules the walk goes by.
-/

variable {d : Disk} {w : Walk} {path start p : Path} {respectful : Bool}

theorem mem_reportedIn_iff {entries : Node.Entries} :
    p ∈ w.reportedIn path entries ↔
      ∃ e ∈ entries, w.skips (path.join ⟨e.1⟩) e.1 e.2.isDir = false ∧
        p ∈ w.reported (path.join ⟨e.1⟩) e.2 := by
  induction entries with
  | nil => simp [reportedIn]
  | cons e entries ih =>
      rw [reportedIn, List.mem_append, ih, List.exists_mem_cons_iff]
      cases w.skips (path.join ⟨e.1⟩) e.1 e.2.isDir <;> simp

theorem isFile_of_mem_reported {n : Node} {place : List String} (hn : n.Proper)
    (hplace : d.resolve path = .ok place) (hat : d.root.at? place = some n)
    (hp : p ∈ w.reported path n) : d.isFile p = true := by
  -- below a directory the walk goes by more rules, so the induction is for all walks at once
  induction hn generalizing w path place with
  | file bytes =>
      obtain rfl := List.mem_singleton.mp (by simpa only [reported] using hp)
      simp only [Disk.isFile, Disk.node?_of_resolve hplace hat]
  | dir hkeys hnames hentries ih =>
      rw [reported, mem_reportedIn_iff] at hp
      obtain ⟨⟨name, n⟩, he, -, hp⟩ := hp
      obtain ⟨hplace, hat⟩ := Disk.resolve_join_name hplace hat (hnames _ he)
        (Node.lookup_of_mem hkeys he)
      exact ih _ he hplace hat hp

theorem mem_files_iff :
    p ∈ (files d respectful start).1 ↔
      ∃ place n, d.resolve start = .ok place ∧ d.root.at? place = some n ∧
        p ∈ (begin d respectful start place).1.reported start n := by
  unfold files
  cases d.resolve start with
  | error e => simp
  | ok place => cases hat : d.root.at? place <;> simp [hat]

theorem isFile_of_mem_files (hroot : d.root.Proper) (hp : p ∈ (files d respectful start).1) :
    d.isFile p = true := by
  obtain ⟨place, n, hplace, hat, hp⟩ := mem_files_iff.mp hp
  exact isFile_of_mem_reported (hroot.at? hat) hplace hat hp

end FenceCheck.Walk
