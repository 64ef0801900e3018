import FenceCheck.Disk
import FenceCheck.Proofs.Path.Ancestor

namespace FenceCheck.Disk

/-!
# Absolute paths on a disk

What an absolute path leads to is the same from every working directory. Cells that mean nothing
are followed from a directory to itself, and the cell behind them wants that directory as well, so
a name leads to the same place from a directory and from its tidied form.
-/

variable {d : Disk} {p : Path}

theorem cwdPath_eq_fromRoot (d : Disk) : d.cwdPath = Path.fromRoot (d.cwd.map String.toList) := by
  apply congrArg Path.mk
  apply String.toList_inj.mp
  simp

theorem isAbsolute_cwdPath (d : Disk) : d.cwdPath.isAbsolute = true := by
  rw [cwdPath_eq_fromRoot]
  exact Path.isAbsolute_fromRoot _

/-- The names of a working directory as a system gives them: they have no slash and are not
empty or a dot. -/
def HasProperCwd (d : Disk) : Prop :=
  ∀ name ∈ d.cwd, '/' ∉ name.toList ∧ Path.isFiller name.toList = false

theorem tidied_cwdPath (h : d.HasProperCwd) : d.cwdPath.tidied = d.cwdPath := by
  have hslash : ∀ cell ∈ d.cwd.map String.toList, '/' ∉ cell := by
    simpa using fun name hname => (h name hname).1
  have hmeans : ∀ cell ∈ d.cwd.map String.toList, Path.isFiller cell = false := by
    simpa using fun name hname => (h name hname).2
  have hkept : Path.dropTrailing (d.cwd.map String.toList) = d.cwd.map String.toList := by
    refine List.rdropWhile_eq_self_iff.mpr fun hne => ?_
    rw [hmeans _ (List.getLast_mem hne)]
    exact Bool.false_ne_true
  rw [cwdPath_eq_fromRoot, Path.tidied, Path.trail_fromRoot hslash, hkept]

section WorkingDirectory

variable (cwd : List String)

theorem node?_cwd (h : p.isAbsolute = true) : { d with cwd := cwd }.node? p = d.node? p := by
  have hresolve : { d with cwd := cwd }.resolve p = d.resolve p := by
    simp only [resolve, startOf, h, if_true]
    rfl
  simp only [node?, hresolve]

theorem pathExists_cwd (h : p.isAbsolute = true) :
    { d with cwd := cwd }.pathExists p = d.pathExists p := by
  rw [pathExists, pathExists, node?_cwd cwd h]

theorem readText_cwd (h : p.isAbsolute = true) :
    { d with cwd := cwd }.readText p = d.readText p := by
  simp only [readText, read, node?_cwd cwd h]

end WorkingDirectory

theorem follow_of_not_isDirAt {stack : List String} (h : d.isDirAt stack.reverse = false)
    (cell : List Char) : d.follow stack cell = .error .notDirectory := by
  simp [follow, h]

theorem follow_of_isFiller {stack : List String} {cell : List Char}
    (h : d.isDirAt stack.reverse = true) (hcell : Path.isFiller cell = true) :
    d.follow stack cell = .ok stack := by
  have hnothing : cell = [] ∨ cell = ['.'] := by simpa [Path.isFiller] using hcell
  simp [follow, h, hnothing]

/-- In front of another cell, cells that mean nothing make no difference. -/
theorem foldlM_follow_fillers {fillers : List (List Char)}
    (h : ∀ cell ∈ fillers, Path.isFiller cell = true) (cell : List Char) (stack : List String) :
    (fillers ++ [cell]).foldlM d.follow stack = d.follow stack cell := by
  induction fillers with
  | nil => simp
  | cons filler fillers ih =>
      rw [List.cons_append, List.foldlM_cons]
      cases hdir : d.isDirAt stack.reverse with
      | true =>
          rw [follow_of_isFiller hdir (h filler List.mem_cons_self)]
          exact ih fun c hc => h c (List.mem_cons_of_mem filler hc)
      | false =>
          rw [follow_of_not_isDirAt hdir, follow_of_not_isDirAt hdir]
          rfl

theorem foldlM_follow_concat (cells : List (List Char)) (cell : List Char)
    (stack : List String) :
    (cells ++ [cell]).foldlM d.follow stack =
      cells.foldlM d.follow stack >>= fun above => d.follow above cell := by
  simp only [List.foldlM_append, List.foldlM_cons, List.foldlM_nil, bind_pure]

theorem foldlM_follow_dropTrailing (cells : List (List Char)) (cell : List Char)
    (stack : List String) :
    (cells ++ [cell]).foldlM d.follow stack =
      (Path.dropTrailing cells ++ [cell]).foldlM d.follow stack := by
  obtain ⟨fillers, hcells, hfillers⟩ := Path.exists_fillers cells
  conv_lhs => rw [hcells, List.append_assoc, List.foldlM_append]
  rw [foldlM_follow_concat]
  exact bind_congr fun above => foldlM_follow_fillers hfillers cell above

theorem checkName_of_isAbsolute (h : p.isAbsolute = true) :
    checkName p =
      if p.cells.any (List.any · (·.toNat == 0)) then .error .nulInName else .ok () := by
  rw [checkName, if_neg (Path.text_ne_empty_of_isAbsolute h), Text.any_eq_any_cells '/' rfl]
  rfl

theorem any_nul_dropTrailing (cells : List (List Char)) :
    cells.any (List.any · (·.toNat == 0)) =
      (Path.dropTrailing cells).any (List.any · (·.toNat == 0)) := by
  obtain ⟨fillers, hcells, hfillers⟩ := Path.exists_fillers cells
  have hnone : fillers.any (List.any · (·.toNat == 0)) = false := by
    rw [List.any_eq_false]
    intro cell hcell
    obtain rfl | rfl : cell = [] ∨ cell = ['.'] := by
      simpa [Path.isFiller] using hfillers cell hcell
    · decide
    · decide
  conv_lhs => rw [hcells, List.any_append, hnone, Bool.or_false]

/-- A name below an absolute path is found through the cells of the path up to the last one that
means something. -/
theorem resolve_join {name : String} (h : p.isAbsolute = true) (hname : '/' ∉ name.toList) :
    d.resolve (p.join ⟨name⟩) =
      if (p.trail ++ [name.toList]).any (List.any · (·.toNat == 0)) then .error .nulInName
      else (([] :: (p.trail ++ [name.toList])).foldlM d.follow []).map List.reverse := by
  obtain ⟨cells, hcells, htrail⟩ := Path.cells_join h hname
  have hjoin := Path.isAbsolute_join h hname
  have hnul : (p.join ⟨name⟩).cells.any (List.any · (·.toNat == 0)) =
      (p.trail ++ [name.toList]).any (List.any · (·.toNat == 0)) := by
    rw [hcells, List.any_cons, List.any_nil, Bool.false_or, List.any_append, List.any_append,
      any_nul_dropTrailing cells, htrail]
  have hfollow : (p.join ⟨name⟩).cells.foldlM d.follow [] =
      ([] :: (p.trail ++ [name.toList])).foldlM d.follow [] := by
    rw [hcells, List.foldlM_cons, List.foldlM_cons]
    refine bind_congr fun above => ?_
    rw [foldlM_follow_dropTrailing cells, htrail]
  have hstart : d.startOf (p.join ⟨name⟩) = [] := by rw [startOf, if_pos hjoin]
  rw [resolve, checkName_of_isAbsolute hjoin, hnul, hstart, hfollow]
  split
  · rfl
  · rfl

theorem node?_join_tidied {name : String} (h : p.isAbsolute = true) (hname : '/' ∉ name.toList) :
    d.node? (p.tidied.join ⟨name⟩) = d.node? (p.join ⟨name⟩) := by
  rw [node?, node?, resolve_join h hname, resolve_join p.isAbsolute_tidied hname,
    Path.trail_tidied]

theorem pathExists_join_tidied {name : String} (h : p.isAbsolute = true)
    (hname : '/' ∉ name.toList) :
    d.pathExists (p.tidied.join ⟨name⟩) = d.pathExists (p.join ⟨name⟩) := by
  rw [pathExists, pathExists, node?_join_tidied h hname]

end FenceCheck.Disk
