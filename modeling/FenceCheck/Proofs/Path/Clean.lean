import FenceCheck.Proofs.Path.Ancestor

namespace FenceCheck.Path

/-!
# Paths without a dot in front

A dot means something only at the beginning of a path that does not start at the root. Cleaning
takes it away with the cells around it that mean nothing, so all that is lost of the components of
a path is that dot, and a dot and a slash written in front make no difference.
-/

variable {p : Path} {cells rest : List (List Char)} {first : List Char}

theorem here_notMem_filterMap_ofCell? (cells : List (List Char)) :
    Component.here ∉ cells.filterMap Component.ofCell? := by
  rw [List.mem_filterMap]
  rintro ⟨cell, -, hcell⟩
  unfold Component.ofCell? at hcell
  split_ifs at hcell <;> cases hcell

theorem filterMap_ofCell?_dropWhile (cells : List (List Char)) :
    (cells.dropWhile isFiller).filterMap Component.ofCell? =
      cells.filterMap Component.ofCell? := by
  induction cells with
  | nil => rfl
  | cons cell cells ih =>
      cases hcell : isFiller cell with
      | true =>
          rw [List.dropWhile_cons_of_pos hcell, ih,
            List.filterMap_cons_none (ofCell?_of_isFiller hcell)]
      | false => rw [List.dropWhile_cons_of_neg (by simp [hcell])]

/-! ## What the first cell decides -/

theorem exists_cells (p : Path) : ∃ first rest, p.cells = first :: rest :=
  List.exists_cons_of_ne_nil (Text.cells_ne_nil '/' p.text.toList)

theorem isAbsolute_of_first_ne (h : p.cells = first :: rest) (hfirst : first ≠ []) :
    p.isAbsolute = false := by
  rw [Bool.eq_false_iff]
  intro habs
  rw [cells_of_isAbsolute habs] at h
  exact hfirst (List.cons.inj h).1.symm

theorem components_of_dot (h : p.cells = ['.'] :: rest) :
    p.components = .here :: rest.filterMap Component.ofCell? := by
  have hrelative := isAbsolute_of_first_ne h (List.cons_ne_nil _ _)
  simp [components, meaning, h, hrelative, Component.ofFirst?, List.filterMap_map]

theorem components_of_ne_dot (h : p.cells = first :: rest) (hrelative : p.isAbsolute = false)
    (hfirst : first ≠ ['.']) : p.components = p.cells.filterMap Component.ofCell? := by
  simp [components, meaning, h, hrelative, Component.ofFirst?, hfirst, List.filterMap_cons,
    List.filterMap_map]

theorem here_notMem_components (h : p.cells = first :: rest) (hfirst : first ≠ ['.']) :
    Component.here ∉ p.components := by
  cases habs : p.isAbsolute with
  | true =>
      rw [components_of_isAbsolute habs, List.mem_cons, not_or]
      exact ⟨by decide, here_notMem_filterMap_ofCell? _⟩
  | false =>
      rw [components_of_ne_dot h habs hfirst]
      exact here_notMem_filterMap_ofCell? _

theorem components_ofCells (hslash : ∀ cell ∈ cells, '/' ∉ cell)
    (hfirst : ∀ cell ∈ cells.head?, isFiller cell = false) :
    (ofCells cells).components = cells.filterMap Component.ofCell? := by
  cases cells with
  | nil => rfl
  | cons first rest =>
      obtain ⟨hne, hdot⟩ : first ≠ [] ∧ first ≠ ['.'] := by
        simpa [isFiller] using hfirst first rfl
      have hcells : (ofCells (first :: rest)).cells = first :: rest := by
        rw [Path.cells, ofCells, String.toList_ofList, Text.cells_eq_splitOn,
          List.splitOn_intercalate '/' hslash (List.cons_ne_nil first rest)]
      rw [components_of_ne_dot hcells (isAbsolute_of_first_ne hcells hne) hdot, hcells]

/-! ## Cleaning -/

theorem components_dotSlash : (⟨"./"⟩ : Path).components = [.here] := by
  decide

theorem clean_of_here_notMem (h : Component.here ∉ p.components) : p.clean = p := by
  have hfalse : [Component.here].isPrefixOf p.components = false := by
    rw [Bool.eq_false_iff, ne_eq, List.isPrefixOf_iff_prefix]
    exact fun hfirst => h (hfirst.subset List.mem_cons_self)
  rw [clean, relativeTo?, components_dotSlash, hfalse]
  rfl

theorem clean_of_dot (h : p.cells = ['.'] :: rest) :
    p.clean = ofCells (dropTrailing (rest.dropWhile isFiller)) := by
  have hmeaning : p.meaning =
      (['.'], some .here) :: rest.map fun cell => (cell, Component.ofCell? cell) := by
    simp [meaning, h, isAbsolute_of_first_ne h, Component.ofFirst?]
  have hafter : cellsAfter [Component.here].length p.meaning = rest := by
    rw [hmeaning, List.length_singleton, cellsAfter, cellsAfter, List.map_map]
    exact List.map_id rest
  have hprefix : [Component.here].isPrefixOf p.components = true := by
    rw [components_of_dot h]
    simp
  rw [clean, relativeTo?, components_dotSlash, if_pos hprefix, hafter]
  rfl

theorem components_clean_of_dot (h : p.cells = ['.'] :: rest) :
    p.clean.components = rest.filterMap Component.ofCell? := by
  have hsub : dropTrailing (rest.dropWhile isFiller) <+: rest.dropWhile isFiller :=
    List.rdropWhile_prefix isFiller _
  rw [clean_of_dot h, components_ofCells, filterMap_ofCell?_dropTrailing,
    filterMap_ofCell?_dropWhile]
  · intro cell hcell
    have hmem : cell ∈ rest := (List.dropWhile_sublist isFiller).subset (hsub.subset hcell)
    exact Text.sep_notMem_of_mem_cells (h ▸ List.mem_cons_of_mem _ hmem)
  -- the first cell that is kept means something, so it is no dot
  · intro cell hcell
    obtain ⟨more, hmore⟩ := hsub
    have hhead : (rest.dropWhile isFiller).head? = some cell := by
      rw [← hmore, List.head?_append, Option.mem_def.mp hcell]
      rfl
    simpa [hhead] using List.head?_dropWhile_not isFiller rest

/-- All that cleaning takes from the components of a path is a dot in front. -/
theorem components_clean (p : Path) :
    p.clean.components = p.components.filter (· != .here) := by
  obtain ⟨first, rest, hcells⟩ := p.exists_cells
  have hkeep : ∀ cs : List Component, .here ∉ cs → cs.filter (· != .here) = cs := by
    intro cs hcs
    exact List.filter_eq_self.mpr fun c hc => bne_iff_ne.mpr fun h => hcs (h ▸ hc)
  by_cases hfirst : first = ['.']
  · subst hfirst
    rw [components_clean_of_dot hcells, components_of_dot hcells,
      List.filter_cons_of_neg (by decide), hkeep _ (here_notMem_filterMap_ofCell? rest)]
  · have hnone := here_notMem_components hcells hfirst
    rw [clean_of_here_notMem hnone, hkeep _ hnone]

/-! ## A dot and a slash in front -/

/-- The path with a dot and a slash written in front. -/
def dotted (p : Path) : Path :=
  ⟨"./" ++ p.text⟩

theorem cells_dotted (p : Path) : p.dotted.cells = ['.'] :: p.cells := by
  rw [Path.cells, dotted, String.toList_append]
  exact Text.cells_append_cons '/' ['.'] p.text.toList

theorem exists_eq_dotted (h : ['.', '/'] <+: p.text.toList) : ∃ q : Path, p = q.dotted := by
  obtain ⟨s, hs⟩ := h
  refine ⟨⟨String.ofList s⟩, congrArg Path.mk (String.toList_inj.mp ?_)⟩
  simp [← hs]

/-- No clean path has a dot and a slash in front. -/
theorem not_dotSlash_prefix_clean (p : Path) : ¬['.', '/'] <+: p.clean.text.toList := by
  intro h
  obtain ⟨q, hq⟩ := exists_eq_dotted h
  have hhere : Component.here ∈ p.clean.components := by
    rw [hq, components_of_dot q.cells_dotted]
    exact List.mem_cons_self
  simp [components_clean] at hhere

theorem components_clean_dotted (h : p.isAbsolute = false) :
    p.dotted.clean.components = p.clean.components := by
  obtain ⟨first, rest, hcells⟩ := p.exists_cells
  rw [components_clean_of_dot p.cells_dotted]
  by_cases hfirst : first = ['.']
  · subst hfirst
    rw [components_clean_of_dot hcells, hcells, List.filterMap_cons_none rfl]
  · rw [clean_of_here_notMem (here_notMem_components hcells hfirst),
      components_of_ne_dot hcells h hfirst]

end FenceCheck.Path
