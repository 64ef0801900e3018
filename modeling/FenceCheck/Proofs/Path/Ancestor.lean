import FenceCheck.Path
import FenceCheck.Proofs.Text.LineFrame
import Mathlib.Data.List.DropRight

namespace FenceCheck

/-!
# Ancestors

A search upward looks at the ancestors of a path one after the other, so what it finds is the
first ancestor of its kind. For absolute paths, every step up first drops the cells at the end that
mean nothing. Hence a path and its `tidied` form have the same ancestors above them, and the
parent of a file is the tidied form of the directory that the file was joined to.
-/

namespace Path

/-- The path `n` steps up, the path itself for none. -/
def ancestor? : Nat → Path → Option Path
  | 0, p => some p
  | n + 1, p => p.parent?.bind (ancestor? n)

theorem ancestor?_add (m n : Nat) (p : Path) :
    p.ancestor? (m + n) = (p.ancestor? m).bind (ancestor? n) := by
  induction m generalizing p with
  | zero => simp [ancestor?]
  | succ m ih =>
      rw [Nat.succ_add, ancestor?, ancestor?, Option.bind_assoc]
      exact congrArg p.parent?.bind (funext ih)

theorem ancestorsUpTo_succ (n : Nat) (p : Path) :
    p.ancestorsUpTo (n + 1) = p :: (p.parent?.map (ancestorsUpTo n)).getD [] := by
  cases h : p.parent? <;> simp [ancestorsUpTo, h]

theorem getElem?_ancestorsUpTo (n i : Nat) (p : Path) :
    (p.ancestorsUpTo n)[i]? = if i < n then p.ancestor? i else none := by
  induction n generalizing p i with
  | zero => simp [ancestorsUpTo]
  | succ n ih =>
      rw [ancestorsUpTo_succ]
      cases i with
      | zero => simp [ancestor?]
      | succ i => cases h : p.parent? <;> simp [ancestor?, h, ih]

/-- The ancestor `i` steps up is the first one with a property, among the first `n`. -/
structure FirstAncestor (n : Nat) (P : Path → Prop) (start : Path) (i : Nat) (a : Path) :
    Prop where
  within : i < n
  ancestor : start.ancestor? i = some a
  holds : P a
  earlier : ∀ j < i, ∀ b, start.ancestor? j = some b → ¬P b

/-- What comes first upward from a path also comes first from the ancestors on the way. -/
theorem FirstAncestor.from {n : Nat} {P : Path → Prop} {start dir a : Path} {i m : Nat}
    (h : FirstAncestor n P start (i + m) a) (hdir : start.ancestor? i = some dir) :
    FirstAncestor n P dir m a := by
  have hbelow : ∀ j, start.ancestor? (i + j) = dir.ancestor? j := by
    intro j
    rw [ancestor?_add, hdir, Option.bind_some]
  refine ⟨lt_of_le_of_lt (Nat.le_add_left m i) h.within, hbelow m ▸ h.ancestor, h.holds, ?_⟩
  intro j hj b hb
  exact h.earlier (i + j) (Nat.add_lt_add_left hj i) b (hbelow j ▸ hb)

theorem find?_ancestorsUpTo_eq_some {n : Nat} {p : Path → Bool} {start a : Path} :
    (start.ancestorsUpTo n).find? p = some a ↔
      ∃ i, FirstAncestor n (fun b => p b = true) start i a := by
  rw [List.find?_eq_some_iff_getElem]
  constructor
  · rintro ⟨ha, i, hi, hget, hbefore⟩
    have hat := List.getElem?_eq_getElem hi
    rw [hget, getElem?_ancestorsUpTo] at hat
    have hin : i < n := by
      by_contra hnot
      simp [hnot] at hat
    rw [if_pos hin] at hat
    refine ⟨i, hin, hat, ha, ?_⟩
    intro j hj b hb
    have hbat : (start.ancestorsUpTo n)[j]? = some b := by
      rw [getElem?_ancestorsUpTo, if_pos (hj.trans hin), hb]
    obtain ⟨_, rfl⟩ := List.getElem?_eq_some_iff.mp hbat
    simpa using hbefore j hj
  · rintro ⟨i, hin, hancestor, ha, hearlier⟩
    have hat : (start.ancestorsUpTo n)[i]? = some a := by
      rw [getElem?_ancestorsUpTo, if_pos hin, hancestor]
    obtain ⟨hi, hget⟩ := List.getElem?_eq_some_iff.mp hat
    refine ⟨ha, i, hi, hget, ?_⟩
    intro j hj
    have hbat := List.getElem?_eq_getElem (hj.trans hi)
    rw [getElem?_ancestorsUpTo, if_pos (hj.trans hin)] at hbat
    simpa using hearlier j hj _ hbat

theorem find?_ancestorsUpTo_eq_none {n : Nat} {p : Path → Bool} {start : Path} :
    (start.ancestorsUpTo n).find? p = none ↔
      ∀ i < n, ∀ a, start.ancestor? i = some a → p a = false := by
  simp only [List.find?_eq_none, List.mem_iff_getElem?, getElem?_ancestorsUpTo, Bool.not_eq_true]
  constructor
  · intro h i hi a ha
    exact h a ⟨i, by rw [if_pos hi, ha]⟩
  · rintro h a ⟨i, hi⟩
    split at hi
    · next hin => exact h i hin a hi
    · cases hi

end Path

namespace Text

variable {α : Type} [DecidableEq α]

theorem any_eq_any_cells (sep : α) {f : α → Bool} (h : f sep = false) (s : List α) :
    s.any f = (cells sep s).any (List.any · f) := by
  induction s with
  | nil => rfl
  | cons c s ih =>
      by_cases hc : c = sep
      · subst hc
        simp [ih, h]
      · obtain ⟨l, ls, hl⟩ := List.exists_cons_of_ne_nil (cells_ne_nil sep s)
        rw [cells_cons s hc]
        simp [ih, hl, Bool.or_assoc]

end Text

namespace Path

variable {p : Path}

theorem dropTrailing_idempotent (cells : List (List Char)) :
    dropTrailing (dropTrailing cells) = dropTrailing cells :=
  List.rdropWhile_idempotent isFiller cells

theorem dropTrailing_concat_of_not_isFiller (cells : List (List Char)) {cell : List Char}
    (h : isFiller cell = false) : dropTrailing (cells ++ [cell]) = cells ++ [cell] :=
  List.rdropWhile_concat_neg isFiller cells cell (by simp [h])

/-- The cells that are dropped mean nothing. -/
theorem exists_fillers (cells : List (List Char)) :
    ∃ fillers, cells = dropTrailing cells ++ fillers ∧ ∀ cell ∈ fillers, isFiller cell = true :=
  ⟨cells.rtakeWhile isFiller, List.rdropWhile_append_rtakeWhile.symm,
    fun _ => List.mem_rtakeWhile_imp⟩

/-- The path that goes from the root through cells. -/
def fromRoot (cells : List (List Char)) : Path :=
  ⟨String.ofList ('/' :: List.intercalate ['/'] cells)⟩

/-- The cells behind the root, without those at the end that mean nothing. -/
def trail (p : Path) : List (List Char) :=
  dropTrailing p.cells.tail

/-- An absolute path without the cells at its end that mean nothing. -/
def tidied (p : Path) : Path :=
  fromRoot p.trail

theorem isAbsolute_iff : p.isAbsolute = true ↔ ∃ s, p.text.toList = '/' :: s := by
  cases h : p.text.toList <;> simp [isAbsolute, h]

theorem text_ne_empty_of_isAbsolute (h : p.isAbsolute = true) : p.text ≠ "" := by
  intro hempty
  simp [isAbsolute, hempty] at h

theorem isAbsolute_fromRoot (cells : List (List Char)) : (fromRoot cells).isAbsolute = true := by
  simp [fromRoot, isAbsolute]

theorem isAbsolute_tidied (p : Path) : p.tidied.isAbsolute = true :=
  isAbsolute_fromRoot p.trail

theorem cells_of_isAbsolute (h : p.isAbsolute = true) : p.cells = [] :: p.cells.tail := by
  obtain ⟨s, hs⟩ := isAbsolute_iff.mp h
  rw [cells, hs, Text.cells_sep, List.tail_cons]

theorem cells_fromRoot {cells : List (List Char)} (h : ∀ cell ∈ cells, '/' ∉ cell) :
    (fromRoot cells).cells = [] :: if cells = [] then [[]] else cells := by
  rw [Path.cells, fromRoot, String.toList_ofList, Text.cells_sep]
  split
  · next hnil => subst hnil; rfl
  · next hne => rw [Text.cells_eq_splitOn, List.splitOn_intercalate '/' h hne]

theorem trail_fromRoot {cells : List (List Char)} (h : ∀ cell ∈ cells, '/' ∉ cell) :
    (fromRoot cells).trail = dropTrailing cells := by
  rw [trail, cells_fromRoot h, List.tail_cons]
  split
  · next hnil => subst hnil; rfl
  · rfl

theorem mem_trail {cell : List Char} (h : cell ∈ p.trail) : cell ∈ p.cells := by
  have hsub : p.trail <+: p.cells.tail := List.rdropWhile_prefix isFiller _
  exact List.mem_of_mem_tail (hsub.mem h)

theorem trail_tidied (p : Path) : p.tidied.trail = p.trail := by
  rw [tidied, trail_fromRoot fun _ hcell => Text.sep_notMem_of_mem_cells (mem_trail hcell), trail,
    dropTrailing_idempotent]

theorem ofCells_nil_cons {cells : List (List Char)} (h : cells ≠ []) :
    ofCells ([] :: cells) = fromRoot cells := by
  rw [ofCells, fromRoot, List.intercalate_cons_of_ne_nil h, List.nil_append, List.singleton_append]

theorem parent?_of_isAbsolute (h : p.isAbsolute = true) :
    p.parent? =
      if p.trail = [] then none else some (fromRoot (dropTrailing p.trail.dropLast)) := by
  rw [parent?, cells_of_isAbsolute h, trail]
  cases htrail : dropTrailing p.cells.tail with
  | nil => simp [htrail]
  | cons cell cells =>
      cases hkept : dropTrailing (cell :: cells).dropLast with
      | nil => simp [htrail, hkept, h, fromRoot]
      | cons cell' cells' => simp [htrail, hkept, ofCells_nil_cons]

/-- The cells at the end of an absolute path have no say in what stands above it. -/
theorem parent?_tidied (h : p.isAbsolute = true) : p.tidied.parent? = p.parent? := by
  rw [parent?_of_isAbsolute p.isAbsolute_tidied, parent?_of_isAbsolute h, trail_tidied]

theorem parent?_eq_some_of_isAbsolute {q : Path} (h : p.isAbsolute = true)
    (hq : p.parent? = some q) : q.isAbsolute = true ∧ q.tidied = q := by
  rw [parent?_of_isAbsolute h] at hq
  split at hq
  · cases hq
  · obtain rfl := Option.some.inj hq
    refine ⟨isAbsolute_fromRoot _, ?_⟩
    rw [tidied, trail_fromRoot, dropTrailing_idempotent]
    intro cell hcell
    have hsub : dropTrailing p.trail.dropLast <+: p.trail :=
      (List.rdropWhile_prefix isFiller _).trans (List.dropLast_prefix _)
    exact Text.sep_notMem_of_mem_cells (mem_trail (hsub.mem hcell))

theorem isAbsolute_ancestor? {n : Nat} {a : Path} (h : p.isAbsolute = true)
    (ha : p.ancestor? n = some a) : a.isAbsolute = true := by
  induction n generalizing p with
  | zero => obtain rfl := Option.some.inj ha; exact h
  | succ n ih =>
      obtain ⟨q, hq, ha⟩ := Option.bind_eq_some_iff.mp ha
      exact ih (parent?_eq_some_of_isAbsolute h hq).1 ha

theorem ancestor?_tidied (h : p.isAbsolute = true) (n : Nat) :
    p.tidied.ancestor? n = (p.ancestor? n).map tidied := by
  cases n with
  | zero => rfl
  | succ n =>
      have htidied : ∀ a, p.ancestor? (n + 1) = some a → a.tidied = a := by
        intro a ha
        rw [ancestor?_add] at ha
        obtain ⟨b, hb, ha⟩ := Option.bind_eq_some_iff.mp ha
        simp only [ancestor?, Option.bind_fun_some] at ha
        exact (parent?_eq_some_of_isAbsolute (isAbsolute_ancestor? h hb) ha).2
      have hsame : p.tidied.ancestor? (n + 1) = p.ancestor? (n + 1) := by
        rw [ancestor?, ancestor?, parent?_tidied h]
      rw [hsame]
      cases ha : p.ancestor? (n + 1) with
      | none => rfl
      | some a => rw [Option.map_some, htidied a ha]

theorem isAbsolute_name {name : String} (hname : '/' ∉ name.toList) :
    (⟨name⟩ : Path).isAbsolute = false := by
  rw [Bool.eq_false_iff, ne_eq, isAbsolute_iff]
  rintro ⟨s, hs⟩
  exact hname (hs ▸ List.mem_cons_self)

/-- A name is joined to a path by a slash, unless the path has one at its end. -/
theorem exists_toList_join {name : String} (h : p.text ≠ "") (hname : '/' ∉ name.toList) :
    ∃ s, (p.join ⟨name⟩).text.toList = s ++ '/' :: name.toList ∧
      (p.text.toList = s ∨ p.text.toList = s ++ ['/']) := by
  have hjoin : p.join ⟨name⟩ =
      if p.endsWithSlash then ⟨p.text ++ name⟩ else ⟨p.text ++ "/" ++ name⟩ := by
    simp [join, isAbsolute_name hname, h]
  rw [hjoin]
  split
  · next hslash =>
      obtain ⟨s, hs⟩ := List.getLast?_eq_some_iff.mp (beq_iff_eq.mp hslash)
      exact ⟨s, by simp [hs], .inr hs⟩
  · exact ⟨p.text.toList, by simp, .inl rfl⟩

theorem exists_toList_join_of_isAbsolute {name : String} (h : p.isAbsolute = true)
    (hname : '/' ∉ name.toList) :
    ∃ s, (p.join ⟨name⟩).text.toList = s ++ '/' :: name.toList ∧
      (s = [] ∨ ∃ t, s = '/' :: t) ∧ (p.text.toList = s ∨ p.text.toList = s ++ ['/']) := by
  obtain ⟨rest, hrest⟩ := isAbsolute_iff.mp h
  obtain ⟨s, hjoin, hs⟩ := exists_toList_join (text_ne_empty_of_isAbsolute h) hname
  refine ⟨s, hjoin, ?_, hs⟩
  cases s with
  | nil => exact .inl rfl
  | cons c s =>
      have hc : c = '/' := by
        obtain hs | hs := hs <;> exact (List.cons.inj (hs.symm.trans hrest)).1
      exact .inr ⟨s, by rw [hc]⟩

theorem isAbsolute_join {name : String} (h : p.isAbsolute = true) (hname : '/' ∉ name.toList) :
    (p.join ⟨name⟩).isAbsolute = true := by
  obtain ⟨s, hjoin, hs, -⟩ := exists_toList_join_of_isAbsolute h hname
  obtain rfl | ⟨t, rfl⟩ := hs <;> exact isAbsolute_iff.mpr ⟨_, hjoin⟩

theorem cells_join {name : String} (h : p.isAbsolute = true) (hname : '/' ∉ name.toList) :
    ∃ cells, (p.join ⟨name⟩).cells = [] :: (cells ++ [name.toList]) ∧
      dropTrailing cells = p.trail := by
  obtain ⟨s, hjoin, hs, hp⟩ := exists_toList_join_of_isAbsolute h hname
  have hfirst : Text.cells '/' s = [] :: (Text.cells '/' s).tail := by
    obtain rfl | ⟨t, rfl⟩ := hs
    · rfl
    · rw [Text.cells_sep, List.tail_cons]
  refine ⟨(Text.cells '/' s).tail, ?_, ?_⟩
  · rw [Path.cells, hjoin, Text.cells_append_cons, Text.cells_of_notMem hname, hfirst]
    rfl
  · rw [trail, Path.cells]
    obtain hp | hp := hp
    · rw [hp]
    · rw [hp, Text.cells_append_cons, hfirst]
      exact (List.rdropWhile_concat_pos isFiller _ [] rfl).symm

/-- The parent of a file is the directory that its name was joined to. -/
theorem parent?_join {name : String} (h : p.isAbsolute = true) (hname : '/' ∉ name.toList)
    (hmeans : isFiller name.toList = false) : (p.join ⟨name⟩).parent? = some p.tidied := by
  obtain ⟨cells, hcells, htrail⟩ := cells_join h hname
  have hjoin : (p.join ⟨name⟩).trail = cells ++ [name.toList] := by
    rw [trail, hcells, List.tail_cons, dropTrailing_concat_of_not_isFiller cells hmeans]
  rw [parent?_of_isAbsolute (isAbsolute_join h hname), hjoin, if_neg (by simp),
    List.dropLast_concat, htrail, tidied]

theorem ofCell?_of_isFiller {cell : List Char} (h : isFiller cell = true) :
    Component.ofCell? cell = none := by
  simp_all [isFiller, Component.ofCell?]

theorem filterMap_ofCell?_dropTrailing (cells : List (List Char)) :
    (dropTrailing cells).filterMap Component.ofCell? = cells.filterMap Component.ofCell? := by
  obtain ⟨fillers, hcells, hfillers⟩ := exists_fillers cells
  have hnone : fillers.filterMap Component.ofCell? = [] :=
    List.filterMap_eq_nil_iff.mpr fun cell hcell => ofCell?_of_isFiller (hfillers cell hcell)
  conv_rhs => rw [hcells, List.filterMap_append, hnone, List.append_nil]

theorem components_of_isAbsolute (h : p.isAbsolute = true) :
    p.components = .root :: p.trail.filterMap Component.ofCell? := by
  rw [components, meaning, cells_of_isAbsolute h, trail, filterMap_ofCell?_dropTrailing]
  simp only [h, if_true, List.filterMap_cons, List.filterMap_map, Function.comp_def]

theorem sameAs_tidied (h : p.isAbsolute = true) : p.tidied.sameAs p = true := by
  rw [sameAs, key, key, components_of_isAbsolute h, components_of_isAbsolute p.isAbsolute_tidied,
    trail_tidied, beq_iff_eq]

end Path

end FenceCheck
