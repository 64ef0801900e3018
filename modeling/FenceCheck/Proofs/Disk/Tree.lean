import FenceCheck.Proofs.Disk.Absolute
import FenceCheck.Proofs.Path.Clean

namespace FenceCheck

/-!
# Trees on a disk

The names of what a directory holds are different from each other, and each of them is one cell of
a path that leads one step down. On a tree of that kind, a path to a directory leads to each of
its entries once the name is joined to it.
-/

/-- A name that a directory can have an entry under. -/
structure IsName (name : String) : Prop where
  isCell : '/' ∉ name.toList
  means : Path.isFiller name.toList = false
  ne_up : name.toList ≠ ['.', '.']
  visible : name.toList.any (·.toNat == 0) = false
  short : Text.byteLength name.toList ≤ 255

instance (name : String) : Decidable (IsName name) :=
  decidable_of_iff
    ('/' ∉ name.toList ∧ Path.isFiller name.toList = false ∧ name.toList ≠ ['.', '.'] ∧
      name.toList.any (·.toNat == 0) = false ∧ Text.byteLength name.toList ≤ 255)
    ⟨fun ⟨isCell, means, ne_up, visible, short⟩ => ⟨isCell, means, ne_up, visible, short⟩,
      fun h => ⟨h.isCell, h.means, h.ne_up, h.visible, h.short⟩⟩

namespace Node

inductive Proper : Node → Prop
  | file (bytes : ByteArray) : Proper (.file bytes)
  | dir {entries : Entries} (hkeys : (entries.map Prod.fst).Nodup)
      (hnames : ∀ e ∈ entries, IsName e.1) (hentries : ∀ e ∈ entries, Proper e.2) :
      Proper (.dir entries)

theorem at?_append (names more : List String) (n : Node) :
    n.at? (names ++ more) = (n.at? names).bind (at? more) := by
  induction names generalizing n with
  | nil => rfl
  | cons name names ih =>
      rw [List.cons_append, at?, at?, Option.bind_assoc]
      exact congrArg (n.child? name).bind (funext ih)

theorem lookup_of_mem {entries : Entries} {name : String} {n : Node}
    (hkeys : (entries.map Prod.fst).Nodup) (h : (name, n) ∈ entries) :
    entries.lookup name = some n := by
  obtain ⟨before, after, rfl⟩ := List.append_of_mem h
  refine List.lookup_eq_some_iff.mpr ⟨before, after, rfl, ?_⟩
  rw [List.map_append, List.map_cons, List.nodup_append] at hkeys
  intro e he
  exact bne_iff_ne.mpr (hkeys.2.2 e.1 (List.mem_map_of_mem he) name List.mem_cons_self).symm

theorem Proper.child? {n m : Node} {name : String} (h : n.Proper)
    (hchild : n.child? name = some m) : m.Proper := by
  cases h with
  | file bytes => cases hchild
  | dir hkeys hnames hentries =>
      obtain ⟨before, after, rfl, -⟩ := List.lookup_eq_some_iff.mp hchild
      exact hentries (name, m) (List.mem_append_right before List.mem_cons_self)

theorem Proper.at? {n m : Node} {names : List String} (h : n.Proper)
    (hat : n.at? names = some m) : m.Proper := by
  induction names generalizing n with
  | nil => exact Option.some.inj hat ▸ h
  | cons name names ih =>
      obtain ⟨k, hchild, hat⟩ := Option.bind_eq_some_iff.mp hat
      exact ih (h.child? hchild) hat

end Node

namespace Disk

variable {d : Disk} {p : Path} {place : List String}

theorem checkName_eq_ok :
    checkName p = .ok () ↔ p.text.toList.any (·.toNat == 0) = false ∧ p.text ≠ "" := by
  rw [checkName]
  cases p.text.toList.any (·.toNat == 0) with
  | true => simp
  | false => by_cases hempty : p.text = "" <;> simp [hempty]

theorem resolve_eq_ok :
    d.resolve p = .ok place ↔
      checkName p = .ok () ∧ p.cells.foldlM d.follow (d.startOf p) = .ok place.reverse := by
  unfold resolve
  cases checkName p with
  | error e => simp [bind, Except.bind]
  | ok u =>
      cases p.cells.foldlM d.follow (d.startOf p) with
      | error e => simp [bind, Except.bind]
      | ok found => simp [bind, Except.bind, pure, Except.pure, List.reverse_eq_iff]

theorem node?_of_resolve {n : Node} (h : d.resolve p = .ok place)
    (hat : d.root.at? place = some n) : d.node? p = .ok n := by
  simp [node?, h, hat, bind, Except.bind, pure, Except.pure]

theorem follow_name {name : String} {entries : Node.Entries} {n : Node} (hname : IsName name)
    (hdir : d.root.at? place = some (.dir entries)) (hentry : entries.lookup name = some n) :
    d.follow place.reverse name.toList = .ok (place ++ [name]).reverse ∧
      d.root.at? (place ++ [name]) = some n := by
  have hat : d.root.at? (place ++ [name]) = some n := by
    rw [Node.at?_append, hdir, Option.bind_some, Node.at?, Node.child?, hentry]
    rfl
  refine ⟨?_, hat⟩
  have hisDir : d.isDirAt place = true := by simp [isDirAt, hdir, Node.isDir]
  have hmeans : ¬(name.toList = [] ∨ name.toList = ['.']) := by
    simpa [Path.isFiller] using hname.means
  simp only [follow, List.reverse_reverse, hisDir, Bool.not_true, Bool.false_eq_true, if_false,
    hmeans, hname.ne_up, Nat.not_lt.mpr hname.short, String.ofList_toList, List.reverse_cons, hat,
    List.reverse_append, List.reverse_nil, List.nil_append, List.singleton_append]

theorem startOf_join {name : String} (h : p.text ≠ "") (hname : '/' ∉ name.toList) :
    d.startOf (p.join ⟨name⟩) = d.startOf p := by
  obtain ⟨s, hjoin, hs⟩ := Path.exists_toList_join h hname
  have hempty : p.text.toList ≠ [] := by simpa using h
  have habs : (p.join ⟨name⟩).isAbsolute = p.isAbsolute := by
    rw [Path.isAbsolute, Path.isAbsolute, hjoin]
    obtain hs | hs := hs
    · obtain ⟨c, cs, rfl⟩ := List.exists_cons_of_ne_nil (hs ▸ hempty)
      rw [hs]
      rfl
    · rw [hs]
      cases s <;> rfl
  rw [startOf, startOf, habs]

theorem foldlM_follow_of_append_empty {cells : List (List Char)} {stack found : List String}
    (h : (cells ++ [[]]).foldlM d.follow stack = .ok found) :
    cells.foldlM d.follow stack = .ok found := by
  -- the empty cell behind a slash leads from a directory to itself, and from a file nowhere
  rw [foldlM_follow_concat] at h
  cases habove : cells.foldlM d.follow stack with
  | error e => simp [habove, bind, Except.bind] at h
  | ok above =>
      have hlast : d.follow above [] = .ok found := by rwa [habove] at h
      cases hdir : d.isDirAt above.reverse with
      | true => rwa [follow_of_isFiller hdir rfl] at hlast
      | false =>
          rw [follow_of_not_isDirAt hdir] at hlast
          cases hlast

/-- A path to a directory leads to its entries once their names are joined to it. -/
theorem resolve_join_name {name : String} {entries : Node.Entries} {n : Node}
    (h : d.resolve p = .ok place) (hdir : d.root.at? place = some (.dir entries))
    (hname : IsName name) (hentry : entries.lookup name = some n) :
    d.resolve (p.join ⟨name⟩) = .ok (place ++ [name]) ∧
      d.root.at? (place ++ [name]) = some n := by
  obtain ⟨hfollow, hat⟩ := follow_name hname hdir hentry
  obtain ⟨hcheck, hplace⟩ := resolve_eq_ok.mp h
  obtain ⟨hvisible, hempty⟩ := checkName_eq_ok.mp hcheck
  obtain ⟨s, hjoin, hs⟩ := Path.exists_toList_join hempty hname.isCell
  have hclear : s.any (·.toNat == 0) = false := by
    obtain hs | hs := hs
    · rwa [hs] at hvisible
    · rw [hs, List.any_append, Bool.or_eq_false_iff] at hvisible
      exact hvisible.1
  have habove : (Text.cells '/' s).foldlM d.follow (d.startOf p) = .ok place.reverse := by
    rw [Path.cells] at hplace
    obtain hs | hs := hs
    · rwa [hs] at hplace
    · rw [hs, Text.cells_append_cons] at hplace
      exact foldlM_follow_of_append_empty hplace
  refine ⟨resolve_eq_ok.mpr ⟨checkName_eq_ok.mpr ⟨?_, ?_⟩, ?_⟩, hat⟩
  · rw [hjoin, List.any_append, List.any_cons, hclear, hname.visible]
    rfl
  · intro hnone
    simp [hnone] at hjoin
  · rw [startOf_join hempty hname.isCell, Path.cells, hjoin, Text.cells_append_cons,
      Text.cells_of_notMem hname.isCell, foldlM_follow_concat, habove]
    exact hfollow

/-- With a dot and a slash in front, a path leads to where it led from the working directory. -/
theorem node?_dotted (h : p.isAbsolute = false) (hempty : p.text ≠ "") :
    d.node? p.dotted = d.node? p := by
  have hcheck : checkName p.dotted = checkName p := by
    simp [checkName, Path.dotted, hempty]
  have hstart : d.startOf p.dotted = d.startOf p := by
    rw [startOf, startOf, h, Path.isAbsolute_of_first_ne p.cells_dotted (List.cons_ne_nil _ _)]
  have hfollow : p.dotted.cells.foldlM d.follow (d.startOf p) =
      p.cells.foldlM d.follow (d.startOf p) := by
    obtain ⟨first, rest, hcells⟩ := p.exists_cells
    have hsplit : ['.'] :: first :: rest = ([['.']] ++ [first]) ++ rest := rfl
    rw [Path.cells_dotted, hcells, hsplit, List.foldlM_append,
      foldlM_follow_fillers (by decide) first, List.foldlM_cons]
  have hresolve : d.resolve p.dotted = d.resolve p := by
    rw [resolve, resolve, hcheck, hstart, hfollow]
  rw [node?, node?, hresolve]

theorem isFile_dotted (h : p.isAbsolute = false) (hfile : d.isFile p = true) :
    d.isFile p.dotted = true := by
  have hempty : p.text ≠ "" := by
    intro hempty
    have hnone : d.node? p = .error .notFound := by
      simp [node?, resolve, checkName, hempty, bind, Except.bind]
    simp [isFile, hnone] at hfile
  rwa [isFile, node?_dotted h hempty]

end Disk

end FenceCheck
