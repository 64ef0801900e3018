import FenceCheck.Config.Locate
import FenceCheck.Proofs.Disk.Absolute

namespace FenceCheck.Config

/-!
# The nearest configuration

The configuration for a directory is in its first ancestor with a file, unless a repository comes
before. The project root is looked for from there. It is the one of the directory itself as long
as there is a repository to be found, and the one that comes with the file where it is given.
-/

variable {d : Disk}

def HasFile (d : Disk) (dir : Path) : Prop :=
  d.isFile (dir.join ⟨".snipcheck.toml"⟩) = true ∨ d.isFile (dir.join ⟨"snipcheck.toml"⟩) = true

/-- The file of a directory that has one. -/
def preferred (d : Disk) (dir : Path) : Path :=
  if d.isFile (dir.join ⟨".snipcheck.toml"⟩) then dir.join ⟨".snipcheck.toml"⟩
  else dir.join ⟨"snipcheck.toml"⟩

/-- The ancestor `i` steps up is the first one with a file, and no repository comes before. -/
structure Nearest (d : Disk) (start : Path) (i : Nat) (dir : Path) : Prop
    extends Path.FirstAncestor searchLimit (HasFile d) start i dir where
  outside : ∀ j < i, ∀ a, start.ancestor? j = some a → isRepository d a = false

/-- The project root for a directory is the nearest repository upward or the directory itself. -/
inductive RootOf (d : Disk) (dir : Path) : Path → Prop
  | repository {i : Nat} {root : Path}
      (h : Path.FirstAncestor searchLimit (fun a => isRepository d a = true) dir i root) :
      RootOf d dir root
  | itself (h : ∀ i < searchLimit, ∀ a, dir.ancestor? i = some a → isRepository d a = false) :
      RootOf d dir dir

theorem projectRoot_fst (d : Disk) (dir : Path) :
    (projectRoot d dir).1 = ((searchPath dir).find? (isRepository d)).getD dir := by
  unfold projectRoot
  generalize (searchPath dir).find? (isRepository d) = found
  cases found <;> rfl

theorem rootOf_iff {dir root : Path} : RootOf d dir root ↔ (projectRoot d dir).1 = root := by
  rw [projectRoot_fst]
  cases h : (searchPath dir).find? (isRepository d) with
  | some found =>
      rw [Option.getD_some]
      constructor
      · rintro (⟨hfirst⟩ | ⟨hnone⟩)
        · have hfind := Path.find?_ancestorsUpTo_eq_some.mpr ⟨_, hfirst⟩
          exact Option.some.inj (h.symm.trans hfind)
        · have hfind := Path.find?_ancestorsUpTo_eq_none.mpr hnone
          cases h.symm.trans hfind
      · rintro rfl
        obtain ⟨i, hfirst⟩ := Path.find?_ancestorsUpTo_eq_some.mp h
        exact .repository hfirst
  | none =>
      rw [Option.getD_none]
      constructor
      · rintro (⟨hfirst⟩ | -)
        · have hfind := Path.find?_ancestorsUpTo_eq_some.mpr ⟨_, hfirst⟩
          cases h.symm.trans hfind
        · rfl
      · rintro rfl
        exact .itself (Path.find?_ancestorsUpTo_eq_none.mp h)

theorem fileIn?_eq_some {dir file : Path} :
    fileIn? d dir = some file ↔ HasFile d dir ∧ file = preferred d dir := by
  unfold fileIn? fileNames HasFile preferred
  cases hdot : d.isFile (dir.join ⟨".snipcheck.toml"⟩) <;>
    cases hplain : d.isFile (dir.join ⟨"snipcheck.toml"⟩) <;>
      simp [hdot, hplain, eq_comm]

theorem nearest?_cons_fst (d : Disk) (dir : Path) (dirs : List Path) :
    (nearest? d (dir :: dirs)).1 =
      match fileIn? d dir with
      | some file => some (dir, file)
      | none => if isRepository d dir then none else (nearest? d dirs).1 := by
  conv_lhs => unfold nearest?
  generalize fileIn? d dir = file
  cases file with
  | some file => rfl
  | none => dsimp only; split <;> rfl

/-- The search stops at a file and at a repository, and has found something if there is a file
where it stops. -/
theorem nearest?_eq_some {dirs : List Path} {dir file : Path} :
    (nearest? d dirs).1 = some (dir, file) ↔
      dirs.find? (fun a => (fileIn? d a).isSome || isRepository d a) = some dir ∧
        fileIn? d dir = some file := by
  induction dirs with
  | nil =>
      have hnil : (nearest? d []).1 = none := rfl
      simp [hnil]
  | cons a dirs ih =>
      rw [nearest?_cons_fst]
      cases hfile : fileIn? d a with
      | some found =>
          rw [List.find?_cons_of_pos (by simp [hfile])]
          constructor
          · intro h
            cases h
            exact ⟨rfl, hfile⟩
          · rintro ⟨h, hdir⟩
            cases h
            rw [Option.some.inj (hfile.symm.trans hdir)]
      | none =>
          cases hrepository : isRepository d a with
          | true =>
              rw [List.find?_cons_of_pos (by simp [hrepository])]
              constructor
              · intro h
                cases h
              · rintro ⟨h, hdir⟩
                cases h
                cases hfile.symm.trans hdir
          | false =>
              rw [List.find?_cons_of_neg (by simp [hfile, hrepository])]
              exact ih

theorem discover?_fst (d : Disk) (start : Path) :
    (discover? d start).1 = (nearest? d (searchPath start)).1.map fun found =>
      (found.2, (projectRoot d found.1).1) := by
  unfold discover?
  generalize nearest? d (searchPath start) = searched
  obtain ⟨_ | ⟨dir, file⟩, log⟩ := searched <;> rfl

theorem nearest?_searchPath_eq_some {start dir file : Path} :
    (nearest? d (searchPath start)).1 = some (dir, file) ↔
      ∃ i, Nearest d start i dir ∧ file = preferred d dir := by
  have hstop : ∀ a, (((fileIn? d a).isSome || isRepository d a) = true) ↔
      (HasFile d a ∨ isRepository d a = true) := by
    intro a
    rw [Bool.or_eq_true, Option.isSome_iff_exists]
    simp only [fileIn?_eq_some, exists_and_left, exists_eq, and_true]
  rw [nearest?_eq_some, searchPath, Path.find?_ancestorsUpTo_eq_some, fileIn?_eq_some]
  constructor
  · rintro ⟨⟨i, hfirst⟩, hfile, rfl⟩
    have hearlier : ∀ j < i, ∀ a, start.ancestor? j = some a →
        ¬HasFile d a ∧ ¬isRepository d a = true := fun j hj a ha =>
      not_or.mp fun h => hfirst.earlier j hj a ha ((hstop a).mpr h)
    refine ⟨i, ⟨⟨hfirst.within, hfirst.ancestor, hfile, ?_⟩, ?_⟩, rfl⟩
    · exact fun j hj a ha => (hearlier j hj a ha).1
    · exact fun j hj a ha => Bool.eq_false_iff.mpr (hearlier j hj a ha).2
  · rintro ⟨i, hnearest, rfl⟩
    refine ⟨⟨i, hnearest.within, hnearest.ancestor, (hstop dir).mpr (.inl hnearest.holds), ?_⟩,
      hnearest.holds, rfl⟩
    intro j hj a ha hstopped
    obtain hfile | hrepository := (hstop a).mp hstopped
    · exact hnearest.earlier j hj a ha hfile
    · exact Bool.false_ne_true ((hnearest.outside j hj a ha).symm.trans hrepository)

theorem discover?_eq_some {start file root : Path} :
    (discover? d start).1 = some (file, root) ↔
      ∃ i dir, Nearest d start i dir ∧ file = preferred d dir ∧ RootOf d dir root := by
  rw [discover?_fst, Option.map_eq_some_iff]
  constructor
  · rintro ⟨⟨dir, file'⟩, hfound, heq⟩
    obtain ⟨i, hnearest, rfl⟩ := nearest?_searchPath_eq_some.mp hfound
    obtain ⟨rfl, hroot⟩ := Prod.mk.inj heq
    exact ⟨i, dir, hnearest, rfl, rootOf_iff.mpr hroot⟩
  · rintro ⟨i, dir, hnearest, rfl, hroot⟩
    refine ⟨(dir, preferred d dir), nearest?_searchPath_eq_some.mpr ⟨i, hnearest, rfl⟩, ?_⟩
    rw [rootOf_iff.mp hroot]

/-- A repository upward from a directory does not come before the nearest file, so the search for
the root may as well begin at that file. -/
theorem Nearest.rootOf {start dir root : Path} {i k : Nat} (h : Nearest d start i dir)
    (hfirst : Path.FirstAncestor searchLimit (fun a => isRepository d a = true) start k root) :
    RootOf d dir root := by
  have hle : i ≤ k := by
    by_contra hlt
    have hnone := h.outside k (Nat.lt_of_not_le hlt) root hfirst.ancestor
    exact Bool.false_ne_true (hnone.symm.trans hfirst.holds)
  obtain ⟨m, rfl⟩ := Nat.exists_eq_add_of_le hle
  exact .repository (hfirst.from h.ancestor)

section Given

variable {dir root file : Path} (cwd : List String)

theorem isRepository_tidied (h : dir.isAbsolute = true) :
    isRepository { d with cwd := cwd } dir.tidied = isRepository d dir := by
  have hjoin : (dir.tidied.join repositoryMarker).isAbsolute = true :=
    Path.isAbsolute_join dir.isAbsolute_tidied (by decide)
  exact (Disk.pathExists_cwd cwd hjoin).trans (Disk.pathExists_join_tidied h (by decide))

theorem RootOf.tidied (h : dir.isAbsolute = true) (hroot : RootOf d dir root) :
    RootOf { d with cwd := cwd } dir.tidied root.tidied := by
  have hsame : ∀ j a, dir.ancestor? j = some a →
      isRepository { d with cwd := cwd } a.tidied = isRepository d a :=
    fun j a ha => isRepository_tidied cwd (Path.isAbsolute_ancestor? h ha)
  have hbefore : ∀ j, (∀ a, dir.ancestor? j = some a → isRepository d a = false) →
      ∀ b, dir.tidied.ancestor? j = some b → isRepository { d with cwd := cwd } b = false := by
    intro j hnone b hb
    rw [Path.ancestor?_tidied h, Option.map_eq_some_iff] at hb
    obtain ⟨a, ha, rfl⟩ := hb
    rw [hsame j a ha, hnone a ha]
  obtain ⟨hfirst⟩ | ⟨hnone⟩ := hroot
  · refine .repository ⟨hfirst.within, ?_, ?_, ?_⟩
    · rw [Path.ancestor?_tidied h, hfirst.ancestor, Option.map_some]
    · exact (hsame _ _ hfirst.ancestor).trans hfirst.holds
    · intro j hj b hb
      exact Bool.eq_false_iff.mp
        (hbefore j (fun a ha => Bool.eq_false_iff.mpr (hfirst.earlier j hj a ha)) b hb)
  · exact .itself fun j hj => hbefore j (hnone j hj)

theorem ofFile_cwd (h : file.isAbsolute = true) :
    ofFile { d with cwd := cwd } file = ofFile d file := by
  unfold ofFile
  rw [Disk.readText_cwd cwd h]

theorem isAbsolute_preferred (h : dir.isAbsolute = true) :
    (preferred d dir).isAbsolute = true := by
  unfold preferred
  split <;> exact Path.isAbsolute_join h (by decide)

theorem parent?_preferred (h : dir.isAbsolute = true) :
    (preferred d dir).parent? = some dir.tidied := by
  unfold preferred
  split <;> exact Path.parent?_join h (by decide) (by decide)

theorem locatedAt_fst (d : Disk) (file : Path) (root : Logged Path) (before : List Log.Record) :
    (locatedAt d file root before).1 =
      (ofFile d file).1.map fun config => ⟨config, some file, root.1⟩ := by
  unfold locatedAt
  generalize ofFile d file = read
  obtain ⟨_ | _, _⟩ := read <;> rfl

theorem RootOf.exists_ancestor? (hroot : RootOf d dir root) : ∃ n, dir.ancestor? n = some root := by
  obtain ⟨hfirst⟩ | - := hroot
  · exact ⟨_, hfirst.ancestor⟩
  · exact ⟨0, rfl⟩

theorem loadGiven_preferred (h : dir.isAbsolute = true) (hroot : RootOf d dir root) :
    (loadGiven { d with cwd := cwd } (preferred d dir)).1 =
      (ofFile d (preferred d dir)).1.map fun config =>
        ⟨config, some (preferred d dir), root.tidied⟩ := by
  have habsolute := dir.isAbsolute_tidied
  have hne := Path.text_ne_empty_of_isAbsolute habsolute
  have hjoin : ∀ base : Path, base.join dir.tidied = dir.tidied := by
    intro base
    simp [Path.join, habsolute]
  rw [loadGiven, parent?_preferred h]
  simp only [hne, hjoin, if_false]
  rw [locatedAt_fst, rootOf_iff.mp (hroot.tidied cwd h), ofFile_cwd cwd (isAbsolute_preferred h)]

theorem load_none_eq_ok {l : Located} (hload : (load d none).1 = .ok l)
    (hfile : l.file = some file) :
    ∃ i dir root, Nearest d d.cwdPath i dir ∧ file = preferred d dir ∧ RootOf d dir root ∧
      ∃ config, (ofFile d file).1 = .ok config ∧ l = ⟨config, some file, root⟩ := by
  unfold load loadNearest at hload
  cases hfound : (discover? d d.cwdPath).1 with
  | none =>
      simp only [hfound] at hload
      cases hload
      cases hfile
  | some found =>
      obtain ⟨file', root⟩ := found
      simp only [hfound, locatedAt_fst] at hload
      cases hread : (ofFile d file').1 with
      | error e => rw [hread] at hload; cases hload
      | ok config =>
          rw [hread] at hload
          cases hload
          obtain rfl := Option.some.inj hfile
          obtain ⟨i, dir, hnearest, hpreferred, hroot⟩ := discover?_eq_some.mp hfound
          exact ⟨i, dir, root, hnearest, hpreferred, hroot, config, hread, rfl⟩

end Given

/-- The configuration is found in the nearest ancestor with a file, with no repository in between.
Its project root is the one for the directory as well, if that is in a repository. When the file
that was found is given, from any working directory, what is loaded is the same. -/
theorem nearest_and_given (d : Disk) :
    (∀ start file root, (discover? d start).1 = some (file, root) ↔
      ∃ i dir, Nearest d start i dir ∧ file = preferred d dir ∧ RootOf d dir root) ∧
    (∀ start file root, (discover? d start).1 = some (file, root) →
      ∀ i < searchLimit, ∀ a, start.ancestor? i = some a → isRepository d a = true →
        (projectRoot d start).1 = root) ∧
    ∀ l file, (load d none).1 = .ok l → l.file = some file → ∀ cwd,
      ∃ l', (load { d with cwd := cwd } (some file)).1 = .ok l' ∧
        l'.config = l.config ∧ l'.file = l.file ∧ l'.projectRoot.sameAs l.projectRoot = true ∧
        (d.HasProperCwd → l'.projectRoot = l.projectRoot) := by
  refine ⟨fun start file root => discover?_eq_some, ?_, ?_⟩
  · intro start file root hfound i hi a ha hrepository
    obtain ⟨n, dir, hnearest, -, hroot⟩ := discover?_eq_some.mp hfound
    obtain ⟨root', hstart⟩ : ∃ root', RootOf d start root' := ⟨_, rootOf_iff.mpr rfl⟩
    rw [rootOf_iff.mp hstart, ← rootOf_iff.mp hroot]
    obtain ⟨hfirst⟩ | ⟨hnone⟩ := hstart
    · exact (rootOf_iff.mp (hnearest.rootOf hfirst)).symm
    · cases hrepository.symm.trans (hnone i hi a ha)
  · intro l file hload hfile cwd
    obtain ⟨i, dir, root, hnearest, rfl, hroot, config, hread, rfl⟩ :=
      load_none_eq_ok hload hfile
    have hdir := Path.isAbsolute_ancestor? d.isAbsolute_cwdPath hnearest.ancestor
    obtain ⟨n, hn⟩ := hroot.exists_ancestor?
    refine ⟨⟨config, some (preferred d dir), root.tidied⟩, ?_, rfl, rfl, ?_, ?_⟩
    · rw [load, loadGiven_preferred cwd hdir hroot, hread]
      rfl
    · exact Path.sameAs_tidied (Path.isAbsolute_ancestor? hdir hn)
    · intro hproper
      have hup : d.cwdPath.ancestor? (i + n) = some root := by
        rw [Path.ancestor?_add, hnearest.ancestor, Option.bind_some, hn]
      have htidied := Path.ancestor?_tidied d.isAbsolute_cwdPath (i + n)
      rw [Disk.tidied_cwdPath hproper, hup, Option.map_some] at htidied
      exact (Option.some.inj htidied).symm

/-- A repository with a configuration file, and a directory in it to work in. -/
def nested : Disk where
  root := .dir [("r", .dir [(".git", .dir []), ("a", .dir []),
    (".snipcheck.toml", .file "language = \"c\"\n".toUTF8)])]
  cwd := ["r", "a"]

theorem nearest_and_given_nested :
    (∃ i dir, Nearest nested ⟨"/r/a"⟩ i dir ∧ ⟨"/r/.snipcheck.toml"⟩ = preferred nested dir ∧
      RootOf nested dir ⟨"/r"⟩) ∧
    (projectRoot nested ⟨"/r/a"⟩).1 = ⟨"/r"⟩ ∧
    ∃ l, (load nested none).1 = .ok l ∧ ∃ l',
      (load { nested with cwd := [] } (some ⟨"/r/.snipcheck.toml"⟩)).1 = .ok l' ∧
        l'.config = l.config ∧ l'.file = l.file ∧ l'.projectRoot = l.projectRoot := by
  obtain ⟨hnearest, hsame, hgiven⟩ := nearest_and_given nested
  have hfound : (discover? nested ⟨"/r/a"⟩).1 = some (⟨"/r/.snipcheck.toml"⟩, ⟨"/r"⟩) := by
    decide +kernel
  refine ⟨(hnearest _ _ _).mp hfound, ?_, ?_⟩
  · exact hsame _ _ _ hfound 1 (by decide) ⟨"/r"⟩ (by decide +kernel) (by decide +kernel)
  · have hfile : (load nested none).1.toOption.bind Located.file = some ⟨"/r/.snipcheck.toml"⟩ := by
      decide +kernel
    have hproper : nested.HasProperCwd := by
      unfold Disk.HasProperCwd
      decide +kernel
    cases hload : (load nested none).1 with
    | error e => rw [hload] at hfile; cases hfile
    | ok l =>
        rw [hload] at hfile
        obtain ⟨l', hl', hconfig, hpath, -, hroot⟩ := hgiven l _ hload hfile []
        exact ⟨l, rfl, l', hl', hconfig, hpath, hroot hproper⟩

end FenceCheck.Config
