import FenceCheck.Discovery
import FenceCheck.Proofs.Discovery.Walk
import FenceCheck.Proofs.Path.Order

namespace FenceCheck.Discovery

/-!
# The documents of a list

What counts for a list depends on the set of its paths only, and the documents in strict order are
determined by what counts. So neither the order of the list nor its repetitions have a say, and two
lists together have the documents of both. A file that is reported already counts already, and a
dot in front of a path is not part of what it means.
-/

variable {d : Disk} {respectful : Bool} {paths ps qs : List Path} {p q : Path}

def IsDirectory (d : Disk) (p : Path) : Prop :=
  ∃ entries, d.node? p = .ok (.dir entries)

/-- The first path of a list that leads nowhere. -/
def FirstMissing (d : Disk) (paths : List Path) (p : Path) : Prop :=
  ∃ before after, paths = before ++ p :: after ∧ (∀ q ∈ before, d.pathExists q = true) ∧
    d.pathExists p = false

/-- What counts for a list: the files on it and what is reported from the directories on it. -/
inductive Counts (d : Disk) (respectful : Bool) (paths : List Path) : Path → Prop
  | listed {p : Path} (hp : p ∈ paths) (hfile : d.isFile p = true) : Counts d respectful paths p
  | walked {start p : Path} (hstart : start ∈ paths) (hdir : IsDirectory d start)
      (hp : p ∈ (Walk.files d respectful start).1) : Counts d respectful paths p
  | here {p : Path} (hempty : paths = [])
      (hp : p ∈ (Walk.files d respectful defaultStart).1) : Counts d respectful paths p

/-- The paths that count, in strict order and without a dot in front. -/
structure IsUnion (d : Disk) (respectful : Bool) (paths files : List Path) : Prop where
  ascending : Path.Ascending files
  distinct : (files.map Path.components).Nodup
  spelled : ∀ f ∈ files, ∃ p, Counts d respectful paths p ∧ f = p.clean
  bare : ∀ f ∈ files, ¬['.', '/'] <+: f.text.toList
  means : ∀ c, c ∈ files.map Path.components ↔
    ∃ p, Counts d respectful paths p ∧ p.components.filter (· != .here) = c

/-- The same error, or the same paths by their components. -/
inductive Agree : Except DiscoveryError (List Path) → Except DiscoveryError (List Path) → Prop
  | failed (e : DiscoveryError) : Agree (.error e) (.error e)
  | found {fs gs : List Path} (h : fs.map Path.components = gs.map Path.components) :
      Agree (.ok fs) (.ok gs)

/-! ## What counts -/

theorem isDirectory_of_mem_files {start : Path} (hfile : d.isFile start = false)
    (hp : p ∈ (Walk.files d respectful start).1) : IsDirectory d start := by
  obtain ⟨place, n, hplace, hat, -⟩ := Walk.mem_files_iff.mp hp
  have hnode := Disk.node?_of_resolve hplace hat
  cases n with
  | file bytes => simp [Disk.isFile, hnode] at hfile
  | dir entries => exact ⟨entries, hnode⟩

theorem IsDirectory.isFile (h : IsDirectory d p) : d.isFile p = false := by
  obtain ⟨entries, hnode⟩ := h
  simp [Disk.isFile, hnode]

theorem pathExists_of_isFile (h : d.isFile p = true) : d.pathExists p = true := by
  unfold Disk.isFile at h
  unfold Disk.pathExists
  cases hnode : d.node? p with
  | error e => simp [hnode] at h
  | ok n => rfl

theorem mem_gathered_iff :
    q ∈ gathered d respectful paths ↔ ∃ p, Counts d respectful paths p ∧ p.clean = q := by
  simp only [gathered, List.mem_map, List.mem_append, List.mem_filter, List.mem_flatMap, starts]
  refine exists_congr fun p => and_congr_left fun _ => ?_
  constructor
  · rintro (⟨hp, hfile⟩ | ⟨start, hstart, hp⟩)
    · exact .listed hp hfile
    · split at hstart
      · next hempty =>
          rw [List.mem_singleton.mp hstart] at hp
          exact .here (List.isEmpty_iff.mp hempty) hp
      · obtain ⟨hstart, hfile⟩ := List.mem_filter.mp hstart
        exact .walked hstart (isDirectory_of_mem_files (by simpa using hfile) hp) hp
  · rintro (⟨hp, hfile⟩ | ⟨hstart, hdir, hp⟩ | ⟨rfl, hp⟩)
    · exact .inl ⟨hp, hfile⟩
    · have hnonempty : paths.isEmpty = false := by
        simpa using List.ne_nil_of_mem hstart
      refine .inr ⟨_, ?_, hp⟩
      rw [hnonempty, if_neg Bool.false_ne_true]
      exact List.mem_filter.mpr ⟨hstart, by simp [hdir.isFile]⟩
    · exact .inr ⟨defaultStart, List.mem_singleton_self _, hp⟩

theorem mem_insert (before after : List Path) (h : q ∈ before ++ after) :
    q ∈ before ++ p :: after :=
  List.perm_middle.mem_iff.mpr (List.mem_cons_of_mem p h)

theorem Counts.of_subset (h : Counts d respectful ps p) (hempty : ps = [] → qs = [])
    (hsub : ∀ q ∈ ps, q ∈ qs) : Counts d respectful qs p := by
  cases h with
  | listed hp hfile => exact .listed (hsub _ hp) hfile
  | walked hstart hdir hp => exact .walked (hsub _ hstart) hdir hp
  | here hnone hp => exact .here (hempty hnone) hp

theorem Counts.of_insert {before after : List Path}
    (h : Counts d respectful (before ++ p :: after) q) (hfile : d.isFile p = true)
    (hsub : ∀ s ∈ before ++ after, s ∈ qs) : q = p ∨ Counts d respectful qs q := by
  have hrest : ∀ s ∈ before ++ p :: after, s = p ∨ s ∈ qs := by
    intro s hs
    obtain rfl | hs := List.mem_cons.mp (List.perm_middle.mem_iff.mp hs)
    · exact .inl rfl
    · exact .inr (hsub s hs)
  -- as it is a file, no walk starts from it
  cases h with
  | listed hq hqfile => exact (hrest q hq).imp_right (.listed · hqfile)
  | walked hstart hdir hq =>
      obtain rfl | hstart := hrest _ hstart
      · rw [hdir.isFile] at hfile
        cases hfile
      · exact .inr (.walked hstart hdir hq)
  | here hempty hq => simp at hempty

theorem counts_append_iff (hps : ps ≠ []) (hqs : qs ≠ []) :
    Counts d respectful (ps ++ qs) p ↔ Counts d respectful ps p ∨ Counts d respectful qs p := by
  constructor
  · rintro (⟨hp, hfile⟩ | ⟨hstart, hdir, hp⟩ | ⟨hempty, hp⟩)
    · exact (List.mem_append.mp hp).imp (.listed · hfile) (.listed · hfile)
    · exact (List.mem_append.mp hstart).imp (.walked · hdir hp) (.walked · hdir hp)
    · exact absurd (List.append_eq_nil_iff.mp hempty).1 hps
  -- alone, an empty list would count as the default start, so neither list may be empty
  · rintro (h | h)
    · exact h.of_subset (absurd · hps) fun _ => List.mem_append_left qs
    · exact h.of_subset (absurd · hqs) fun _ => List.mem_append_right ps

/-! ## The documents -/

/-- The first path on the list that leads nowhere, if there is one. -/
def missing? (d : Disk) (paths : List Path) : Option Path :=
  paths.find? fun p => !d.pathExists p

theorem missing?_eq_none_iff : missing? d paths = none ↔ ∀ p ∈ paths, d.pathExists p = true := by
  simp [missing?]

theorem missing?_eq_some_iff : missing? d paths = some p ↔ FirstMissing d paths p := by
  rw [missing?, List.find?_eq_some_iff_append]
  constructor
  · rintro ⟨hp, before, after, hpaths, hbefore⟩
    exact ⟨before, after, hpaths, by simpa using hbefore, by simpa using hp⟩
  · rintro ⟨before, after, hpaths, hbefore, hp⟩
    exact ⟨by simpa using hp, before, after, hpaths, by simpa using hbefore⟩

theorem missing?_insert (before after : List Path) (hp : d.pathExists p = true) :
    missing? d (before ++ p :: after) = missing? d (before ++ after) := by
  rw [missing?, missing?, List.find?_append, List.find?_append,
    List.find?_cons_of_neg (by simp [hp])]

theorem documents_of_missing (h : missing? d paths = some p) :
    (documents d respectful paths).1 = .error (.notFound p) := by
  rw [missing?] at h
  rw [documents, h]

theorem documents_of_none_missing (h : missing? d paths = none) :
    (documents d respectful paths).1 = .ok (Path.sortedSet (gathered d respectful paths)) := by
  rw [missing?] at h
  rw [documents, h]

theorem mem_components_documents_iff {c : List Component} :
    c ∈ (Path.sortedSet (gathered d respectful paths)).map Path.components ↔
      ∃ p, Counts d respectful paths p ∧ p.clean.components = c := by
  rw [Path.mem_map_components_sortedSet, List.mem_map]
  simp only [mem_gathered_iff, exists_exists_and_eq_and]

theorem isUnion_sortedSet (d : Disk) (respectful : Bool) (paths : List Path) :
    IsUnion d respectful paths (Path.sortedSet (gathered d respectful paths)) where
  ascending := Path.ascending_sortedSet _
  distinct := (Path.ascending_sortedSet _).nodup_components
  spelled := by
    intro f hf
    obtain ⟨p, hp, rfl⟩ := mem_gathered_iff.mp (Path.mem_of_mem_sortedSet hf)
    exact ⟨p, hp, rfl⟩
  bare := by
    intro f hf
    obtain ⟨p, -, rfl⟩ := mem_gathered_iff.mp (Path.mem_of_mem_sortedSet hf)
    exact p.not_dotSlash_prefix_clean
  means := by
    intro c
    simp only [mem_components_documents_iff, Path.components_clean]

/-- What counts for one list counts for the other, by components. -/
def Covers (d : Disk) (respectful : Bool) (ps qs : List Path) : Prop :=
  ∀ p, Counts d respectful ps p →
    ∃ q, Counts d respectful qs q ∧ q.clean.components = p.clean.components

theorem Covers.of_subset (hempty : ps = [] → qs = []) (hsub : ∀ p ∈ ps, p ∈ qs) :
    Covers d respectful ps qs :=
  fun p hp => ⟨p, hp.of_subset hempty hsub, rfl⟩

theorem agree_of_covers (hmissing : missing? d ps = missing? d qs)
    (hps : Covers d respectful ps qs) (hqs : Covers d respectful qs ps) :
    Agree (documents d respectful ps).1 (documents d respectful qs).1 := by
  cases hfound : missing? d qs with
  | some p =>
      rw [documents_of_missing (hmissing.trans hfound), documents_of_missing hfound]
      exact .failed _
  | none =>
      rw [documents_of_none_missing (hmissing.trans hfound), documents_of_none_missing hfound]
      refine .found ((Path.ascending_sortedSet _).map_components_eq (Path.ascending_sortedSet _) ?_)
      intro c
      rw [mem_components_documents_iff, mem_components_documents_iff]
      constructor
      · rintro ⟨p, hp, rfl⟩
        obtain ⟨q, hq, hsame⟩ := hps p hp
        exact ⟨q, hq, hsame⟩
      · rintro ⟨q, hq, rfl⟩
        obtain ⟨p, hp, hsame⟩ := hqs q hq
        exact ⟨p, hp, hsame⟩

theorem agree_of_mem_iff (hps : ∀ p ∈ ps, d.pathExists p = true) (h : ∀ p, p ∈ ps ↔ p ∈ qs) :
    Agree (documents d respectful ps).1 (documents d respectful qs).1 := by
  have hqs : ∀ q ∈ qs, d.pathExists q = true := fun q hq => hps q ((h q).mpr hq)
  have hempty : ps = [] ↔ qs = [] := by
    simp only [List.eq_nil_iff_forall_not_mem, h]
  refine agree_of_covers ?_ (.of_subset hempty.mp fun p => (h p).mp)
    (.of_subset hempty.mpr fun p => (h p).mpr)
  rw [missing?_eq_none_iff.mpr hps, missing?_eq_none_iff.mpr hqs]

theorem agree_insert {before after : List Path} {start : Path} (hstart : start ∈ before ++ after)
    (hdir : IsDirectory d start) (hp : p ∈ (Walk.files d respectful start).1)
    (hfile : d.isFile p = true) :
    Agree (documents d respectful (before ++ after)).1
      (documents d respectful (before ++ p :: after)).1 := by
  refine agree_of_covers (missing?_insert before after (pathExists_of_isFile hfile)).symm
    (.of_subset (absurd · (List.ne_nil_of_mem hstart)) fun q => mem_insert before after) ?_
  intro q hq
  obtain rfl | hq := hq.of_insert hfile fun _ => id
  · exact ⟨q, .walked hstart hdir hp, rfl⟩
  · exact ⟨q, hq, rfl⟩

/-- One file may stand in place of another that means the same once it is clean. -/
theorem covers_replace {before after : List Path} (hp : d.isFile p = true)
    (hq : d.isFile q = true) (hsame : q.clean.components = p.clean.components) :
    Covers d respectful (before ++ p :: after) (before ++ q :: after) := by
  intro s hs
  obtain rfl | hs := hs.of_insert hp fun t => mem_insert before after
  · exact ⟨q, .listed (by simp) hq, hsame⟩
  · exact ⟨s, hs, rfl⟩

theorem agree_dotted (before after : List Path) (hrelative : p.isAbsolute = false)
    (hfile : d.isFile p = true) :
    Agree (documents d respectful (before ++ p :: after)).1
      (documents d respectful (before ++ p.dotted :: after)).1 := by
  have hdotted := Disk.isFile_dotted hrelative hfile
  have hsame := Path.components_clean_dotted hrelative
  refine agree_of_covers ?_ (covers_replace hfile hdotted hsame)
    (covers_replace hdotted hfile hsame.symm)
  rw [missing?_insert before after (pathExists_of_isFile hfile),
    missing?_insert before after (pathExists_of_isFile hdotted)]

theorem documents_append (hps : ps ≠ []) (hqs : qs ≠ [])
    (h : ∀ p ∈ ps ++ qs, d.pathExists p = true) :
    ∃ fs gs files, (documents d respectful ps).1 = .ok fs ∧
      (documents d respectful qs).1 = .ok gs ∧
      (documents d respectful (ps ++ qs)).1 = .ok files ∧ Path.Ascending files ∧
      ∀ c, c ∈ files.map Path.components ↔
        c ∈ fs.map Path.components ∨ c ∈ gs.map Path.components := by
  have hleft := missing?_eq_none_iff.mpr fun p hp => h p (List.mem_append_left qs hp)
  have hright := missing?_eq_none_iff.mpr fun q hq => h q (List.mem_append_right ps hq)
  refine ⟨_, _, _, documents_of_none_missing hleft, documents_of_none_missing hright,
    documents_of_none_missing (missing?_eq_none_iff.mpr h), Path.ascending_sortedSet _, ?_⟩
  intro c
  simp only [mem_components_documents_iff, counts_append_iff hps hqs, or_and_right, exists_or]

/-- The first path that leads nowhere is reported. If there is none, the documents are what counts,
in strict order. So it does not matter in which order and how often a path is listed, whether a
file is listed that a listed directory reports, or whether a file is listed with a dot and a slash
in front, and two lists together have the documents of both. -/
theorem documents_sorted_union (d : Disk) (respectful : Bool) :
    (∀ paths, (∃ p ∈ paths, d.pathExists p = false) →
      ∃ p, FirstMissing d paths p ∧ (documents d respectful paths).1 = .error (.notFound p)) ∧
    (∀ paths, (∀ p ∈ paths, d.pathExists p = true) →
      ∃ files, (documents d respectful paths).1 = .ok files ∧
        IsUnion d respectful paths files) ∧
    (∀ ps qs, (∀ p ∈ ps, d.pathExists p = true) → (∀ p, p ∈ ps ↔ p ∈ qs) →
      Agree (documents d respectful ps).1 (documents d respectful qs).1) ∧
    (∀ before after start p, start ∈ before ++ after → IsDirectory d start →
      p ∈ (Walk.files d respectful start).1 → d.isFile p = true →
      Agree (documents d respectful (before ++ after)).1
        (documents d respectful (before ++ p :: after)).1) ∧
    (d.root.Proper → ∀ start, ∀ p ∈ (Walk.files d respectful start).1, d.isFile p = true) ∧
    (∀ before after p, p.isAbsolute = false → d.isFile p = true →
      Agree (documents d respectful (before ++ p :: after)).1
        (documents d respectful (before ++ p.dotted :: after)).1) ∧
    (∀ ps qs, ps ≠ [] → qs ≠ [] → (∀ p ∈ ps ++ qs, d.pathExists p = true) →
      ∃ fs gs files, (documents d respectful ps).1 = .ok fs ∧
        (documents d respectful qs).1 = .ok gs ∧
        (documents d respectful (ps ++ qs)).1 = .ok files ∧ Path.Ascending files ∧
        ∀ c, c ∈ files.map Path.components ↔
          c ∈ fs.map Path.components ∨ c ∈ gs.map Path.components) := by
  refine ⟨?missing, ?found, ?reordered, ?reported, ?files, ?dotted, ?append⟩
  case missing =>
    rintro paths ⟨p, hp, hmissing⟩
    have hsome : missing? d paths ≠ none := by
      intro hnone
      rw [missing?_eq_none_iff.mp hnone p hp] at hmissing
      cases hmissing
    obtain ⟨q, hq⟩ := Option.ne_none_iff_exists'.mp hsome
    exact ⟨q, missing?_eq_some_iff.mp hq, documents_of_missing hq⟩
  case found =>
    intro paths hpaths
    exact ⟨_, documents_of_none_missing (missing?_eq_none_iff.mpr hpaths),
      isUnion_sortedSet d respectful paths⟩
  case reordered => exact fun ps qs => agree_of_mem_iff
  case reported => exact fun before after start p => agree_insert
  case files => exact fun hroot start p => Walk.isFile_of_mem_files hroot
  case dotted => exact fun before after p => agree_dotted before after
  case append => exact fun ps qs => documents_append

/-- A directory with two documents, one of them in a directory of its own, and with notes that are
ignored. -/
def handbook : Disk where
  root := .dir [("w", .dir [("a.md", .file ⟨#[]⟩), ("notes.txt", .file ⟨#[]⟩),
    (".snipcheckignore", .file "notes.txt\n".toUTF8), ("docs", .dir [("b.md", .file ⟨#[]⟩)])])]
  cwd := ["w"]

theorem proper_handbook : handbook.root.Proper := by
  have hfile := Node.Proper.file
  have hdocs : (Node.dir [("b.md", .file ⟨#[]⟩)]).Proper :=
    .dir (by decide +kernel) (by decide +kernel) (by simp [hfile])
  refine .dir (by decide +kernel) (by decide +kernel) ?_
  simp only [List.forall_mem_singleton]
  refine .dir (by decide +kernel) (by decide +kernel) ?_
  simp [hfile, hdocs]

theorem documents_sorted_union_handbook :
    (∃ p, FirstMissing handbook [⟨"a.md"⟩, ⟨"c.md"⟩, ⟨"d.md"⟩] p ∧
      (documents handbook true [⟨"a.md"⟩, ⟨"c.md"⟩, ⟨"d.md"⟩]).1 = .error (.notFound p)) ∧
    (∃ files, (documents handbook true [⟨"notes.txt"⟩, ⟨"."⟩]).1 = .ok files ∧
      IsUnion handbook true [⟨"notes.txt"⟩, ⟨"."⟩] files) ∧
    Agree (documents handbook true [⟨"notes.txt"⟩, ⟨"docs"⟩]).1
      (documents handbook true [⟨"docs"⟩, ⟨"notes.txt"⟩, ⟨"docs"⟩]).1 ∧
    Agree (documents handbook true [⟨"docs"⟩]).1
      (documents handbook true [⟨"docs/b.md"⟩, ⟨"docs"⟩]).1 ∧
    handbook.isFile ⟨"docs/b.md"⟩ = true ∧
    Agree (documents handbook true [⟨"notes.txt"⟩, ⟨"docs"⟩]).1
      (documents handbook true [⟨"./notes.txt"⟩, ⟨"docs"⟩]).1 ∧
    (∃ fs gs files, (documents handbook true [⟨"docs"⟩]).1 = .ok fs ∧
      (documents handbook true [⟨"a.md"⟩]).1 = .ok gs ∧
      (documents handbook true [⟨"docs"⟩, ⟨"a.md"⟩]).1 = .ok files ∧ Path.Ascending files ∧
      ∀ c, c ∈ files.map Path.components ↔
        c ∈ fs.map Path.components ∨ c ∈ gs.map Path.components) := by
  obtain ⟨missing, found, reordered, reported, files, dotted, append⟩ :=
    documents_sorted_union handbook true
  have hwalk : ⟨"docs/b.md"⟩ ∈ (Walk.files handbook true ⟨"docs"⟩).1 := by decide +kernel
  refine ⟨missing _ (by decide +kernel), found _ (by decide +kernel), ?_, ?_, ?_, ?_, ?_⟩
  · exact reordered _ _ (by decide +kernel) (by simp)
  · exact reported [] [⟨"docs"⟩] ⟨"docs"⟩ ⟨"docs/b.md"⟩ (by simp) ⟨_, rfl⟩ hwalk (by decide +kernel)
  · exact files proper_handbook _ _ hwalk
  · exact dotted [] [⟨"docs"⟩] ⟨"notes.txt"⟩ (by decide +kernel) (by decide +kernel)
  · exact append [⟨"docs"⟩] [⟨"a.md"⟩] (by simp) (by simp) (by decide +kernel)

end FenceCheck.Discovery
