import FenceCheck.Proofs.Config.RoundTrip
import FenceCheck.Proofs.Text.ByteOrder

namespace FenceCheck

/-!
# Configuration files as overlays

Each field of a configuration is what the file gives under the field's own key, and the default
without that key, so a change under one key changes no other field. All other keys are reported,
in the order of their bytes, and are otherwise as good as absent.
-/

namespace Toml.Table

theorem get?_cons (e : String × Value) (t : Table) (key : String) :
    get? (e :: t) key = if key = e.1 then some e.2 else t.get? key := by
  unfold get?
  rw [List.lookup_cons]
  by_cases hkey : key = e.1
  · simp [hkey]
  · simp [hkey, beq_false_of_ne hkey]

theorem get?_keep (t : Table) (p : String → Bool) (key : String) :
    (t.keep p).get? key = if p key then t.get? key else none := by
  induction t with
  | nil => simp [keep, get?]
  | cons e t ih =>
      rw [keep, List.filter_cons, ← keep]
      by_cases hkey : key = e.1
      · rw [get?_cons, if_pos hkey]
        subst hkey
        split
        · rw [get?_cons, if_pos rfl]
        · next hp => rw [ih, if_neg hp]
      · rw [get?_cons, if_neg hkey, ← ih]
        split
        · rw [get?_cons, if_neg hkey]
        · rfl

theorem get?_map (t : Table) (f : String → Value → Value) (key : String) :
    get? (t.map fun e => (e.1, f e.1 e.2)) key = (t.get? key).map (f key) := by
  induction t with
  | nil => rfl
  | cons e t ih =>
      rw [List.map_cons, get?_cons, get?_cons, ih]
      split
      · next hkey => rw [hkey, Option.map_some]
      · rfl

end Toml.Table

namespace Field

variable {α β : Type} {fields : List (Field α)}

theorem takeAll?_cons (f : Field α) (t : Toml.Table) (a : α) :
    takeAll? (f :: fields) t a =
      (takeFound? (fun f => t.get? f.key) a f).bind (takeAll? fields t) := rfl

theorem takeAll?_congr {t t' : Toml.Table}
    (h : ∀ f ∈ fields, ∀ a, takeFound? (fun f => t.get? f.key) a f =
      takeFound? (fun f => t'.get? f.key) a f) (a : α) :
    takeAll? fields t a = takeAll? fields t' a := by
  induction fields generalizing a with
  | nil => rfl
  | cons f fields ih =>
      have hmore : takeAll? fields t = takeAll? fields t' :=
        funext (ih fun g hg => h g (List.mem_cons_of_mem f hg))
      rw [takeAll?_cons, takeAll?_cons, h f List.mem_cons_self, hmore]

/-- Keys that no field has make no difference. -/
theorem takeAll?_keep {known : String → Bool} (h : ∀ k ∈ keys fields, known k = true)
    (t : Toml.Table) (a : α) : takeAll? fields (t.keep known) a = takeAll? fields t a := by
  apply takeAll?_congr
  intro f hf a
  have hkey := h f.key (List.mem_map_of_mem hf)
  simp only [takeFound?, Toml.Table.get?_keep, hkey, if_true]

/-- What a table gives under a key, if that can be read, and the default without that key. -/
def given? (t : Toml.Table) (key : String) (decode : Toml.Value → Option β) (default : β) :
    Option β :=
  match t.get? key with
  | none => some default
  | some v => decode v

theorem given?_unique {t t' : Toml.Table} {key : String} {decode : Toml.Value → Option β}
    {default b b' : β} (h : given? t key decode default = some b)
    (h' : given? t' key decode default = some b') (hkey : t.get? key = t'.get? key) : b = b' := by
  rw [given?, ← hkey, ← given?, h] at h'
  exact Option.some.inj h'

/-- A field that is read by a function and put in its place, in front of others. -/
theorem takeAll?_cons_eq_some_iff {t : Toml.Table} {f : Field α} {decode : Toml.Value → Option β}
    {get : α → β} {put : α → β → α} (htake : ∀ v a, f.take? v a = (decode v).map (put a))
    (hput : ∀ a, put a (get a) = a) {a c : α} :
    takeAll? (f :: fields) t a = some c ↔
      ∃ b, given? t f.key decode (get a) = some b ∧ takeAll? fields t (put a b) = some c := by
  rw [takeAll?_cons]
  simp only [takeFound?, given?]
  cases t.get? f.key with
  | none => simp [hput]
  | some v => simp [htake, Option.bind_eq_some_iff]

end Field

namespace CompilerConfig

/-- Whether each field is what a table gives under its own key, or the default. -/
structure Overlays (t : Toml.Table) (c : CompilerConfig) : Prop where
  command : Field.given? t "command" Field.text? default.command = some c.command
  args : Field.given? t "args" Field.texts? default.args = some c.args
  includePaths : Field.given? t "include-paths" Field.texts? default.includePaths =
    some c.includePaths
  includeFlag : Field.given? t "include-flag" Field.text? default.includeFlag = some c.includeFlag
  timeout : Field.given? t "timeout" Field.natural? default.timeout = some c.timeout

/-- Whether no field differs but that of one key. -/
structure SameBut (key : String) (c c' : CompilerConfig) : Prop where
  command : key ≠ "command" → c.command = c'.command
  args : key ≠ "args" → c.args = c'.args
  includePaths : key ≠ "include-paths" → c.includePaths = c'.includePaths
  includeFlag : key ≠ "include-flag" → c.includeFlag = c'.includeFlag
  timeout : key ≠ "timeout" → c.timeout = c'.timeout

variable {t t' : Toml.Table} {c c' : CompilerConfig}

theorem takeAll?_eq_some_iff : Field.takeAll? fields t default = some c ↔ Overlays t c := by
  constructor
  · intro h
    obtain ⟨command, hcommand, h⟩ :=
      (Field.takeAll?_cons_eq_some_iff (fun _ _ => rfl) fun _ => rfl).1 h
    obtain ⟨args, hargs, h⟩ := (Field.takeAll?_cons_eq_some_iff (fun _ _ => rfl) fun _ => rfl).1 h
    obtain ⟨includePaths, hincludePaths, h⟩ :=
      (Field.takeAll?_cons_eq_some_iff (fun _ _ => rfl) fun _ => rfl).1 h
    obtain ⟨includeFlag, hincludeFlag, h⟩ :=
      (Field.takeAll?_cons_eq_some_iff (fun _ _ => rfl) fun _ => rfl).1 h
    obtain ⟨timeout, htimeout, h⟩ :=
      (Field.takeAll?_cons_eq_some_iff (fun _ _ => rfl) fun _ => rfl).1 h
    obtain rfl := Option.some.inj h
    exact ⟨hcommand, hargs, hincludePaths, hincludeFlag, htimeout⟩
  · intro h
    refine (Field.takeAll?_cons_eq_some_iff (fun _ _ => rfl) fun _ => rfl).2 ⟨_, h.command, ?_⟩
    refine (Field.takeAll?_cons_eq_some_iff (fun _ _ => rfl) fun _ => rfl).2 ⟨_, h.args, ?_⟩
    refine (Field.takeAll?_cons_eq_some_iff (fun _ _ => rfl) fun _ => rfl).2
      ⟨_, h.includePaths, ?_⟩
    refine (Field.takeAll?_cons_eq_some_iff (fun _ _ => rfl) fun _ => rfl).2 ⟨_, h.includeFlag, ?_⟩
    exact (Field.takeAll?_cons_eq_some_iff (fun _ _ => rfl) fun _ => rfl).2 ⟨_, h.timeout, rfl⟩

theorem Overlays.unique (h : Overlays t c) (h' : Overlays t c') : c = c' :=
  Option.some.inj ((takeAll?_eq_some_iff.2 h).symm.trans (takeAll?_eq_some_iff.2 h'))

theorem Overlays.sameBut {key : String} (h : Overlays t c) (h' : Overlays t' c')
    (hagree : ∀ k, k ≠ key → t.get? k = t'.get? k) : SameBut key c c' where
  command hkey := Field.given?_unique h.command h'.command (hagree _ hkey.symm)
  args hkey := Field.given?_unique h.args h'.args (hagree _ hkey.symm)
  includePaths hkey := Field.given?_unique h.includePaths h'.includePaths (hagree _ hkey.symm)
  includeFlag hkey := Field.given?_unique h.includeFlag h'.includeFlag (hagree _ hkey.symm)
  timeout hkey := Field.given?_unique h.timeout h'.timeout (hagree _ hkey.symm)

/-- The keys of the group for the compiler. -/
def knownKeys : List String := ["command", "args", "include-paths", "include-flag", "timeout"]

theorem keys_fields : Field.keys fields = knownKeys := rfl

end CompilerConfig

namespace Config

/-- The keys of the file. -/
def knownKeys : List String :=
  ["language", "extension", "source-tag", "staging-dir", "rebase", "fatal-without-location",
    "compiler"]

theorem keys_fields : Field.keys fields = knownKeys := rfl

/-- Whether the group for the compiler is given as a table, if at all. -/
def Grouped (t : Toml.Table) : Prop :=
  t.get? "compiler" = none ∨ ∃ group, t.get? "compiler" = some (.table group)

/-- The table of the group for the compiler. -/
def group (t : Toml.Table) : Toml.Table :=
  match t.get? "compiler" with
  | some (.table group) => group
  | _ => []

/-- Whether each field is what a table gives under its own key, or the default. -/
structure Overlays (t : Toml.Table) (c : Config) : Prop where
  language : Field.given? t "language" Field.text? default.language = some c.language
  extension : Field.given? t "extension" Field.text? default.extension = some c.extension
  sourceTag : Field.given? t "source-tag" Field.text? default.sourceTag = some c.sourceTag
  stagingDir : Field.given? t "staging-dir" (fun v => (Field.text? v).map some)
    default.stagingDir = some c.stagingDir
  anchorMode : Field.given? t "rebase" (Field.choice? Anchor.Mode.choices) default.anchorMode =
    some c.anchorMode
  fatalPolicy : Field.given? t "fatal-without-location" (Field.choice? FatalPolicy.choices)
    default.fatalPolicy = some c.fatalPolicy
  compiler : CompilerConfig.Overlays (group t) c.compiler

/-- Whether no field differs but that of one key. -/
structure SameBut (key : String) (c c' : Config) : Prop where
  language : key ≠ "language" → c.language = c'.language
  extension : key ≠ "extension" → c.extension = c'.extension
  sourceTag : key ≠ "source-tag" → c.sourceTag = c'.sourceTag
  stagingDir : key ≠ "staging-dir" → c.stagingDir = c'.stagingDir
  anchorMode : key ≠ "rebase" → c.anchorMode = c'.anchorMode
  fatalPolicy : key ≠ "fatal-without-location" → c.fatalPolicy = c'.fatalPolicy
  compiler : key ≠ "compiler" → c.compiler = c'.compiler

variable {t t' : Toml.Table} {c c' : Config}

theorem given?_group (h : Grouped t) {g : CompilerConfig} :
    Field.given? t compilerKey (fun v => Field.takeGroup? CompilerConfig.fields v .default)
        .default = some g ↔ CompilerConfig.Overlays (group t) g := by
  have hkey : compilerKey = "compiler" := rfl
  rw [← CompilerConfig.takeAll?_eq_some_iff, Field.given?, group, hkey]
  rcases h with h | ⟨inner, h⟩
  · rw [h]
    rfl
  · rw [h]
    rfl

theorem map_stagingDir (v : Toml.Value) (c : Config) :
    ((Field.text? v).map fun s => { c with stagingDir := some s }) =
      ((Field.text? v).map some).map fun dir => { c with stagingDir := dir } := by
  rw [Option.map_map]
  rfl

theorem ofTable?_eq_some_iff (h : Grouped t) : ofTable? t = some c ↔ Overlays t c := by
  constructor
  · intro hc
    obtain ⟨language, hlanguage, hc⟩ :=
      (Field.takeAll?_cons_eq_some_iff (fun _ _ => rfl) fun _ => rfl).1 hc
    obtain ⟨extension, hextension, hc⟩ :=
      (Field.takeAll?_cons_eq_some_iff (fun _ _ => rfl) fun _ => rfl).1 hc
    obtain ⟨sourceTag, hsourceTag, hc⟩ :=
      (Field.takeAll?_cons_eq_some_iff (fun _ _ => rfl) fun _ => rfl).1 hc
    obtain ⟨stagingDir, hstagingDir, hc⟩ :=
      (Field.takeAll?_cons_eq_some_iff map_stagingDir fun _ => rfl).1 hc
    obtain ⟨anchorMode, hanchorMode, hc⟩ :=
      (Field.takeAll?_cons_eq_some_iff (fun _ _ => rfl) fun _ => rfl).1 hc
    obtain ⟨fatalPolicy, hfatalPolicy, hc⟩ :=
      (Field.takeAll?_cons_eq_some_iff (fun _ _ => rfl) fun _ => rfl).1 hc
    obtain ⟨compiler, hcompiler, hc⟩ :=
      (Field.takeAll?_cons_eq_some_iff (fun _ _ => rfl) fun _ => rfl).1 hc
    obtain rfl := Option.some.inj hc
    exact ⟨hlanguage, hextension, hsourceTag, hstagingDir, hanchorMode, hfatalPolicy,
      (given?_group h).1 hcompiler⟩
  · intro hc
    refine (Field.takeAll?_cons_eq_some_iff (fun _ _ => rfl) fun _ => rfl).2 ⟨_, hc.language, ?_⟩
    refine (Field.takeAll?_cons_eq_some_iff (fun _ _ => rfl) fun _ => rfl).2 ⟨_, hc.extension, ?_⟩
    refine (Field.takeAll?_cons_eq_some_iff (fun _ _ => rfl) fun _ => rfl).2 ⟨_, hc.sourceTag, ?_⟩
    refine (Field.takeAll?_cons_eq_some_iff map_stagingDir fun _ => rfl).2 ⟨_, hc.stagingDir, ?_⟩
    refine (Field.takeAll?_cons_eq_some_iff (fun _ _ => rfl) fun _ => rfl).2 ⟨_, hc.anchorMode, ?_⟩
    refine (Field.takeAll?_cons_eq_some_iff (fun _ _ => rfl) fun _ => rfl).2
      ⟨_, hc.fatalPolicy, ?_⟩
    exact (Field.takeAll?_cons_eq_some_iff (fun _ _ => rfl) fun _ => rfl).2
      ⟨_, (given?_group h).2 hc.compiler, rfl⟩

theorem Overlays.sameBut {key : String} (h : Overlays t c) (h' : Overlays t' c')
    (hagree : ∀ k, k ≠ key → t.get? k = t'.get? k) : SameBut key c c' where
  language hkey := Field.given?_unique h.language h'.language (hagree _ hkey.symm)
  extension hkey := Field.given?_unique h.extension h'.extension (hagree _ hkey.symm)
  sourceTag hkey := Field.given?_unique h.sourceTag h'.sourceTag (hagree _ hkey.symm)
  stagingDir hkey := Field.given?_unique h.stagingDir h'.stagingDir (hagree _ hkey.symm)
  anchorMode hkey := Field.given?_unique h.anchorMode h'.anchorMode (hagree _ hkey.symm)
  fatalPolicy hkey := Field.given?_unique h.fatalPolicy h'.fatalPolicy (hagree _ hkey.symm)
  compiler hkey := by
    have hgroup : group t = group t' := by
      rw [group, hagree _ hkey.symm, ← group]
    exact h.compiler.unique (hgroup ▸ h'.compiler)

/-- The group for the compiler without the keys that no field has. -/
def prunedGroup : Toml.Value → Toml.Value
  | .table group => .table (Toml.Table.keep group fun k => k ∈ CompilerConfig.knownKeys)
  | v => v

/-- A table without the keys that no field has. -/
def pruned (t : Toml.Table) : Toml.Table :=
  (t.keep fun k => k ∈ knownKeys).map fun e =>
    (e.1, if e.1 = "compiler" then prunedGroup e.2 else e.2)

theorem get?_pruned (t : Toml.Table) {key : String} (hkey : key ∈ knownKeys) :
    (pruned t).get? key =
      (t.get? key).map fun v => if key = "compiler" then prunedGroup v else v := by
  have hmap := Toml.Table.get?_map (t.keep fun k => k ∈ knownKeys)
    (fun k v => if k = "compiler" then prunedGroup v else v) key
  rw [pruned, hmap, Toml.Table.get?_keep, if_pos (decide_eq_true hkey)]

theorem takeGroup?_prunedGroup (v : Toml.Value) (g : CompilerConfig) :
    Field.takeGroup? CompilerConfig.fields (prunedGroup v) g =
      Field.takeGroup? CompilerConfig.fields v g := by
  cases v with
  | table group =>
      have hknown : ∀ k ∈ Field.keys CompilerConfig.fields,
          decide (k ∈ CompilerConfig.knownKeys) = true := fun k hk => decide_eq_true hk
      exact Field.takeAll?_keep hknown group g
  | _ => rfl

theorem take?_compiler : ∀ f ∈ fields, f.key = "compiler" →
    f.take? = fun v c => (Field.takeGroup? CompilerConfig.fields v .default).map fun g =>
      { c with compiler := g } := by
  simp [fields, compilerKey]

/-- Keys that no field has make no difference. -/
theorem ofTable?_pruned (t : Toml.Table) : ofTable? (pruned t) = ofTable? t := by
  apply Field.takeAll?_congr
  intro f hf c
  have hkey : f.key ∈ knownKeys := List.mem_map_of_mem hf
  simp only [Field.takeFound?, get?_pruned t hkey]
  cases t.get? f.key with
  | none => rfl
  | some v =>
      rw [Option.map_some]
      by_cases hcompiler : f.key = "compiler"
      · simp only [if_pos hcompiler, take?_compiler f hf hcompiler, takeGroup?_prunedGroup]
      · simp only [if_neg hcompiler]

/-- The keys of a table that are not known, in order. -/
def unknownIn (known : List String) (t : Toml.Table) : List String :=
  (t.keys.filter fun k => !known.contains k).mergeSort fun a b => decide (a ≤ b)

/-- Whether some keys are those of a table that are not known, in the order of their bytes. -/
structure Unknown (known : List String) (t : Toml.Table) (ks : List String) : Prop where
  perm : ks.Perm (t.keys.filter fun k => k ∉ known)
  sorted : ks.Pairwise fun a b => a.toUTF8.data.toList ≤ b.toUTF8.data.toList

theorem unknown_unknownIn (known : List String) (t : Toml.Table) :
    Unknown known t (unknownIn known t) where
  perm := by
    have hfilter : (t.keys.filter fun k => !known.contains k) =
        t.keys.filter fun k => k ∉ known := by
      apply List.filter_congr
      intro k _
      simp
    rw [← hfilter]
    exact List.mergeSort_perm _ _
  sorted := by
    have hsorted : (unknownIn known t).Pairwise fun a b => decide (a ≤ b) = true :=
      List.pairwise_mergeSort (fun a b c => by simpa using String.le_trans)
        (fun a b => by simpa using String.le_total a b) _
    exact hsorted.imp fun h => Text.bytes_le_of_le (of_decide_eq_true h)

theorem unknownIn_eq_nil {known : List String} {t : Toml.Table} (h : ∀ k ∈ t.keys, k ∈ known) :
    unknownIn known t = [] := by
  rw [unknownIn, filter_contains_eq_nil h, List.mergeSort_nil]

theorem unknownKeys_eq (t : Toml.Table) : unknownKeys t =
    unknownIn knownKeys t ++
      (unknownIn CompilerConfig.knownKeys (group t)).map ("compiler." ++ ·) := by
  have hkey : compilerKey = "compiler" := rfl
  have hnone : (unknownIn CompilerConfig.knownKeys []).map ("compiler." ++ ·) = [] := by
    rw [unknownIn_eq_nil fun _ hk => absurd hk List.not_mem_nil, List.map_nil]
  rw [unknownKeys, group, hkey]
  rcases t.get? "compiler" with _ | v
  · exact congrArg (unknownIn knownKeys t ++ ·) hnone.symm
  · cases v with
    | table inner => rfl
    | _ => exact congrArg (unknownIn knownKeys t ++ ·) hnone.symm

theorem mem_of_mem_keys_keep {t : Toml.Table} {known : List String} {k : String}
    (h : k ∈ (t.keep fun k => k ∈ known).keys) : k ∈ known := by
  obtain ⟨e, he, rfl⟩ := List.mem_map.1 h
  exact of_decide_eq_true (List.mem_filter.1 he).2

theorem keys_pruned (t : Toml.Table) : (pruned t).keys = (t.keep fun k => k ∈ knownKeys).keys := by
  simp [pruned, Toml.Table.keys, Function.comp_def]

theorem group_pruned (t : Toml.Table) :
    group (pruned t) = (group t).keep fun k => k ∈ CompilerConfig.knownKeys := by
  rw [group, get?_pruned t (by decide), group]
  rcases t.get? "compiler" with _ | v
  · rfl
  · cases v with
    | table inner => rfl
    | _ => rfl

theorem unknownKeys_pruned (t : Toml.Table) : unknownKeys (pruned t) = [] := by
  have htop : unknownIn knownKeys (pruned t) = [] := by
    apply unknownIn_eq_nil
    rw [keys_pruned]
    exact fun k => mem_of_mem_keys_keep
  have hinner : unknownIn CompilerConfig.knownKeys (group (pruned t)) = [] := by
    apply unknownIn_eq_nil
    rw [group_pruned]
    exact fun k => mem_of_mem_keys_keep
  rw [unknownKeys_eq, htop, hinner, List.map_nil, List.append_nil]

/-- What is logged of a key that no field has. -/
def keyWarning (path : Path) (key : String) : Log.Record :=
  Log.warn .config s!"[snipcheck-config] Unknown key \x27{key}\x27 in {path.text}"

/-- Whether there is a file with the text of a table. -/
def FileHolds (d : Disk) (path : Path) (t : Toml.Table) : Prop :=
  ∃ text, d.readText path = .ok text ∧ Toml.read? text = some t

theorem fileHolds_sheet {d : Disk} {path : Path} {sheet : Toml.Sheet} (h : sheet.WellFormed)
    (hread : d.read path = .ok ("#\n" ++ sheet.print ++ "\n").toUTF8) :
    FileHolds d path sheet.table := by
  have hcomment : ∀ c ∈ "".toList, Toml.Quotation.isPlain c = true := by simp
  have hprint := h.read?_print hcomment
  have hmark : "#" ++ "" ++ "\n" = "#\n" := by decide
  rw [hmark] at hprint
  exact ⟨_, Disk.readText_of_read hread, hprint⟩

theorem ofFile_eq {d : Disk} {path : Path} (hfile : FileHolds d path t) :
    ofFile d path = (match ofTable? t with
      | some config => .ok config
      | none => .error (.malformed path), (unknownKeys t).map (keyWarning path)) := by
  obtain ⟨text, htext, htable⟩ := hfile
  rw [ofFile, htext]
  simp only [htable]
  rfl

theorem ofFile_eq_ok_iff {d : Disk} {path : Path} (h : Grouped t) (hfile : FileHolds d path t) :
    (ofFile d path).1 = .ok c ↔ Overlays t c := by
  rw [← ofTable?_eq_some_iff h, ofFile_eq hfile]
  cases ofTable? t <;> simp

/-- A misspelt key and one that the compiler's group does not have, with values of other kinds. -/
def misspelt : Toml.Sheet :=
  ⟨[("langauge", .number 1), ("extension", .text "h")],
    [("compiler", [("flags", .texts []), ("timeout", .number 5)])]⟩

/-- The same without those keys. -/
def respelt : Toml.Sheet :=
  ⟨[("extension", .text "h")], [("compiler", [("timeout", .number 5)])]⟩

def settingsFile : Path := ⟨"/s.toml"⟩

/-- A disk with one file of settings. -/
def settingsDisk (text : String) : Disk :=
  ⟨.dir [("s.toml", .file text.toUTF8)], []⟩

theorem read_settingsDisk (text : String) :
    (settingsDisk text).read settingsFile = .ok text.toUTF8 := rfl

end Config

end FenceCheck
