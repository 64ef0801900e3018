import FenceCheck.Cli
import FenceCheck.Proofs.Text.Utf8
import FenceCheck.Proofs.Toml.Sheet

namespace FenceCheck

/-!
# Printed configurations load as themselves

Each field takes back the setting that it shows, and only keys of fields are shown, so the
table of a printed configuration gives the same configuration and has no key that is not
known. A file with the printed text loads as the configuration without a remark.
-/

/-- What was written as a text is read as that text. -/
theorem Disk.readText_of_read {d : Disk} {path : Path} {text : String}
    (h : d.read path = .ok text.toUTF8) : d.readText path = .ok text := by
  rw [Disk.readText, h]
  simp only [bind, Except.bind, Text.decode?_toUTF8]
  rfl

namespace Field

variable {α : Type} {fields : List (Field α)} {a : α}

/-- The shown settings as a table. -/
def table (fields : List (Field α)) (a : α) : Toml.Table :=
  (showAll fields a).map fun e => (e.1, e.2.value)

theorem map_fst_showAll_sublist (fields : List (Field α)) (a : α) :
    ((showAll fields a).map Prod.fst).Sublist (keys fields) := by
  induction fields with
  | nil => exact .slnil
  | cons f fields ih =>
      cases h : f.show? a with
      | none => simpa [showAll, keys, h] using ih.cons f.key
      | some s => simpa [showAll, keys, h] using ih.cons_cons f.key

theorem keys_table_sublist (fields : List (Field α)) (a : α) :
    (table fields a).keys.Sublist (keys fields) := by
  simpa [table, Toml.Table.keys, Function.comp_def] using map_fst_showAll_sublist fields a

theorem listed_showAll (hbare : ∀ k ∈ keys fields, Toml.Bare k) (hnodup : (keys fields).Nodup)
    (hfits : ∀ f ∈ fields, ∀ s, f.show? a = some s → s.Fits) :
    Toml.Reader.Listed (showAll fields a) where
  bare e he := hbare e.1 ((map_fst_showAll_sublist fields a).subset (List.mem_map_of_mem he))
  fits e he := by
    obtain ⟨f, hf, hshow⟩ := List.mem_filterMap.1 he
    obtain ⟨s, hs, rfl⟩ := Option.map_eq_some_iff.1 hshow
    exact hfits f hf s hs
  nodup := hnodup.sublist (map_fst_showAll_sublist fields a)

theorem lookup_table (hnodup : (keys fields).Nodup) {f : Field α} (hf : f ∈ fields) :
    (table fields a).lookup f.key = (f.show? a).map Toml.Setting.value := by
  have hcons : ∀ (g : Field α) (gs : List (Field α)), table (g :: gs) a =
      ((g.show? a).map fun s => (g.key, s.value)).toList ++ table gs a := by
    intro g gs
    cases h : g.show? a <;> simp [table, showAll, h]
  induction fields with
  | nil => cases hf
  | cons g fields ih =>
      obtain ⟨hfresh, hrest⟩ := List.nodup_cons.1 hnodup
      rw [hcons, List.lookup_append]
      rcases List.mem_cons.1 hf with rfl | hf
      · have hnone : (table fields a).lookup f.key = none := by
          apply List.lookup_eq_none_iff.2
          intro e he
          have hmem : e.1 ∈ keys fields :=
            (keys_table_sublist fields a).subset (List.mem_map_of_mem he)
          apply bne_iff_ne.2
          intro h
          rw [h] at hfresh
          exact hfresh hmem
        cases f.show? a <;> simp [hnone]
      · have hne : f.key ≠ g.key := by
          intro h
          rw [← h] at hfresh
          exact hfresh (List.mem_map_of_mem hf)
        rw [ih hrest hf]
        cases g.show? a <;> simp [List.lookup_cons, beq_false_of_ne hne]

/-- What a field makes of the value that it finds, if it finds one. -/
def takeFound? (found : Field α → Option Toml.Value) (b : α) (f : Field α) : Option α :=
  match found f with
  | none => some b
  | some v => f.take? v b

theorem takeAll?_eq_foldlM {t : Toml.Table} {found : Field α → Option Toml.Value}
    (h : ∀ f ∈ fields, t.get? f.key = found f) (b : α) :
    takeAll? fields t b = fields.foldlM (takeFound? found) b := by
  induction fields generalizing b with
  | nil => rfl
  | cons f fields ih =>
      have hrest : takeAll? fields t = fun b => fields.foldlM (takeFound? found) b :=
        funext (ih fun g hg => h g (List.mem_cons_of_mem f hg))
      have hcons : takeAll? (f :: fields) t b =
          (takeFound? found b f).bind (takeAll? fields t) := by
        rw [takeFound?, ← h f List.mem_cons_self]
        rfl
      rw [hcons, hrest]
      rfl

theorem texts?_strings (ss : List String) : texts? (.array (ss.map .string)) = some ss := by
  rw [texts?]
  induction ss with
  | nil => rfl
  | cons s ss ih => simp [text?, ih]

theorem natural?_integer (n : Nat) : natural? (.integer n) = some n := by
  simp [natural?]

end Field

theorem Anchor.Mode.choice?_name (m : Anchor.Mode) :
    Field.choice? choices (.string m.name) = some m := by
  cases m <;> rfl

theorem FatalPolicy.choice?_name (p : FatalPolicy) :
    Field.choice? choices (.string p.name) = some p := by
  cases p <;> rfl

namespace CompilerConfig

theorem bare_keys : ∀ k ∈ Field.keys fields, Toml.Bare k := by decide

theorem nodup_keys : (Field.keys fields).Nodup := by decide

theorem takeAll?_table (c b : CompilerConfig) :
    Field.takeAll? fields (Field.table fields c) b = some c := by
  rw [Field.takeAll?_eq_foldlM fun f hf => Field.lookup_table nodup_keys hf]
  simp [fields, Field.takeFound?, Toml.Setting.value, Field.text?, Field.texts?_strings,
    Field.natural?_integer]

end CompilerConfig

namespace Config

theorem bare_keys : ∀ k ∈ Field.keys fields, Toml.Bare k := by decide

theorem nodup_keys : (Field.keys fields).Nodup := by decide

theorem table_sheet (c : Config) :
    c.sheet.table = Field.table fields c ++
      [(compilerKey, .table (Field.table CompilerConfig.fields c.compiler))] := rfl

theorem compilerKey_mem : compilerKey ∈ Field.keys fields := by decide

theorem lookup_compilerKey (c : Config) : (Field.table fields c).lookup compilerKey = none :=
  Field.lookup_table nodup_keys (List.getLast_mem (by decide : fields ≠ []))

/-- What a field finds in the table of a printed configuration. -/
def found? (c : Config) (f : Field Config) : Option Toml.Value :=
  if f.key = compilerKey then some (.table (Field.table CompilerConfig.fields c.compiler))
  else (f.show? c).map Toml.Setting.value

theorem get?_table_sheet (c : Config) {f : Field Config} (hf : f ∈ fields) :
    c.sheet.table.get? f.key = c.found? f := by
  rw [table_sheet, Toml.Table.get?, List.lookup_append, found?]
  split
  · next hkey =>
      simp [hkey, lookup_compilerKey]
  · next hkey =>
      rw [Field.lookup_table nodup_keys hf]
      simp [List.lookup_cons, beq_false_of_ne hkey]

theorem ofTable?_table (c : Config) : ofTable? c.sheet.table = some c := by
  obtain ⟨language, extension, sourceTag, stagingDir, anchorMode, fatalPolicy, compiler⟩ := c
  rw [ofTable?, Field.takeAll?_eq_foldlM fun f hf => get?_table_sheet _ hf]
  cases stagingDir <;>
    simp [fields, found?, Field.takeFound?, compilerKey, Toml.Setting.value, Field.text?,
      Field.takeGroup?, CompilerConfig.takeAll?_table, Anchor.Mode.choice?_name,
      FatalPolicy.choice?_name, default]

theorem filter_contains_eq_nil {known : List String} {t : Toml.Table}
    (h : ∀ k ∈ t.keys, k ∈ known) : (t.keys.filter fun k => !known.contains k) = [] := by
  apply List.filter_eq_nil_iff.2
  intro k hk
  simpa using h k hk

theorem unknownKeys_table (c : Config) : unknownKeys c.sheet.table = [] := by
  have hgroup : c.sheet.table.get? compilerKey =
      some (.table (Field.table CompilerConfig.fields c.compiler)) :=
    c.get?_table_sheet (List.getLast_mem (by decide : fields ≠ []))
  have hkeys : ∀ k ∈ c.sheet.table.keys, k ∈ Field.keys fields := by
    intro k hk
    rw [table_sheet, Toml.Table.keys, List.map_append, List.mem_append] at hk
    rcases hk with hk | hk
    · exact (Field.keys_table_sublist fields c).subset hk
    · obtain rfl := List.mem_singleton.1 hk
      exact compilerKey_mem
  have hcompilerKeys : ∀ k ∈ (Field.table CompilerConfig.fields c.compiler).keys,
      k ∈ Field.keys CompilerConfig.fields :=
    fun k hk => (Field.keys_table_sublist CompilerConfig.fields c.compiler).subset hk
  rw [unknownKeys, hgroup]
  simp only [filter_contains_eq_nil hkeys, filter_contains_eq_nil hcompilerKeys]
  simp

theorem wellFormed_sheet {c : Config} (htimeout : c.compiler.timeout < Nat.pow 2 63) :
    c.sheet.WellFormed where
  settings := by
    apply Field.listed_showAll bare_keys nodup_keys
    simp [fields, Toml.Setting.Fits]
  groups := by
    intro g hg
    obtain rfl := List.mem_singleton.1 hg
    refine ⟨bare_keys _ compilerKey_mem, ?_⟩
    apply Field.listed_showAll CompilerConfig.bare_keys CompilerConfig.nodup_keys
    simpa [CompilerConfig.fields, Toml.Setting.Fits] using htimeout
  nodup := by simp [sheet]
  disjoint := by
    intro g hg hmem
    obtain rfl := List.mem_singleton.1 hg
    obtain ⟨e, he, hkey⟩ := List.mem_map.1 hmem
    have hnone := List.lookup_eq_none_iff.1 c.lookup_compilerKey _ (List.mem_map_of_mem he)
    simp [hkey] at hnone

theorem read?_configText {origin : String} {c : Config}
    (horigin : ∀ x ∈ origin.toList, 32 ≤ x.toNat ∧ x.toNat ≠ 127)
    (htimeout : c.compiler.timeout < Nat.pow 2 63) :
    Toml.read? (Cli.configText origin c) = some c.sheet.table := by
  have hcomment : ∀ x ∈ (" Source: " ++ origin).toList, Toml.Quotation.isPlain x = true := by
    intro x hx
    rw [String.toList_append, List.mem_append] at hx
    rcases hx with hx | hx
    · have hall : ∀ x ∈ " Source: ".toList, Toml.Quotation.isPlain x = true := by
        simp [Toml.Quotation.isPlain]
      exact hall x hx
    · simp [Toml.Quotation.isPlain, horigin x hx]
  have htext : "#" ++ (" Source: " ++ origin) ++ "\n" ++ c.sheet.print ++ "\n" =
      Cli.configText origin c := by
    simp [Cli.configText, ← String.append_assoc]
  rw [← htext]
  exact (wellFormed_sheet htimeout).read?_print hcomment

/-- A file with the text that is shown for a configuration loads as that configuration, and
without a remark. -/
theorem ofFile_configText {d : Disk} {path : Path} {origin : String} {c : Config}
    (hfile : d.read path = .ok (Cli.configText origin c).toUTF8)
    (horigin : ∀ x ∈ origin.toList, 32 ≤ x.toNat ∧ x.toNat ≠ 127)
    (htimeout : c.compiler.timeout ≤ Nat.pow 2 63 - 1) : ofFile d path = (.ok c, []) := by
  have htext := Disk.readText_of_read hfile
  have hread := read?_configText horigin (Nat.lt_of_le_of_lt htimeout (by decide))
  simp [ofFile, htext, hread, ofTable?_table, unknownKeys_table]

theorem ofFile_configText_quotes :
    let c : Config :=
      ⟨"c\"+\\'", "", "é\x08\x7f", some "", .firstLineOffset, .documentStart,
        ⟨"'''\"\"\"\r\n", ["a\n\"\"\"\"", "b'\\\n''", ""], [], "\t", Nat.pow 2 63 - 1⟩⟩
    let text := (Cli.configText "/x \"y\".toml" c).toUTF8
    let d : Disk := ⟨.dir [("s.toml", .file text)], []⟩
    d.read ⟨"/s.toml"⟩ = .ok text ∧
      (∀ x ∈ "/x \"y\".toml".toList, 32 ≤ x.toNat ∧ x.toNat ≠ 127) ∧
      c.compiler.timeout ≤ Nat.pow 2 63 - 1 ∧ ofFile d ⟨"/s.toml"⟩ = (.ok c, []) := by
  intro c text d
  have hfile : d.read ⟨"/s.toml"⟩ = .ok text := rfl
  have horigin : ∀ x ∈ "/x \"y\".toml".toList, 32 ≤ x.toNat ∧ x.toNat ≠ 127 := by simp
  have htimeout : c.compiler.timeout ≤ Nat.pow 2 63 - 1 := Nat.le_refl _
  exact ⟨hfile, horigin, htimeout, ofFile_configText hfile horigin htimeout⟩

end Config

end FenceCheck
