import FenceCheck.Proofs.Toml.Setting

namespace FenceCheck.Toml

/-!
# Sheets read back as they were printed

A printed sheet is a document, and the table that the document describes has the settings
of the sheet under their keys and each group of settings as a table under its name, in the
order of the sheet. Comments and empty lines in front and an empty line behind change
nothing. Keys must be bare, and no key may stand twice in one table.
-/

/-- A key that needs no quotes. -/
structure Bare (name : String) : Prop where
  ne_nil : name.toList ≠ []
  keyChar : ∀ c ∈ name.toList, Reader.isKeyChar c = true

theorem bare_iff {name : String} :
    Bare name ↔ name.toList ≠ [] ∧ name.toList.all Reader.isKeyChar = true := by
  rw [List.all_eq_true]
  exact ⟨fun h => ⟨h.ne_nil, h.keyChar⟩, fun h => ⟨h.1, h.2⟩⟩

instance (name : String) : Decidable (Bare name) :=
  decidable_of_iff _ bare_iff.symm

theorem Bare.exists_cons {name : String} (h : Bare name) :
    ∃ c w, name.toList = c :: w ∧ Reader.isKeyChar c = true := by
  obtain ⟨c, w, heq⟩ := List.exists_cons_of_ne_nil h.ne_nil
  exact ⟨c, w, heq, h.keyChar c (by simp [heq])⟩

/-! ## Tables while a sheet is read -/

namespace Entries

theorem put_append {key : String} {n : Node} {es : Entries} (h : key ∉ es.map Prod.fst) :
    put key n es = es ++ [(key, n)] := by
  induction es with
  | nil => rfl
  | cons e es ih =>
      simp only [List.map_cons, List.mem_cons, not_or] at h
      rw [put, if_neg (Ne.symm h.1), ih h.2]
      rfl

theorem put_append_singleton {key : String} {n m : Node} {es : Entries}
    (h : key ∉ es.map Prod.fst) : put key n (es ++ [(key, m)]) = es ++ [(key, n)] := by
  induction es with
  | nil => simp [put]
  | cons e es ih =>
      simp only [List.map_cons, List.mem_cons, not_or] at h
      rw [List.cons_append, put, if_neg (Ne.symm h.1), ih h.2]
      rfl

theorem lookup_eq_none {key : String} {es : Entries} (h : key ∉ es.map Prod.fst) :
    es.lookup key = none := by
  induction es with
  | nil => rfl
  | cons e es ih =>
      simp only [List.map_cons, List.mem_cons, not_or] at h
      rw [List.lookup_cons, beq_false_of_ne h.1, ih h.2]

theorem lookup_append_singleton {key : String} {n : Node} {es : Entries}
    (h : key ∉ es.map Prod.fst) : (es ++ [(key, n)]).lookup key = some n := by
  induction es with
  | nil => simp
  | cons e es ih =>
      simp only [List.map_cons, List.mem_cons, not_or] at h
      rw [List.cons_append, List.lookup_cons, beq_false_of_ne h.1, ih h.2]

theorem assign_bare {key : String} {v : Value} {es : Entries} (h : key ∉ es.map Prod.fst) :
    assign v [key] false .header es = some (es ++ [(key, .leaf v)]) := by
  simp [assign, lookup_eq_none h, put_append h]

theorem openTable_bare {key : String} {es : Entries} (h : key ∉ es.map Prod.fst) :
    openTable [key] es = some (es ++ [(key, .table .header [])]) := by
  simp [openTable, lookup_eq_none h, put_append h]

/-- Where the settings that follow go: `here` leads to a table, and `whole` is the document
around it. -/
def Focus (here : List String) (whole : Entries → Entries) : Prop :=
  ∀ f inner, within f here (whole inner) = (f inner).map whole

theorem focus_root : Focus [] id := by
  intro f inner
  simp [within]

theorem focus_group {key : String} {es : Entries} (h : key ∉ es.map Prod.fst) :
    Focus [key] fun inner => es ++ [(key, .table .header inner)] := by
  intro f inner
  simp [within, lookup_append_singleton h, put_append_singleton h]

/-- The entries of settings that were read. -/
def leaves (ss : List (String × Setting)) : Entries :=
  ss.map fun e => (e.1, .leaf e.2.value)

def branches (gs : List (String × List (String × Setting))) : Entries :=
  gs.map fun g => (g.1, .table .header (leaves g.2))

end Entries

namespace Reader

open Quotation

/-! ## Keys -/

theorem isSolid_of_isKeyChar {c : Char} (hc : isKeyChar c = true) :
    isSolid c = true ∧ isSpace c = false ∧ c ≠ '[' ∧ c ≠ '"' ∧ c ≠ '\x27' := by
  have hne : ∀ d ∈ [' ', '\t', '#', '\n', '\r', '[', '"', '\x27'], c ≠ d := by
    intro d hd heq
    have hall : [' ', '\t', '#', '\n', '\r', '[', '"', '\x27'].all (!isKeyChar ·) = true := by
      decide
    have hnot := List.all_eq_true.1 hall d hd
    rw [← heq, hc] at hnot
    contradiction
  simp only [isSolid, isSpace]
  simp [hne]

theorem isKeyChar_of_isSpace {c : Char} (hc : isSpace c = true) : isKeyChar c = false := by
  simp only [isSpace, Bool.or_eq_true, beq_iff_eq] at hc
  rcases hc with rfl | rfl <;> decide

theorem keyPart_bare {name : String} (h : Bare name) {rest : List Char}
    (hrest : ∀ c ∈ rest.head?, isKeyChar c = false) :
    keyPart (name.toList ++ rest) = some (name, rest) := by
  obtain ⟨c, w, hname, hc⟩ := h.exists_cons
  obtain ⟨-, -, -, hquote, hliteral⟩ := isSolid_of_isKeyChar hc
  have hstop : rest.takeWhile isKeyChar = [] ∧ rest.dropWhile isKeyChar = rest := by
    cases rest with
    | nil => exact ⟨rfl, rfl⟩
    | cons d rest => simp [hrest d rfl]
  have htake : (name.toList ++ rest).takeWhile isKeyChar = name.toList := by
    rw [List.takeWhile_append_of_pos h.keyChar, hstop.1, List.append_nil]
  have hdrop : (name.toList ++ rest).dropWhile isKeyChar = rest := by
    rw [List.dropWhile_append_of_pos h.keyChar, hstop.2]
  rw [keyPart]
  · rw [htake, hdrop, hname]
    simp [← hname]
  · simp [hname, hquote]
  · simp [hname, hliteral]

theorem key_bare {name : String} (h : Bare name) {w : List Char}
    (hw : ∀ c ∈ w, isSpace c = true) {c : Char}
    (hc : isKeyChar c = false ∧ isSpace c = false ∧ c ≠ '.') (rest : List Char) (fuel : Nat) :
    key (fuel + 1) (name.toList ++ (w ++ c :: rest)) = some ([name], c :: rest) := by
  obtain ⟨hkey, hspace, hpoint⟩ := hc
  have hhead : ∀ d ∈ (w ++ c :: rest).head?, isKeyChar d = false := by
    intro d hd
    cases w with
    | nil =>
        cases hd
        exact hkey
    | cons e w =>
        cases hd
        exact isKeyChar_of_isSpace (hw d List.mem_cons_self)
  have hdrop : dropSpaces (name.toList ++ (w ++ c :: rest)) = name.toList ++ (w ++ c :: rest) := by
    obtain ⟨d, v, hname, hd⟩ := h.exists_cons
    rw [hname]
    exact dropSpaces_append (w := []) (by simp) (isSolid_of_isKeyChar hd).2.1
  rw [key, hdrop, keyPart_bare h hhead]
  simp [dropSpaces_append hw hspace, hpoint]

/-! ## Lines and groups -/

theorem statement_line {e : String × Setting} (hkey : Bare e.1) (hfits : e.2.Fits)
    {here : List String} {whole : Entries → Entries} (hfocus : Entries.Focus here whole)
    {inner : Entries} (hfresh : e.1 ∉ inner.map Prod.fst) (rest : List Char) :
    statement ⟨whole inner, here⟩ (Printer.line e ++ rest) =
      some (⟨whole (inner ++ [(e.1, .leaf e.2.value)]), here⟩, '\n' :: rest) := by
  have htext : Printer.line e ++ rest =
      e.1.toList ++ ([' '] ++ '=' :: ([' '] ++ (Printer.setting e.2 ++ '\n' :: rest))) := by
    simp [Printer.line]
  obtain ⟨c, w, hname, hc⟩ := hkey.exists_cons
  obtain ⟨-, -, hopen, -, -⟩ := isSolid_of_isKeyChar hc
  have hread := key_bare hkey (w := [' ']) (by simp [isSpace]) (c := '=') (by decide)
    ([' '] ++ (Printer.setting e.2 ++ '\n' :: rest)) (Printer.line e ++ rest).length
  have hdrop : dropSpaces ([' '] ++ (Printer.setting e.2 ++ '\n' :: rest)) =
      Printer.setting e.2 ++ '\n' :: rest := by
    obtain ⟨d, v, heq, hd⟩ := exists_setting_eq_cons e.2
    rw [heq]
    exact dropSpaces_append (by simp [isSpace]) hd
  have hvalue := value_setting hfits rest ((Printer.line e ++ rest).length + 1) (by
    rw [htext]
    simp
    omega)
  have hassign : Entries.within (Entries.assign e.2.value [e.1] false .header) here (whole inner) =
      some (whole (inner ++ [(e.1, .leaf e.2.value)])) := by
    rw [hfocus, Entries.assign_bare hfresh]
    rfl
  rw [← htext] at hread
  rw [statement]
  · simp only [hread, Option.bind_some, hdrop, hvalue, hassign, Option.map_some]
  · simp [htext, hname, hopen]
  · simp [htext, hname, hopen]

theorem statement_header {name : String} (h : Bare name) {root : Entries}
    (hfresh : name ∉ root.map Prod.fst) (here : List String) (rest : List Char) :
    statement ⟨root, here⟩ ('[' :: (name.toList ++ ']' :: rest)) =
      some (⟨root ++ [(name, .table .header [])], [name]⟩, rest) := by
  obtain ⟨c, w, hname, hc⟩ := h.exists_cons
  obtain ⟨-, -, hopen, -, -⟩ := isSolid_of_isKeyChar hc
  have hread := key_bare h (w := []) (by simp) (c := ']') (by decide) rest
    ('[' :: (name.toList ++ ']' :: rest)).length
  rw [List.nil_append] at hread
  rw [statement]
  · simp only [hread, Option.bind_some, Entries.openTable_bare hfresh, Option.map_some]
  · simp [hname, hopen]

/-- The text at hand leads to the entries `root`. -/
def Reads (st : State) (s : List Char) (root : Entries) : Prop :=
  ∀ fuel, s.length < fuel → statements fuel st s = some root

theorem Reads.done {st : State} {s : List Char} (h : Leads s []) : Reads st s st.root := by
  intro fuel hfuel
  obtain ⟨n, rfl⟩ := Nat.exists_eq_add_one.2 (Nat.zero_lt_of_lt hfuel)
  simp [statements, h (s.length + 1) (Nat.lt_succ_self _)]

theorem Reads.step {st st' : State} {s t u : List Char} {root : Entries} (hlead : Leads s t)
    (hne : t ≠ []) (hstatement : statement st t = some (st', '\n' :: u))
    (hlength : u.length < s.length) (h : Reads st' u root) : Reads st s root := by
  intro fuel hfuel
  obtain ⟨n, rfl⟩ := Nat.exists_eq_add_one.2 (Nat.zero_lt_of_lt hfuel)
  have hline : afterLine? ('\n' :: u) = some u := by
    simp [afterLine?, dropSpaces, isSpace, afterComment?]
  rw [statements, hlead (s.length + 1) (Nat.lt_succ_self _), Option.bind_some]
  simp [hstatement, hline, h n (by omega)]

/-- What stands in front of a statement and is passed over does not matter. -/
theorem Reads.of_leads {st : State} {s s' t : List Char} {root : Entries} (h : Reads st s root)
    (hs : Leads s t) (hs' : Leads s' t) (hlength : s.length ≤ s'.length) : Reads st s' root := by
  intro fuel hfuel
  have hread := h fuel (Nat.lt_of_le_of_lt hlength hfuel)
  obtain ⟨n, rfl⟩ := Nat.exists_eq_add_one.2 (Nat.zero_lt_of_lt hfuel)
  rw [statements, hs (s.length + 1) (Nat.lt_succ_self _)] at hread
  rw [statements, hs' (s'.length + 1) (Nat.lt_succ_self _)]
  exact hread

/-- Settings that can stand in one table. -/
structure Listed (ss : List (String × Setting)) : Prop where
  bare : ∀ e ∈ ss, Bare e.1
  fits : ∀ e ∈ ss, e.2.Fits
  nodup : (ss.map Prod.fst).Nodup

instance (ss : List (String × Setting)) : Decidable (Listed ss) :=
  decidable_of_iff ((∀ e ∈ ss, Bare e.1) ∧ (∀ e ∈ ss, e.2.Fits) ∧ (ss.map Prod.fst).Nodup)
    ⟨fun h => ⟨h.1, h.2.1, h.2.2⟩, fun h => ⟨h.bare, h.fits, h.nodup⟩⟩

theorem Listed.of_cons {e : String × Setting} {ss : List (String × Setting)}
    (h : Listed (e :: ss)) : Listed ss :=
  ⟨fun x hx => h.bare x (List.mem_cons_of_mem e hx),
    fun x hx => h.fits x (List.mem_cons_of_mem e hx), (List.nodup_cons.1 h.nodup).2⟩

theorem exists_line_eq_cons {e : String × Setting} (h : Bare e.1) (rest : List Char) :
    ∃ c w, Printer.line e ++ rest = c :: w ∧ isSolid c = true := by
  obtain ⟨c, w, hname, hc⟩ := h.exists_cons
  refine ⟨c, w ++ " = ".toList ++ Printer.setting e.2 ++ ['\n'] ++ rest, ?_,
    (isSolid_of_isKeyChar hc).1⟩
  simp [Printer.line, hname]

theorem reads_lines {ss : List (String × Setting)} (hss : Listed ss) {here : List String}
    {whole : Entries → Entries} (hfocus : Entries.Focus here whole) (inner : Entries)
    (hfresh : ∀ e ∈ ss, e.1 ∉ inner.map Prod.fst) {s : List Char} {root : Entries}
    (h : Reads ⟨whole (inner ++ Entries.leaves ss), here⟩ s root) :
    Reads ⟨whole inner, here⟩ (ss.flatMap Printer.line ++ s) root := by
  induction ss generalizing inner with
  | nil => simpa [Entries.leaves] using h
  | cons e ss ih =>
      have hbare := hss.bare e List.mem_cons_self
      have hstatement := statement_line hbare (hss.fits e List.mem_cons_self) hfocus
        (hfresh e List.mem_cons_self) (ss.flatMap Printer.line ++ s)
      have hnext : ∀ x ∈ ss, x.1 ∉ (inner ++ [(e.1, Node.leaf e.2.value)]).map Prod.fst := by
        intro x hx
        have hdistinct : x.1 ≠ e.1 := fun heq =>
          (List.nodup_cons.1 hss.nodup).1 (heq ▸ List.mem_map_of_mem hx)
        simpa [hdistinct] using hfresh x (List.mem_cons_of_mem e hx)
      have hrest := ih hss.of_cons _ hnext (by simpa [Entries.leaves] using h)
      obtain ⟨c, w, htext, hc⟩ := exists_line_eq_cons hbare (ss.flatMap Printer.line ++ s)
      rw [List.flatMap_cons, List.append_assoc]
      apply Reads.step _ _ hstatement _ hrest
      · rw [htext]
        exact leads_cons hc
      · simp [htext]
      · simp [Printer.line]
        omega

theorem reads_group {g : String × List (String × Setting)} (hname : Bare g.1) (hg : Listed g.2)
    {root : Entries} (hfresh : g.1 ∉ root.map Prod.fst) (here : List String) {s : List Char}
    {whole : Entries}
    (h : Reads ⟨root ++ [(g.1, .table .header (Entries.leaves g.2))], [g.1]⟩ s whole) :
    Reads ⟨root, here⟩ (Printer.group g ++ s) whole := by
  have hlines := reads_lines hg (Entries.focus_group hfresh) [] (by simp) h
  have hheader := statement_header hname hfresh here ('\n' :: (g.2.flatMap Printer.line ++ s))
  have htext : Printer.group g ++ s =
      '\n' :: '[' :: (g.1.toList ++ ']' :: '\n' :: (g.2.flatMap Printer.line ++ s)) := by
    simp [Printer.group]
  rw [htext]
  apply Reads.step (leads_cons (by decide)).newline (by simp) hheader _ hlines
  simp
  omega

theorem reads_groups {gs : List (String × List (String × Setting))}
    (hgs : ∀ g ∈ gs, Bare g.1 ∧ Listed g.2) (hnodup : (gs.map Prod.fst).Nodup) {root : Entries}
    (hfresh : ∀ g ∈ gs, g.1 ∉ root.map Prod.fst) (here : List String) {s : List Char}
    {whole : Entries} (h : ∀ here, Reads ⟨root ++ Entries.branches gs, here⟩ s whole) :
    Reads ⟨root, here⟩ (gs.flatMap Printer.group ++ s) whole := by
  induction gs generalizing root here with
  | nil => simpa [Entries.branches] using h here
  | cons g gs ih =>
      obtain ⟨hname, hg⟩ := hgs g List.mem_cons_self
      have hnext : ∀ x ∈ gs, x.1 ∉
          (root ++ [(g.1, Node.table .header (Entries.leaves g.2))]).map Prod.fst := by
        intro x hx
        have hdistinct : x.1 ≠ g.1 := fun heq =>
          (List.nodup_cons.1 hnodup).1 (heq ▸ List.mem_map_of_mem hx)
        simpa [hdistinct] using hfresh x (List.mem_cons_of_mem g hx)
      have hrest := ih (fun x hx => hgs x (List.mem_cons_of_mem g hx))
        (List.nodup_cons.1 hnodup).2 hnext [g.1] (by simpa [Entries.branches] using h)
      rw [List.flatMap_cons, List.append_assoc]
      exact reads_group hname hg (hfresh g List.mem_cons_self) here hrest

end Reader

/-! ## Sheets -/

/-- A sheet that can be printed as a document. -/
structure Sheet.WellFormed (d : Sheet) : Prop where
  settings : Reader.Listed d.settings
  groups : ∀ g ∈ d.groups, Bare g.1 ∧ Reader.Listed g.2
  nodup : (d.groups.map Prod.fst).Nodup
  disjoint : ∀ g ∈ d.groups, g.1 ∉ d.settings.map Prod.fst

instance (d : Sheet) : Decidable d.WellFormed :=
  decidable_of_iff (Reader.Listed d.settings ∧
      (∀ g ∈ d.groups, Bare g.1 ∧ Reader.Listed g.2) ∧ (d.groups.map Prod.fst).Nodup ∧
      ∀ g ∈ d.groups, g.1 ∉ d.settings.map Prod.fst)
    ⟨fun h => ⟨h.1, h.2.1, h.2.2.1, h.2.2.2⟩,
      fun h => ⟨h.settings, h.groups, h.nodup, h.disjoint⟩⟩

/-- The table that a sheet describes. -/
def Sheet.table (d : Sheet) : Table :=
  d.settings.map (fun e => (e.1, e.2.value)) ++
    d.groups.map fun g => (g.1, .table (g.2.map fun e => (e.1, e.2.value)))

theorem Entries.values_append (es fs : Entries) :
    Entries.values (es ++ fs) = Entries.values es ++ Entries.values fs := by
  induction es with
  | nil => rfl
  | cons e es ih => rw [List.cons_append, Entries.values, Entries.values, ih, List.cons_append]

theorem Entries.values_leaves (ss : List (String × Setting)) :
    Entries.values (Entries.leaves ss) = ss.map fun e => (e.1, e.2.value) := by
  induction ss with
  | nil => rfl
  | cons e ss ih => simpa [Entries.leaves, Entries.values, Node.value] using ih

theorem Entries.values_branches (gs : List (String × List (String × Setting))) :
    Entries.values (Entries.branches gs) =
      gs.map fun g => (g.1, .table (g.2.map fun e => (e.1, e.2.value))) := by
  induction gs with
  | nil => rfl
  | cons g gs ih =>
      simpa [Entries.branches, Entries.values, Node.value, Entries.values_leaves] using ih

namespace Sheet

def text (d : Sheet) : List Char :=
  d.settings.flatMap Printer.line ++ d.groups.flatMap Printer.group

theorem WellFormed.reads {d : Sheet} (h : d.WellFormed) :
    Reader.Reads ⟨[], []⟩ (d.text ++ ['\n'])
      (Entries.leaves d.settings ++ Entries.branches d.groups) := by
  have hkeys : (Entries.leaves d.settings).map Prod.fst = d.settings.map Prod.fst := by
    simp [Entries.leaves]
  have hgroups : Reader.Reads ⟨Entries.leaves d.settings, []⟩
      (d.groups.flatMap Printer.group ++ ['\n'])
      (Entries.leaves d.settings ++ Entries.branches d.groups) := by
    apply Reader.reads_groups h.groups h.nodup
    · rw [hkeys]
      exact h.disjoint
    · exact fun here => Reader.Reads.done Reader.leads_nil.newline
  rw [text, List.append_assoc]
  exact Reader.reads_lines h.settings Entries.focus_root [] (by simp) hgroups

theorem WellFormed.exists_leads {d : Sheet} (h : d.WellFormed) :
    ∃ t, Reader.Leads (d.text ++ ['\n']) t := by
  rw [text, List.append_assoc]
  cases hsettings : d.settings with
  | cons e ss =>
      have hbare : Bare e.1 := h.settings.bare e (by simp [hsettings])
      obtain ⟨c, w, htext, hc⟩ := Reader.exists_line_eq_cons hbare
        (ss.flatMap Printer.line ++ (d.groups.flatMap Printer.group ++ ['\n']))
      rw [List.flatMap_cons, List.append_assoc, htext]
      exact ⟨_, Reader.leads_cons hc⟩
  | nil =>
      cases d.groups with
      | nil => exact ⟨_, Reader.leads_nil.newline⟩
      | cons g gs => exact ⟨_, (Reader.leads_cons (by decide)).newline⟩

/-- A printed sheet under a comment reads back as the table that the sheet describes. -/
theorem WellFormed.read?_print {d : Sheet} (h : d.WellFormed) {comment : String}
    (hcomment : ∀ c ∈ comment.toList, Quotation.isPlain c = true) :
    read? ("#" ++ comment ++ "\n" ++ d.print ++ "\n") = some d.table := by
  obtain ⟨t, hlead⟩ := h.exists_leads
  have hreads := h.reads.of_leads hlead (hlead.comment hcomment) (by simp; omega)
  have htext : ("#" ++ comment ++ "\n" ++ d.print ++ "\n").toList =
      '#' :: comment.toList ++ '\n' :: (d.text ++ ['\n']) := by
    simp [print, text]
  have hmark : dropMark ('#' :: comment.toList ++ '\n' :: (d.text ++ ['\n'])) =
      '#' :: comment.toList ++ '\n' :: (d.text ++ ['\n']) := by
    simp [dropMark]
  simp only [read?, htext, hmark, hreads _ (Nat.lt_succ_self _), Option.map_some,
    Entries.values_append, Entries.values_leaves, Entries.values_branches, table]

end Sheet

end FenceCheck.Toml
