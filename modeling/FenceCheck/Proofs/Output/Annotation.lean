import FenceCheck.Output
import FenceCheck.Proofs.Json.Grammar
import FenceCheck.Proofs.Text.LineFrame
import FenceCheck.Proofs.Text.Numeral
import FenceCheck.Proofs.Text.Replacement
import Mathlib.Data.List.Basic

namespace FenceCheck.Annotation

/-!
# Reading annotations back

A line is read as a workflow command: level, properties, message, with percent codes for what would
be taken for the structure around it. No encoded text holds a line break, and no encoded property a
colon or a comma. So every line gives back what was found, whatever characters stood in it.
-/

/-! ## Percent codes -/

/-- The text that percent codes stand for: two hexadecimal digits follow each percent sign. -/
def percentDecoded? : List Char → Option (List Char)
  | [] => some []
  | '%' :: a :: b :: s =>
      (Json.hexValue? [a, b]).bind fun n => (percentDecoded? s).map (Char.ofNat n :: ·)
  | c :: s => if c = '%' then none else (percentDecoded? s).map (c :: ·)

theorem percentDecoded?_cons {c : Char} (h : c ≠ '%') (s : List Char) :
    percentDecoded? (c :: s) = (percentDecoded? s).map (c :: ·) := by
  rw [percentDecoded?]
  · rw [if_neg h]
  · intro a b s' hc
    exact absurd hc h

theorem percentDecoded?_dataCode (c : Char) (s : List Char) :
    percentDecoded? (dataCode c ++ s) = (percentDecoded? s).map (c :: ·) := by
  unfold dataCode
  split
  · next h => subst h; rfl
  split
  · next h => subst h; rfl
  split
  · next h => subst h; rfl
  · next h _ _ => exact percentDecoded?_cons h s

theorem percentDecoded?_propertyCode (c : Char) (s : List Char) :
    percentDecoded? (propertyCode c ++ s) = (percentDecoded? s).map (c :: ·) := by
  unfold propertyCode
  split
  · next h => subst h; rfl
  split
  · next h => subst h; rfl
  · exact percentDecoded?_dataCode c s

theorem percentDecoded?_flatMap {code : Char → List Char}
    (h : ∀ c s, percentDecoded? (code c ++ s) = (percentDecoded? s).map (c :: ·)) (s : List Char) :
    percentDecoded? (s.flatMap code) = some s := by
  induction s with
  | nil => rfl
  | cons c s ih => rw [List.flatMap_cons, h, ih, Option.map_some]

theorem percentDecoded?_data (s : String) : percentDecoded? (data s).toList = some s.toList := by
  rw [data, String.toList_ofList]
  exact percentDecoded?_flatMap percentDecoded?_dataCode s.toList

theorem percentDecoded?_property (s : String) :
    percentDecoded? (property s).toList = some s.toList := by
  rw [property, String.toList_ofList]
  exact percentDecoded?_flatMap percentDecoded?_propertyCode s.toList

theorem injective_of_percentDecoded? {code : String → String}
    (h : ∀ s, percentDecoded? (code s).toList = some s.toList) : Function.Injective code := by
  intro s t heq
  have hs := h s
  rw [heq, h t] at hs
  exact String.toList_inj.1 (Option.some.inj hs).symm

theorem toList_data (s : String) :
    (data s).toList =
      Text.replaceAll ['\n'] "%0A".toList
        (Text.replaceAll ['\r'] "%0D".toList (Text.replaceAll ['%'] "%25".toList s.toList)) := by
  simp only [data, String.toList_ofList, Text.replaceAll_singleton, List.flatMap_assoc]
  refine List.flatMap_congr fun c _ => ?_
  unfold dataCode
  split
  · rfl
  split
  · next h => subst h; rfl
  · next h => simp [h]

theorem toList_property (s : String) :
    (property s).toList =
      Text.replaceAll [','] "%2C".toList (Text.replaceAll [':'] "%3A".toList (data s).toList) := by
  simp only [property, data, String.toList_ofList, Text.replaceAll_singleton, List.flatMap_assoc]
  refine List.flatMap_congr fun c _ => ?_
  unfold propertyCode
  split
  · next h => subst h; rfl
  split
  · next h => subst h; rfl
  · next hcolon hcomma =>
    unfold dataCode
    split
    · rfl
    split
    · rfl
    split
    · rfl
    · simp [hcolon, hcomma]

theorem notMem_data {x : Char} (h : ∀ c, x ∉ dataCode c) (s : String) : x ∉ (data s).toList := by
  simpa [data] using fun c _ => h c

theorem notMem_property {x : Char} (h : ∀ c, x ∉ propertyCode c) (s : String) :
    x ∉ (property s).toList := by
  simpa [property] using fun c _ => h c

/-- The characters that codes are written with. -/
def codeLetters : List Char := "%0235ACD".toList

theorem mem_dataCode {x c : Char} (h : x ∈ dataCode c) :
    x ∈ codeLetters ∨ x = c ∧ c ≠ '\r' ∧ c ≠ '\n' := by
  have hpercent : "%25".toList ⊆ codeLetters := by decide
  have hreturn : "%0D".toList ⊆ codeLetters := by decide
  have hnewline : "%0A".toList ⊆ codeLetters := by decide
  unfold dataCode at h
  split_ifs at h with _ hr hn
  · exact .inl (hpercent h)
  · exact .inl (hreturn h)
  · exact .inl (hnewline h)
  · exact .inr ⟨List.mem_singleton.1 h, hr, hn⟩

theorem mem_propertyCode {x c : Char} (h : x ∈ propertyCode c) :
    x ∈ codeLetters ∨ x ∈ dataCode c ∧ c ≠ ':' ∧ c ≠ ',' := by
  have hcolon : "%3A".toList ⊆ codeLetters := by decide
  have hcomma : "%2C".toList ⊆ codeLetters := by decide
  unfold propertyCode at h
  split_ifs at h with hc hm
  · exact .inl (hcolon h)
  · exact .inl (hcomma h)
  · exact .inr ⟨h, hc, hm⟩

theorem notMem_dataCode {x : Char} (hx : x = '\r' ∨ x = '\n') (c : Char) : x ∉ dataCode c := by
  intro h
  obtain h | ⟨rfl, hreturn, hnewline⟩ := mem_dataCode h
  · obtain rfl | rfl := hx <;> exact absurd h (by decide)
  · exact hx.elim hreturn hnewline

theorem notMem_propertyCode {x : Char} (hx : x = '\r' ∨ x = '\n' ∨ x = ':' ∨ x = ',') (c : Char) :
    x ∉ propertyCode c := by
  have hletters : x ∉ codeLetters := by
    obtain rfl | rfl | rfl | rfl := hx <;> decide
  intro h
  obtain h | ⟨h, hcolon, hcomma⟩ := mem_propertyCode h
  · exact hletters h
  · obtain h | ⟨rfl, hreturn, hnewline⟩ := mem_dataCode h
    · exact hletters h
    · tauto

/-! ## Commands -/

/-- A workflow command: its level, its properties by name, its message. -/
structure Command where
  level : List Char
  properties : List (List Char × List Char)
  message : List Char

/-- A property is a name and, behind the sign of equality, its value. -/
def namedValue? (s : List Char) : Option (List Char × List Char) :=
  (Text.split? ['='] s).bind fun halves => (percentDecoded? halves.2).map (halves.1, ·)

/-- Behind two colons the properties go up to the next two, with the level in front of them up to a
blank. The rest is the message. -/
def command? (line : List Char) : Option Command := do
  let s ← Text.after? [':', ':'] line
  let (head, message) ← Text.split? [':', ':'] s
  let (level, fields) ← Text.split? [' '] head
  return ⟨level, ← (Text.cells ',' fields).mapM namedValue?, ← percentDecoded? message⟩

/-- What a command tells of a diagnostic. -/
structure Finding where
  severity : Severity
  file : String
  line : Nat
  column : Nat
  source : String
  message : String
  deriving DecidableEq, Repr

def severity? (name : List Char) : Option Severity :=
  [Severity.error, .warning, .information].find? fun s => (level s).toList = name

def number? (digits : List Char) : Option Nat :=
  if digits ≠ [] ∧ digits.all Char.isDigit then some (Text.digitsValue digits) else none

def Command.finding? (c : Command) : Option Finding := do
  let severity ← severity? c.level
  let file ← c.properties.lookup "file".toList
  let line ← (c.properties.lookup "line".toList).bind number?
  let column ← (c.properties.lookup "col".toList).bind number?
  let source ← c.properties.lookup "title".toList
  return ⟨severity, .ofList file, line, column, .ofList source, .ofList c.message⟩

def finding? (line : List Char) : Option Finding :=
  (command? line).bind Command.finding?

/-- The finding that an annotation is made for. -/
def found (file : String) (d : Diagnostic) : Finding :=
  ⟨d.severity, file, d.span.start.line + 1, d.span.start.column + 1, d.source, d.message⟩

def fields (file : String) (d : Diagnostic) : List (List Char × List Char) :=
  [("file".toList, (property file).toList), ("line".toList, Text.decimal d.line),
    ("col".toList, Text.decimal d.column), ("title".toList, (property d.source).toList)]

def written (e : List Char × List Char) : List Char :=
  e.1 ++ '=' :: e.2

/-- What stands between the two pairs of colons. -/
def head (file : String) (d : Diagnostic) : List Char :=
  (level d.severity).toList ++ ' ' :: List.intercalate [','] ((fields file d).map written)

theorem toList_command (file : String) (d : Diagnostic) :
    (command file d).toList =
      [':', ':'] ++ (head file d ++ [':', ':'] ++ (data d.message).toList) := by
  simp [command, head, fields, written, Text.toString_text, Text.decimal]

section Written

variable {x : Char} {file : String} {d : Diagnostic}

/-- Neither line breaks nor what separates the parts of a command stand in a field. -/
theorem notMem_written (hx : x = '\r' ∨ x = '\n' ∨ x = ':' ∨ x = ',') :
    ∀ l ∈ (fields file d).map written, x ∉ l := by
  have hname : x ∉ "file=line=col=title=".toList := by
    obtain rfl | rfl | rfl | rfl := hx <;> decide
  have hfile := notMem_property (notMem_propertyCode hx) file
  have hsource := notMem_property (notMem_propertyCode hx) d.source
  have hdigit : x.isDigit = false := by
    obtain rfl | rfl | rfl | rfl := hx <;> rfl
  have hline := Text.notMem_decimal hdigit d.line
  have hcolumn := Text.notMem_decimal hdigit d.column
  simp only [String.reduceToList, List.mem_cons, not_or] at hname
  simp_all [fields, written]

theorem cells_fields :
    Text.cells ',' (List.intercalate [','] ((fields file d).map written)) =
      (fields file d).map written := by
  have hcomma : ∀ l ∈ (fields file d).map written, ',' ∉ l := notMem_written (by simp)
  rw [Text.cells_eq_splitOn, List.splitOn_intercalate ',' hcomma (by simp [fields])]

theorem notMem_head (hx : x = '\r' ∨ x = '\n' ∨ x = ':') : x ∉ head file d := by
  have hlevel : x ∉ (level d.severity).toList := by
    obtain rfl | rfl | rfl := hx <;> cases d.severity <;> decide
  have hfields : x ∉ List.intercalate [','] ((fields file d).map written) := by
    refine Text.notMem_intercalate ?_ (notMem_written (by tauto))
    obtain rfl | rfl | rfl := hx <;> decide
  have hblank : x ≠ ' ' := by
    obtain rfl | rfl | rfl := hx <;> decide
  simp [head, hlevel, hfields, hblank]

theorem notMem_command (hx : x = '\r' ∨ x = '\n') : x ∉ (command file d).toList := by
  have hhead : x ∉ head file d := notMem_head (by tauto)
  have hdata := notMem_data (notMem_dataCode hx) d.message
  have hcolon : x ∉ [':', ':'] := by
    obtain rfl | rfl := hx <;> decide
  rw [toList_command]
  simp only [List.mem_append, not_or]
  exact ⟨hcolon, ⟨hhead, hcolon⟩, hdata⟩

end Written

/-! ## Readings -/

theorem namedValue?_written {e : List Char × List Char} (h : '=' ∉ e.1) :
    namedValue? (written e) = (percentDecoded? e.2).map (e.1, ·) := by
  have hsplit : Text.split? ['='] (written e) = some (e.1, e.2) := by
    simpa [written] using Text.split?_append_of_notMem [] h e.2
  rw [namedValue?, hsplit, Option.bind_some]

theorem percentDecoded?_of_notMem {s : List Char} (h : '%' ∉ s) : percentDecoded? s = some s := by
  induction s with
  | nil => rfl
  | cons c s ih =>
      rw [percentDecoded?_cons (List.ne_of_not_mem_cons h).symm,
        ih (List.not_mem_of_not_mem_cons h), Option.map_some]

theorem percentDecoded?_decimal (n : Nat) :
    percentDecoded? (Text.decimal n) = some (Text.decimal n) :=
  percentDecoded?_of_notMem (Text.notMem_decimal rfl n)

/-- What a command says when its codes are read. -/
def told (file : String) (d : Diagnostic) : Command :=
  ⟨(level d.severity).toList,
    [("file".toList, file.toList), ("line".toList, Text.decimal d.line),
      ("col".toList, Text.decimal d.column), ("title".toList, d.source.toList)],
    d.message.toList⟩

theorem mapM_namedValue?_fields (file : String) (d : Diagnostic) :
    ((fields file d).map written).mapM namedValue? = some (told file d).properties := by
  simp [fields, told, namedValue?_written, percentDecoded?_property, percentDecoded?_decimal]

theorem split?_head (file : String) (d : Diagnostic) :
    Text.split? [' '] (head file d) =
      some ((level d.severity).toList, List.intercalate [','] ((fields file d).map written)) := by
  have hblank : ' ' ∉ (level d.severity).toList := by
    cases d.severity <;> decide
  rw [head, List.append_cons]
  exact Text.split?_append_of_notMem [] hblank _

theorem command?_command (file : String) (d : Diagnostic) :
    command? (command file d).toList = some (told file d) := by
  have hhead : ':' ∉ head file d := notMem_head (by simp)
  have hmessage := Text.split?_append_of_notMem [':'] hhead (data d.message).toList
  simp only [command?, toList_command, Text.after?_append, hmessage, split?_head, cells_fields,
    mapM_namedValue?_fields, percentDecoded?_data, Option.bind_eq_bind, Option.bind_some]
  rfl

theorem number?_decimal (n : Nat) : number? (Text.decimal n) = some n := by
  have hall : (Text.decimal n).all Char.isDigit = true :=
    List.all_eq_true.2 Text.isDigit_of_mem_decimal
  rw [number?, if_pos ⟨Text.decimal_ne_nil n, hall⟩, Text.digitsValue_decimal]

theorem severity?_level (s : Severity) : severity? (level s).toList = some s := by
  cases s <;> decide

theorem finding?_told (file : String) (d : Diagnostic) :
    (told file d).finding? = some (found file d) := by
  have hsource : (told file d).properties.lookup "title".toList = some d.source.toList := rfl
  have hfile : (told file d).properties.lookup "file".toList = some file.toList := rfl
  have hline : (told file d).properties.lookup "line".toList = some (Text.decimal d.line) := rfl
  have hcolumn : (told file d).properties.lookup "col".toList = some (Text.decimal d.column) := rfl
  have hlevel : severity? (told file d).level = some d.severity := severity?_level d.severity
  simp only [Command.finding?, hlevel, hfile, hline, hcolumn, hsource, number?_decimal,
    Option.bind_eq_bind, Option.bind_some, String.ofList_toList]
  simp [found, told, Diagnostic.line, Diagnostic.column]

theorem lines_commands (file : String) {ds : List Diagnostic} (h : ds ≠ []) :
    Text.lines (commands file ds).toList = ds.map fun d => (command file d).toList := by
  have hclear : ∀ l ∈ ds.map fun d => (command file d).toList, '\n' ∉ l := by
    simpa using fun d _ => notMem_command (d := d) (Or.inr rfl)
  have htext : (commands file ds).toList =
      List.intercalate ['\n'] (ds.map fun d => (command file d).toList) := by
    simp [commands, String.toList_intercalate, Function.comp_def]
  rw [htext, Text.lines, Text.cells_eq_splitOn, List.splitOn_intercalate '\n' hclear (by simpa)]

/-- There is one line for each diagnostic, and no carriage return. Read as a workflow command, each
line gives back its diagnostic: severity, place, source and the whole message. The codes are those
of one replacement after the other, percent signs first, and no two texts have the same. -/
theorem findings_of_annotations (coloured : Bool) (file : String) {ds : List Diagnostic}
    (h : ds ≠ []) :
    ((Text.lines (Output.document .annotations coloured file ds).toList).map finding? =
      ds.map fun d => some (found file d)) ∧
    '\r' ∉ (Output.document .annotations coloured file ds).toList ∧
    Function.Injective data ∧ Function.Injective property ∧
    (∀ s, (data s).toList =
      Text.replaceAll ['\n'] "%0A".toList
        (Text.replaceAll ['\r'] "%0D".toList (Text.replaceAll ['%'] "%25".toList s.toList))) ∧
    ∀ s, (property s).toList =
      Text.replaceAll [','] "%2C".toList (Text.replaceAll [':'] "%3A".toList (data s).toList) := by
  refine ⟨?_, ?_, ?_, ?_, toList_data, toList_property⟩
  · rw [Output.document, lines_commands file h, List.map_map]
    refine List.map_congr_left fun d _ => ?_
    rw [Function.comp_apply, finding?, command?_command, Option.bind_some, finding?_told]
  · rw [Output.document, commands, String.toList_intercalate]
    apply Text.notMem_intercalate
    · decide
    · simpa using fun d _ => notMem_command (d := d) (Or.inl rfl)
  · exact injective_of_percentDecoded? percentDecoded?_data
  · exact injective_of_percentDecoded? percentDecoded?_property

/-- A diagnostic whose texts look like codes and like the structure of a command. -/
def misleading : Diagnostic :=
  ⟨.warning, .point ⟨1, 2, 30⟩, "100%\r\n::%0A,", [], "a:b,c"⟩

theorem findings_of_annotations_misleading :
    [misleading] ≠ [] ∧
    Output.document .annotations false "a,b::%25.md" [misleading] =
      "::warning file=a%2Cb%3A%3A%2525.md,line=2,col=3,title=a%3Ab%2Cc::100%25%0D%0A::%250A," ∧
    (Text.lines (Output.document .annotations false "a,b::%25.md" [misleading]).toList).map
        finding? =
      [some ⟨.warning, "a,b::%25.md", 2, 3, "a:b,c", "100%\r\n::%0A,"⟩] := by
  have hne : [misleading] ≠ [] := List.cons_ne_nil misleading []
  refine ⟨hne, ?_, (findings_of_annotations false "a,b::%25.md" hne).1⟩
  decide +kernel

end FenceCheck.Annotation
