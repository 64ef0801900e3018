import FenceCheck.Output
import FenceCheck.Proofs.Json.Grammar

namespace FenceCheck

/-!
# What printed findings denote

A printed value is a JSON text that denotes that value, whatever characters its strings
hold. So the text of all findings denotes one array with a record of each of them, in
order, and nothing else.
-/

namespace Json

/-! ## Printed values -/

mutual

/-- What a value for printing denotes. -/
def meaning : Json → Value
  | string s => .string s
  | number n => .number n
  | array items => .array (itemMeanings items)
  | object members => .object (memberMeanings members)

def itemMeanings : List Json → List Value
  | [] => []
  | item :: items => item.meaning :: itemMeanings items

def memberMeanings : List (String × Json) → List (String × Value)
  | [] => []
  | (name, v) :: members => (name, v.meaning) :: memberMeanings members

end

theorem itemMeanings_eq_map (items : List Json) : itemMeanings items = items.map meaning := by
  induction items with
  | nil => rfl
  | cons item items ih => rw [itemMeanings, ih, List.map_cons]

theorem digits_decimal (n : Nat) (r : List Char) :
    Digits (Text.decimal n) (Text.decimal n ++ r) r :=
  ⟨Text.decimal_ne_nil n, Text.isDigit_of_mem_decimal, rfl⟩

theorem number_decimal (n : Nat) (r : List Char) : Number n (Text.decimal n ++ r) r := by
  have h := Magnitude.intro (digits_decimal n r) Text.decimal_eq_of_head? (.none r) (.none r)
  apply Number.positive
  simpa [Text.digitsValue_decimal] using h

theorem codeUnit_hexDigits {c : Char} (hc : c.toNat < 32) (r : List Char) :
    CodeUnit c.toNat (hexDigits c ++ r) r := by
  have h : (hexDigits c).length = 4 ∧ hexValue? (hexDigits c) = some c.toNat :=
    Text.forall_char_of_lt hc (by decide)
  match hexDigits c, h with
  | [_, _, _, _], h => exact .intro r h.2

theorem letter_escape (c : Char) (r : List Char) : Letter c (escape c ++ r) r := by
  unfold escape
  split
  · next h => subst h; exact .short r (by decide)
  split
  · next h => subst h; exact .short r (by decide)
  split
  · next h => subst h; exact .short r (by decide)
  split
  · next h => subst h; exact .short r (by decide)
  split
  · next h => subst h; exact .short r (by decide)
  split
  · next h => rw [Text.eq_ofNat h]; exact .short r (by decide)
  split
  · next h => rw [Text.eq_ofNat h]; exact .short r (by decide)
  split
  · next h => exact .coded (codeUnit_hexDigits h r)
  · next hquote hescape _ _ _ _ _ h => exact .plain r (Nat.le_of_not_lt h) hquote hescape

theorem letters_escape (cs r : List Char) : Letters cs (cs.flatMap escape ++ '"' :: r) r := by
  induction cs with
  | nil => exact .close r
  | cons c cs ih =>
      rw [List.flatMap_cons, List.append_assoc]
      exact .letter (letter_escape c _) ih

theorem quoted_append (s : String) (r : List Char) :
    quoted s ++ r = '"' :: (s.toList.flatMap escape ++ '"' :: r) := by
  simp [quoted]

theorem space_newLine (depth : Nat) (r : List Char) : Space (newLine depth ++ r) r := by
  refine .some (by decide) ?_
  generalize 2 * depth = n
  induction n with
  | zero => exact .none r
  | succ n ih => exact .some (by decide) ih

/-- An item on a line of its own. -/
theorem Spells.item (depth : Nat) {v : Value} {text rest r : List Char}
    (h : Spells (.value v) (text ++ rest) rest) (after : Space rest r) :
    Spells (.element v) (newLine depth ++ (text ++ rest)) r :=
  .element (space_newLine depth _) h after

/-- A member on a line of its own. -/
theorem Spells.entry (depth : Nat) (name : String) {v : Value} {text rest r : List Char}
    (h : Spells (.value v) (text ++ rest) rest) (after : Space rest r) :
    Spells (.member name v)
      (newLine depth ++ (quoted name ++ (':' :: ' ' :: (text ++ rest)))) r := by
  have hvalue : Spells (.element v) (' ' :: (text ++ rest)) r :=
    .element (.some (by decide) (.none _)) h after
  have hmember := Spells.member (space_newLine depth _) (letters_escape name.toList _)
    (.none _) hvalue
  rwa [String.ofList_toList, ← quoted_append] at hmember

mutual

theorem spells_render (depth : Nat) (r : List Char) :
    (j : Json) → Spells (.value j.meaning) (j.render depth ++ r) r
  | string s => by
      have h := Spells.string (letters_escape s.toList r)
      rw [String.ofList_toList, ← quoted_append] at h
      simpa [render, meaning] using h
  | number n => by
      simpa [render, meaning] using Spells.number (number_decimal n r)
  | array [] => by
      simpa [render, meaning, itemMeanings] using Spells.emptyArray (.none (']' :: r))
  | array (item :: items) => by
      have h := spells_renderItems depth r items fun after =>
        Spells.item (depth + 1) (spells_render (depth + 1) _ item) after
      simpa [render, meaning, itemMeanings] using Spells.array h
  | object [] => by
      simpa [render, meaning, memberMeanings] using Spells.emptyObject (.none ('}' :: r))
  | object ((name, v) :: members) => by
      have h := spells_renderMembers depth r members fun after =>
        Spells.entry (depth + 1) name (spells_render (depth + 1) _ v) after
      simpa [render, meaning, memberMeanings] using Spells.object h

/-- What follows an element in an array. The blanks behind the element belong to it, so `h`
speaks of all of them. -/
theorem spells_renderItems (depth : Nat) (r : List Char) {v : Value} {s : List Char} :
    (items : List Json) →
      (∀ {u}, Space (renderItems depth items ++ r) u → Spells (.element v) s u) →
      Spells (.elements (v :: itemMeanings items)) s r
  | [], h => by
      refine .lastElement (h ?_)
      simpa [renderItems] using space_newLine depth (']' :: r)
  | item :: items, h => by
      have hnext := spells_renderItems depth r items fun after =>
        Spells.item (depth + 1) (spells_render (depth + 1) _ item) after
      refine .elements (h ?_) hnext
      simpa [renderItems] using Space.none _

theorem spells_renderMembers (depth : Nat) (r : List Char) {name : String} {v : Value}
    {s : List Char} :
    (members : List (String × Json)) →
      (∀ {u}, Space (renderMembers depth members ++ r) u → Spells (.member name v) s u) →
      Spells (.members ((name, v) :: memberMeanings members)) s r
  | [], h => by
      refine .lastMember (h ?_)
      simpa [renderMembers] using space_newLine depth ('}' :: r)
  | (next, w) :: members, h => by
      have hnext := spells_renderMembers depth r members fun after =>
        Spells.entry (depth + 1) next (spells_render (depth + 1) _ w) after
      refine .members (h ?_) hnext
      simpa [renderMembers] using Space.none _

end

theorem denotes_print_iff (j : Json) (v : Value) : Denotes j.print.toList v ↔ v = j.meaning := by
  have h : Denotes j.print.toList j.meaning := by
    have hspells := Spells.element (.none _) (spells_render 0 [] j) (.none [])
    simpa [Denotes, print] using hspells
  constructor
  · intro hv
    exact hv.unique h
  · rintro rfl
    exact h

end Json

/-! ## Findings -/

open Json (Value)

def Related.record (r : Related) : Value :=
  .object
    [("line", .number (r.position.line + 1 : Nat)),
      ("column", .number (r.position.column + 1 : Nat)), ("message", .string r.message)]

/-- What the text of all findings tells of one of them. -/
def Diagnostic.record (file : String) (d : Diagnostic) : Value :=
  .object
    [("file", .string file), ("line", .number (d.span.start.line + 1 : Nat)),
      ("column", .number (d.span.start.column + 1 : Nat)),
      ("offset", .number (d.span.start.offset : Nat)),
      ("severity", .string
        (match d.severity with
          | .error => "error"
          | .warning => "warning"
          | .information => "information")),
      ("message", .string d.message), ("source", .string d.source),
      ("related", .array (d.related.map Related.record))]

theorem Related.meaning_json (r : Related) : r.json.meaning = r.record := rfl

theorem Diagnostic.meaning_json (file : String) (d : Diagnostic) :
    (d.json file).meaning = d.record file := by
  have hrelated : Json.itemMeanings (d.related.map Related.json) =
      d.related.map Related.record := by
    rw [Json.itemMeanings_eq_map, List.map_map]
    exact List.map_congr_left fun r _ => r.meaning_json
  simp only [json, record, Json.meaning, Json.memberMeanings, hrelated]
  rfl

namespace Output

theorem meaning_findings (documents : List (String × List Diagnostic)) :
    (Json.array (documents.flatMap fun e => e.2.map (Diagnostic.json e.1))).meaning =
      .array (documents.flatMap fun e => e.2.map (Diagnostic.record e.1)) := by
  have hrecord : ∀ file, Json.meaning ∘ Diagnostic.json file = Diagnostic.record file := by
    intro file
    funext d
    exact d.meaning_json file
  simp [Json.meaning, Json.itemMeanings_eq_map, List.map_flatMap, hrecord]

/-- The text of all findings denotes the array of their records, document by document, and
denotes nothing else. That of one document alone is the same text. -/
theorem denotes_jsonAll_iff (documents : List (String × List Diagnostic)) :
    (∀ v, Json.Denotes (jsonAll documents).toList v ↔
      v = .array (documents.flatMap fun e => e.2.map (Diagnostic.record e.1))) ∧
    ∀ coloured file ds, document .json coloured file ds = jsonAll [(file, ds)] := by
  constructor
  · intro v
    rw [← meaning_findings]
    exact Json.denotes_print_iff _ v
  · intro coloured file ds
    simp [document, json, jsonAll]

end Output

end FenceCheck
