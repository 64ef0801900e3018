import FenceCheck.Host.Pattern
import FenceCheck.Host.Tool

namespace FenceCheck.Host.Tool

/-!
# Tools for lines

Lines are bytes. Patterns look at them as text.
-/

/-- The bytes of all operands, one after the other, with complaints about the others. -/
def gather (t : Task) (operands : List String) : List UInt8 × Done :=
  operands.foldl (fun (bytes, d) operand =>
    match t.source operand with
    | .ok more => (bytes ++ more, d)
    | .error fault => (bytes, d.after (t.complains 1 s!"{operand}: {fault.reason}"))) ([], t.done 0)

/-- A tool that makes lines of lines. -/
def ofLines (valued : List Char) (f : Arguments → List (List UInt8) → List (List UInt8)) : Tool :=
  fun t =>
    let a := Arguments.read valued t.args
    let (bytes, d) := gather t (a.operandsOr "-")
    { d with out := unlines (f a (linesOf bytes).1) }

def le (a b : List UInt8) : Bool :=
  !decide (b.map UInt8.toNat < a.map UInt8.toNat)

def leadingNumber (line : List UInt8) : Int :=
  let s := (textOf line).toList.dropWhile (· == ' ')
  match s with
  | '-' :: ds => -(Text.digitsValue (ds.takeWhile Char.isDigit))
  | ds => Text.digitsValue (ds.takeWhile Char.isDigit)

/-- Neighbours that are equal, with their number. -/
def runs : List (List UInt8) → List (Nat × List UInt8)
  | [] => []
  | line :: lines =>
      match runs lines with
      | (n, other) :: more =>
          if line = other then (n + 1, other) :: more else (1, line) :: (n, other) :: more
      | [] => [(1, line)]

def sort : Tool := ofLines ['k', 't', 'o'] fun a lines =>
  let ordered :=
    if a.has 'n' then lines.mergeSort fun x y =>
      leadingNumber x < leadingNumber y || (leadingNumber x == leadingNumber y && le x y)
    else lines.mergeSort le
  let ordered := if a.has 'r' then ordered.reverse else ordered
  if a.has 'u' then (runs ordered).map Prod.snd else ordered

def padNumber (width n : Nat) : List UInt8 :=
  let digits := bytesOf (toString n)
  List.replicate (width - digits.length) 32 ++ digits

def uniq : Tool := ofLines [] fun a lines =>
  (runs lines).filterMap fun (n, line) =>
    if (a.has 'd' && n < 2) || (a.has 'u' && 1 < n) then none
    else some (if a.has 'c' then padNumber 7 n ++ 32 :: line else line)

def rev : Tool := ofLines [] fun _ lines =>
  lines.map fun line => bytesOf (String.ofList (textOf line).toList.reverse)

def tac : Tool := ofLines [] fun _ lines => lines.reverse

/-! ## Counting -/

def wordCount : Bool → List UInt8 → Nat
  | inside, [] => if inside then 1 else 0
  | inside, b :: bs =>
      if b = 32 ∨ (9 ≤ b ∧ b ≤ 13) then (if inside then 1 else 0) + wordCount false bs
      else wordCount true bs

def wc : Tool := fun t =>
  let a := Arguments.read [] t.args
  let counts (bytes : List UInt8) : List Nat :=
    let wanted := a.flags.filter fun c => c == 'l' || c == 'w' || c == 'c' || c == 'm'
    let shows (c : Char) := wanted.isEmpty || wanted.contains c
    (if shows 'l' then [bytes.count 10] else []) ++
      (if shows 'w' then [wordCount false bytes] else []) ++
      (if shows 'c' then [bytes.length]
        else if shows 'm' then [(textOf bytes).length] else [])
  t.each (a.operandsOr "-") fun t operand =>
    match t.source operand with
    | .error fault => t.complains 1 s!"{operand}: {fault.reason}"
    | .ok bytes =>
        let ns := counts bytes
        let width :=
          if ns.length < 2 then 0
          else if operand = "-" then 7
          else (toString bytes.length).length
        let shown := List.intercalate [32] (ns.map (padNumber width))
        t.prints (shown ++ (if operand = "-" then [] else 32 :: bytesOf operand) ++ [10])

/-! ## Characters and fields -/

/-- The bytes of a set, with its ranges, classes and escapes read. -/
def byteSet : Nat → List Char → List UInt8
  | 0, _ => []
  | _, [] => []
  | n + 1, c :: s =>
      match Pattern.classes.find? fun e => e.1.toList.isPrefixOf (c :: s) with
      | some (name, ranges) =>
          (ranges.flatMap fun r =>
            (List.range (r.2.toNat - r.1.toNat + 1)).map fun i => UInt8.ofNat (r.1.toNat + i)) ++
            byteSet n (s.drop (name.length - 1))
      | none =>
          let (first, s) : List UInt8 × List Char :=
            if c = '\\' then
              match s with
              | [] => ([92], [])
              | e :: s =>
                  let digits := ((e :: s).take 3).takeWhile fun c => '0' ≤ c && c ≤ '7'
                  if !digits.isEmpty then
                    ([UInt8.ofNat (digits.foldl (fun v d => 8 * v + (d.toNat - 48)) 0)],
                      (e :: s).drop digits.length)
                  else
                    let controls := [('a', 7), ('b', 8), ('f', 12), ('n', 10), ('r', 13),
                      ('t', 9), ('v', 11)]
                    ((controls.lookup e).elim (bytesOf e.toString) fun b => [b], s)
            else (bytesOf c.toString, s)
          match first, s with
          | [low], '-' :: e :: t =>
              (List.range (e.toNat - low.toNat + 1)).map (fun i => UInt8.ofNat (low.toNat + i)) ++
                byteSet n t
          | first, s => first ++ byteSet n s

/-- Neighbouring repetitions of members of a set, all but one of each left out. -/
def squeeze (set bytes : List UInt8) : List UInt8 :=
  (bytes.foldl (fun (kept : List UInt8) b =>
    if kept.head? = some b ∧ set.contains b then kept else b :: kept) []).reverse

def tr : Tool := fun t =>
  let a := Arguments.read [] t.args
  let set (s : String) := byteSet (s.length + 1) s.toList
  let complement := a.has 'c' || a.has 'C'
  let chosen (s : String) : List UInt8 :=
    if complement then
      ((List.range 256).map UInt8.ofNat).filter fun b => !(set s).contains b
    else set s
  match a.operands with
  | [] => t.complains 1 "missing operand"
  | [s] =>
      let members := chosen s
      t.prints (if a.has 'd' then t.input.filter fun b => !members.contains b
        else if a.has 's' then squeeze members t.input else t.input)
  | s :: u :: _ =>
      let source := chosen s
      let target := set u
      let exchange (b : UInt8) : UInt8 :=
        match source.idxOf? b with
        | some i => target.getD i (target.getLastD b)
        | none => b
      let out := if a.has 'd' then t.input.filter fun b => !source.contains b
        else t.input.map exchange
      t.prints (if a.has 's' then squeeze target out else out)

/-- Whether a position, counted from one, lies in a list of numbers and ranges. -/
def inList (list : String) (i : Nat) : Bool :=
  (list.splitOn ",").any fun item =>
    match item.splitOn "-" with
    | [n] => n.toNat? == some i
    | [low, high] => (low.toNat?.getD 1) ≤ i && (high == "" || i ≤ high.toNat?.getD 0)
    | _ => false

def chosen {α : Type} (list : String) (items : List α) : List α :=
  (items.zipIdx.filter fun e => inList list (e.2 + 1)).map Prod.fst

def cut : Tool := ofLines ['d', 'f', 'c', 'b'] fun a lines =>
  match a.setting? 'f' with
  | some list =>
      let separator := (bytesOf ((a.setting? 'd').getD "\t")).headD 9
      lines.filterMap fun line =>
        if !line.contains separator then (if a.has 's' then none else some line)
        else some (List.intercalate [separator] (chosen list (Text.cells separator line)))
  | none =>
      let list := ((a.setting? 'c').or (a.setting? 'b')).getD ""
      lines.map (chosen list)

/-! ## Searching -/

/-- A pattern that does not look at the case of letters, on text in lower case. -/
def caseless (a : Arguments) (s : List Char) : List Char :=
  if a.has 'i' then s.map Char.toLower else s

def branchesOf (a : Arguments) (pattern : String) : Option (List (List Pattern)) :=
  let each (s : List Char) : Option (List (List Pattern)) :=
    let s := caseless a s
    let read := if a.has 'F' then some (Pattern.literal s) else Pattern.read? (a.has 'E') s
    read.map fun branches =>
      if a.has 'x' then [[.start, .group 0 branches, .stop]] else branches
  ((Text.lines pattern.toList).mapM each).map List.flatten

/-- All texts that a pattern finds in a line. -/
def foundIn (branches : List (List Pattern)) (total : Nat) : Nat → List Char → List (List Char)
  | 0, _ => []
  | n + 1, s =>
      match Pattern.find? branches total [] s with
      | none => []
      | some o =>
          if o.found.isEmpty then (if o.rest.isEmpty then [] else foundIn branches total n o.rest.tail)
          else o.found :: foundIn branches total n o.rest

def grepWith (extra : List Char) : Tool := fun t =>
  let a := Arguments.read ['e', 'm'] t.args
  let a := { a with flags := extra ++ a.flags }
  let (pattern, operands) := match a.setting? 'e' with
    | some p => (p, a.operands)
    | none => (a.operands.headD "", a.operands.tail)
  match branchesOf a pattern with
  | none => t.complains 2 "Invalid regular expression"
  | some branches =>
      let files := if operands.isEmpty then ["-"] else operands
      let label (file : String) : List UInt8 :=
        if (files.length < 2 && !a.has 'H') || a.has 'h' then []
        else bytesOf ((if file = "-" then "(standard input)" else file) ++ ":")
      let search (file : String) : Except Fault (List UInt8 × Bool) :=
        (t.source file).map fun bytes =>
          let lines := (linesOf bytes).1
          let hits := lines.zipIdx.filter fun e =>
            Pattern.occursIn branches (caseless a (textOf e.1).toList) != a.has 'v'
          let hits := match (a.setting? 'm').bind String.toNat? with
            | some m => hits.take m
            | none => hits
          let out :=
            if a.has 'q' then []
            else if a.has 'l' then (if hits.isEmpty then [] else bytesOf file ++ [10])
            else if a.has 'c' then label file ++ bytesOf (toString hits.length) ++ [10]
            else hits.flatMap fun e =>
              let front := label file ++
                if a.has 'n' then bytesOf (toString (e.2 + 1) ++ ":") else []
              if a.has 'o' then
                (foundIn branches e.1.length (e.1.length + 1) (textOf e.1).toList).flatMap
                  fun found => front ++ bytesOf (String.ofList found) ++ [10]
              else front ++ e.1 ++ [10]
          (out, !hits.isEmpty)
      files.foldl (fun d file =>
        match search file with
        | .ok (out, hit) =>
            { d with out := d.out ++ out, code := if hit && d.code == 1 then 0 else d.code }
        | .error fault =>
            { d with
              err := if a.has 's' then d.err else d.err ++ s!"{t.name}: {file}: {fault.reason}\n"
              code := 2 }) (t.done 1)

def grep : Tool := grepWith []

/-! ## Editing -/

inductive Address
  | line (n : Nat)
  | last
  | pattern (branches : List (List Pattern))

inductive EditAction
  /-- Leaves the first `skipped` occurrences alone. -/
  | substitute (branches : List (List Pattern)) (new : List Char) (skipped : Nat)
      (everywhere prints : Bool)
  | print
  | delete
  | quit
  | number

structure Edit where
  first : Option Address
  last : Option Address
  negated : Bool
  action : EditAction

namespace Edit

/-- A text up to a sign that is not escaped; an escaped sign loses its backslash. -/
def upTo (sign : Char) : List Char → Option (List Char × List Char)
  | [] => none
  | '\\' :: c :: s =>
      (upTo sign s).map fun (t, rest) =>
        (if c = sign then c :: t else if c = 'n' then '\n' :: t else '\\' :: c :: t, rest)
  | c :: s =>
      if c = sign then some ([], s) else (upTo sign s).map fun (t, rest) => (c :: t, rest)

def address? (extended : Bool) (s : List Char) : Option (Option Address × List Char) :=
  match s with
  | '$' :: s => some (some .last, s)
  | '/' :: s => do
      let (p, s) ← upTo '/' s
      return (some (.pattern (← Pattern.read? extended p)), s)
  | s =>
      let digits := s.takeWhile Char.isDigit
      if digits.isEmpty then some (none, s)
      else some (some (.line (Text.digitsValue digits)), s.drop digits.length)

def isGap (c : Char) : Bool := c == ' ' || c == ';' || c == '\n' || c == '\t'

def read? (extended : Bool) : Nat → List Char → Option (List Edit)
  | 0, _ => none
  | n + 1, s => do
      let s := s.dropWhile isGap
      if s.isEmpty then return []
      let (first, s) ← address? extended s
      let (last, s) ← match s with
        | ',' :: s => address? extended s
        | s => some (none, s)
      let s := s.dropWhile (· == ' ')
      let (negated, s) := match s with
        | '!' :: s => (true, s)
        | s => (false, s)
      let (action, s) ← match s with
        | 'p' :: s => some (EditAction.print, s)
        | 'd' :: s => some (EditAction.delete, s)
        | 'q' :: s => some (EditAction.quit, s)
        | '=' :: s => some (EditAction.number, s)
        | 's' :: sign :: s => do
            let (old, s) ← upTo sign s
            let (new, s) ← upTo sign s
            let flags := s.takeWhile fun c => c == 'g' || c == 'p' || c.isDigit
            let first := Text.digitsValue (flags.filter Char.isDigit)
            some (.substitute (← Pattern.read? extended old) new (first - 1)
              (flags.contains 'g') (flags.contains 'p'), s.drop flags.length)
        | _ => none
      let more ← read? extended n s
      return ⟨first, last, negated, action⟩ :: more

/-- What an occurrence is replaced by. -/
def replacement (o : Pattern.Occurrence) : List Char → List Char
  | [] => []
  | '\\' :: c :: s =>
      (if c.isDigit then
        (if c = '0' then o.found else (o.groups.lookup (c.toNat - 48)).getD [])
      else [c]) ++ replacement o s
  | '&' :: s => o.found ++ replacement o s
  | c :: s => c :: replacement o s

/-- A line with occurrences replaced, and whether there were any. An empty occurrence right
behind another one, where `joined`, does not count. -/
def substitute (branches : List (List Pattern)) (new : List Char) (everywhere : Bool)
    (total : Nat) : Nat → Nat → Bool → List Char → List Char × Bool
  | 0, _, _, s => (s, false)
  | n + 1, skipped, joined, s =>
      match Pattern.find? branches total [] s with
      | none => (s, false)
      | some o =>
          let counts := !(joined && o.before.isEmpty && o.found.isEmpty)
          let changes := counts && skipped == 0
          let done := o.before ++ if changes then replacement o new else o.found
          let skipped := if counts then skipped - 1 else skipped
          if changes && !everywhere then (done ++ o.rest, true)
          else if o.found.isEmpty then
            match o.rest with
            | [] => (done, changes)
            | c :: rest =>
                let (more, hit) := substitute branches new everywhere total n skipped false rest
                (done ++ c :: more, changes || hit)
          else
            let (more, hit) := substitute branches new everywhere total n skipped true o.rest
            (done ++ more, changes || hit)

def selects (a : Address) (i : Nat) (isLast : Bool) (line : List Char) : Bool :=
  match a with
  | .line n => n == i
  | .last => isLast
  | .pattern branches => Pattern.occursIn branches line

/-- Whether an edit is on for a line, and whether it stays on behind it. -/
def covers (e : Edit) (on : Bool) (i : Nat) (isLast : Bool) (line : List Char) : Bool × Bool :=
  match e.first, e.last with
  | none, _ => (true, false)
  | some a, none => (selects a i isLast line, false)
  | some a, some b =>
      if on then (true, !(selects b i isLast line))
      else if selects a i isLast line then
        (true, match b with
          | .line n => i < n
          | _ => !isLast)
      else (false, false)

end Edit

/-- A line on its way through a script. -/
structure Editing where
  line : List Char
  out : List (List Char)
  alive : Bool
  quits : Bool

def edit (e : Edit) (i : Nat) (s : Editing) : Editing :=
  match e.action with
  | .print => { s with out := s.out ++ [s.line] }
  | .delete => { s with alive := false }
  | .quit => { s with quits := true }
  | .number => { s with out := s.out ++ [(toString i).toList] }
  | .substitute branches new skipped everywhere prints =>
      let (line, hit) :=
        Edit.substitute branches new everywhere s.line.length (s.line.length + 1) skipped false
          s.line
      { s with line := line, out := if hit && prints then s.out ++ [line] else s.out }

/-- One line through all edits; the list of marks tells which ranges are open. -/
def editLine (i : Nat) (isLast : Bool) : List Edit → List Bool → Editing → Editing × List Bool
  | [], _, s => (s, [])
  | e :: es, marks, s =>
      let on := marks.headD false
      if !s.alive || s.quits then
        let (s', rest) := editLine i isLast es marks.tail s
        (s', on :: rest)
      else
        let (hit, stays) := e.covers on i isLast s.line
        let s := if hit != e.negated then edit e i s else s
        let (s, rest) := editLine i isLast es marks.tail s
        (s, stays :: rest)

def editLines (edits : List Edit) (quiet : Bool) :
    Nat → List Bool → List (List Char) → List (List Char)
  | _, _, [] => []
  | i, marks, line :: lines =>
      let (s, marks) := editLine i lines.isEmpty edits marks ⟨line, [], true, false⟩
      let out := s.out ++ if s.alive && !quiet then [s.line] else []
      if s.quits then out else out ++ editLines edits quiet (i + 1) marks lines

def sed : Tool := fun t =>
  let a := Arguments.read ['e'] t.args
  let (script, operands) := match a.setting? 'e' with
    | some p => (p, a.operands)
    | none => (a.operands.headD "", a.operands.tail)
  match Edit.read? (a.has 'E' || a.has 'r') (script.length + 1) script.toList with
  | none => t.complains 1 s!"-e expression #1, char {script.length}: unknown command"
  | some edits =>
      let (bytes, d) := gather t (if operands.isEmpty then ["-"] else operands)
      let (lines, ended) := linesOf bytes
      let out := editLines edits (a.has 'n') 1 [] (lines.map fun line => (textOf line).toList)
      let shown := out.map fun line => bytesOf (String.ofList line)
      { d with
        out := unlinesAs (ended || lines.isEmpty) shown
        err := d.err.replace s!"{t.name}: " s!"{t.name}: can\x27t read "
        code := if d.code = 0 then 0 else 2 }

end FenceCheck.Host.Tool
