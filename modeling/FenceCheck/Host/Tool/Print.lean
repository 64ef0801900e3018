import FenceCheck.Host.Tool

namespace FenceCheck.Host.Tool

/-!
# Tools that print and tools that test
-/

/-- A character from up to `n` octal digits, and what follows them. -/
def octal (n : Nat) (s : List Char) : UInt8 × List Char :=
  let digits := (s.take n).takeWhile fun c => '0' ≤ c && c ≤ '7'
  (UInt8.ofNat (digits.foldl (fun v d => 8 * v + (d.toNat - 48)) 0), s.drop digits.length)

/-- The letters that stand for control characters behind a backslash. -/
def controls : List (Char × UInt8) :=
  [('a', 7), ('b', 8), ('f', 12), ('n', 10), ('r', 13), ('t', 9), ('v', 11), ('\\', 92)]

def utf8 (c : Char) : List UInt8 := c.toString.toUTF8.toList

/-- A text with its escapes read. `zeroed` asks for a zero in front of octal digits; a
letter c ends all printing. -/
def unescape (zeroed : Bool) : Nat → List Char → List UInt8 × Bool
  | 0, _ => ([], false)
  | _, [] => ([], false)
  | n + 1, '\\' :: e :: s =>
      match controls.lookup e with
      | some b => let (more, stop) := unescape zeroed n s; (b :: more, stop)
      | none =>
          if e = 'c' then ([], true)
          else if zeroed ∧ e = '0' then
            let (b, s) := octal 3 s
            let (more, stop) := unescape zeroed n s
            (b :: more, stop)
          else if !zeroed ∧ '0' ≤ e ∧ e ≤ '7' then
            let (b, s) := octal 3 (e :: s)
            let (more, stop) := unescape zeroed n s
            (b :: more, stop)
          else
            let (more, stop) := unescape zeroed n s
            (92 :: utf8 e ++ more, stop)
  | n + 1, c :: s => let (more, stop) := unescape zeroed n s; (utf8 c ++ more, stop)

/-- The builtin of the shell, which always reads escapes. -/
def shellEcho : Tool := fun t =>
  let (args, bare) := match t.args with
    | "-n" :: args => (args, true)
    | args => (args, false)
  let text := (String.intercalate " " args).toList
  let (out, stop) := unescape true (text.length + 1) text
  t.prints (if bare || stop then out else out ++ [10])

/-- The options at the front of an `echo`; anything else begins the text. -/
def echoOptions : List String → List Char × List String
  | [] => ([], [])
  | arg :: args =>
      match arg.toList with
      | '-' :: c :: cs =>
          if (c :: cs).all fun c => c == 'n' || c == 'e' || c == 'E' then
            let (more, args) := echoOptions args
            (c :: cs ++ more, args)
          else ([], arg :: args)
      | _ => ([], arg :: args)

def echo : Tool := fun t =>
  let (options, args) := echoOptions t.args
  let text := String.intercalate " " args
  let escaped := (options.reverse.find? fun c => c == 'e' || c == 'E') == some 'e'
  let (out, stop) :=
    if escaped then unescape true (text.length + 1) text.toList else (bytesOf text, false)
  t.prints (if options.contains 'n' || stop then out else out ++ [10])

/-! ## Formats -/

def pad (flags : List Char) (width : Nat) (s : List Char) : List Char :=
  let room := width - s.length
  if flags.contains '-' then s ++ List.replicate room ' '
  else if flags.contains '0' then
    match s with
    | '-' :: s => '-' :: List.replicate room '0' ++ s
    | s => List.replicate room '0' ++ s
  else List.replicate room ' ' ++ s

/-- A number as an argument gives it; a quote stands for the code of a character. -/
def numberOf (s : String) : Int :=
  match s.toList with
  | '\x27' :: c :: _ => c.toNat
  | '"' :: c :: _ => c.toNat
  | '+' :: ds => (String.ofList ds).toNat?.getD 0
  | _ => s.toInt?.getD 0

def convert (kind : Char) (flags : List Char) (width : Nat) (precision : Option Nat)
    (arg : String) : List UInt8 :=
  let emit (s : List Char) := bytesOf (String.ofList (pad flags width s))
  let n := numberOf arg
  let sign := if flags.contains '+' && 0 ≤ n then ['+'] else []
  if kind = 's' then
    pad (flags.filter (· != '0')) width ((precision.elim arg.toList arg.toList.take)) |>
      fun s => bytesOf (String.ofList s)
  else if kind = 'b' then (unescape true (arg.length + 1) arg.toList).1
  else if kind = 'c' then emit (arg.toList.take 1)
  else if kind = 'x' then emit (Nat.toDigits 16 n.toNat)
  else if kind = 'X' then emit ((Nat.toDigits 16 n.toNat).map Char.toUpper)
  else if kind = 'o' then emit (Nat.toDigits 8 n.toNat)
  else emit (sign ++ (toString n).toList)

/-- One pass over a format: what it prints, the arguments it leaves, and whether it took
any or was told to stop. -/
def format : Nat → List Char → List String → List UInt8 × List String × Bool
  | 0, _, args => ([], args, false)
  | _, [], args => ([], args, false)
  | n + 1, '\\' :: e :: s, args =>
      if e = 'c' then ([], [], false)
      else if '0' ≤ e ∧ e ≤ '7' then
        let (b, s) := octal 3 (e :: s)
        let (out, args, took) := format n s args
        (b :: out, args, took)
      else
        let first := match controls.lookup e with
          | some b => [b]
          | none => if e = '"' then utf8 e else 92 :: utf8 e
        let (out, args, took) := format n s args
        (first ++ out, args, took)
  | n + 1, '%' :: '%' :: s, args =>
      let (out, args, took) := format n s args
      (37 :: out, args, took)
  | n + 1, '%' :: s, args =>
      let flags := s.takeWhile fun c => c == '-' || c == '0' || c == '+' || c == ' ' || c == '#'
      let s := s.drop flags.length
      let widthDigits := s.takeWhile Char.isDigit
      let s := s.drop widthDigits.length
      let width := Text.digitsValue widthDigits
      let (precision, s) := match s with
        | '.' :: s =>
            let digits := s.takeWhile Char.isDigit
            (some (Text.digitsValue digits), s.drop digits.length)
        | s => (none, s)
      match s with
      | [] => ([], args, false)
      | kind :: s =>
          let first := convert kind flags width precision
            (args.headD (if kind = 's' ∨ kind = 'b' ∨ kind = 'c' then "" else "0"))
          let (out, rest, _) := format n s args.tail
          (first ++ out, rest, true)
  | n + 1, c :: s, args =>
      let (out, args, took) := format n s args
      (utf8 c ++ out, args, took)

/-- The format is used again until the arguments are used up. -/
def formatAll (s : List Char) : Nat → List String → List UInt8
  | 0, _ => []
  | n + 1, args =>
      let (out, rest, took) := format (s.length + 1) s args
      if took && !rest.isEmpty then out ++ formatAll s n rest else out

def printf : Tool := fun t =>
  match t.args with
  | "--" :: f :: args => t.prints (formatAll f.toList (args.length + 1) args)
  | f :: args => t.prints (formatAll f.toList (args.length + 1) args)
  | [] => t.complains 2 "usage: printf format [arg ...]"

/-! ## Tests -/

def isOf (t : Task) (kind : Char) (s : String) : Bool :=
  match kind with
  | 'z' => s.isEmpty
  | 'n' => !s.isEmpty
  | 'f' => t.disk.isFile ⟨s⟩
  | 'd' => t.disk.pathExists ⟨s⟩ && !t.disk.isFile ⟨s⟩
  | 's' => match t.disk.node? ⟨s⟩ with
    | .ok (.file bytes) => bytes.size != 0
    | .ok (.dir _) => true
    | .error _ => false
  | 'x' => t.disk.pathExists ⟨s⟩ && !t.disk.isFile ⟨s⟩
  | 'e' => t.disk.pathExists ⟨s⟩
  | 'r' => t.disk.pathExists ⟨s⟩
  | 'w' => t.disk.pathExists ⟨s⟩
  | _ => false

def compare? (op a b : String) : Option Bool :=
  let number (s : String) : Option Int := (String.ofList (s.toList.filter (· != ' '))).toInt?
  let ordered (f : Int → Int → Bool) : Option Bool := do return f (← number a) (← number b)
  match op with
  | "=" => some (a == b)
  | "==" => some (a == b)
  | "!=" => some (a != b)
  | "-eq" => ordered fun x y => x == y
  | "-ne" => ordered fun x y => x != y
  | "-lt" => ordered fun x y => x < y
  | "-le" => ordered fun x y => x ≤ y
  | "-gt" => ordered fun x y => x > y
  | "-ge" => ordered fun x y => x ≥ y
  | _ => none

/-- The value of an expression, unless it makes no sense. -/
def holds? (t : Task) : List String → Option Bool
  | [] => some false
  | "!" :: e :: more => (holds? t (e :: more)).map not
  | [s] => some (s != "")
  | [op, s] =>
      match op.toList with
      | ['-', kind] => some (isOf t kind s)
      | _ => none
  | a :: "-a" :: more => (holds? t more).map fun v => a != "" && v
  | a :: "-o" :: more => (holds? t more).map fun v => a != "" || v
  | [a, op, b] => compare? op a b
  | a :: op :: b :: "-a" :: more => do
      let v ← compare? op a b
      let w ← holds? t more
      return v && w
  | a :: op :: b :: "-o" :: more => do
      let v ← compare? op a b
      let w ← holds? t more
      return v || w
  | _ => none

def verdict (t : Task) (expression : List String) : Done :=
  match holds? t expression with
  | some true => t.done 0
  | some false => t.done 1
  | none => t.complains 2 "unexpected operator"

def test : Tool := fun t => verdict t t.args

def bracket : Tool := fun t =>
  if t.args.getLast? = some "]" then verdict t t.args.dropLast
  else t.complains 2 "missing ]"

/-! ## Others -/

/-- Milliseconds of a time in seconds, which may have a fraction and a unit. -/
def milliseconds? (s : String) : Option Nat :=
  let units : List (Char × Nat) := [('s', 1), ('m', 60), ('h', 3600), ('d', 86400)]
  let cs := s.toList
  let (cs, unit) := match cs.getLast?.bind fun c => units.lookup c with
    | some n => (cs.dropLast, n)
    | none => (cs, 1)
  let whole := cs.takeWhile Char.isDigit
  let fraction := cs.drop whole.length
  let thousandths := match fraction with
    | [] => some 0
    | '.' :: ds =>
        if ds.all Char.isDigit then
          some (Text.digitsValue ((ds ++ ['0', '0', '0']).take 3))
        else none
    | _ => none
  if cs.isEmpty then none
  else thousandths.map fun ms => unit * (1000 * Text.digitsValue whole + ms)

def sleep : Tool := fun t =>
  match t.args with
  | [] => { t.complains 1 "missing operand" with
      err := "sleep: missing operand\nTry \x27sleep --help\x27 for more information.\n" }
  | args =>
      match args.mapM milliseconds? with
      | some times => { t.done 0 with elapsed := times.foldl (· + ·) 0 }
      | none =>
          let wrong := (args.find? fun a => (milliseconds? a).isNone).getD ""
          { t.done 1 with err := s!"sleep: invalid time interval \x27{wrong}\x27\n" ++
              "Try \x27sleep --help\x27 for more information.\n" }

def numbers (first step last : Int) : Nat → List Int
  | 0 => []
  | n + 1 =>
      if (0 < step ∧ first ≤ last) ∨ (step < 0 ∧ last ≤ first) then
        first :: numbers (first + step) step last n
      else []

def seq : Tool := fun t =>
  let count (first step last : Int) : Done :=
    t.writes (String.join ((numbers first step last ((last - first).natAbs + 1)).map fun n =>
      toString n ++ "\n"))
  match t.args.map String.toInt? with
  | [some last] => count 1 1 last
  | [some first, some last] => count first 1 last
  | [some first, some step, some last] => count first step last
  | _ => t.complains 1 "missing operand"

end FenceCheck.Host.Tool
