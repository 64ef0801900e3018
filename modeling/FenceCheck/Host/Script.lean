import FenceCheck.Text.Lines

namespace FenceCheck.Host

/-!
# Shell scripts

A script is a command. Words are kept as pieces until they are expanded, and a piece
remembers whether it stood in quotes.
-/

inductive RedirectKind
  | read
  | write
  | append
  | duplicate
  deriving DecidableEq, Repr

mutual

inductive Piece
  | text (s : List Char) (quoted : Bool)
  /-- A variable or parameter, with what stands for it if it is empty. -/
  | value (name : String) (fallback : Option (List Piece)) (quoted : Bool)
  | output (script : Command) (quoted : Bool)
  | arithmetic (pieces : List Piece) (quoted : Bool)

inductive Redirect
  | mk (descriptor : Nat) (kind : RedirectKind) (target : List Piece)

inductive Command
  | simple (assignments : List (String × List Piece)) (words : List (List Piece))
      (redirects : List Redirect)
  | pipeline (stages : List Command)
  | negation (c : Command)
  | background (c : Command)
  | conjunction (a b : Command)
  | disjunction (a b : Command)
  | sequence (cs : List Command)
  | conditional (arms : List (Command × Command)) (otherwise : Command)
  /-- Repeats its body as long as the test comes out as wanted. -/
  | loop (wanted : Bool) (test body : Command)
  | each (name : String) (words : Option (List (List Piece))) (body : Command)
  /-- Runs the first arm that has a pattern for the word. -/
  | select (word : List Piece) (arms : List (List (List Piece) × Command))
  | group (isolated : Bool) (body : Command) (redirects : List Redirect)
  | definition (name : String) (body : Command)

end

instance : Inhabited Command := ⟨.sequence []⟩

namespace Command

def items : Command → List Command
  | sequence cs => cs
  | c => [c]

end Command

/-! ## Reading scripts -/

namespace Reader

def isSeparator (c : Char) : Bool :=
  c == ' ' || c == '\t' || c == '\n' || c == ';' || c == '&' || c == '|' || c == '<' ||
    c == '>' || c == '(' || c == ')'

def isQuoting (c : Char) : Bool :=
  c == '\x27' || c == '"' || c == '\\' || c == '$' || c == '`'

def isNameChar (c : Char) : Bool :=
  c.isAlphanum || c == '_'

/-- The plain characters that a text begins with. -/
def leading (s : List Char) : String :=
  String.ofList (s.takeWhile fun c => !isSeparator c && !isQuoting c)

/-- Blanks, comments and, on demand, line feeds taken away. -/
def skip (lines : Bool) : Bool → List Char → List Char
  | _, [] => []
  | true, c :: s => if c = '\n' then (if lines then skip lines false s else c :: s)
      else skip lines true s
  | false, '\\' :: '\n' :: s => skip lines false s
  | false, c :: s =>
      if c = ' ' ∨ c = '\t' ∨ (lines ∧ c = '\n') then skip lines false s
      else if c = '#' then skip lines true s
      else c :: s

def skipBlanks (s : List Char) : List Char := skip false false s

def skipLines (s : List Char) : List Char := skip true false s

/-- The words that end a list of commands. -/
def closers : List String := ["then", "do", "done", "fi", "elif", "else", "esac", "\x7d"]

def isClosed : List Char → Bool
  | [] => true
  | ')' :: _ => true
  | ';' :: ';' :: _ => true
  | s => closers.contains (leading s)

/-- What follows a reserved word. -/
def expect? (word : String) (s : List Char) : Option (List Char) :=
  let s := skipLines s
  if leading s = word then some (s.drop word.length) else none

/-- A text up to a closing character, and what follows it. -/
def upTo (close : Char) (s : List Char) : Option (List Char × List Char) :=
  match s.dropWhile (· != close) with
  | [] => none
  | _ :: rest => some (s.takeWhile (· != close), rest)

/-- The name that a piece of text assigns to, and the value that begins behind it. -/
def assignment? (word : List Piece) : Option (String × List Piece) :=
  match word with
  | .text s false :: more =>
      let name := s.takeWhile isNameChar
      match s.drop name.length with
      | '=' :: value =>
          if name.isEmpty || (name.headD '0').isDigit then none
          else some (String.ofList name, .text value false :: more)
      | _ => none
  | _ => none

/-- One more character in front of pieces. -/
def addChar (c : Char) (quoted : Bool) : List Piece → List Piece
  | .text s q :: more =>
      if q = quoted then .text (c :: s) q :: more else .text [c] quoted :: .text s q :: more
  | more => .text [c] quoted :: more

/-- The descriptor and kind of a redirection in front of a text. -/
def redirect? (s : List Char) : Option (Nat × RedirectKind × List Char) :=
  let digits := s.takeWhile Char.isDigit
  let number := digits.foldl (fun n d => 10 * n + (d.toNat - 48)) 0
  let descriptor (d : Nat) := if digits.isEmpty then d else number
  match s.drop digits.length with
  | '>' :: '>' :: rest => some (descriptor 1, .append, rest)
  | '>' :: '&' :: rest => some (descriptor 1, .duplicate, rest)
  | '>' :: '|' :: rest => some (descriptor 1, .write, rest)
  | '>' :: rest => some (descriptor 1, .write, rest)
  | '<' :: '&' :: rest => some (descriptor 0, .duplicate, rest)
  | '<' :: rest => if rest.head? = some '<' then none else some (descriptor 0, .read, rest)
  | _ => none

mutual

/-- A word; blanks do not belong to it. -/
def word : Nat → List Char → Option (List Piece × List Char)
  | 0, _ => none
  | _ + 1, [] => some ([], [])
  | n + 1, c :: s =>
      if isSeparator c then some ([], c :: s)
      else if c = '\x27' then do
        let (t, s) ← upTo '\x27' s
        let (more, s) ← word n s
        return (.text t true :: more, s)
      else if c = '"' then do
        let (inside, s) ← quoted n '"' 0 s
        let (more, s) ← word n s
        return (.text [] true :: inside ++ more, s)
      else if c = '\\' then
        match s with
        | [] => some ([.text ['\\'] true], [])
        | '\n' :: s => word n s
        | e :: s => do
            let (more, s) ← word n s
            return (.text [e] true :: more, s)
      else if c = '$' then do
        let (p, s) ← dollar n false s
        let (more, s) ← word n s
        return (p :: more, s)
      else if c = '`' then do
        let (t, s) ← upTo '`' s
        let (script, _) ← commands n t
        let (more, s) ← word n s
        return (.output script false :: more, s)
      else do
        let (more, s) ← word n s
        return (addChar c false more, s)

/-- Text in quotes up to `close`, or an expression up to the parenthesis that closes it. -/
def quoted : Nat → Char → Nat → List Char → Option (List Piece × List Char)
  | 0, _, _, _ => none
  | _ + 1, _, _, [] => none
  | n + 1, close, depth, c :: s =>
      if c = close ∧ depth = 0 then some ([], s)
      else if c = '\\' then
        match s with
        | [] => none
        | '\n' :: s => quoted n close depth s
        | e :: s => do
            let (more, s) ← quoted n close depth s
            if e = '$' ∨ e = '`' ∨ e = '"' ∨ e = '\\' then return (addChar e true more, s)
            else return (addChar '\\' true (addChar e true more), s)
      else if c = '$' then do
        let (p, s) ← dollar n true s
        let (more, s) ← quoted n close depth s
        return (p :: more, s)
      else if c = '`' then do
        let (t, s) ← upTo '`' s
        let (script, _) ← commands n t
        let (more, s) ← quoted n close depth s
        return (.output script true :: more, s)
      else do
        let depth :=
          if close = ')' ∧ c = '(' then depth + 1
          else if close = ')' ∧ c = ')' then depth - 1
          else depth
        let (more, s) ← quoted n close depth s
        return (addChar c true more, s)

/-- What stands behind a dollar sign. -/
def dollar : Nat → Bool → List Char → Option (Piece × List Char)
  | 0, _, _ => none
  | n + 1, isQuoted, s =>
      match s with
      | '(' :: '(' :: s => do
          let (inside, s) ← quoted n ')' 0 s
          match s with
          | ')' :: s => return (.arithmetic inside isQuoted, s)
          | _ => none
      | '(' :: s => do
          let (script, s) ← commands n s
          match s with
          | ')' :: s => return (.output script isQuoted, s)
          | _ => none
      | '\x7b' :: s => do
          let (inside, s) ← upTo '\x7d' s
          let sign := if inside.head? = some '#' then ['#'] else []
          let name := sign ++ (inside.drop sign.length).takeWhile isNameChar
          match inside.drop name.length with
          | [] => return (.value (String.ofList name) none isQuoted, s)
          | ':' :: '-' :: t => do
              let (fallback, _) ← quoted n '\x7d' 0 (t ++ ['\x7d'])
              return (.value (String.ofList name) (some fallback) isQuoted, s)
          | '-' :: t => do
              let (fallback, _) ← quoted n '\x7d' 0 (t ++ ['\x7d'])
              return (.value (String.ofList name) (some fallback) isQuoted, s)
          | t => if name.isEmpty then return (.value (String.ofList t) none isQuoted, s) else none
      | c :: rest =>
          if c.isDigit ∨ c = '@' ∨ c = '*' ∨ c = '#' ∨ c = '?' ∨ c = '$' ∨ c = '!' ∨ c = '-' then
            some (.value c.toString none isQuoted, rest)
          else
            let name := s.takeWhile isNameChar
            if name.isEmpty then some (.text ['$'] isQuoted, s)
            else some (.value (String.ofList name) none isQuoted, s.drop name.length)
      | [] => some (.text ['$'] isQuoted, [])

/-- A list of commands up to a word or sign that closes it. -/
def commands : Nat → List Char → Option (Command × List Char)
  | 0, _ => none
  | n + 1, s =>
      let s := skipLines s
      if isClosed s then some (.sequence [], s)
      else do
        let (c, s) ← chain n s
        let s := skipBlanks s
        match s with
        | ';' :: ';' :: _ => return (.sequence [c], s)
        | [] => return (.sequence [c], s)
        | d :: rest =>
            if d = ';' ∨ d = '&' ∨ d = '\n' then
              let c := if d = '&' then .background c else c
              let (more, s) ← commands n rest
              return (.sequence (c :: more.items), s)
            else if isClosed s then return (.sequence [c], s)
            else none

/-- Pipelines that depend on each other. -/
def chain : Nat → List Char → Option (Command × List Char)
  | 0, _ => none
  | n + 1, s => do
      let (c, s) ← pipeline n s
      chainAfter n c s

def chainAfter : Nat → Command → List Char → Option (Command × List Char)
  | 0, _, _ => none
  | n + 1, c, s =>
      match skipBlanks s with
      | '&' :: '&' :: s => do
          let (d, s) ← pipeline n (skipLines s)
          chainAfter n (.conjunction c d) s
      | '|' :: '|' :: s => do
          let (d, s) ← pipeline n (skipLines s)
          chainAfter n (.disjunction c d) s
      | s => some (c, s)

def pipeline : Nat → List Char → Option (Command × List Char)
  | 0, _ => none
  | n + 1, s =>
      let s := skipBlanks s
      if leading s = "!" then do
        let (c, s) ← pipeline n (s.drop 1)
        return (.negation c, s)
      else do
        let (c, s) ← command n s
        let (more, s) ← stages n s
        return (if more.isEmpty then c else .pipeline (c :: more), s)

def stages : Nat → List Char → Option (List Command × List Char)
  | 0, _ => none
  | n + 1, s =>
      match skipBlanks s with
      | '|' :: '|' :: t => some ([], '|' :: '|' :: t)
      | '|' :: s => do
          let (c, s) ← command n (skipLines s)
          let (more, s) ← stages n s
          return (c :: more, s)
      | s => some ([], s)

def command : Nat → List Char → Option (Command × List Char)
  | 0, _ => none
  | n + 1, s =>
      let s := skipBlanks s
      let first := leading s
      let rest := s.drop first.length
      if s.head? = some '(' then do
        let (body, s) ← commands n s.tail
        match s with
        | ')' :: s =>
            let (_, redirects, s) ← simple n s
            return (.group true body redirects, s)
        | _ => none
      else if first = "\x7b" then do
        let (body, s) ← commands n rest
        let s ← expect? "\x7d" s
        let (_, redirects, s) ← simple n s
        return (.group false body redirects, s)
      else if first = "if" then conditional n rest
      else if first = "while" ∨ first = "until" then do
        let (test, s) ← commands n rest
        let s ← expect? "do" s
        let (body, s) ← commands n s
        let s ← expect? "done" s
        let (_, redirects, s) ← simple n s
        return (.group false (.loop (first == "while") test body) redirects, s)
      else if first = "for" then do
        let s := skipBlanks rest
        let name := leading s
        let s := skipLines (s.drop name.length)
        let (words, s) ←
          if leading s = "in" then do
            let ((_, words), _, s) ← simple n (s.drop 2)
            some (some words, s)
          else some (none, s)
        let s := skipLines s
        let s := if s.head? = some ';' then s.tail else s
        let s ← expect? "do" s
        let (body, s) ← commands n s
        let s ← expect? "done" s
        let (_, redirects, s) ← simple n s
        return (.group false (.each name words body) redirects, s)
      else if first = "case" then do
        let (w, s) ← word n (skipBlanks rest)
        let s ← expect? "in" s
        let (found, s) ← arms n s
        let (_, redirects, s) ← simple n s
        return (.group false (.select w found) redirects, s)
      else
        match rest with
        | '(' :: ')' :: s =>
            if first.isEmpty then none
            else do
              let (body, s) ← command n (skipLines s)
              return (.definition first body, s)
        | _ => do
            let ((assignments, words), redirects, s) ← simple n s
            return (.simple assignments words redirects, s)

/-- What follows the word that opens a condition. -/
def conditional : Nat → List Char → Option (Command × List Char)
  | 0, _ => none
  | n + 1, s => do
      let (test, s) ← commands n s
      let s ← expect? "then" s
      let (body, s) ← commands n s
      let s := skipLines s
      let first := leading s
      let rest := s.drop first.length
      if first = "elif" then
        let (more, s) ← conditional n rest
        return (.conditional [(test, body)] more, s)
      else if first = "else" then
        let (otherwise, s) ← commands n rest
        let s ← expect? "fi" s
        return (.conditional [(test, body)] otherwise, s)
      else if first = "fi" then return (.conditional [(test, body)] (.sequence []), rest)
      else none

/-- The arms of a selection and the word that closes it. -/
def arms : Nat → List Char → Option (List (List (List Piece) × Command) × List Char)
  | 0, _ => none
  | n + 1, s =>
      let s := skipLines s
      if leading s = "esac" then some ([], s.drop 4)
      else do
        let (patterns, s) ← alternatives n (if s.head? = some '(' then s.tail else s)
        let (body, s) ← commands n s
        let s := skipLines s
        let s := if s.take 2 = [';', ';'] then s.drop 2 else s
        let (more, s) ← arms n s
        return ((patterns, body) :: more, s)

/-- The patterns of an arm and the parenthesis behind them. -/
def alternatives : Nat → List Char → Option (List (List Piece) × List Char)
  | 0, _ => none
  | n + 1, s => do
      let (w, s) ← word n (skipBlanks s)
      match skipBlanks s with
      | ')' :: s => return ([w], s)
      | '|' :: s => do
          let (more, s) ← alternatives n s
          return (w :: more, s)
      | _ => none

/-- The assignments, words and redirections of a simple command. -/
def simple : Nat → List Char →
    Option (((List (String × List Piece)) × List (List Piece)) × List Redirect × List Char)
  | 0, _ => none
  | n + 1, s =>
      let s := skipBlanks s
      match redirect? s with
      | some (descriptor, kind, s) => do
          let (target, s) ← word n (skipBlanks s)
          let ((assignments, words), redirects, s) ← simple n s
          return ((assignments, words), .mk descriptor kind target :: redirects, s)
      | none =>
          match s with
          | [] => some (([], []), [], [])
          | c :: t =>
              if isSeparator c then some (([], []), [], c :: t)
              else do
                let (w, s) ← word n s
                let ((assignments, words), redirects, s) ← simple n s
                match assignment? w with
                | some a => return ((a :: assignments, words), redirects, s)
                | none =>
                    return (([], w :: assignments.map (fun a =>
                      .text (a.1.toList ++ ['=']) false :: a.2) ++ words), redirects, s)

end

def script? (s : String) : Option Command :=
  match commands (20 * s.length + 20) s.toList with
  | some (c, []) => some c
  | _ => none

end Reader

end FenceCheck.Host
