import PluginHost.Script.PythonSyntax

/-!
# Words of Python modules

`readTokens?` splits the text of a module into words with their places. Line ends inside of brackets mean nothing; outside, a
change of indentation is a word of its own. Tabs count both as up to eight columns and as one, and the two counts must
agree on which lines are indented alike.
-/

namespace PluginHost.Python

/-- The words of a module. -/
inductive Token
  | name (s : String)
  | keyword (s : String)
  | symbol (s : String)
  | int (n : Int)
  | float (x : Float)
  | imaginary (x : Float)
  | str (s : Text)
  | bytes (b : List UInt8)
  /-- A text with values in it: its characters as they are, whether backslashes mean nothing in it, and how many marks and
  quotes stand before it. -/
  | joined (cs : List Char) (isRaw : Bool) (lead : Nat)
  | newline
  | indent
  | dedent
  | eof

/-- A word and its place. -/
structure Placed where
  token : Token
  span : Span

/-- The words that are no names. -/
def keywords : List String :=
  ["False", "None", "True", "and", "as", "assert", "async", "await", "break", "class", "continue", "def", "del", "elif",
    "else", "except", "finally", "for", "from", "global", "if", "import", "in", "is", "lambda", "nonlocal", "not", "or",
    "pass", "raise", "return", "try", "while", "with", "yield"]

/-- The signs, longer ones before those they start with. -/
def symbols : List String :=
  ["**=", "//=", ">>=", "<<=", "...", "!=", "->", "+=", "-=", "*=", "/=", "%=", "@=", "&=", "|=", "^=", "==", "<=", ">=",
    "<<", ">>", "**", "//", ":=", "+", "-", "*", "/", "%", "@", "&", "|", "^", "~", "<", ">", "(", ")", "[", "]", "\x7b",
    "\x7d", ",", ":", ".", ";", "=", "!"]

/-- What may start a name. -/
def isNameStart (c : Char) : Bool := c.isAlpha || c = '_' || 128 ≤ c.toNat

/-- What may go on a name. -/
def isNameChar (c : Char) : Bool := isNameStart c || c.isDigit

/-- The value of a hexadecimal digit. -/
def hexDigit? (c : Char) : Option Nat :=
  if c.isDigit then some (c.toNat - 48)
  else if 'a' ≤ c ∧ c ≤ 'f' then some (c.toNat - 87)
  else if 'A' ≤ c ∧ c ≤ 'F' then some (c.toNat - 55)
  else none

/-- The number that digits spell in a base, underscores aside. -/
def digitsIn (base : Nat) (cs : List Char) : Nat :=
  cs.foldl (fun n c => match hexDigit? c with
    | some d => n * base + d
    | none => n) 0

/-! ## Places -/

/-- The unread text and where it starts. -/
structure Cursor where
  rest : List Char
  line : Nat := 1
  column : Nat := 0

/-- The bytes that characters take. -/
def width (cs : List Char) : Nat := cs.foldl (fun n c => n + c.utf8Size) 0

/-- Moves on by some characters. -/
def Cursor.advance (c : Cursor) : Nat → Cursor
  | 0 => c
  | n + 1 => match c.rest with
    | [] => c
    | '\n' :: cs => Cursor.advance ⟨cs, c.line + 1, 0⟩ n
    | x :: cs => Cursor.advance ⟨cs, c.line, c.column + x.utf8Size⟩ n

/-- The place between two cursors. -/
def spanOf (start stop : Cursor) : Span := ⟨start.line, start.column, stop.line, stop.column⟩

/-! ## Numbers -/

/-- Digits with single underscores between them, and what follows. -/
def takeDigits (isDigit : Char → Bool) : List Char → List Char × List Char
  | c :: cs =>
    if isDigit c then
      let (ds, rest) := takeDigits isDigit cs
      (c :: ds, rest)
    else match c, cs with
      | '_', d :: _ =>
        if isDigit d then takeDigits isDigit cs else ([], c :: cs)
      | _, _ => ([], c :: cs)
  | [] => ([], [])

/-- A decimal number of any size as a double. -/
def decimalFloat (mantissa : Nat) (e : Int) : Float :=
  if mantissa = 0 then 0.0
  else
    let size : Int := (Nat.log2 mantissa : Int) * 30103 / 100000
    if e + size < -400 then 0.0 else if 400 < e + size then 1.0 / 0.0 else Float.ofScientific mantissa (e < 0) e.natAbs

/-- An exponent with its letter. -/
def takeExponent (cs : List Char) : Option (Int × List Char) :=
  match cs with
  | e :: cs =>
    if e = 'e' ∨ e = 'E' then
      let (negative, cs) := match cs with
        | '-' :: cs => (true, cs)
        | '+' :: cs => (false, cs)
        | cs => (false, cs)
      let (ds, rest) := takeDigits Char.isDigit cs
      if ds = [] then none
      else
        let n : Int := min (digitsIn 10 ds) 1000000
        some (if negative then -n else n, rest)
    else none
  | [] => none

/-- A number in another base, after its mark. -/
def takeBased (base : Nat) (cs : List Char) : Option (Token × List Char) :=
  let cs := match cs with
    | '_' :: cs => cs
    | cs => cs
  let isDigit : Char → Bool := fun c => (hexDigit? c).any (· < base)
  let (ds, rest) := takeDigits isDigit cs
  if ds = [] then none else some (.int (digitsIn base ds), rest)

/-- A number that starts here. -/
def takeNumber? (cs : List Char) : Option (Token × List Char) := do
  let (token, rest) ← match cs with
    | '0' :: x :: cs' =>
      if x = 'x' ∨ x = 'X' then takeBased 16 cs'
      else if x = 'o' ∨ x = 'O' then takeBased 8 cs'
      else if x = 'b' ∨ x = 'B' then takeBased 2 cs'
      else decimal? cs
    | cs => decimal? cs
  -- a number runs into no name
  match rest with
  | c :: _ => if isNameChar c then none else some (token, rest)
  | [] => some (token, rest)
where
  /-- A decimal number. -/
  decimal? (cs : List Char) : Option (Token × List Char) :=
    let (whole, rest) := takeDigits Char.isDigit cs
    let (fraction, rest, point) := match rest with
      | '.' :: rest =>
        let (f, rest) := takeDigits Char.isDigit rest
        (f, rest, true)
      | rest => ([], rest, false)
    let (power, rest, hasPower) := match takeExponent rest with
      | some (e, rest) => (e, rest, true)
      | none => ((0 : Int), rest, false)
    let x := decimalFloat (digitsIn 10 (whole ++ fraction)) (power - fraction.length)
    match rest with
    | 'j' :: rest => some (.imaginary x, rest)
    | 'J' :: rest => some (.imaginary x, rest)
    | rest =>
      if point ∨ hasPower then some (.float x, rest)
      else if whole.head? = some '0' ∧ whole.any (· ≠ '0') then none
      else some (.int (digitsIn 10 whole), rest)

/-! ## Texts -/

/-- What an escape stands for; the backslash has been read. -/
def readEscape? (isBytes : Bool) (cs : List Char) : Option (List Nat × List Char) :=
  let hex (n : Nat) (cs : List Char) : Option (List Nat × List Char) :=
    let ds := (cs.take n).takeWhile fun c => (hexDigit? c).isSome
    if ds.length = n then
      let code := digitsIn 16 ds
      if code < 0x110000 then some ([code], cs.drop n) else none
    else none
  match cs with
  | '\n' :: cs => some ([], cs)
  | '\\' :: cs => some ([92], cs)
  | '\'' :: cs => some ([39], cs)
  | '"' :: cs => some ([34], cs)
  | 'a' :: cs => some ([7], cs)
  | 'b' :: cs => some ([8], cs)
  | 'f' :: cs => some ([12], cs)
  | 'n' :: cs => some ([10], cs)
  | 'r' :: cs => some ([13], cs)
  | 't' :: cs => some ([9], cs)
  | 'v' :: cs => some ([11], cs)
  | 'x' :: cs => hex 2 cs
  | c :: rest =>
    if c.isDigit ∧ c < '8' then
      let ds := (cs.take 3).takeWhile fun c => c.isDigit && c < '8'
      some ([digitsIn 8 ds], cs.drop ds.length)
    else if c = 'u' ∧ !isBytes then hex 4 rest
    else if c = 'U' ∧ !isBytes then hex 8 rest
    else if c = 'N' ∧ !isBytes then none
    else some ([92, c.toNat], rest)
  | [] => none

/-- Replaces the escapes of a text. The fuel is its length. -/
def unescape? (isBytes : Bool) : Nat → List Char → Option (List Nat)
  | 0, _ => some []
  | _ + 1, [] => some []
  | fuel + 1, '\\' :: cs => do
    let (ns, rest) ← readEscape? isBytes cs
    return ns ++ (← unescape? isBytes fuel rest)
  | fuel + 1, c :: cs => return c.toNat :: (← unescape? isBytes fuel cs)

/-- The characters up to the closing quotes, escapes left as they are, and what follows. -/
def takeQuoted? (quote : Char) (isTriple : Bool) : List Char → Option (List Char × List Char)
  | [] => none
  | '\\' :: c :: cs => (takeQuoted? quote isTriple cs).map fun (body, rest) => ('\\' :: c :: body, rest)
  | c :: cs =>
    if c = quote then
      if !isTriple then some ([], cs)
      else match cs with
        | a :: b :: rest =>
          if a = quote ∧ b = quote then some ([], rest)
          else (takeQuoted? quote isTriple (a :: b :: rest)).map fun (body, rest) => (c :: body, rest)
        | _ => none
    else if c = '\n' ∧ !isTriple then none
    else (takeQuoted? quote isTriple cs).map fun (body, rest) => (c :: body, rest)

/-- A text with its marks in front. -/
def takeText? (cs : List Char) : Option (Option (Token × List Char)) :=
  let marks := cs.takeWhile Char.isAlpha
  let lower := marks.map Char.toLower
  let known := [[], ['r'], ['b'], ['u'], ['f'], ['b', 'r'], ['r', 'b'], ['f', 'r'], ['r', 'f']].contains lower
  match cs.drop marks.length with
  | q :: rest =>
    if known ∧ (q = '"' ∨ q = '\'') then
      some do
        let (isTriple, rest) := match rest with
          | a :: b :: rest' => if a = q ∧ b = q then (true, rest') else (false, rest)
          | _ => (false, rest)
        let (body, rest) ← takeQuoted? q isTriple rest
        let isRaw := lower.contains 'r'
        if lower.contains 'f' then some (.joined body isRaw (marks.length + if isTriple then 3 else 1), rest)
        else if lower.contains 'b' then
          if body.any fun c => 128 ≤ c.toNat then none
          else
            let ns ← if isRaw then some (body.map Char.toNat) else unescape? true (body.length + 1) body
            some (.bytes (ns.map fun n => UInt8.ofNat n), rest)
        else
          let ns ← if isRaw then some (body.map Char.toNat) else unescape? false (body.length + 1) body
          some (.str ns, rest)
    else none
  | [] => none

/-! ## Lines -/

/-- The indentation of a line in both counts, and how many characters it is. -/
def indentation : List Char → Nat × Nat × Nat
  | cs => go cs 0 0 0
where
  /-- Counts on. -/
  go : List Char → Nat → Nat → Nat → Nat × Nat × Nat
    | ' ' :: cs, a, b, n => go cs (a + 1) (b + 1) (n + 1)
    | '\t' :: cs, a, b, n => go cs ((a / 8 + 1) * 8) (b + 1) (n + 1)
    | '\x0c' :: cs, _, _, n => go cs 0 0 (n + 1)
    | _, a, b, n => (a, b, n)

/-- The words that a change of indentation is, with the new levels; no words at all for an inconsistent one. -/
def changeIndent? (levels : List (Nat × Nat)) (a b : Nat) : Option (List Token × List (Nat × Nat)) :=
  match levels with
  | (x, y) :: _ =>
    if a = x then (if b = y then some ([], levels) else none)
    else if x < a then (if y < b then some ([.indent], (a, b) :: levels) else none)
    else
      let kept := levels.dropWhile fun (x, _) => a < x
      match kept with
      | (x, y) :: _ =>
        if a = x ∧ b = y then some (List.replicate (levels.length - kept.length) .dedent, kept) else none
      | [] => none
  | [] => none

/-- What reading words needs to know. -/
structure LexState where
  cursor : Cursor
  /-- The indentation of the blocks around, innermost first. -/
  levels : List (Nat × Nat) := [(0, 0)]
  /-- The open brackets, innermost first. -/
  brackets : List Char := []
  atLineStart : Bool := true
  tokens : Array Placed := #[]

/-- The bracket that closes another. -/
def closing : Char → Char
  | '(' => ')'
  | '[' => ']'
  | _ => '\x7d'

/-- Adds a word between two cursors. -/
def LexState.add (s : LexState) (t : Token) (stop : Cursor) : LexState :=
  { s with tokens := s.tokens.push ⟨t, spanOf s.cursor stop⟩, cursor := stop }

/-- Reads the next word, or ends. -/
def lexStep? (s : LexState) : Option (LexState ⊕ LexState) :=
  let c := s.cursor
  if s.atLineStart ∧ s.brackets = [] then
    let (a, b, n) := indentation c.rest
    let here := c.advance n
    match here.rest with
    | [] => some (.inl { s with cursor := here, atLineStart := false })
    | '\n' :: _ => some (.inl { s with cursor := here.advance 1 })
    | '#' :: _ => some (.inl { s with cursor := here.advance (here.rest.takeWhile (· ≠ '\n')).length, atLineStart := true })
    | _ => (changeIndent? s.levels a b).map fun (tokens, levels) =>
      .inl { s with
        cursor := here, levels, atLineStart := false
        tokens := tokens.foldl (fun ts t => ts.push ⟨t, spanOf here here⟩) s.tokens }
  else match c.rest with
    | [] =>
      if s.brackets ≠ [] then none
      else
        let needsNewline := match s.tokens.back? with
          | some ⟨.newline, _⟩ | none => false
          | _ => true
        let s := if needsNewline then s.add .newline c else s
        let dedents := List.replicate (s.levels.length - 1) Token.dedent
        some (.inr { s with
          tokens := (dedents.foldl (fun ts t => ts.push ⟨t, spanOf c c⟩) s.tokens).push ⟨.eof, spanOf c c⟩ })
    | '\n' :: _ =>
      if s.brackets ≠ [] then some (.inl { s with cursor := c.advance 1 })
      else some (.inl { s.add .newline (c.advance 1) with atLineStart := true })
    | ' ' :: _ | '\t' :: _ | '\x0c' :: _ => some (.inl { s with cursor := c.advance 1 })
    | '#' :: _ => some (.inl { s with cursor := c.advance (c.rest.takeWhile (· ≠ '\n')).length })
    | '\\' :: '\n' :: rest => if rest = [] then none else some (.inl { s with cursor := c.advance 2 })
    | '\\' :: _ => none
    | first :: rest =>
      match takeText? c.rest with
      | some none => none
      | some (some (t, after)) => some (.inl (s.add t (c.advance (c.rest.length - after.length))))
      | none =>
        if isNameStart first then
          let word := c.rest.takeWhile isNameChar
          let text := String.ofList word
          some (.inl (s.add (if keywords.contains text then .keyword text else .name text) (c.advance word.length)))
        else if first.isDigit ∨ (first = '.' ∧ (rest.head?.map Char.isDigit).getD false) then
          (takeNumber? c.rest).map fun (t, after) => .inl (s.add t (c.advance (c.rest.length - after.length)))
        else match symbols.find? fun w => w.toList.isPrefixOf c.rest with
          | none => none
          | some w =>
            let s' := s.add (.symbol w) (c.advance w.length)
            if first = '(' ∨ first = '[' ∨ first = '\x7b' then some (.inl { s' with brackets := first :: s.brackets })
            else if first = ')' ∨ first = ']' ∨ first = '\x7d' then
              match s.brackets with
              | b :: bs => if closing b = first then some (.inl { s' with brackets := bs }) else none
              | [] => none
            else some (.inl s')

/-- Reads words until the end. The fuel bounds their number. -/
def lexAll? : Nat → LexState → Option LexState
  | 0, _ => none
  | fuel + 1, s => match lexStep? s with
    | none => none
    | some (.inr s) => some s
    | some (.inl s) => lexAll? fuel s

/-- Line ends of other systems as newlines. -/
def unifyLineEnds : List Char → List Char
  | '\r' :: '\n' :: cs => '\n' :: unifyLineEnds cs
  | '\r' :: cs => '\n' :: unifyLineEnds cs
  | c :: cs => c :: unifyLineEnds cs
  | [] => []

/-- The words of a text that starts somewhere in a module. -/
def readTokensFrom? (start : Cursor) : Option (Array Placed) :=
  -- the last line has an end
  let cs := if start.rest = [] ∨ start.rest.getLast? = some '\n' then start.rest else start.rest ++ ['\n']
  (lexAll? (4 * cs.length + 10) { cursor := { start with rest := cs } }).map (·.tokens)

/-- The words of a module. -/
def readTokens? (source : String) : Option (Array Placed) :=
  match unifyLineEnds source.toList with
  | '\uFEFF' :: cs => readTokensFrom? { rest := cs }
  | cs => readTokensFrom? { rest := cs }

end PluginHost.Python
