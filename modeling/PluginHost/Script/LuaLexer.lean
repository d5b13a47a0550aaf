import PluginHost.Script.LuaNumber

/-!
# Words of Lua chunks

`readTokens?` splits the text of a chunk into words with their lines, or finds that it cannot.
-/

namespace PluginHost.Lua

/-- The words of a chunk. -/
inductive Token
  | name (s : String)
  | keyword (s : String)
  | symbol (s : String)
  | text (s : ByteArray)
  | number (n : Number)
  | eof

/-- The words that are no names. -/
def keywords : List String :=
  ["and", "break", "do", "else", "elseif", "end", "false", "for", "function", "goto", "if", "in", "local", "nil", "not",
    "or", "repeat", "return", "then", "true", "until", "while"]

/-- The signs, longer ones before those they start with. -/
def symbols : List String :=
  ["...", "<<", ">>", "//", "==", "~=", "<=", ">=", "::", "..", "+", "-", "*", "/", "%", "^", "#", "&", "~", "|", "<",
    ">", "=", "(", ")", "\x7b", "\x7d", "[", "]", ";", ":", ",", "."]

/-- What may start a name. -/
def isNameStart (c : Char) : Bool := c.isAlpha || c = '_'

/-- What may go on a name. -/
def isNameChar (c : Char) : Bool := c.isAlphanum || c = '_'

/-- The number of lines that characters end: a carriage return and a newline next to each other end one. -/
def countLines : List Char → Nat
  | '\r' :: '\n' :: cs => countLines cs + 1
  | '\n' :: '\r' :: cs => countLines cs + 1
  | '\r' :: cs => countLines cs + 1
  | '\n' :: cs => countLines cs + 1
  | _ :: cs => countLines cs
  | [] => 0

/-- Drops one line end, if there is one. -/
def dropLineEnd : List Char → List Char
  | '\r' :: '\n' :: cs => cs
  | '\n' :: '\r' :: cs => cs
  | '\r' :: cs => cs
  | '\n' :: cs => cs
  | cs => cs

/-- Whether a character ends a line. -/
def isLineEnd (c : Char) : Bool := c = '\n' || c = '\r'

/-- The level of a long bracket that opens here, and the text behind it. -/
def openLong? (cs : List Char) : Option (Nat × List Char) :=
  match cs with
  | '[' :: rest =>
    let level := (rest.takeWhile (· = '=')).length
    match rest.drop level with
    | '[' :: inner => some (level, inner)
    | _ => none
  | _ => none

/-- The characters up to the closing long bracket, and what follows it. Every line end is one newline. -/
def readLong? (level : Nat) : Nat → List Char → List Char → Option (List Char × List Char)
  | 0, _, _ => none
  | _ + 1, [], _ => none
  | fuel + 1, c :: cs, acc =>
    if c = ']' && (cs.takeWhile (· = '=')).length = level && (cs.drop level).head? = some ']' then
      some (acc.reverse, cs.drop (level + 1))
    else if isLineEnd c then readLong? level fuel (dropLineEnd (c :: cs)) ('\n' :: acc)
    else readLong? level fuel cs (c :: acc)

/-- The bytes of a code point, in the form that also writes numbers beyond the last character. -/
def codePointBytes (n : Nat) : List UInt8 :=
  if n < 0x80 then [UInt8.ofNat n]
  else
    let width := if n < 0x800 then 2 else if n < 0x10000 then 3 else if n < 0x200000 then 4
      else if n < 0x4000000 then 5 else 6
    let lead := 256 - 2 ^ (8 - width) + n / 64 ^ (width - 1)
    UInt8.ofNat lead :: (List.range (width - 1)).map fun i => UInt8.ofNat (0x80 + n / 64 ^ (width - 2 - i) % 64)

/-- What an escape stands for; the backslash has been read. Nothing is an error. -/
def readEscape? : List Char → Option (List Char × List Char)
  | 'a' :: cs => some (['\x07'], cs)
  | 'b' :: cs => some (['\x08'], cs)
  | 'f' :: cs => some (['\x0c'], cs)
  | 'n' :: cs => some (['\n'], cs)
  | 'r' :: cs => some (['\r'], cs)
  | 't' :: cs => some (['\t'], cs)
  | 'v' :: cs => some (['\x0b'], cs)
  | '\\' :: cs => some (['\\'], cs)
  | '"' :: cs => some (['"'], cs)
  | '\'' :: cs => some (['\''], cs)
  | 'x' :: a :: b :: cs => do
    let n := (← hexDigit? a) * 16 + (← hexDigit? b)
    some ([Char.ofNat n], cs)
  | 'z' :: cs => some ([], cs.dropWhile isSpace)
  | 'u' :: '\x7b' :: cs => do
    let digits := cs.takeWhile isHexDigit
    let n := digitsIn 16 digits
    match cs.drop digits.length with
    | '\x7d' :: rest =>
      if digits = [] ∨ 2 ^ 31 ≤ n then none
      else some ((codePointBytes n).map fun b => Char.ofNat b.toNat, rest)
    | _ => none
  | c :: cs =>
    if c.isDigit then
      let digits := ((c :: cs).take 3).takeWhile Char.isDigit
      let n := digitsIn 10 digits
      if n < 256 then some ([Char.ofNat n], (c :: cs).drop digits.length) else none
    else if isLineEnd c then some (['\n'], dropLineEnd (c :: cs))
    else none
  | [] => none

/-- The characters up to the closing quote, and what follows it. -/
def readShort? (quote : Char) : Nat → List Char → List Char → Option (List Char × List Char)
  | 0, _, _ => none
  | _ + 1, [], _ => none
  | fuel + 1, c :: cs, acc =>
    if c = quote then some (acc.reverse, cs)
    else if isLineEnd c then none
    else if c = '\\' then do
      let (meaning, rest) ← readEscape? cs
      readShort? quote fuel rest (meaning.reverse ++ acc)
    else readShort? quote fuel cs (c :: acc)

/-- The characters of a numeral, right or wrong. A sign goes on a numeral only after the letter of an exponent. -/
def takeNumeral (isHex : Bool) : List Char → List Char
  | [] => []
  | c :: cs =>
    if isNameChar c || c = '.' then
      let marks := if isHex then "pP" else "eE"
      match cs with
      | s :: rest =>
        if marks.contains c && (s = '+' || s = '-') then c :: s :: takeNumeral isHex rest
        else c :: takeNumeral isHex (s :: rest)
      | [] => [c]
    else []

/-- A word that is no name, no numeral and no text. -/
def readSymbol? (cs : List Char) : Option (String × List Char) :=
  (symbols.find? fun s => s.toList.isPrefixOf cs).map fun s => (s, cs.drop s.length)

/-- The next word at a line, with what follows it; no word at all is an error. -/
def readToken? (cs : List Char) : Option (Token × List Char) :=
  match cs with
  | [] => some (.eof, [])
  | c :: rest =>
    if isNameStart c then
      let word := String.ofList (cs.takeWhile isNameChar)
      let rest := cs.dropWhile isNameChar
      some (if keywords.contains word then .keyword word else .name word, rest)
    else if c.isDigit || (c = '.' && (rest.head?.map Char.isDigit).getD false) then
      let isHex := c = '0' && (rest.head? = some 'x' || rest.head? = some 'X')
      let word := takeNumeral isHex cs
      (unsigned? word).map fun n => (.number n, cs.drop word.length)
    else if c = '"' || c = '\'' then
      (readShort? c (cs.length + 1) rest []).map fun (s, rest) => (.text (Bytes.ofChars s), rest)
    else match openLong? cs with
      | some (level, inner) =>
        (readLong? level (cs.length + 1) (dropLineEnd inner) []).map fun (s, rest) => (.text (Bytes.ofChars s), rest)
      | none =>
        -- a bracket with equals signs behind it and no second bracket opens nothing
        if c = '[' && rest.head? = some '=' then none
        else (readSymbol? cs).map fun (s, rest) => (.symbol s, rest)

/-- Skips blanks and comments; a long comment that does not end is an error. -/
def skipBlanks? : Nat → List Char → Option (List Char)
  | 0, cs => some cs
  | _ + 1, [] => some []
  | fuel + 1, c :: cs =>
    if isSpace c then skipBlanks? fuel cs
    else if c = '-' && cs.head? = some '-' then
      match openLong? (cs.drop 1) with
      | some (level, inner) => do
        let (_, rest) ← readLong? level (cs.length + 1) inner []
        skipBlanks? fuel rest
      | none => skipBlanks? fuel (cs.dropWhile (!isLineEnd ·))
    else some (c :: cs)

/-- A word and the line it ends on. -/
abbrev Placed := Token × Nat

/-- All words from a line on. -/
def readTokensFrom? : Nat → List Char → Nat → Option (List Placed)
  | 0, _, _ => none
  | fuel + 1, cs, line => do
    let start ← skipBlanks? (cs.length + 1) cs
    let line := line + countLines (cs.take (cs.length - start.length))
    let (token, rest) ← readToken? start
    let line := line + countLines (start.take (start.length - rest.length))
    match token with
    | .eof => some [(.eof, line)]
    | token => return (token, line) :: (← readTokensFrom? fuel rest line)

/-- The words of a chunk. -/
def readTokens? (cs : List Char) : Option (List Placed) := readTokensFrom? (cs.length + 2) cs 1

end PluginHost.Lua
