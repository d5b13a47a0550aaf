import PluginHost.Manifest.Word

/-!
# Quoted texts of documents

Where a quoted text ends is found first (`bodyLength`): at its closing quotes, or, if there are none, at the end of the line or of
the document. What stands between the quotes is decoded after that (`decodeBody`), and the first thing wrong with it is its
fault.
-/

namespace PluginHost.Manifest

/-- What is wrong with a text. -/
inductive TextFault
  | malformed
  /-- A numbered escape names no character; its digits start so many bytes behind the start of the text. -/
  | noCharacter (offset : Nat)
deriving DecidableEq, Repr

/-- How a text is quoted. -/
structure Quoting where
  quote : Char
  /-- Whether the text stands between three quotes and can have several lines. -/
  isLong : Bool
deriving DecidableEq, Repr

namespace Quoting

/-- Whether backslashes start escapes. -/
def escapes (q : Quoting) : Bool := q.quote = '"'

/-- The quotes at either end. -/
def delimiter (q : Quoting) : List Char := List.replicate (if q.isLong then 3 else 1) q.quote

/-- How the text that comes next is quoted, if it is. -/
def ofFront? (cs : List Char) : Option Quoting :=
  match cs with
  | '"' :: '"' :: '"' :: _ => some ⟨'"', true⟩
  | '"' :: _ => some ⟨'"', false⟩
  | '\'' :: '\'' :: '\'' :: _ => some ⟨'\'', true⟩
  | '\'' :: _ => some ⟨'\'', false⟩
  | _ => none

/-- The number of characters behind the opening quotes that belong to the text, the closing quotes among them. Up to two more
quotes before the closing ones belong to a long text. -/
def bodyLength (q : Quoting) : List Char → Nat
  | [] => 0
  | '\\' :: cs => match cs with
    | c :: rest => if q.escapes ∧ (c = '"' ∨ c = '\\') then 2 + bodyLength q rest else 1 + bodyLength q (c :: rest)
    | [] => 1
  | c :: cs =>
    if q.delimiter.isPrefixOf (c :: cs) then
      if q.isLong then min 5 ((c :: cs).takeWhile (· = q.quote)).length else 1
    else if !q.isLong ∧ (c = '\n' ∨ "\r\n".toList.isPrefixOf (c :: cs)) then 0
    else 1 + bodyLength q cs

end Quoting

/-- A control character that no part of a document may hold as it is. -/
def isControl (c : Char) : Bool := (c.toNat < 0x20 && c ≠ '\t') || c.toNat == 0x7F

/-- The character that an escape letter stands for. -/
def escapedChar? : Char → Option Char
  | 'b' => some '\x08'
  | 't' => some '\t'
  | 'n' => some '\n'
  | 'f' => some '\x0c'
  | 'r' => some '\r'
  | 'e' => some '\x1b'
  | '"' => some '"'
  | '\\' => some '\\'
  | _ => none

/-- How many digits follow an escape letter that names a character by its number. -/
def escapeDigits? : Char → Option Nat
  | 'x' => some 2
  | 'u' => some 4
  | 'U' => some 8
  | _ => none

/-- The character of a number that the digits in front spell; they start at `offset`. -/
def codePoint (count offset : Nat) (cs : List Char) : Except TextFault Char :=
  let values := (cs.take count).filterMap hexValue?
  if values.length < count then .error .malformed
  else
    let n := values.foldl (fun n d => n * 16 + d) 0
    if n.isValidChar then .ok (Char.ofNat n) else .error (.noCharacter offset)

/-- The text without the blank characters and line ends that a backslash at the end of a line folds away. -/
def afterFold? (cs : List Char) : Option (List Char) :=
  let isSpace := fun c : Char => c = ' ' || c = '\t'
  match cs.dropWhile isSpace with
  | '\n' :: rest => some (rest.dropWhile fun c => isSpace c || c = '\n' || c = '\r')
  | '\r' :: '\n' :: rest => some (rest.dropWhile fun c => isSpace c || c = '\n' || c = '\r')
  | _ => none

/-- The number of bytes of characters. -/
def byteLength (cs : List Char) : Nat := (cs.map Char.utf8Size).foldl (· + ·) 0

/-- The characters that a text stands for. It starts at `offset`; the fuel bounds its length. -/
def decodeBody (q : Quoting) : Nat → Nat → List Char → Except TextFault (List Char)
  | 0, _, _ => .error .malformed
  | _ + 1, _, [] => .ok []
  | fuel + 1, offset, c :: cs =>
    let after := offset + c.utf8Size
    if c = '\\' ∧ q.escapes then
      match if q.isLong then afterFold? cs else none with
      | some rest => decodeBody q fuel (after + (byteLength cs - byteLength rest)) rest
      | none => match cs with
        | [] => .error .malformed
        | letter :: rest => match escapedChar? letter, escapeDigits? letter with
          | some x, _ => return x :: (← decodeBody q fuel (after + 1) rest)
          | none, some count => do
            let x ← codePoint count (after + 1) rest
            return x :: (← decodeBody q fuel (after + 1 + count) (rest.drop count))
          | none, none => .error .malformed
    else if q.isLong ∧ (c = '\n' ∨ "\r\n".toList.isPrefixOf (c :: cs)) then
      return c :: (← decodeBody q fuel after cs)
    else if isControl c then .error .malformed
    else return c :: (← decodeBody q fuel after cs)

/-- The text that the characters behind the opening quotes spell, up to the closing ones. A line end right behind the opening
quotes of a long text does not count. -/
def Quoting.decode (q : Quoting) (offset : Nat) (body : List Char) : Except TextFault String := do
  if q.delimiter.isSuffixOf body then
    let inner := body.take (body.length - q.delimiter.length)
    let (offset, inner) := match q.isLong, inner with
      | true, '\n' :: rest => (offset + 1, rest)
      | true, '\r' :: '\n' :: rest => (offset + 2, rest)
      | _, inner => (offset, inner)
    return String.ofList (← decodeBody q (inner.length + 1) offset inner)
  else .error .malformed

end PluginHost.Manifest
