import PluginHost.Manifest.Quotes
import PluginHost.Manifest.Tree

/-!
# Reading documents

A document is read line by line into its tree. What breaks the grammar ends the reading at once. What is wrong inside a key or a
value, or defines a key twice, is only noted, and the reading goes on (`Reader.note`): a text that breaks the grammar anywhere
is refused for that, and else for the first thing noted. The wording of a refusal is free except for one: an escape that names no
character.
-/

namespace PluginHost.Manifest

/-- Why a text is no document. -/
inductive DocumentFault
  /-- The text breaks the grammar, has a key or a value that is none, or defines a key twice. -/
  | malformed (offset : Nat)
  /-- A numbered escape names no character. -/
  | noCharacter (offset : Nat)
deriving DecidableEq, Repr

/-- The unread text, the number of bytes before it, and the first thing that was noted. -/
structure Cursor where
  rest : List Char
  offset : Nat
  noted : Option DocumentFault := none

/-- A reader consumes text or finds that it breaks the grammar. -/
abbrev Reader := StateT Cursor (Except DocumentFault)

namespace Reader

/-- The text breaks the grammar here. -/
def fail {α : Type} : Reader α := do throw (.malformed (← get).offset)

/-- Notes something wrong that does not break the grammar. Only the first thing counts. -/
def note (fault : DocumentFault) : Reader Unit := modify fun c => { c with noted := c.noted.or (some fault) }

/-- The number of bytes read so far. -/
def offset : Reader Nat := do return (← get).offset

/-- The next character. -/
def peek : Reader (Option Char) := do return (← get).rest.head?

/-- Skips characters; returns them. -/
def take (count : Nat) : Reader (List Char) := do
  let c ← get
  let word := c.rest.take count
  set { c with rest := c.rest.drop count, offset := c.offset + byteLength word }
  return word

/-- Skips a word if it comes next. -/
def accept (word : String) : Reader Bool := do
  if word.toList.isPrefixOf (← get).rest then
    let _ ← take word.length
    return true
  else return false

/-- Skips a word that has to come next. -/
def expect (word : String) : Reader Unit := do
  unless ← accept word do fail

/-- The longest run of characters of a class. -/
def run (p : Char → Bool) : Reader (List Char) := do take ((← get).rest.takeWhile p).length

end Reader

open Reader

/-- Skips spaces and tabs. -/
def skipSpaces : Reader Unit := do let _ ← run (fun c => c = ' ' || c = '\t')

/-- Skips a line end, if one comes next. -/
def acceptNewline : Reader Bool := do
  if ← accept "\n" then return true else accept "\r\n"

/-- Skips a comment, if one comes next. -/
def skipComment : Reader Unit := do
  if (← peek) = some '#' then
    let _ ← run (fun c => !isControl c)

/-- Ends a line: spaces, a comment, and a line end or the end of the text. -/
def endLine : Reader Unit := do
  skipSpaces
  skipComment
  unless ← acceptNewline do
    if (← peek).isSome then fail

/-- Skips spaces, comments and line ends. The fuel bounds the number of lines. -/
def skipLines : Nat → Reader Unit
  | 0 => pure ()
  | fuel + 1 => do
    skipSpaces
    skipComment
    if ← acceptNewline then skipLines fuel

/-! ## Keys and values -/

/-- A quoted text, if one comes next, and how it is quoted. -/
def readText? : Reader (Option (Quoting × String)) := do
  match Quoting.ofFront? (← get).rest with
  | none => return none
  | some q =>
    let _ ← take q.delimiter.length
    let start ← offset
    let body ← take (q.bodyLength (← get).rest)
    match q.decode start body with
    | .ok s => return some (q, s)
    | .error .malformed =>
      note (.malformed start)
      return some (q, "")
    | .error (.noCharacter at_) =>
      note (.noCharacter at_)
      return some (q, "")

/-- Whether a character can go on a word without quotes. -/
def isWordChar (c : Char) : Bool :=
  !List.contains ['.', '=', ',', '[', ']', '\x7b', '\x7d', ' ', '\t', '#', '\r', '\n'] c

/-- A character of a key without quotes. -/
def isBareKey (c : Char) : Bool := c.isAlphanum || c = '_' || c = '-'

/-- One part of a dotted key. A part without characters is none. -/
def readKey : Reader Key := do
  let start ← offset
  match ← readText? with
  | some (q, s) =>
    if q.isLong then note (.malformed start)
    return ⟨s, ⟨start, ← offset⟩⟩
  | none =>
    let word ← run isWordChar
    if word.isEmpty || !word.all isBareKey then note (.malformed start)
    return ⟨String.ofList word, ⟨start, ← offset⟩⟩

/-- The parts of a key with dots between them. -/
def readKeyParts : Nat → Reader (List Key)
  | 0 => fail
  | fuel + 1 => do
    skipSpaces
    let key ← readKey
    skipSpaces
    if ← accept "." then return key :: (← readKeyParts fuel) else return [key]

/-- How deep values may lie in one another, and how many parts a key may have before its last one, less one. -/
def depthLimit : Nat := 80

/-- A key of one or more parts with dots between them. -/
def readDottedKey : Nat → Reader (List Key) := fun fuel => do
  let key ← readKeyParts fuel
  if depthLimit < key.length then note (.malformed (← offset))
  return key

/-- The characters of a word and of those that follow over blank characters. The fuel bounds their number. -/
def readWords : Nat → Reader (List Char)
  | 0 => fail
  | fuel + 1 => do
    let word ← run (fun c => isWordChar c || c = '.')
    let rest := (← get).rest
    let gap := rest.takeWhile (fun c => c = ' ' || c = '\t')
    let goesOn : Bool := match rest.drop gap.length with
      | c :: _ => isWordChar c && c ≠ '"' && c ≠ '\''
      | [] => false
    if gap ≠ [] ∧ goesOn then
      let _ ← take gap.length
      return word ++ gap ++ (← readWords fuel)
    else return word

/-- A value without quotes. One that is missing is no value, and where a bracket closes or an equals sign stands there cannot be
one. -/
def readWord : Reader Value := do
  let start ← offset
  match ← peek with
  | some '=' | some ']' | some '\x7d' => fail
  | _ =>
    match wordValue? (← readWords ((← get).rest.length + 1)) with
    | some v => return v
    | none =>
      note (.malformed start)
      return .boolean false

mutual

/-- A value inside `depth` others, and the part of the text it takes. -/
def readValue : Nat → Nat → Reader (Span × Value)
  | 0, _ => fail
  | fuel + 1, depth => do
    let start ← offset
    let value ← match ← readText? with
      | some (_, s) => pure (.text s)
      | none =>
        if ← accept "[" then
          if depthLimit ≤ depth then fail else pure (.array false (← readItems fuel (depth + 1)))
        else if ← accept "\x7b" then
          if depthLimit ≤ depth then fail else pure (.table .inline (← readFields fuel (depth + 1) []))
        else readWord
    return (⟨start, ← offset⟩, value)

/-- The rest of an array in brackets. -/
def readItems : Nat → Nat → Reader (List (Span × Value))
  | 0, _ => fail
  | fuel + 1, depth => do
    skipLines fuel
    if ← accept "]" then return []
    else if (← peek) = some ',' then fail
    else if (← peek).isNone then fail
    else
      let item ← readValue fuel depth
      skipLines fuel
      if ← accept "," then return item :: (← readItems fuel depth)
      else
        expect "]"
        return [item]

/-- The rest of a table in braces. -/
def readFields : Nat → Nat → Entries → Reader Entries
  | 0, _, _ => fail
  | fuel + 1, depth, es => do
    skipLines fuel
    if ← accept "\x7d" then return es
    else
      let start ← offset
      let path ← readDottedKey fuel
      expect "="
      skipSpaces
      let (span, v) ← readValue fuel depth
      let es ← match es.putDotted? path span v with
        | some es => pure es
        | none =>
          note (.malformed start)
          pure es
      skipLines fuel
      if ← accept "," then readFields fuel depth es
      else
        expect "\x7d"
        return es

end

/-! ## Lines -/

/-- One line that is not blank. -/
def readStatement : Reader Statement := do
  let fuel := (← get).rest.length + 1
  let start ← offset
  if ← accept "[[" then
    let path ← readDottedKey fuel
    expect "]]"
    let stop ← offset
    endLine
    return .header true path ⟨start, stop⟩
  else if ← accept "[" then
    let path ← readDottedKey fuel
    expect "]"
    let stop ← offset
    endLine
    return .header false path ⟨start, stop⟩
  else
    let path ← readDottedKey fuel
    expect "="
    skipSpaces
    let (span, v) ← readValue fuel 0
    endLine
    return .pair path span v

/-- Reads lines until the text ends. -/
def readDraft : Nat → Draft → Reader Draft
  | 0, _ => fail
  | fuel + 1, d => do
    skipLines fuel
    if (← peek).isNone then return d
    else
      let start ← offset
      match d.add? (← readStatement) with
      | some d => readDraft fuel d
      | none =>
        note (.malformed start)
        readDraft fuel d

/-- The entries of the document that a text spells. A mark of the byte order in front is skipped. -/
def readDocument (text : String) : Except DocumentFault Entries := do
  let read : Reader Draft := do
    let _ ← accept "\uFEFF"
    readDraft ((← get).rest.length + 2) ⟨[], []⟩
  let (d, c) ← StateT.run read ⟨text.toList, 0, none⟩
  match c.noted with
  | some fault => .error fault
  | none => .ok d.root

end PluginHost.Manifest
