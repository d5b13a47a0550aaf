import PluginHost.Script.LuaArguments
import PluginHost.Script.LuaPattern
import PluginHost.Decimal.Notation

/-!
# The `string` library of Lua

The functions that only look at their arguments. Texts are sequences of bytes, each handled as the character of its number.
-/

namespace PluginHost.Lua

/-- How long a text may get. -/
def maxTextSize : Nat := 2 ^ 31 - 1

/-- A start position, a negative one counted from the end, as a number of characters before it. -/
def startIndex (i : Int64) (size : Nat) : Nat :=
  let n := i.toInt
  if 0 < n then n.toNat - 1 else if n = 0 then 0 else if n < -(size : Int) then 0 else (size + n).toNat

/-- An end position, a negative one counted from the end, as a number of characters up to it. -/
def stopIndex (i : Int64) (size : Nat) : Nat :=
  let n := i.toInt
  if (size : Int) < n then size else if 0 ≤ n then n.toNat else if n < -(size : Int) then 0 else (size + 1 + n).toNat

/-- The part of a text between two positions. -/
def sliceText (s : ByteArray) (first last : Int64) : ByteArray :=
  s.extract (startIndex first s.size) (stopIndex last s.size)

/-- Changes each byte of a text as a letter. -/
def mapLetters (f : Char → Char) (s : ByteArray) : ByteArray := Bytes.ofChars ((Bytes.toChars s).map f)

/-- A text some times over, with another between. -/
def repeatText (s separator : ByteArray) (n : Nat) : ByteArray :=
  match n with
  | 0 => .empty
  | n + 1 => (List.range n).foldl (fun out _ => out ++ separator ++ s) s

/-! ## Formats -/

/-- A conversion of a format. -/
structure Conversion where
  isLeft : Bool := false
  plus : Bool := false
  blank : Bool := false
  isAlternate : Bool := false
  isZeroed : Bool := false
  width : Nat := 0
  precision : Option Nat := none

/-- Reads the flags of a conversion. -/
def Conversion.flags (c : Conversion) : List Char → Conversion × List Char
  | '-' :: cs => { c with isLeft := true }.flags cs
  | '+' :: cs => { c with plus := true }.flags cs
  | ' ' :: cs => { c with blank := true }.flags cs
  | '#' :: cs => { c with isAlternate := true }.flags cs
  | '0' :: cs => { c with isZeroed := true }.flags cs
  | cs => (c, cs)

/-- Reads a conversion up to its letter. -/
def Conversion.read (cs : List Char) : Conversion × List Char :=
  let (c, cs) := ({} : Conversion).flags cs
  let width := cs.takeWhile Char.isDigit
  let c := { c with width := digitsIn 10 width }
  match cs.drop width.length with
  | '.' :: cs =>
    let precision := cs.takeWhile Char.isDigit
    ({ c with precision := some (digitsIn 10 precision) }, cs.drop precision.length)
  | cs => (c, cs)

/-- Fills a text up to the width of a conversion, with zeros behind the sign if asked for. -/
def Conversion.pad (c : Conversion) (zeros : Bool) (cs : List Char) : List Char :=
  let missing := c.width - cs.length
  if c.isLeft then cs ++ List.replicate missing ' '
  else if zeros then
    match cs with
    | s :: rest =>
      if s = '-' ∨ s = '+' ∨ s = ' ' then s :: (List.replicate missing '0' ++ rest) else List.replicate missing '0' ++ cs
    | [] => List.replicate missing '0'
  else List.replicate missing ' ' ++ cs

/-- A sign in front of what is not negative, if asked for. -/
def Conversion.sign (c : Conversion) (cs : List Char) : List Char :=
  match cs with
  | '-' :: _ => cs
  | _ => if c.plus then '+' :: cs else if c.blank then ' ' :: cs else cs

/-- At least as many digits as the precision asks for. -/
def Conversion.digits (c : Conversion) (cs : List Char) : List Char :=
  match c.precision with
  | some n => List.replicate (n - cs.length) '0' ++ cs
  | none => cs

/-- A text as a literal that reads back. -/
def quoteLiteral (cs : List Char) : List Char :=
  '"' :: go cs ++ ['"']
where
  /-- The characters between the quotes. -/
  go : List Char → List Char
    | [] => []
    | c :: cs =>
      let next := (cs.head?.map Char.isDigit).getD false
      let here :=
        if c = '"' ∨ c = '\\' ∨ c = '\n' then ['\\', c]
        else if c.toNat < 32 ∨ c.toNat = 127 then
          let digits := (toString c.toNat).toList
          '\\' :: (if next then List.replicate (3 - digits.length) '0' ++ digits else digits)
        else [c]
      here ++ go cs

/-- The text of a value in a format. -/
def displayText (v : Value) : List Char :=
  match v with
  | .nil => "nil".toList
  | .boolean b => (if b then "true" else "false").toList
  | v => match v.toText? with
    | some s => Bytes.toChars s
    | none => (v.typeName ++ ": 0x0").toList

/-- Converts an argument. -/
def Conversion.apply (c : Conversion) (letter : Char) (args : Args) (i : Nat) : Except Failure (List Char) := do
  let float (g : Nat → Decimal.Parts → String) : Except Failure (List Char) := do
    let x := (← args.number i).toFloat
    let text := c.sign (g (c.precision.getD 6) (.ofFloat x)).toList
    return c.pad (c.isZeroed && !x.isNaN && !x.isInf) text
  let upper (r : Except Failure (List Char)) : Except Failure (List Char) := do return (← r).map Char.toUpper
  let unsigned (base : Nat) (mark : String) : Except Failure (List Char) := do
    let n := (← args.integer i).toUInt64.toNat
    let digits := c.digits (Nat.toDigits base n)
    return c.pad (c.isZeroed && c.precision.isNone) (if c.isAlternate ∧ n ≠ 0 then mark.toList ++ digits else digits)
  match letter with
  | 'd' | 'i' =>
    let n := (← args.integer i).toInt
    let digits := c.digits (toString n.natAbs).toList
    return c.pad (c.isZeroed && c.precision.isNone) (c.sign (if n < 0 then '-' :: digits else digits))
  | 'c' => return c.pad false [Char.ofNat ((← args.integer i).toUInt64.toNat % 256)]
  | 'x' => unsigned 16 "0x"
  | 'X' => upper (unsigned 16 "0x")
  | 'o' => unsigned 8 "0"
  | 'e' => float Decimal.exponential
  | 'E' => upper (float Decimal.exponential)
  | 'f' | 'F' => float Decimal.fixed
  | 'g' => float fun n => Decimal.general (max n 1)
  | 'G' => upper (float fun n => Decimal.general (max n 1))
  | 's' =>
    let text := displayText (← args.any i)
    return c.pad false (match c.precision with
      | some n => text.take n
      | none => text)
  | 'q' => match ← args.any i with
    | .text s => return quoteLiteral (Bytes.toChars s)
    | v => return displayText v
  | _ => throw (.message s!"invalid conversion '%{letter}' to 'format'")

/-- Fills a format with arguments from a number on. The fuel is the length of the format. -/
def fillFormat (args : Args) : Nat → List Char → Nat → Except Failure (List Char)
  | 0, _, _ => return []
  | _, [], _ => return []
  | fuel + 1, '%' :: '%' :: cs, i => return '%' :: (← fillFormat args fuel cs i)
  | fuel + 1, '%' :: cs, i => do
    let (c, rest) := Conversion.read cs
    match rest with
    | letter :: rest =>
      let text ← c.apply letter args i
      return text ++ (← fillFormat args fuel rest (i + 1))
    | [] => throw (.message "invalid conversion '%' to 'format'")
  | fuel + 1, c :: cs, i => return c :: (← fillFormat args fuel cs i)

/-! ## Matches -/

/-- The value of a capture. -/
def captureValue (s : Array Char) : Pattern.Capture → Except Failure Value
  | .closed start length => return .text (Bytes.ofChars (s.extract start (start + length)).toList)
  | .position start => return .integer (Int64.ofNat (start + 1))
  | .open _ => throw (.message "unfinished capture")

/-- The captures of a match, or all of it if there are none. -/
def captureValues (s : Array Char) (start stop : Nat) (captures : Array Pattern.Capture) : Except Failure (List Value) :=
  if captures.isEmpty then return [.text (Bytes.ofChars (s.extract start stop).toList)]
  else captures.toList.mapM (captureValue s)

/-- An error of a pattern as a failure. -/
def patternResult {α : Type} (r : Except String α) : Except Failure α :=
  match r with
  | .ok a => return a
  | .error e => throw (.message e)

/-- Looks a pattern up in a text: where it is, or what it keeps. -/
def findOrMatch (args : Args) (isFind : Bool) : Except Failure (List Value) := do
  let s := (Bytes.toChars (← args.text 1)).toArray
  let p := (Bytes.toChars (← args.text 2)).toArray
  let start := startIndex (← args.integerOr 3 1) s.size
  if s.size < start then return [.nil]
  else if isFind ∧ ((args.get 4).isTrue ∨ !Pattern.hasSpecials p) then
    match Pattern.findPlain s p start with
    | some i => return [.integer (Int64.ofNat (i + 1)), .integer (Int64.ofNat (i + p.size))]
    | none => return [.nil]
  else match ← patternResult (Pattern.search s p start) with
    | some (first, stop, captures) =>
      if isFind then
        return .integer (Int64.ofNat (first + 1)) :: .integer (Int64.ofNat stop)
          :: (← captures.toList.mapM (captureValue s))
      else captureValues s first stop captures
    | none => return [.nil]

/-- The text that replaces a match: a percent sign with a digit stands for a capture. -/
def expandReplacement (whole : List Char) (captures : List Value) : List Char → Except Failure (List Char)
  | [] => return []
  | '%' :: '%' :: cs => return '%' :: (← expandReplacement whole captures cs)
  | '%' :: '0' :: cs => return whole ++ (← expandReplacement whole captures cs)
  | '%' :: d :: cs =>
    if d.isDigit then
      match captures[d.toNat - 49]? with
      | some v => return displayText v ++ (← expandReplacement whole captures cs)
      | none => throw (.message s!"invalid capture index %{d.toNat - 48} in replacement string")
    else throw (.message "invalid use of '%' in replacement string")
  | '%' :: [] => throw (.message "invalid use of '%' in replacement string")
  | c :: cs => return c :: (← expandReplacement whole captures cs)

/-! ## Functions -/

/-- What a function of the library gives; those that call back are elsewhere. -/
def TextFunction.apply (f : TextFunction) (args : Args) : Except Failure (List Value) := do
  match f with
  | byte =>
    let s ← args.text 1
    let first ← args.integerOr 2 1
    let last ← args.integerOr 3 first
    return (sliceText s first last).toList.map fun b => .integer (Int64.ofNat b.toNat)
  | char =>
    let bytes ← (List.range args.values.length).mapM fun i => do
      let n ← args.integer (i + 1)
      if 0 ≤ n.toInt ∧ n.toInt < 256 then return UInt8.ofNat n.toInt.toNat
      else throw (Failure.argument (i + 1) "value out of range")
    return [.text ⟨bytes.toArray⟩]
  | find => findOrMatch args true
  | «match» => findOrMatch args false
  | format =>
    let cs := Bytes.toChars (← args.text 1)
    return [.text (Bytes.ofChars (← fillFormat args (cs.length + 1) cs 2))]
  | len => return [.integer (Int64.ofNat (← args.text 1).size)]
  | lower => return [.text (mapLetters Char.toLower (← args.text 1))]
  | upper => return [.text (mapLetters Char.toUpper (← args.text 1))]
  | reverse => return [.text ⟨(← args.text 1).toList.reverse.toArray⟩]
  | sub =>
    let s ← args.text 1
    return [.text (sliceText s (← args.integer 2) (← args.integerOr 3 (-1)))]
  | rep =>
    let s ← args.text 1
    let n := (← args.integer 2).toInt
    let separator ← if args.isAbsent 3 then pure .empty else args.text 3
    if n ≤ 0 then return [.text .empty]
    else if maxTextSize < (s.size + separator.size) * n.toNat then throw (.message "resulting string too large")
    else return [.text (repeatText s separator n.toNat)]
  | gmatch | gsub => throw (.message "not applicable")

end PluginHost.Lua
