import PluginHost.Script.PythonPrintable
import PluginHost.Script.PythonSyntax

/-!
# Texts and bytes in Python

The forms in which texts and bytes are shown, and the operations on texts that do not depend on other values.
-/

namespace PluginHost.Python

/-- A number in hexadecimal with at least some digits. -/
def hexPadded (width n : Nat) : String :=
  let t := String.ofList (Nat.toDigits 16 n)
  String.ofList (List.replicate (width - t.length) '0') ++ t

/-- The quote for a text: the single one, unless the text has that one only. -/
def quoteFor (s : List Nat) : Nat := if s.contains 39 && !s.contains 34 then 34 else 39

namespace Text

/-- A code point as it is shown between quotes. -/
def showPoint (quote n : Nat) : Text :=
  if n = quote ∨ n = 92 then [92, n]
  else if n = 9 then ofString "\\t"
  else if n = 10 then ofString "\\n"
  else if n = 13 then ofString "\\r"
  else if 32 ≤ n ∧ n < 127 then [n]
  else if n < 127 ∨ !isPrintable n then
    if n < 0x100 then ofString ("\\x" ++ hexPadded 2 n)
    else if n < 0x10000 then ofString ("\\u" ++ hexPadded 4 n)
    else ofString ("\\U" ++ hexPadded 8 n)
  else [n]

/-- A text in quotes; what cannot be printed is escaped. -/
def quoted (s : Text) : Text :=
  let quote := quoteFor s
  quote :: s.flatMap (showPoint quote) ++ [quote]

/-- Whether a code point is white space. -/
def isSpace (n : Nat) : Bool :=
  (9 ≤ n && n ≤ 13) || (28 ≤ n && n ≤ 32) || n == 0x85 || n == 0xA0 || n == 0x1680 || (0x2000 ≤ n && n ≤ 0x200A)
    || n == 0x2028 || n == 0x2029 || n == 0x202F || n == 0x205F || n == 0x3000

/-- The bytes of a text, if it has no surrogates. -/
def encode? (s : Text) : Option (List UInt8) :=
  if s.all fun n => decide n.isValidChar then some (String.ofList (s.map Char.ofNat)).toUTF8.toList else none

/-- The text of a string of digits and the like, as characters. -/
def chars (s : Text) : List Char := s.map Char.ofNat

/-- A text without what is at its ends. -/
def strip (isAtEnd : Nat → Bool) (left right : Bool) (s : Text) : Text :=
  let s := if left then s.dropWhile isAtEnd else s
  if right then (s.reverse.dropWhile isAtEnd).reverse else s

/-- The first place from which on a text holds another. -/
def find? (needle : Text) : Text → Nat → Option Nat
  | [], i => if needle = [] then some i else none
  | c :: cs, i => if needle.isPrefixOf (c :: cs) then some i else find? needle cs (i + 1)

/-- Splits a text at a text that is not empty, at most some times. The fuel is the length of the text. -/
def splitOn (sep : Text) : Nat → Option Nat → Text → Text → List Text
  | 0, _, acc, _ => [acc.reverse]
  | _ + 1, _, acc, [] => [acc.reverse]
  | fuel + 1, limit, acc, c :: cs =>
    if limit ≠ some 0 ∧ sep.isPrefixOf (c :: cs) then
      acc.reverse :: splitOn sep fuel (limit.map (· - 1)) [] ((c :: cs).drop sep.length)
    else splitOn sep fuel limit (c :: acc) cs

/-- Splits a text at white space, at most some times. The fuel is the length of the text. -/
def words : Nat → Option Nat → Text → List Text
  | 0, _, _ => []
  | fuel + 1, limit, s =>
    let s := s.dropWhile isSpace
    if s = [] then []
    else if limit = some 0 then [strip isSpace false true s]
    else s.takeWhile (!isSpace ·) :: words fuel (limit.map (· - 1)) (s.dropWhile (!isSpace ·))

/-- Replaces a text that is not empty wherever it stands. The fuel is the length of the text. -/
def replace (old new : Text) : Nat → Text → Text
  | 0, s => s
  | _ + 1, [] => []
  | fuel + 1, c :: cs =>
    if old.isPrefixOf (c :: cs) then new ++ replace old new fuel ((c :: cs).drop old.length)
    else c :: replace old new fuel cs

/-- Joins texts with one between them. -/
def join (sep : Text) : List Text → Text
  | [] => []
  | [t] => t
  | t :: ts => t ++ sep ++ join sep ts

/-- How texts compare: by code points. -/
def compare : Text → Text → Ordering
  | [], [] => .eq
  | [], _ => .lt
  | _, [] => .gt
  | a :: as, b :: bs => if a < b then .lt else if b < a then .gt else compare as bs

end Text

/-- A byte as it is shown between quotes. -/
def showByte (quote : Nat) (b : UInt8) : String :=
  let n := b.toNat
  if n = quote ∨ n = 92 then String.ofList ['\\', Char.ofNat n]
  else if n = 9 then "\\t"
  else if n = 10 then "\\n"
  else if n = 13 then "\\r"
  else if 32 ≤ n ∧ n < 127 then String.singleton (Char.ofNat n)
  else "\\x" ++ hexPadded 2 n

/-- Bytes in quotes, with their mark. -/
def showBytes (b : List UInt8) : String :=
  let quote := quoteFor (b.map UInt8.toNat)
  let q := String.singleton (Char.ofNat quote)
  "b" ++ q ++ String.join (b.map (showByte quote)) ++ q

/-- What a range of indexes means for a sequence of some length: the first index, the last bound and the step. -/
def sliceBounds (length : Nat) (start stop : Option Int) (step : Int) : Int × Int :=
  let n : Int := length
  let clamp (i : Int) : Int :=
    if step < 0 then (if i < 0 then max (i + n) (-1) else min i (n - 1))
    else if i < 0 then max (i + n) 0 else min i n
  ((start.map clamp).getD (if step < 0 then n - 1 else 0), (stop.map clamp).getD (if step < 0 then -1 else n))

/-- The numbers of a range; how many they are bounds the recursion. -/
def rangeItems (start step : Int) : Nat → List Int
  | 0 => []
  | count + 1 => start :: rangeItems (start + step) step count

/-- How many numbers a range has. -/
def rangeLength (start stop step : Int) : Nat :=
  if 0 < step then (if start < stop then ((stop - start - 1) / step + 1).toNat else 0)
  else if step < 0 then (if stop < start then ((start - stop - 1) / (-step) + 1).toNat else 0)
  else 0

/-- The indexes that a range of indexes takes from a sequence of some length. -/
def sliceIndexes (length : Nat) (start stop : Option Int) (step : Int) : List Nat :=
  let (first, bound) := sliceBounds length start stop step
  (rangeItems first step (rangeLength first bound step)).map Int.toNat

end PluginHost.Python
