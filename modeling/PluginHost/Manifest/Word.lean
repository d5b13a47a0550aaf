import PluginHost.Instances
import PluginHost.Manifest.Document

/-!
# Values without quotes

A word without quotes is a truth value, a number, or a date or time (`wordValue?`). Dates have to exist in the calendar. A word
that starts as a number and is none in the end may stand wherever its value is not needed (`Value.unfit`).
-/

namespace PluginHost.Manifest

/-- The value of a hexadecimal digit. -/
def hexValue? (c : Char) : Option Nat :=
  if c.isDigit then some (c.toNat - '0'.toNat)
  else if 'a' ≤ c ∧ c ≤ 'f' then some (c.toNat - 'a'.toNat + 10)
  else if 'A' ≤ c ∧ c ≤ 'F' then some (c.toNat - 'A'.toNat + 10)
  else none

/-- Digits with single underscores between them, without the underscores. -/
def digitRun? (p : Char → Bool) : List Char → Option (List Char)
  | [] => none
  | [c] => if p c then some [c] else none
  | c :: '_' :: rest => if p c then (digitRun? p rest).map (c :: ·) else none
  | c :: rest => if p c then (digitRun? p rest).map (c :: ·) else none

/-- The number that digits spell in a base. -/
def digitsValue (base : Nat) (digits : List Char) : Nat :=
  digits.foldl (fun n c => n * base + (hexValue? c).getD 0) 0

/-- A number that fits 128 bits is one; a larger one is not. -/
def integerValue (n : Int) : Value := if -2 ^ 127 ≤ n ∧ n < 2 ^ 128 then .integer n else .unfit

/-- The number that digits in a base spell. Without a digit there is none, which shows only where the number is needed. -/
def basedValue? (base : Nat) (isDigit : Char → Bool) (cs : List Char) : Option Value :=
  if cs.isEmpty then some .unfit else (digitRun? isDigit cs).map fun ds => integerValue (digitsValue base ds)

/-- An integer with a mark of its base in front. -/
def based? : List Char → Option Value
  | '0' :: 'x' :: cs => basedValue? 16 (fun c => (hexValue? c).isSome) cs
  | '0' :: 'o' :: cs => basedValue? 8 (fun c => '0' ≤ c && c ≤ '7') cs
  | '0' :: 'b' :: cs => basedValue? 2 (fun c => c = '0' || c = '1') cs
  | _ => none

/-- A minus or plus sign, and what follows it. -/
def signAndRest : List Char → Bool × List Char
  | '-' :: cs => (true, cs)
  | '+' :: cs => (false, cs)
  | cs => (false, cs)

/-- A word without its underscores. Behind each there is a digit of the kind asked for, and in front of each as well, unless the
word has only one character there. -/
def withoutUnderscores? (isDigit : Char → Bool) : List Char → Option (List Char)
  | '_' :: _ => none
  | [] => some []
  | first :: rest => (go true first rest).map (first :: ·)
where
  /-- The characters behind the last one, which may be the first of the word. -/
  go (isFirst : Bool) (last : Char) : List Char → Option (List Char)
    | [] => some []
    | '_' :: c :: rest =>
      if (isFirst || isDigit last) && isDigit c then (go false c rest).map (c :: ·) else none
    | '_' :: [] => none
    | c :: rest => (go false c rest).map (c :: ·)

/-- The integer that a decimal word spells. Behind an underscore anything goes that the underscores allow; whether the word is a
number then shows only where the number is needed. -/
def decimalValue? (cs : List Char) : Option Value :=
  let (negative, body) := signAndRest cs
  let value := fun ds : List Char =>
    if !ds.isEmpty && ds.all Char.isDigit then
      integerValue (if negative then -(digitsValue 10 ds : Int) else digitsValue 10 ds)
    else .unfit
  match body, body.dropWhile Char.isDigit with
  | [], _ => none
  | ['0'], _ => some (value body)
  | '0' :: _, _ => none
  | _, [] => some (value body)
  | _, '_' :: rest =>
    if rest.any (fun c => c = ' ' || c = '\t' || c = '.' || c = 'e' || c = 'E') then none
    else (withoutUnderscores? (fun c => (hexValue? c).isSome) cs).map fun joined => value (signAndRest joined).2
  | _, _ => none

/-- The digits in front of the point, where a zero cannot stand in front of others. Behind a sign and an underscore it can. -/
def headDigits? (isSigned : Bool) (cs : List Char) : Option (List Char) :=
  match isSigned, cs with
  | true, '_' :: cs => digitRun? Char.isDigit cs
  | _, cs => match digitRun? Char.isDigit cs with
    | some ('0' :: _ :: _) => none
    | result => result

/-- The parts of a decimal number behind its sign, if it has one: before the point, after it, and the exponent. -/
def floatParts? (isSigned : Bool) (cs : List Char) : Option (List Char × List Char × Int) := do
  let isE := fun c : Char => c = 'e' || c = 'E'
  let body := cs.takeWhile (fun c => !isE c)
  let head ← headDigits? isSigned (body.takeWhile (· ≠ '.'))
  let fraction ← match body.dropWhile (· ≠ '.') with
    | [] => some []
    | _ :: digits => digitRun? Char.isDigit digits
  match cs.dropWhile (fun c => !isE c) with
  | [] => if body.contains '.' then some (head, fraction, 0) else none
  | _ :: power =>
    let (negative, digits) := signAndRest power
    let n := digitsValue 10 (← digitRun? Char.isDigit digits)
    some (head, fraction, if negative then -(n : Int) else n)

/-- The floating point number that a word spells. One that is too large shows only where it is needed. -/
def floatValue? (cs : List Char) : Option Value := do
  let (negative, body) := signAndRest cs
  let signed := fun x : Float => if negative then -x else x
  match body with
  | ['i', 'n', 'f'] => some (.float (signed (1.0 / 0.0)))
  | ['n', 'a', 'n'] => some (.float (0.0 / 0.0))
  | _ =>
    let (head, fraction, power) ← floatParts? (body.length < cs.length) body
    let mantissa := digitsValue 10 (head ++ fraction)
    let e := power - fraction.length
    -- beyond these powers every mantissa of a text is zero or too large
    let x := if mantissa = 0 then 0.0
      else if e < -(400 + (head ++ fraction).length : Int) then 0.0
      else if 400 < e then 1.0 / 0.0
      else Float.ofScientific mantissa (e < 0) e.natAbs
    some (if x.isInf then .unfit else .float (signed x))

/-- Whether the characters follow a pattern, where a `d` stands for a digit. -/
def matchesPattern : List Char → List Char → Bool
  | [], [] => true
  | 'd' :: ps, c :: cs => c.isDigit && matchesPattern ps cs
  | p :: ps, c :: cs => p = c && matchesPattern ps cs
  | _, _ => false

/-- The number at the front, of two digits. -/
def twoDigits (cs : List Char) : Nat := digitsValue 10 (cs.take 2)

/-- How many days a month of a year has. -/
def daysIn (year month : Nat) : Nat :=
  match month with
  | 2 => if year % 4 = 0 ∧ (year % 100 ≠ 0 ∨ year % 400 = 0) then 29 else 28
  | 4 | 6 | 9 | 11 => 30
  | _ => 31

/-- Whether the characters are a date, year first. -/
def isDate (cs : List Char) : Bool :=
  let month := twoDigits (cs.drop 5)
  let day := twoDigits (cs.drop 8)
  matchesPattern "dddd-dd-dd".toList cs && 1 ≤ month && month ≤ 12 && 1 ≤ day
    && day ≤ daysIn (digitsValue 10 (cs.take 4)) month

/-- Whether the characters are a time of day; seconds and their fraction may be missing. -/
def isTime (cs : List Char) : Bool :=
  let whole := cs.takeWhile (· ≠ '.')
  let fraction := cs.dropWhile (· ≠ '.')
  (matchesPattern "dd:dd:dd".toList whole || (matchesPattern "dd:dd".toList whole && fraction.isEmpty))
    && twoDigits whole ≤ 23 && twoDigits (whole.drop 3) ≤ 59 && twoDigits (whole.drop 6) ≤ 60
    && (fraction.isEmpty || (1 < fraction.length && (fraction.drop 1).all Char.isDigit))

/-- Whether the characters are a time of day with or without an offset. -/
def isTimeWithOffset (cs : List Char) : Bool :=
  let time := cs.takeWhile (fun c => c.isDigit || c = ':' || c = '.')
  let zone := cs.drop time.length
  isTime time && match zone with
    | [] | ['Z'] | ['z'] => true
    | sign :: zone => (sign = '+' || sign = '-') && matchesPattern "dd:dd".toList zone
        && twoDigits zone ≤ 23 && twoDigits (zone.drop 3) ≤ 59

/-- Whether the characters are a date, a time, or both. -/
def isDatetime (cs : List Char) : Bool :=
  isDate cs || isTime cs
    || (isDate (cs.take 10) && match cs.drop 10 with
      | c :: time => (c = 'T' || c = 't' || c = ' ') && isTimeWithOffset time
      | [] => false)

/-- The value that an unquoted word spells. -/
def wordValue? (cs : List Char) : Option Value :=
  if cs = "true".toList then some (.boolean true)
  else if cs = "false".toList then some (.boolean false)
  else if isDatetime cs then some .datetime
  else (based? cs).or ((decimalValue? cs).or (floatValue? cs))

end PluginHost.Manifest
