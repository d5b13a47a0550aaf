import PluginHost.Decimal.Notation
import PluginHost.Text.Bytes

/-!
# Lua numbers

A number is an integer of 64 bits, which wraps, or a double. `readNumber?` reads the numerals of programs and of texts,
`numberText` writes them, and the division of both kinds rounds toward minus infinity.
-/

namespace PluginHost.Lua

/-- A number of either kind. -/
inductive Number
  | integer (n : Int64)
  | float (x : Float)

/-! ## Reading -/

/-- What separates words. -/
def isSpace (c : Char) : Bool := c = ' ' || (9 ≤ c.toNat && c.toNat ≤ 13)

/-- The value of a hexadecimal digit. -/
def hexDigit? (c : Char) : Option Nat :=
  if c.isDigit then some (c.toNat - 48)
  else if 'a' ≤ c ∧ c ≤ 'f' then some (c.toNat - 87)
  else if 'A' ≤ c ∧ c ≤ 'F' then some (c.toNat - 55)
  else none

/-- Whether a character is a hexadecimal digit. -/
def isHexDigit (c : Char) : Bool := (hexDigit? c).isSome

/-- The number that digits spell in a base. -/
def digitsIn (base : Nat) (cs : List Char) : Nat := cs.foldl (fun n c => n * base + (hexDigit? c).getD 0) 0

/-- A decimal exponent of a double, kept in the range where it matters. -/
def scaled (mantissa : Nat) (e : Int) : Float :=
  if mantissa = 0 then 0.0
  else if e < -100000 then 0.0
  else if 100000 < e then 1.0 / 0.0
  else
    -- beyond these bounds the result is zero or infinite whatever the digits
    let size : Int := (Nat.log2 mantissa : Int) * 30103 / 100000
    if e + size < -400 then 0.0 else if 400 < e + size then 1.0 / 0.0 else Float.ofScientific mantissa (e < 0) e.natAbs

/-- A sign in front, and the rest. -/
def splitSign : List Char → Bool × List Char
  | '-' :: cs => (true, cs)
  | '+' :: cs => (false, cs)
  | cs => (false, cs)

/-- An exponent after its letter: a sign and at least one digit. -/
def exponent? (cs : List Char) : Option Int :=
  let (negative, digits) := splitSign cs
  if digits ≠ [] ∧ digits.all Char.isDigit then
    let n : Int := min (digitsIn 10 digits) 1000000
    some (if negative then -n else n)
  else none

/-- Digits around an optional point, and what follows them. -/
def splitPoint (isDigit : Char → Bool) (cs : List Char) : List Char × List Char × List Char × Bool :=
  let whole := cs.takeWhile isDigit
  match cs.drop whole.length with
  | '.' :: rest =>
    let fraction := rest.takeWhile isDigit
    (whole, fraction, rest.drop fraction.length, true)
  | rest => (whole, [], rest, false)

/-- A double times a power of two, rounded once. -/
def timesPowerOfTwo (mantissa : Nat) (e : Int) : Float :=
  if mantissa = 0 then 0.0
  else if 1100 < e + Nat.log2 mantissa then 1.0 / 0.0
  else if e + Nat.log2 mantissa < -1200 then 0.0
  else if 0 ≤ e then Float.ofNat (mantissa * 2 ^ e.toNat)
  else
    -- a power of two below one is a power of five over a power of ten
    Float.ofScientific (mantissa * 5 ^ (-e).toNat) true (-e).toNat

/-- A numeral without a sign. -/
def unsigned? : List Char → Option Number
  | '0' :: x :: cs =>
    if x = 'x' ∨ x = 'X' then
      let (whole, fraction, rest, point) := splitPoint isHexDigit cs
      if whole = [] ∧ fraction = [] then none
      else match rest with
        | [] =>
          if point then some (.float (timesPowerOfTwo (digitsIn 16 (whole ++ fraction)) (-4 * fraction.length)))
          else some (.integer (Int64.ofNat (digitsIn 16 whole)))
        | p :: power =>
          if p = 'p' ∨ p = 'P' then
            (exponent? power).map fun e =>
              .float (timesPowerOfTwo (digitsIn 16 (whole ++ fraction)) (e - 4 * fraction.length))
          else none
    else decimal? ('0' :: x :: cs)
  | cs => decimal? cs
where
  /-- A decimal numeral; one that is too large for an integer is a double. -/
  decimal? (cs : List Char) : Option Number :=
    let (whole, fraction, rest, point) := splitPoint Char.isDigit cs
    if whole = [] ∧ fraction = [] then none
    else match rest with
      | [] =>
        let n := digitsIn 10 whole
        if point then some (.float (scaled (digitsIn 10 (whole ++ fraction)) (-(fraction.length : Int))))
        else if n < 2 ^ 63 then some (.integer (Int64.ofNat n)) else some (.float (scaled n 0))
      | e :: power =>
        if e = 'e' ∨ e = 'E' then
          (exponent? power).map fun e => .float (scaled (digitsIn 10 (whole ++ fraction)) (e - fraction.length))
        else none

/-- A number with the sign turned. -/
def Number.neg : Number → Number
  | .integer n => .integer (-n)
  | .float x => .float (-x)

/-- The number that a text spells, blanks around it aside. -/
def readNumber? (cs : List Char) : Option Number :=
  let cs := ((cs.dropWhile isSpace).reverse.dropWhile isSpace).reverse
  let (negative, digits) := splitSign cs
  (unsigned? digits).map fun n => if negative then n.neg else n

/-! ## Writing -/

/-- The text of a double: fourteen digits, and always a sign that it is no integer. -/
def floatText (x : Float) : String :=
  let t := Decimal.general 14 (.ofFloat x)
  if t.toList.all fun c => c.isDigit || c = '-' then t ++ ".0" else t

/-- The text of a number. -/
def Number.text : Number → String
  | .integer n => toString n.toInt
  | .float x => floatText x

/-! ## Conversions -/

/-- The double nearest to a number. -/
def Number.toFloat : Number → Float
  | .integer n => Float.ofInt n.toInt
  | .float x => x

/-- The integer that a double equals. -/
def floatToInteger? (x : Float) : Option Int64 := do
  let n ← Decimal.toInt? x
  if -2 ^ 63 ≤ n ∧ n < 2 ^ 63 then some (Int64.ofInt n) else none

/-- The integer that a number equals. -/
def Number.toInteger? : Number → Option Int64
  | .integer n => some n
  | .float x => floatToInteger? x

/-! ## Arithmetic -/

/-- Division of integers toward minus infinity. -/
def floorDiv (a b : Int64) : Int64 := Int64.ofInt (a.toInt.fdiv b.toInt)

/-- The remainder that has the sign of the divisor. -/
def floorMod (a b : Int64) : Int64 := Int64.ofInt (a.toInt.fmod b.toInt)

/-- The remainder of a division toward zero, computed exactly. -/
def floatRemainder (a b : Float) : Float :=
  match Decimal.Parts.ofFloat a, Decimal.Parts.ofFloat b with
  | .finite x, .finite y =>
    if y.mantissa = 0 then 0.0 / 0.0
    else
      let e := min x.exponent y.exponent
      let m := (x.mantissa * 2 ^ (x.exponent - e).toNat) % (y.mantissa * 2 ^ (y.exponent - e).toNat)
      let r := timesPowerOfTwo m e
      if x.negative then -r else r
  | .finite _, .infinite _ => a
  | _, _ => 0.0 / 0.0

/-- The remainder of doubles that has the sign of the divisor. -/
def floatMod (a b : Float) : Float :=
  let r := floatRemainder a b
  if (0 < r && b < 0) || (r < 0 && 0 < b) then r + b else r

/-- A shift to the left; a negative amount shifts to the right, and large amounts leave nothing. -/
def shiftLeft (a b : Int64) : Int64 :=
  let n := b.toInt
  let bits := a.toUInt64.toNat
  if n ≤ -64 ∨ 64 ≤ n then 0
  else if 0 ≤ n then Int64.ofNat (bits * 2 ^ n.toNat % 2 ^ 64)
  else Int64.ofNat (bits / 2 ^ (-n).toNat)

/-- How two numbers compare; a number that is none compares with nothing. -/
def Number.compare? : Number → Number → Option Ordering
  | .integer a, .integer b => some (Ord.compare a.toInt b.toInt)
  | .float a, .float b => if a < b then some .lt else if b < a then some .gt else if a == b then some .eq else none
  | .integer a, .float b => compareMixed a b
  | .float a, .integer b => (compareMixed b a).map Ordering.swap
where
  /-- An integer against a double, exactly. -/
  compareMixed (a : Int64) (b : Float) : Option Ordering :=
    match Decimal.Parts.ofFloat b with
    | .nan => none
    | .infinite negative => some (if negative then .gt else .lt)
    | .finite _ => match Decimal.floor? b with
      | none => none
      | some f =>
        if f < a.toInt then some .gt
        else if a.toInt < f then some .lt
        else if (Decimal.toInt? b).isSome then some .eq else some .lt

end PluginHost.Lua
