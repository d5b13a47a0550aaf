import PluginHost.Decimal.Binary

/-!
# Decimal digits of a number

`Digits` is a decimal number: an integer of digits times a power of ten. Two ways lead to it from a binary number:
`shortest` has the fewest digits that still read back as the number, and of those the nearest; `significant` has a given
number of digits, and a tie goes to the even neighbour. Both compute with exact quotients.
-/

namespace PluginHost.Decimal

/-- The number `digits · 10 ^ exponent`. -/
structure Digits where
  digits : Nat
  exponent : Int
deriving Repr, DecidableEq

/-- Moves zeros from the end of the digits into the exponent. The fuel is the number of digits. -/
def Digits.trimZeros (d : Digits) : Nat → Digits
  | 0 => d
  | fuel + 1 =>
    if d.digits ≠ 0 ∧ d.digits % 10 = 0 then Digits.trimZeros ⟨d.digits / 10, d.exponent + 1⟩ fuel else d

/-- The digits as text. -/
def Digits.text (d : Digits) : String := toString d.digits

/-- The power of ten of the first digit: `3.25` has `0`, `0.02` has `-2`. -/
def Digits.leading (d : Digits) : Int := d.exponent + d.text.length - 1

/-- Whether `10 ^ e ≤ num / den`. -/
def powerLe (e : Int) (num den : Nat) : Bool :=
  if 0 ≤ e then decide (10 ^ e.toNat * den ≤ num) else decide (den ≤ num * 10 ^ (-e).toNat)

/-- Raises `e` while the next power of ten is still below the quotient. -/
def raisePower (num den : Nat) : Nat → Int → Int
  | 0, e => e
  | fuel + 1, e => if powerLe (e + 1) num den then raisePower num den fuel (e + 1) else e

/-- The power of ten of the first digit of a positive quotient. -/
def floorLog10 (num den : Nat) : Int :=
  let guess : Int := (((Nat.log2 num : Int) - Nat.log2 den - 1) * 30103).fdiv 100000 - 1
  raisePower num den 4 guess

/-- The quotient `num / den` in units of `10 ^ e`, as a quotient again. -/
def inUnits (num den : Nat) (e : Int) : Nat × Nat :=
  if 0 ≤ e then (num, den * 10 ^ e.toNat) else (num * 10 ^ (-e).toNat, den)

/-- A quotient rounded to an integer; a tie goes to the even one. -/
def roundDiv (num den : Nat) : Nat :=
  let q := num / den
  let r := num % den
  if 2 * r < den then q else if den < 2 * r then q + 1 else if q % 2 = 0 then q else q + 1

/-- The first `count` digits of a positive quotient, rounded. -/
def significantOf (num den count : Nat) : Digits :=
  let e := floorLog10 num den - (count - 1 : Nat)
  let (n, d) := inUnits num den e
  let q := roundDiv n d
  if q = 10 ^ count then ⟨q / 10, e + 1⟩ else ⟨q, e⟩

/-- The quotient rounded to `places` digits after the point, in units of the last place. -/
def placesOf (num den places : Nat) : Nat := roundDiv (num * 10 ^ places) den

/-- The numbers that read back as `b`, as quotients over one denominator: lower end, upper end, denominator. -/
def Binary.interval (b : Binary) : Nat × Nat × Nat :=
  let below := if b.isBoundary then 1 else 2
  let lo := 4 * b.mantissa - below
  let hi := 4 * b.mantissa + 2
  let e := b.exponent - 2
  if 0 ≤ e then (lo * 2 ^ e.toNat, hi * 2 ^ e.toNat, 1) else (lo, hi, 2 ^ (-e).toNat)

/-- Whether `q · 10 ^ e` reads back as `b`; the ends of the interval do iff the mantissa is even. -/
def Binary.readsBack (b : Binary) (q : Nat) (e : Int) : Bool :=
  let (lo, hi, den) := b.interval
  let (qn, qd) : Nat × Nat := if 0 ≤ e then (q * 10 ^ e.toNat, 1) else (q, 10 ^ (-e).toNat)
  if b.mantissa % 2 = 0 then decide (lo * qd ≤ qn * den) && decide (qn * den ≤ hi * qd)
  else decide (lo * qd < qn * den) && decide (qn * den < hi * qd)

/-- The candidate with `count` digits that reads back and is nearest, if there is one. -/
def Binary.withCount? (b : Binary) (count : Nat) : Option Digits :=
  let (num, den) := b.ratio
  let e := floorLog10 num den - (count - 1 : Nat)
  let (n, d) := inUnits num den e
  let q := n / d
  let nearer := roundDiv n d
  let other := if nearer = q then q + 1 else q
  if b.readsBack nearer e then some ⟨nearer, e⟩
  else if b.readsBack other e then some ⟨other, e⟩
  else none

/-- Tries `count` digits, then one more, and so on. -/
def Binary.shortestFrom (b : Binary) : Nat → Nat → Digits
  | 0, _ => let (num, den) := b.ratio; significantOf num den 17
  | fuel + 1, count => (b.withCount? count).getD (b.shortestFrom fuel (count + 1))

/-- The fewest digits that read back as the number; zero is the digit zero. -/
def Binary.shortest (b : Binary) : Digits :=
  if b.mantissa = 0 then ⟨0, 0⟩ else (b.shortestFrom 17 1).trimZeros 20

/-- The number rounded to `count` digits. -/
def Binary.significant (b : Binary) (count : Nat) : Digits :=
  if b.mantissa = 0 then ⟨0, 0⟩ else let (num, den) := b.ratio; significantOf num den count

/-- The number rounded to `places` digits after the point, in units of the last place. -/
def Binary.places (b : Binary) (places : Nat) : Nat := let (num, den) := b.ratio; placesOf num den places

end PluginHost.Decimal
