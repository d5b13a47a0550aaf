import PluginHost.Instances

/-!
# Binary floating point numbers, taken apart

A finite number is a mantissa times a power of two (`Binary`). `ofFloat` and `ofFloat32` take apart the two widths;
everything that writes a number in decimal starts from the parts and computes with natural numbers.
-/

namespace PluginHost.Decimal

/-- The number `± mantissa · 2 ^ exponent`. -/
structure Binary where
  negative : Bool
  mantissa : Nat
  exponent : Int
  /-- The next smaller number is half as far away as the next larger one. -/
  isBoundary : Bool

/-- A floating point number by kind. -/
inductive Parts
  | nan
  | infinite (negative : Bool)
  | finite (b : Binary)

/-- Takes apart a number with `mantissaBits` stored bits of mantissa and `exponentBits` bits of exponent. -/
def Parts.ofBits (mantissaBits exponentBits bits : Nat) : Parts :=
  let stored := bits % 2 ^ mantissaBits
  let power := bits / 2 ^ mantissaBits % 2 ^ exponentBits
  let negative := bits / 2 ^ (mantissaBits + exponentBits) % 2 == 1
  let bias : Int := 2 ^ (exponentBits - 1) - 1 + mantissaBits
  if power = 2 ^ exponentBits - 1 then if stored = 0 then .infinite negative else .nan
  else if power = 0 then .finite ⟨negative, stored, 1 - bias, false⟩
  else .finite ⟨negative, stored + 2 ^ mantissaBits, power - bias, stored == 0 && power != 1⟩

/-- Takes apart a double. -/
def Parts.ofFloat (x : Float) : Parts := .ofBits 52 11 x.toBits.toNat

/-- Takes apart a single. -/
def Parts.ofFloat32 (x : Float32) : Parts := .ofBits 23 8 x.toBits.toNat

/-- The magnitude as a quotient of natural numbers. -/
def Binary.ratio (b : Binary) : Nat × Nat :=
  if 0 ≤ b.exponent then (b.mantissa * 2 ^ b.exponent.toNat, 1) else (b.mantissa, 2 ^ (-b.exponent).toNat)

/-- The magnitude cut to a natural number. -/
def Binary.floor (b : Binary) : Nat := let (num, den) := b.ratio; num / den

/-- Whether the number has no fractional part. -/
def Binary.isIntegral (b : Binary) : Bool := let (num, den) := b.ratio; num % den == 0

/-- The integer that a number is, if it is one. -/
def toInt? (x : Float) : Option Int :=
  match Parts.ofFloat x with
  | .finite b => if b.isIntegral then some (if b.negative then -(b.floor : Int) else b.floor) else none
  | _ => none

/-- The largest integer that is not above a number, if the number is finite. -/
def floor? (x : Float) : Option Int :=
  match Parts.ofFloat x with
  | .finite b =>
    if b.isIntegral then some (if b.negative then -(b.floor : Int) else b.floor)
    else some (if b.negative then -(b.floor : Int) - 1 else b.floor)
  | _ => none

/-- A number cut toward zero, if it is finite. -/
def truncate? (x : Float) : Option Int :=
  match Parts.ofFloat x with
  | .finite b => some (if b.negative then -(b.floor : Int) else b.floor)
  | _ => none

end PluginHost.Decimal
