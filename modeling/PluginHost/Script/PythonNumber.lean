import PluginHost.Script.PythonLexer
import PluginHost.Script.PythonText
import PluginHost.Decimal.Notation

/-!
# Numbers in Python

Integers of any size, doubles, and the operations that mix them. Division of integers goes to the floor, and comparisons of
integers with doubles are exact.
-/

namespace PluginHost.Python

/-- A double with the fewest digits that read back. -/
def showFloat (x : Float) : String := Decimal.shortestGeneral (.ofFloat x)

/-- A part of a complex number: as a double, without a point that is followed by nothing but zero. -/
def showPart (x : Float) : String :=
  let t := showFloat x
  if t.endsWith ".0" then (t.dropEnd 2).toString else t

/-- Whether the sign of a double is a minus. -/
def isNegativeFloat (x : Float) : Bool := x.toBits >>> 63 == 1

/-- A complex number. -/
def showComplex (re im : Float) : String :=
  let imaginary := showPart im ++ "j"
  if re == 0.0 && !isNegativeFloat re then imaginary
  else "(" ++ showPart re ++ (if imaginary.startsWith "-" then "" else "+") ++ imaginary ++ ")"

/-- An integer as a double, if it is not too large. -/
def intToFloat? (n : Int) : Option Float :=
  let x := decimalFloat n.natAbs 0
  if x.isInf then none else some (if n < 0 then -x else x)

/-- The quotient of integers as a double, rounded once; none if it is too large. The divisor is not zero. -/
def trueQuotient? (a b : Int) : Option Float :=
  let num := a.natAbs
  let den := b.natAbs
  if num = 0 then some 0.0
  else
    -- sixty-four bits of the quotient, the last of which tells whether anything was cut off
    let shift : Int := 65 + (Nat.log2 den : Int) - (Nat.log2 num : Int)
    let (n, d) := if 0 ≤ shift then (num * 2 ^ shift.toNat, den) else (num, den * 2 ^ (-shift).toNat)
    let q := n / d
    let extra := Nat.log2 q - 63
    let kept := q / 2 ^ extra
    let kept := if n % d ≠ 0 ∨ q % 2 ^ extra ≠ 0 then kept ||| 1 else kept
    let x := (UInt64.ofNat kept).toFloat.scaleB (extra - shift)
    if x.isInf then none else some (if (a < 0) ≠ (b < 0) then -x else x)

/-- How an integer compares with a double; none for what is not a number. -/
def compareIntFloat (n : Int) (x : Float) : Option Ordering :=
  if x.isNaN then none
  else if x.isInf then some (if x < 0.0 then .gt else .lt)
  else match Decimal.floor? x with
    | some m => some (if n < m then .lt else if m < n then .gt else if (Decimal.toInt? x).isSome then .eq else .lt)
    | none => none

/-- How doubles compare; none for what is not a number. -/
def compareFloats (x y : Float) : Option Ordering :=
  if x < y then some .lt else if y < x then some .gt else if x == y then some .eq else none

/-- The remainder of doubles, with the sign of the divisor, which is not zero. -/
def floatMod (x y : Float) : Float :=
  if x.isNaN || y.isNaN || x.isInf then 0.0 / 0.0
  else
    let r := if y.isInf then x else exactRemainder x y
    if r == 0.0 then (if isNegativeFloat y then -0.0 else 0.0)
    else if (r < 0.0) != (y < 0.0) then r + y else r
where
  /-- The remainder with the sign of the dividend, from the quotients that the doubles are. -/
  exactRemainder (x y : Float) : Float :=
    match Decimal.Parts.ofFloat x, Decimal.Parts.ofFloat y with
    | .finite a, .finite b =>
      let (n, d) := a.ratio
      let (m, e) := b.ratio
      -- x = n / d and y = m / e, so the remainder is (n * e mod m * d) / (d * e)
      let r := (trueQuotient? ((n * e) % (m * d) : Nat) ((d * e : Nat) : Int)).getD 0.0
      if a.negative then -r else r
    | _, _ => 0.0 / 0.0

/-- The quotient of doubles cut to the floor. The divisor is not zero. -/
def floatFloorDiv (x y : Float) : Float :=
  let m := floatMod x y
  let q := (x - m) / y
  if q == 0.0 then (if (x < 0.0) != (y < 0.0) then -0.0 else 0.0)
  else
    let f := q.floor
    if q - f > 0.5 then f + 1.0 else f

/-- A power of an integer by squaring; the number of bits of the exponent bounds the recursion. -/
def intPower (base : Int) (e : Nat) : Int := base ^ e

/-- The digits of a number in a base, without marks; underscores may stand between digits. -/
def readDigits? (base : Nat) (cs : List Char) : Option Nat :=
  let (ds, rest) := takeDigits (fun c => (digitValue c).any (· < base)) cs
  if ds = [] ∨ rest ≠ [] then none else some (ds.foldl (fun n c => n * base + (digitValue c).getD 0) 0)
where
  /-- The value of a digit, letters included. -/
  digitValue (c : Char) : Option Nat :=
    if c.isDigit then some (c.toNat - 48)
    else if 'a' ≤ c ∧ c ≤ 'z' then some (c.toNat - 87)
    else if 'A' ≤ c ∧ c ≤ 'Z' then some (c.toNat - 55)
    else none

/-- The integer that a text spells in a base. -/
def readInt? (base : Nat) (s : Text) : Option Int :=
  let cs := (s.strip Text.isSpace true true).chars
  let (negative, cs) := match cs with
    | '-' :: cs => (true, cs)
    | '+' :: cs => (false, cs)
    | cs => (false, cs)
  let marked (mark : Char) (b : Nat) (cs : List Char) : Option (List Char) :=
    if base = b ∨ base = 0 then match cs with
      | '0' :: c :: cs => if c.toLower = mark then some (if cs.head? = some '_' then cs.drop 1 else cs) else none
      | _ => none
    else none
  let magnitude := match marked 'x' 16 cs, marked 'o' 8 cs, marked 'b' 2 cs with
    | some cs, _, _ => readDigits? 16 cs
    | _, some cs, _ => readDigits? 8 cs
    | _, _, some cs => readDigits? 2 cs
    | _, _, _ => readDigits? (if base = 0 then 10 else base) cs
  magnitude.map fun n => if negative then -(n : Int) else n

/-- The double that a text spells. -/
def readFloat? (s : Text) : Option Float := do
  let cs := (s.strip Text.isSpace true true).chars
  let (negative, cs) := match cs with
    | '-' :: cs => (true, cs)
    | '+' :: cs => (false, cs)
    | cs => (false, cs)
  let word := (String.ofList cs).toLower
  let x ← if word = "inf" ∨ word = "infinity" then some (1.0 / 0.0)
    else if word = "nan" then some (0.0 / 0.0)
    else
      let (whole, rest) := takeDigits Char.isDigit cs
      let (part, rest) := match rest with
        | '.' :: rest => takeDigits Char.isDigit rest
        | rest => ([], rest)
      if whole = [] ∧ part = [] then none
      else
        let mantissa := digitsIn 10 (whole ++ part)
        match rest with
        | [] => some (decimalFloat mantissa (-part.length))
        | rest => match takeExponent rest with
          | some (e, []) => some (decimalFloat mantissa (e - part.length))
          | _ => none
  return if negative then -x else x

/-- A number in a base with its mark, as functions such as `hex` show it. -/
def showIn (base : Nat) (mark : String) (n : Int) : String :=
  (if n < 0 then "-" else "") ++ mark ++ String.ofList (Nat.toDigits base n.natAbs)

/-- A double rounded to an integer, a half to the even one, if it is finite. -/
def roundFloat? (x : Float) : Option Int :=
  match Decimal.Parts.ofFloat x with
  | .finite b =>
    let (n, d) := b.ratio
    let q := Decimal.roundDiv n d
    some (if b.negative then -(q : Int) else q)
  | _ => none

end PluginHost.Python
