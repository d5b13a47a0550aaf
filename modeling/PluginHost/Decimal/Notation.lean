import PluginHost.Decimal.Digits

/-!
# Writing numbers

`positional` and `scientific` lay out decimal digits. The formats of the host and of the two script languages choose
between them: `plain` never uses an exponent, `general` uses one for very small and very large numbers, and
`shortestGeneral` does so with the fewest digits that read back.
-/

namespace PluginHost.Decimal

/-- `count` zeros. -/
def zeros (count : Nat) : String := String.ofList (List.replicate count '0')

/-- Digits with a point where it belongs and no exponent. -/
def Digits.positional (d : Digits) : String :=
  let t := d.text
  if 0 ≤ d.exponent then t ++ zeros d.exponent.toNat
  else
    let after := (-d.exponent).toNat
    if t.length ≤ after then "0." ++ zeros (after - t.length) ++ t
    else (t.take (t.length - after)).toString ++ "." ++ (t.drop (t.length - after)).toString

/-- Digits with a point after the first one and an exponent of at least two digits. -/
def Digits.scientific (d : Digits) : String :=
  let t := d.text
  let e := d.leading
  let head := (t.take 1).toString
  let tail := (t.drop 1).toString
  let exponentText := toString e.natAbs
  let mantissaText := if tail.isEmpty then head else head ++ "." ++ tail
  mantissaText ++ "e" ++ (if e < 0 then "-" else "+") ++ zeros (2 - exponentText.length) ++ exponentText

/-- A minus sign before a negative number. -/
def signed (negative : Bool) (text : String) : String := if negative then "-" ++ text else text

/-- A number without an exponent, with the fewest digits that read back, and with no point if it is integral. -/
def plain (x : Parts) : String :=
  match x with
  | .nan => "NaN"
  | .infinite negative => signed negative "inf"
  | .finite b => signed b.negative b.shortest.positional

/-- At most `count` digits, without zeros at the end; an exponent if it is below -4 or not below `count`. -/
def general (count : Nat) (x : Parts) : String :=
  match x with
  | .nan => "nan"
  | .infinite negative => signed negative "inf"
  | .finite b =>
    if b.mantissa = 0 then signed b.negative "0"
    else
      let d := (b.significant count).trimZeros (count + 1)
      let e := d.leading
      signed b.negative (if e < -4 ∨ (count : Int) ≤ e then d.scientific else d.positional)

/-- The fewest digits that read back; an exponent if it is below -4 or above 15; a point unless there is an exponent. -/
def shortestGeneral (x : Parts) : String :=
  match x with
  | .nan => "nan"
  | .infinite negative => signed negative "inf"
  | .finite b =>
    let d := b.shortest
    if b.mantissa ≠ 0 ∧ (d.leading < -4 ∨ 16 ≤ d.leading) then signed b.negative d.scientific
    else
      let t := d.positional
      signed b.negative (if t.contains '.' then t else t ++ ".0")

/-- Exactly `places` digits after the point. -/
def fixed (places : Nat) (x : Parts) : String :=
  match x with
  | .nan => "nan"
  | .infinite negative => signed negative "inf"
  | .finite b =>
    let t := toString (b.places places)
    let t := zeros (places + 1 - t.length) ++ t
    let head := (t.take (t.length - places)).toString
    signed b.negative (if places = 0 then t else head ++ "." ++ (t.drop (t.length - places)).toString)

/-- One digit before the point, `places` after it, and an exponent. -/
def exponential (places : Nat) (x : Parts) : String :=
  match x with
  | .nan => "nan"
  | .infinite negative => signed negative "inf"
  | .finite b =>
    let (d, e) : Nat × Int :=
      if b.mantissa = 0 then (0, 0)
      else let s := b.significant (places + 1); (s.digits, s.leading)
    let t := toString d
    let t := t ++ zeros (places + 1 - t.length)
    let head := (t.take 1).toString
    let tail := (t.drop 1).toString
    let exponentText := toString e.natAbs
    signed b.negative <| (if places = 0 then head else head ++ "." ++ tail) ++ "e" ++ (if e < 0 then "-" else "+")
      ++ zeros (2 - exponentText.length) ++ exponentText

end PluginHost.Decimal
