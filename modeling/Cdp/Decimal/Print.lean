import Cdp.Decimal.Basic

/-!
# Decimal text

A decimal is written with its whole part, a point and as many of its eighteen places as are needed;
trailing zeros and a point with nothing after it are left out. With a number of places given, the
places beyond it are cut off, not rounded, and zeros are kept. Infinity is the sign `∞` in either
form.
-/

set_option autoImplicit false

namespace Cdp.Decimal

/-- The eighteen digits after the point of a number below the scale. -/
def fractionDigits (n : Nat) : List Char :=
  let digits := Nat.toDigits 10 n
  List.replicate (places - digits.length) '0' ++ digits

/-- Digits without the zeros at the end. -/
def dropTrailingZeros : List Char → List Char
  | [] => []
  | c :: rest =>
    match dropTrailingZeros rest with
    | [] => if c = '0' then [] else [c]
    | kept => c :: kept

/-- A whole part and the digits after the point. -/
def joinPoint (whole : Nat) (fraction : List Char) : List Char :=
  if fraction.isEmpty then Nat.toDigits 10 whole
  else Nat.toDigits 10 whole ++ '.' :: fraction

/-- The characters of a decimal, with the given number of places or as many as are needed. -/
def chars (d : Decimal) (precision : Option Nat) : List Char :=
  if d.isInfinite then ['∞']
  else
    let fraction := fractionDigits (d.rawNat % scale)
    joinPoint (d.rawNat / scale) <|
      match precision with
      | none => dropTrailingZeros fraction
      | some p => fraction.take (min p places)

/-- A decimal with as many places as are needed. -/
def toText (d : Decimal) : String := String.ofList (d.chars none)

/-- A decimal cut off to a number of places. -/
def toTextWith (d : Decimal) (precision : Nat) : String := String.ofList (d.chars (some precision))

instance : ToString Decimal := ⟨toText⟩

/-- A decimal as it stands in diagnostic output. -/
def toDebugText (d : Decimal) : String := "Decimal(" ++ d.toText ++ ")"

end Cdp.Decimal
