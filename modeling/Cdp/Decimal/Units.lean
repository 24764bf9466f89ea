import Cdp.Decimal.Error

/-!
# Token units

A token counts its amounts in its own smallest units, a power of ten of them to the whole.
Conversions between units and decimals are exact or refused.

The power of ten between the two scales is taken modulo the number of words. It is the power
itself for every token with at most ninety-five decimals.
-/

set_option autoImplicit false

namespace Cdp.Decimal

/-- A power of ten as a word, modulo the number of words. -/
def powerOfTen (exponent : Nat) : Word := .wrap (Nat.pow 10 exponent)

/-- An amount in the units of a token with `decimals` places. -/
def ofUnits (units : Word) (decimals : UInt8) : Except DecimalError Decimal :=
  if decimals.toNat ≤ places then
    match ofRaw? (units.toNat * (powerOfTen (places - decimals.toNat)).toNat) with
    | some d => .ok d
    | none => .error .overflow
  else
    let divisor := (powerOfTen (decimals.toNat - places)).toNat
    if units.toNat % divisor ≠ 0 then .error (.tooPrecise decimals.toNat)
    else
      .ok ⟨⟨units.toNat / divisor, Nat.lt_of_le_of_lt (Nat.div_le_self _ _) units.toNat_lt⟩⟩

/-- A finite amount as a whole number of units of a token with `decimals` places. -/
def toUnits (d : Decimal) (decimals : UInt8) : Except DecimalError Word :=
  if d.isInfinite then .error .infinite
  else if decimals.toNat ≤ places then
    let divisor := (powerOfTen (places - decimals.toNat)).toNat
    if d.rawNat % divisor ≠ 0 then .error (.lossy d decimals)
    else .ok ⟨d.rawNat / divisor, Nat.lt_of_le_of_lt (Nat.div_le_self _ _) d.rawNat_lt⟩
  else
    match Word.ofNat? (d.rawNat * (powerOfTen (decimals.toNat - places)).toNat) with
    | some units => .ok units
    | none => .error .overflow

end Cdp.Decimal
