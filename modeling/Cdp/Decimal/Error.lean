import Cdp.Decimal.Print
import Cdp.Text.Quoted

/-!
# Refusals of decimals

The causes for which a text is no decimal, or a decimal no amount of a token.
-/

set_option autoImplicit false

namespace Cdp

/-- Why a decimal could not be read or converted. -/
inductive DecimalError where
  /-- The text is not a numeral. -/
  | malformed (text : String)
  /-- The text starts with a minus sign. -/
  | negative (text : String)
  /-- The number has more places than a decimal keeps. -/
  | tooPrecise (digits : Nat)
  /-- The value is no whole number of the token's smallest units. -/
  | lossy (value : Decimal) (decimals : UInt8)
  /-- The value does not fit a word. -/
  | overflow
  /-- Infinity is no token amount. -/
  | infinite
deriving DecidableEq

/-- The wording of a refusal. -/
def DecimalError.message : DecimalError → String
  | .malformed text => "invalid decimal string " ++ Text.quoted text
  | .negative text => "negative value " ++ Text.quoted text ++ " is not representable"
  | .tooPrecise digits =>
    toString digits ++ " fractional digits exceed the 18-digit precision"
  | .lossy value decimals =>
    value.toText ++ " cannot be expressed with " ++ toString decimals.toNat ++
      " token decimals without losing precision"
  | .overflow => "value overflows 256 bits"
  | .infinite => "infinite value cannot be converted to token units"

end Cdp
