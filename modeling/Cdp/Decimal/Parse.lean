import Cdp.Decimal.Error
import Cdp.Text.Blank

/-!
# Reading decimals

A decimal is read from text with blanks around it removed: either infinity, as its sign or its name
in any ASCII case, or a numeral of ASCII digits with at most one point, at least one digit and at
most eighteen digits after the point. A minus sign in front is refused before the shape is looked
at, the shape before the number of places, and the number of places before the size.
-/

set_option autoImplicit false

namespace Cdp.Decimal

/-- Whether a character is one of the ten ASCII digits. -/
def isDigit (c : Char) : Bool := '0' ≤ c && c ≤ '9'

/-- The text before the first point, and the text after it if there is a point. -/
def splitPoint : List Char → List Char × List Char
  | [] => ([], [])
  | c :: rest =>
    if c = '.' then ([], rest)
    else ((c :: (splitPoint rest).1), (splitPoint rest).2)

/-- An upper-case ASCII letter as a lower-case letter; every other character as it is. -/
def lowerAscii (c : Char) : Char := if 'A' ≤ c && c ≤ 'Z' then Char.ofNat (c.toNat + 32) else c

/-- Whether trimmed text names infinity. -/
def namesInfinity (cs : List Char) : Bool :=
  cs == ['∞'] || cs.map lowerAscii == "infinity".toList

/-- The raw value of a whole part and at most eighteen digits after the point. -/
def rawOfDigits (whole fraction : List Char) : Nat :=
  Nat.ofDigitChars 10 whole 0 * scale +
    Nat.ofDigitChars 10 fraction 0 * Nat.pow 10 (places - fraction.length)

/-- Reads trimmed text. -/
def parseTrimmed (cs : List Char) : Except DecimalError Decimal :=
  if namesInfinity cs then .ok infinity
  else if cs.head? = some '-' then .error (.negative (String.ofList cs))
  else
    let (whole, fraction) := splitPoint cs
    if whole.isEmpty && fraction.isEmpty then .error (.malformed (String.ofList cs))
    else if !(whole.all isDigit && fraction.all isDigit) then
      .error (.malformed (String.ofList cs))
    else if places < fraction.length then .error (.tooPrecise fraction.length)
    else
      match ofRaw? (rawOfDigits whole fraction) with
      | some d => .ok d
      | none => .error .overflow

/-- Reads a decimal. -/
def parse (text : String) : Except DecimalError Decimal := parseTrimmed (Text.trim text.toList)

end Cdp.Decimal
