import Cdp.Host.Label
import Cdp.Host.Numeric

/-!
# Hosts

A host is an address between brackets, or a name. A name is first taken out of its bytes, each of
which may be written as a percent sign and two hexadecimal digits, and every character is replaced
by its image. A name whose last label is a number has to be an address.
-/

set_option autoImplicit false

namespace Cdp.Host

/-! ## Bytes -/

/-- The value of a byte as a hexadecimal digit. -/
def digitOfByte? (b : UInt8) : Option Nat := Hex.digit? (Char.ofNat b.toNat)

/-- The byte that a percent sign and two hexadecimal digits denote. -/
def escapedByte? (sign high low : UInt8) : Option UInt8 :=
  if sign = 0x25 then do
    let h ← digitOfByte? high
    let l ← digitOfByte? low
    return UInt8.ofNat (16 * h + l)
  else none

/-- Bytes with every percent sign before two hexadecimal digits replaced by the byte they denote. -/
def percentDecode : Bytes → Bytes
  | sign :: high :: low :: rest =>
    match escapedByte? sign high low with
    | some b => b :: percentDecode rest
    | none => sign :: percentDecode (high :: low :: rest)
  | bytes => bytes

/-- The characters of bytes. -/
def charsOfBytes? (bytes : Bytes) : Option (List Char) :=
  (String.fromUTF8? ⟨bytes.toArray⟩).map String.toList

/-! ## Names -/

/-- Text with the signs of order joined with a stroke behind them. -/
def joinStrokes : List Char → List Char
  | '<' :: '\u0338' :: rest => '≮' :: joinStrokes rest
  | '>' :: '\u0338' :: rest => '≯' :: joinStrokes rest
  | c :: rest => c :: joinStrokes rest
  | [] => []

/-- The labels of a name, none of them encoded. -/
def labels? (name : List Char) : Option (List (List Char)) := do
  let images ← name.mapM image?
  let labels ← ((joinStrokes images.flatten).splitOn '.').mapM decodeLabel?
  if labels.all isLabel && (!labels.any hasRightToLeft || labels.all keepsDirection) then
    some labels
  else none

/-- Whether a text is the name of a host. -/
def isName (name : List Char) : Bool :=
  match labels? name with
  | some labels => labels != [[]] && (!endsInNumber labels || isShortAddress labels)
  | none => false

/-- The characters of a text in which bytes may be written as percent signs with digits. -/
def unescape? (cs : List Char) : Option (List Char) :=
  charsOfBytes? (percentDecode (String.ofList cs).toUTF8.toList)

/-- Whether a text is a host. -/
def isHost : List Char → Bool
  | '[' :: rest => rest.getLast? = some ']' && isLongAddress rest.dropLast
  | cs => (unescape? cs).any isName

end Cdp.Host
