import Cdp.Bytes.Hex

/-!
# Numeric hosts

A host may be given by its number. The shorter kind of address has up to four numbers with points
between them, in decimal, octal or hexadecimal digits; the last number stands for all bytes that the
others leave. The longer kind has eight groups of hexadecimal digits with colons between them; two
colons stand for any number of groups that are zero, and the last two groups may be given as four
decimal bytes.
-/

set_option autoImplicit false

namespace Cdp.Host

/-! ## Numbers with points between them -/

/-- The base of a number and its digits behind the marker of the base. -/
def baseAndDigits : List Char → Nat × List Char
  | '0' :: 'x' :: digits => (16, digits)
  | '0' :: c :: digits => (8, c :: digits)
  | digits => (10, digits)

/-- The value of a digit in a base. -/
def digitIn? (base : Nat) (c : Char) : Option Nat := (Hex.digit? c).filter (· < base)

/-- The value of a number. A marker without digits is zero. -/
def number? (cs : List Char) : Option Nat :=
  if cs.isEmpty then none
  else
    let (base, digits) := baseAndDigits cs
    digits.foldlM (fun n c => (digitIn? base c).map (base * n + ·)) 0

/-- The parts of a name without an empty one at the end. -/
def withoutRoot (parts : List (List Char)) : List (List Char) :=
  if parts.getLast? = some [] then parts.dropLast else parts

/-- Whether a host has to be a number by its last part. -/
def endsInNumber (parts : List (List Char)) : Bool :=
  match (withoutRoot parts).getLast? with
  | some part => !part.isEmpty && (part.all Char.isDigit || (number? part).isSome)
  | none => false

/-- Whether numbers, the last one first, fill four bytes. -/
def fillBytes : List Nat → Bool
  | [] => false
  | last :: before =>
    before.length < 4 && before.all (· < 256) && last < Nat.pow 256 (4 - before.length)

/-- Whether the parts of a name are an address of four bytes. -/
def isShortAddress (parts : List (List Char)) : Bool :=
  match (withoutRoot parts).mapM number? with
  | some numbers => fillBytes numbers.reverse
  | none => false

/-! ## Groups with colons between them -/

/-- Whether digits are a group. -/
def isGroup (cs : List Char) : Bool :=
  !cs.isEmpty && cs.length ≤ 4 && cs.all fun c => (Hex.digit? c).isSome

/-- Whether decimal digits are a byte, written without leading zeros. -/
def isByte (cs : List Char) : Bool :=
  !cs.isEmpty && cs.all Char.isDigit && (cs.length = 1 || cs.head? != some '0') &&
    Nat.ofDigitChars 10 cs 0 < 256

/-- Whether a text is four decimal bytes. -/
def isFourBytes (cs : List Char) : Bool :=
  let parts := cs.splitOn '.'
  parts.length = 4 && parts.all isByte

/-- How many groups a row has, the last of which may be four bytes in the place of two groups. -/
def groupCount? : List (List Char) → Option Nat
  | [] => some 0
  | [last] => if isGroup last then some 1 else if isFourBytes last then some 2 else none
  | group :: rest => if isGroup group then (groupCount? rest).map (· + 1) else none

/-- The text before the first two colons, and the text after them if there are any. -/
def splitGap : List Char → List Char × Option (List Char)
  | ':' :: ':' :: rest => ([], some rest)
  | c :: rest => (c :: (splitGap rest).1, (splitGap rest).2)
  | [] => ([], none)

/-- The groups of a row, which may be empty. -/
def row (cs : List Char) : List (List Char) := if cs.isEmpty then [] else cs.splitOn ':'

/-- Whether a text is an address of eight groups. -/
def isLongAddress (cs : List Char) : Bool :=
  match splitGap cs with
  | (whole, none) => groupCount? (row whole) == some 8
  | (before, some after) =>
    (row before).all isGroup &&
      (groupCount? (row after)).any fun count => (row before).length + count < 8

end Cdp.Host
