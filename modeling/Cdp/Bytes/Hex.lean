/-!
# Hexadecimal text

Bytes, hashes, addresses and quantities are exchanged as hexadecimal text. Reading takes digits in
either case, after `0x`, `0X` or nothing; writing gives lower-case digits after `0x`.
-/

set_option autoImplicit false

namespace Cdp

/-- A string of bytes. -/
abbrev Bytes := List UInt8

namespace Hex

/-- The value of a hexadecimal digit. -/
def digit? (c : Char) : Option Nat :=
  if '0' ≤ c && c ≤ '9' then some (c.toNat - '0'.toNat)
  else if 'a' ≤ c && c ≤ 'f' then some (c.toNat - 'a'.toNat + 10)
  else if 'A' ≤ c && c ≤ 'F' then some (c.toNat - 'A'.toNat + 10)
  else none

/-- Digits without the marker `0x` or `0X` in front. -/
def stripMarker : List Char → List Char
  | '0' :: 'x' :: rest => rest
  | '0' :: 'X' :: rest => rest
  | cs => cs

/-- The bytes of pairs of digits. -/
def bytesOfDigits? : List Char → Option Bytes
  | [] => some []
  | [_] => none
  | high :: low :: rest => do
    let h ← digit? high
    let l ← digit? low
    let bytes ← bytesOfDigits? rest
    return UInt8.ofNat (16 * h + l) :: bytes

/-- The bytes of hexadecimal text. -/
def bytes? (text : String) : Option Bytes := bytesOfDigits? (stripMarker text.toList)

/-- The number that digits denote. -/
def numberOfDigits? (cs : List Char) : Option Nat :=
  cs.foldlM (fun n c => (digit? c).map (16 * n + ·)) 0

/-- The number that exactly `count` digits denote. -/
def number? (count : Nat) (text : String) : Option Nat :=
  let cs := stripMarker text.toList
  if cs.length = count then numberOfDigits? cs else none

/-- The two digits of a byte. -/
def byteDigits (b : UInt8) : List Char :=
  [Nat.digitChar (b.toNat / 16), Nat.digitChar (b.toNat % 16)]

/-- Bytes as text. -/
def ofBytes (bytes : Bytes) : String := String.ofList ('0' :: 'x' :: bytes.flatMap byteDigits)

/-- The digits of a number, filled up with zeros to `count` digits. -/
def paddedDigits (count n : Nat) : List Char :=
  let digits := Nat.toDigits 16 n
  List.replicate (count - digits.length) '0' ++ digits

/-- A number as text without leading zeros. -/
def ofNat (n : Nat) : String := String.ofList ('0' :: 'x' :: Nat.toDigits 16 n)

end Hex

/-- The `count` low bytes of a number, the most significant first. -/
def bytesOfNat : Nat → Nat → Bytes
  | 0, _ => []
  | count + 1, n => bytesOfNat count (n / 256) ++ [UInt8.ofNat (n % 256)]

/-- The number that bytes denote, the most significant first. -/
def natOfBytes (bytes : Bytes) : Nat := bytes.foldl (fun n b => 256 * n + b.toNat) 0

theorem natOfBytes_append_singleton (bytes : Bytes) (b : UInt8) :
    natOfBytes (bytes ++ [b]) = 256 * natOfBytes bytes + b.toNat := by
  simp [natOfBytes]

theorem length_bytesOfNat (count n : Nat) : (bytesOfNat count n).length = count := by
  induction count generalizing n with
  | zero => rfl
  | succ count ih => simp [bytesOfNat, ih]

theorem natOfBytes_bytesOfNat (count n : Nat) :
    natOfBytes (bytesOfNat count n) = n % Nat.pow 256 count := by
  induction count generalizing n with
  | zero => simp [bytesOfNat, natOfBytes, Nat.mod_one]
  | succ count ih =>
    calc natOfBytes (bytesOfNat (count + 1) n)
        = 256 * (n / 256 % 256 ^ count) + n % 256 := by
          rw [bytesOfNat, natOfBytes_append_singleton, ih]
          simp
      _ = n % 256 ^ (count + 1) := by
          rw [Nat.pow_succ', Nat.mod_mul, Nat.add_comm]

end Cdp
