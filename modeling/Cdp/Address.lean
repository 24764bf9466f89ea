import Cdp.Bytes.Keccak
import Cdp.Word

/-!
# Addresses

An address names an account, a contract or a kind of collateral: twenty bytes, kept as the number
they denote, so that the order of addresses is the order of their bytes.

Data carries addresses in lower-case digits. Messages show them with the letter case that encodes a
checksum: a letter is upper-case where the matching half byte of the hash of the lower-case digits
is at least eight.
-/

set_option autoImplicit false

namespace Cdp

/-- The number of addresses, two to the power of 160. -/
abbrev Address.size : Nat := 0x10000000000000000000000000000000000000000

/-- A twenty-byte address. -/
structure Address where
  toNat : Nat
  toNat_lt : toNat < Address.size
deriving DecidableEq

namespace Address

theorem ext {a b : Address} (h : a.toNat = b.toNat) : a = b := by
  cases a
  cases b
  cases h
  rfl

/-- The null address, which stands for "none". -/
def zero : Address := ⟨0, by decide⟩

instance : Inhabited Address := ⟨zero⟩

def isZero (a : Address) : Bool := a.toNat == 0

theorem isZero_iff {a : Address} : a.isZero = true ↔ a = zero := by
  rw [isZero, beq_iff_eq]
  exact ⟨fun h => ext h, fun h => h ▸ rfl⟩

/-- The address of a number modulo the number of addresses. -/
def wrap (n : Nat) : Address := ⟨n % size, Nat.mod_lt _ (by decide)⟩

instance : LT Address := ⟨fun a b => a.toNat < b.toNat⟩
instance : LE Address := ⟨fun a b => a.toNat ≤ b.toNat⟩
instance (a b : Address) : Decidable (a < b) := inferInstanceAs (Decidable (a.toNat < b.toNat))
instance (a b : Address) : Decidable (a ≤ b) := inferInstanceAs (Decidable (a.toNat ≤ b.toNat))

theorem lt_irrefl (a : Address) : ¬a < a := Nat.lt_irrefl _

theorem lt_trans {a b c : Address} (h : a < b) (k : b < c) : a < c := Nat.lt_trans h k

theorem lt_of_not_lt_of_ne {a b : Address} (h : ¬a < b) (hne : a ≠ b) : b < a :=
  Nat.lt_of_le_of_ne (Nat.not_lt.1 h) fun e => hne (ext e.symm)

/-- An address as a word, its high twelve bytes zero. -/
def toWord (a : Address) : Word :=
  ⟨a.toNat, Nat.lt_of_lt_of_le a.toNat_lt (by decide)⟩

/-- The address in the low twenty bytes of a word. -/
def ofWord (w : Word) : Address := wrap w.toNat

/-- Reads forty hexadecimal digits. -/
def ofText? (text : String) : Option Address := (Hex.number? 40 text).map wrap

/-- The forty lower-case digits. -/
def digits (a : Address) : List Char := Hex.paddedDigits 40 a.toNat

/-- The address as data carries it. -/
def toText (a : Address) : String := String.ofList ('0' :: 'x' :: a.digits)

/-- A digit in the case that a half byte of the hash asks for. -/
def checksumDigit (c : Char) (half : Nat) : Char :=
  if 8 ≤ half && 'a' ≤ c then Char.ofNat (c.toNat - 32) else c

/-- The half bytes of a byte string. -/
def halves (bytes : Bytes) : List Nat := bytes.flatMap fun b => [b.toNat / 16, b.toNat % 16]

/-- The address as messages show it. -/
def toChecksumText (a : Address) : String :=
  let digits := a.digits
  let hash := Keccak.digestText (String.ofList digits)
  String.ofList ('0' :: 'x' :: List.zipWith checksumDigit digits (halves hash))

end Address

/-- A transaction hash as text, all sixty-four digits. -/
def Word.toHashText (w : Word) : String :=
  String.ofList ('0' :: 'x' :: Hex.paddedDigits 64 w.toNat)

/-- Reads sixty-four hexadecimal digits. -/
def Word.ofHashText? (text : String) : Option Word := (Hex.number? 64 text).map Word.wrap

/-- Reads a number written in decimal digits. Low lines may group the digits, and no digits at all
are zero. -/
def Word.ofDecimalText? (text : String) : Option Word :=
  let cs := text.toList.filter (· != '_')
  if cs.all Char.isDigit then Word.ofNat? (Nat.ofDigitChars 10 cs 0) else none

/-- The number in decimal digits. -/
def Word.toDecimalText (w : Word) : String := toString w.toNat

end Cdp
