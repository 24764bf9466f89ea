import Cdp.Bytes.Hex

/-!
# Keccak-256

The hash function of the chain: the sponge over the permutation Keccak-f[1600] with a rate of 136
bytes, the padding that starts with the byte one, and a digest of 32 bytes. Function selectors,
event topics and the letter case of printed addresses are taken from it.

The state is twenty-five lanes of 64 bits; the lane of column `x` and row `y` has number
`x + 5 * y`.
-/

set_option autoImplicit false

namespace Cdp.Keccak

/-- The lanes of the sponge. -/
abbrev State := Vector UInt64 25

/-- The lane of a column and a row, both taken modulo five. -/
def lane (x y : Nat) : Fin 25 := ⟨x % 5 + 5 * (y % 5), by omega⟩

/-- A lane rotated to the left. -/
def rotateLeft (w amount : UInt64) : UInt64 :=
  if amount = 0 then w else (w <<< amount) ||| (w >>> (64 - amount))

/-- Rotation of each lane. -/
def rotations : Vector UInt64 25 := #v[
  0, 1, 62, 28, 27,
  36, 44, 6, 55, 20,
  3, 10, 43, 25, 39,
  41, 45, 15, 21, 8,
  18, 2, 61, 56, 14]

/-- The constants that tell the rounds apart. -/
def roundConstants : List UInt64 := [
  0x0000000000000001, 0x0000000000008082, 0x800000000000808a, 0x8000000080008000,
  0x000000000000808b, 0x0000000080000001, 0x8000000080008081, 0x8000000000008009,
  0x000000000000008a, 0x0000000000000088, 0x0000000080008009, 0x000000008000000a,
  0x000000008000808b, 0x800000000000008b, 0x8000000000008089, 0x8000000000008003,
  0x8000000000008002, 0x8000000000000080, 0x000000000000800a, 0x800000008000000a,
  0x8000000080008081, 0x8000000000008080, 0x0000000080000001, 0x8000000080008008]

/-- Adds to every lane the parity of two neighbouring columns. -/
def theta (a : State) : State :=
  let parity : Vector UInt64 5 := .ofFn fun x =>
    a[lane x 0] ^^^ a[lane x 1] ^^^ a[lane x 2] ^^^ a[lane x 3] ^^^ a[lane x 4]
  let column (x : Nat) : UInt64 := parity.get ⟨x % 5, Nat.mod_lt _ (by decide)⟩
  .ofFn fun i => a[i] ^^^ column (i.val + 4) ^^^ rotateLeft (column (i.val + 1)) 1

/-- Rotates the lanes and moves them to their new places. -/
def rhoPi (a : State) : State :=
  .ofFn fun i =>
    let source := lane (i.val % 5 + 3 * (i.val / 5)) (i.val % 5)
    rotateLeft a[source] rotations[source]

/-- Combines each lane with the next two of its row. -/
def chi (a : State) : State :=
  .ofFn fun i =>
    let (x, y) := (i.val % 5, i.val / 5)
    a[lane x y] ^^^ (~~~a[lane (x + 1) y] &&& a[lane (x + 2) y])

/-- Adds a round constant to the first lane. -/
def iota (constant : UInt64) (a : State) : State := a.set 0 (a[0] ^^^ constant)

/-- The permutation: twenty-four rounds. -/
def permute (a : State) : State :=
  roundConstants.foldl (fun a constant => iota constant (chi (rhoPi (theta a)))) a

/-- Bytes taken in before each permutation. -/
def rate : Nat := 136

/-- The message filled up to a whole number of blocks. -/
def pad (message : Bytes) : Bytes :=
  let missing := rate - message.length % rate
  if missing = 1 then message ++ [0x81]
  else message ++ [0x01] ++ List.replicate (missing - 2) 0 ++ [0x80]

/-- Eight bytes as a lane, the least significant first. -/
def laneOfBytes (bytes : Bytes) : UInt64 :=
  bytes.foldr (fun b w => w <<< 8 ||| b.toUInt64) 0

/-- A lane as eight bytes, the least significant first. -/
def bytesOfLane (w : UInt64) : Bytes :=
  (List.range 8).map fun i => (w >>> (8 * UInt64.ofNat i)).toUInt8

/-- Takes in one block. -/
def absorb (a : State) (block : Bytes) : State :=
  permute (.ofFn fun i =>
    if i.val < 17 then a[i] ^^^ laneOfBytes ((block.drop (8 * i.val)).take 8) else a[i])

/-- The consecutive blocks of padded bytes. -/
def blocks (bytes : Bytes) : List Bytes :=
  if _h : bytes.length < rate then []
  else bytes.take rate :: blocks (bytes.drop rate)
termination_by bytes.length
decreasing_by
  simp only [List.length_drop]
  have : 0 < rate := by decide
  omega

/-- The digest of a message, 32 bytes. -/
def digest (message : Bytes) : Bytes :=
  let final := (blocks (pad message)).foldl absorb (.replicate 25 0)
  ((List.range 4).flatMap fun i => bytesOfLane final[lane i 0]).take 32

/-- The digest of a text's UTF-8 form. -/
def digestText (text : String) : Bytes := digest text.toUTF8.toList

end Cdp.Keccak
