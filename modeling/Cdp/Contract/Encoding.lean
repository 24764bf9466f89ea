import Cdp.Bytes.Hex
import Cdp.Word

/-!
# The layout of arguments and results

Contracts take and give a sequence of values as 32-byte words. A single word stands in its place; a
list stands behind all places, its length first, and its place holds the distance of the list from
the start of the sequence. Bytes after the last value mean nothing.
-/

set_option autoImplicit false

namespace Cdp.Contract

/-- A value of a sequence. -/
inductive Value where
  | word (w : Word)
  | list (ws : List Word)
deriving DecidableEq

/-- The form of a value. -/
inductive Shape where
  | word
  | list
deriving DecidableEq

def Value.shape : Value → Shape
  | .word _ => .word
  | .list _ => .list

/-- The 32 bytes of a word. -/
def wordBytes (w : Word) : Bytes := bytesOfNat 32 w.toNat

/-- The part of a value that stands behind all places. -/
def Value.tail : Value → Bytes
  | .word _ => []
  | .list ws => bytesOfNat 32 ws.length ++ ws.flatMap wordBytes

/-- The place of a value whose tail starts at `offset`. -/
def Value.head (offset : Nat) : Value → Bytes
  | .word w => wordBytes w
  | .list _ => bytesOfNat 32 offset

/-- The places of a sequence whose tails start at `offset`. -/
def heads : Nat → List Value → Bytes
  | _, [] => []
  | offset, v :: rest => v.head offset ++ heads (offset + v.tail.length) rest

/-- A sequence of values as bytes. -/
def encode (values : List Value) : Bytes :=
  heads (32 * values.length) values ++ values.flatMap Value.tail

/-- The number in the first 32 bytes. -/
def takeNumber? (data : Bytes) : Option Nat :=
  if 32 ≤ data.length then some (natOfBytes (data.take 32)) else none

/-- The word in the first 32 bytes. -/
def takeWord? (data : Bytes) : Option Word := (takeNumber? data).map .wrap

/-- The words at the start of the bytes. -/
def takeWords? : Nat → Bytes → Option (List Word)
  | 0, _ => some []
  | count + 1, data => do
    let w ← takeWord? data
    let rest ← takeWords? count (data.drop 32)
    return w :: rest

/-- A number that may be used as a distance or a length. -/
def takeOffset? (data : Bytes) : Option Nat :=
  (takeNumber? data).filter (· < UInt64.size)

/-- The value at a place. -/
def decodeAt (data place : Bytes) : Shape → Option Value
  | .word => (takeWord? place).map .word
  | .list => do
    let offset ← takeOffset? place
    if data.length < offset then none
    else
      let tail := data.drop offset
      let length ← takeOffset? tail
      let body := tail.drop 32
      if body.length < 32 * length then none
      else (takeWords? length body).map .list

/-- The values of a sequence whose next place is at the start of `place`. -/
def decodeFrom (data : Bytes) : Bytes → List Shape → Option (List Value)
  | _, [] => some []
  | place, shape :: shapes => do
    let v ← decodeAt data place shape
    let rest ← decodeFrom data (place.drop 32) shapes
    return v :: rest

/-- Reads a sequence of values of given forms. -/
def decode (shapes : List Shape) (data : Bytes) : Option (List Value) := decodeFrom data data shapes

end Cdp.Contract
