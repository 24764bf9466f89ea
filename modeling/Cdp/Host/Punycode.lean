import Cdp.Bytes.Hex
import Cdp.Text.CodePoint

/-!
# Punycode

An encoding of any text in the letters, digits and hyphens of ASCII. The ASCII characters of the
text come first and end with a hyphen, if there are any. Then come numbers, one for every other
character, each telling how far to count through all pairs of a code point and a place for it,
from the pair that was used last. The digits of a number are written from the lowest; a digit below
its threshold is the last one. The thresholds follow the size of the numbers before.
-/

set_option autoImplicit false

namespace Cdp.Host.Punycode

/-- How many digits there are. -/
def base : Nat := 36

/-- The bound of all numbers that occur on the way. -/
def bound : Nat := 0x100000000

/-- The value of a digit: letters come before the ten digits. -/
def digit? (c : Char) : Option Nat :=
  if 'a' ≤ c && c ≤ 'z' then some (c.toNat - 'a'.toNat)
  else if '0' ≤ c && c ≤ '9' then some (c.toNat - '0'.toNat + 26)
  else none

/-- The threshold of the digit at a position, a multiple of the base. -/
def threshold (position bias : Nat) : Nat := min 26 (max 1 (position - bias))

/-- The bias after a number that has been made comparable to the numbers to come. -/
def adaptFrom (delta : Nat) (k : Nat) : Nat :=
  if 455 < delta then adaptFrom (delta / 35) (k + base) else k + base * delta / (delta + 38)
termination_by delta
decreasing_by omega

/-- The bias after a number, with the length of the text that it led to. -/
def adapt (delta length : Nat) (isFirst : Bool) : Nat :=
  let scaled := if isFirst then delta / 700 else delta / 2
  adaptFrom (scaled + scaled / length) 0

/-- How far a text has been decoded. -/
structure State where
  text : List Char
  code : Nat := 128
  bias : Nat := 72
  /-- The place at which counting started for the number at hand. -/
  start : Nat := 0
  /-- The place with what has been read of the number at hand. -/
  place : Nat := 0
  /-- What the next digit counts. -/
  weight : Nat := 1
  position : Nat := base

/-- The state after the last digit of a number, which puts a character into the text. -/
def State.insert (s : State) (place : Nat) : Option State := do
  let length := s.text.length + 1
  let code := s.code + place / length
  let c ← Text.charOfCode? code
  let index := place % length
  return {
    text := s.text.take index ++ c :: s.text.drop index
    code
    bias := adapt (place - s.start) length (s.start = 0)
    start := index + 1
    place := index + 1 }

/-- The state after one more digit. -/
def State.step (s : State) (c : Char) : Option State := do
  let digit ← digit? c
  let place := s.place + digit * s.weight
  let t := threshold s.position s.bias
  let weight := s.weight * (base - t)
  if bound ≤ place then none
  else if digit < t then s.insert place
  else if bound ≤ weight then none
  else some { s with place, weight, position := s.position + base }

/-- The text behind the last hyphen, and the text before it if it is not empty. -/
def splitLast (cs : List Char) : List Char × List Char :=
  let digits := (cs.reverse.takeWhile (· != '-')).reverse
  let before := cs.take (cs.length - digits.length - 1)
  if before.isEmpty then ([], cs) else (before, digits)

/-- The text that an encoded text stands for. -/
def decode? (cs : List Char) : Option (List Char) := do
  let (ascii, digits) := splitLast cs
  let s ← digits.foldlM State.step { text := ascii }
  if s.position = base && ascii.all (fun c => c.toNat < 0x80) then some s.text else none

end Cdp.Host.Punycode
