/-!
# Code points

Characters by the number of their code point. Properties of characters are kept as tables of ranges
of code points, ends included, in ascending order.
-/

set_option autoImplicit false

namespace Cdp.Text

/-- The character of a code point, surrogates excluded. -/
def charOfCode? (n : Nat) : Option Char :=
  if n < 0xd800 || (0xdfff < n && n < 0x110000) then some (Char.ofNat n) else none

/-- Whether a code point lies in one of the ranges. -/
def inRanges (ranges : List (Nat × Nat)) (code : Nat) : Bool :=
  ranges.any fun r => r.1 ≤ code && code ≤ r.2

/-- Whether a code point lies in one of the ranges of the table for its part of the code space. -/
def inPlane (western eastern supplementary : List (Nat × Nat)) (code : Nat) : Bool :=
  if code < 0x1000 then inRanges western code
  else if code < 0x10000 then inRanges eastern code
  else inRanges supplementary code

end Cdp.Text
