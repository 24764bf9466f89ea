import Cdp.Decimal.Basic

/-!
# Powers

The contracts raise a rate to a number of minutes by repeated squaring and round every product to
the nearest decimal. `Decimal.pow` follows the same order of products, so it agrees with them to
the last digit. Products that leave the range of words stop at infinity.
-/

set_option autoImplicit false

namespace Cdp.Decimal

/-- The largest exponent that is used as it is: the minutes of a thousand years. -/
def maxExponent : Nat := 525600000

/-- The raw value of the product of two raw values, rounded to the nearest, or the largest word. -/
def roundedMul (x y : Word) : Word :=
  ((Word.ofNat? (x.toNat * y.toNat)).bind fun product =>
    (Word.ofNat? (product.toNat + scale / 2)).bind fun sum =>
      Word.ofNat? (sum.toNat / scale)).getD .max

/-- One pass of repeated squaring: `x` is the current square, `y` the product of the squares that
the odd exponents have set aside. -/
def powLoop (x y : Word) (n : Nat) : Word :=
  if n ≤ 1 then roundedMul x y
  else if n % 2 = 0 then powLoop (roundedMul x x) y (n / 2)
  else powLoop (roundedMul x x) (roundedMul x y) ((n - 1) / 2)
termination_by n

/-- A decimal raised to a whole number; exponents above `maxExponent` count as `maxExponent`. -/
def pow (d : Decimal) (exponent : Nat) : Decimal :=
  let n := min exponent maxExponent
  if n = 0 then one else ⟨powLoop d.raw one.raw n⟩

end Cdp.Decimal
