import Cdp.Proofs.Decimal.Power
import Mathlib.Algebra.Order.Field.Rat
import Mathlib.Tactic.FieldSimp
import Mathlib.Tactic.GCongr
import Mathlib.Tactic.Linarith
import Mathlib.Tactic.NormNum
import Mathlib.Tactic.Positivity
import Mathlib.Tactic.Ring

/-!
# The accuracy of powers

Repeated squaring rounds every product to the nearest raw unit, and a square carries the error of
its factor twice. For a decimal up to one the errors still add up to no more than half a unit for
each multiplication that the exponent counts: a product of two words up to one adds half a unit to
the errors of its factors (`Approximates.roundedMul`), so the bound of a product is that of the sum
of the exponents, and every pass keeps it (`Approximates.powLoop`). The main statement is
`pow_accurate`.
-/

set_option autoImplicit false

namespace Cdp.Decimal

/-! ## One product -/

/-- A quotient of raw values is rounded to the nearest. -/
theorem abs_roundedQuotient_sub_le (n : Nat) :
    |(((n + scale / 2) / scale : Nat) : ℚ) - n / scale| ≤ 1 / 2 := by
  have hscale : (0 : ℚ) < scale := by norm_num
  have hhigh : 2 * ((n + scale / 2) / scale) * scale ≤ 2 * n + scale := by
    simp only [scale]
    omega
  have hlow : 2 * n ≤ 2 * ((n + scale / 2) / scale) * scale + scale := by
    simp only [scale]
    omega
  generalize (n + scale / 2) / scale = q at hhigh hlow ⊢
  have hhigh' : (q : ℚ) * scale ≤ n + 1 / 2 * scale := by
    have hcast : ((2 * q * scale : Nat) : ℚ) ≤ (2 * n + scale : Nat) := Nat.cast_le.2 hhigh
    push_cast at hcast
    linarith
  have hlow' : (n : ℚ) ≤ q * scale + 1 / 2 * scale := by
    have hcast : ((2 * n : Nat) : ℚ) ≤ (2 * q * scale + scale : Nat) := Nat.cast_le.2 hlow
    push_cast at hcast
    linarith
  have hquotient : (n : ℚ) = n / scale * scale := (div_mul_cancel₀ _ hscale.ne').symm
  rw [hquotient] at hhigh' hlow'
  rw [abs_le]
  constructor <;> nlinarith

theorem toNat_le_scale {x : Word} (h : x ≤ one.raw) : x.toNat ≤ scale := h

theorem roundedMul_le_one {x y : Word} (hx : x ≤ one.raw) (hy : y ≤ one.raw) :
    roundedMul x y ≤ one.raw := by
  have h := roundedMul_mono hx hy
  rwa [roundedMul_one (Nat.le_refl _)] at h

/-- A product of words up to one is rounded to the nearest. -/
theorem abs_roundedMul_sub_le {x y : Word} (hx : x ≤ one.raw) (hy : y ≤ one.raw) :
    |((roundedMul x y).toNat : ℚ) - x.toNat * y.toNat / scale| ≤ 1 / 2 := by
  have hproduct : x.toNat * y.toNat ≤ scale * scale := Nat.mul_le_mul hx hy
  have hroom : x.toNat * y.toNat + scale / 2 < Word.size :=
    Nat.lt_of_le_of_lt (Nat.add_le_add_right hproduct _) (by decide)
  rw [toNat_roundedMul, if_pos hroom, ← Nat.cast_mul]
  exact abs_roundedQuotient_sub_le _

/-! ## The errors of a power -/

/-- A decimal as a fraction. -/
def toRat (d : Decimal) : ℚ := d.rawNat / scale

/-- The word is a power of the decimal in raw units, up to half a unit for each multiplication. -/
def Approximates (d : Decimal) (exponent : Nat) (w : Word) : Prop :=
  |(w.toNat : ℚ) - scale * d.toRat ^ exponent| ≤ ((exponent - 1 : Nat) : ℚ) / 2

section Approximation

variable {d : Decimal} {j k : Nat} {x y : Word}

theorem approximates_zero_iff : Approximates d 0 y ↔ y = one.raw := by
  rw [Approximates, pow_zero, mul_one, Nat.zero_sub, Nat.cast_zero, zero_div, abs_nonpos_iff,
    sub_eq_zero, Nat.cast_inj, Word.ext_iff]
  rfl

theorem approximates_one (d : Decimal) : Approximates d 1 d.raw := by
  have hscale : (scale : ℚ) ≠ 0 := by norm_num
  rw [Approximates, pow_one, toRat, mul_div_cancel₀ _ hscale]
  simp [rawNat]

theorem toRat_pow_nonneg (d : Decimal) (k : Nat) : 0 ≤ d.toRat ^ k := by
  rw [toRat]
  positivity

theorem toRat_pow_le_one (hd : d ≤ one) (k : Nat) : d.toRat ^ k ≤ 1 := by
  have hnonneg : 0 ≤ d.toRat := by
    rw [toRat]
    positivity
  apply pow_le_one₀ hnonneg
  rw [toRat, div_le_one (by norm_num)]
  exact Nat.cast_le.2 hd

/-- A product carries the error of each factor, no larger for the other factor is at most one, and
half a unit of its own. -/
theorem Approximates.roundedMul (hd : d ≤ one) (hxone : x ≤ one.raw) (hyone : y ≤ one.raw)
    (hj : 1 ≤ j) (hx : Approximates d j x) (hy : Approximates d k y) :
    Approximates d (j + k) (Decimal.roundedMul x y) := by
  rcases Nat.eq_zero_or_pos k with rfl | hk
  · -- a product with one is exact
    rw [approximates_zero_iff.1 hy, roundedMul_one hxone]
    exact hx
  · have hscale : (0 : ℚ) < scale := by norm_num
    have hy_nonneg : 0 ≤ (y.toNat : ℚ) / scale := by positivity
    have hy_le : (y.toNat : ℚ) / scale ≤ 1 :=
      (div_le_one hscale).2 (Nat.cast_le.2 (toNat_le_scale hyone))
    -- each factor's error is scaled by the other factor, taken as it is or as it should be
    have hsplit : (x.toNat : ℚ) * y.toNat / scale - scale * d.toRat ^ (j + k) =
        (x.toNat - scale * d.toRat ^ j) * (y.toNat / scale) +
          d.toRat ^ j * (y.toNat - scale * d.toRat ^ k) := by
      rw [pow_add]
      field_simp
      ring
    have hfirst : |((x.toNat : ℚ) - scale * d.toRat ^ j) * (y.toNat / scale)| ≤
        ((j - 1 : Nat) : ℚ) / 2 := by
      rw [abs_mul, abs_of_nonneg hy_nonneg]
      exact (mul_le_of_le_one_right (abs_nonneg _) hy_le).trans hx
    have hsecond : |d.toRat ^ j * ((y.toNat : ℚ) - scale * d.toRat ^ k)| ≤
        ((k - 1 : Nat) : ℚ) / 2 := by
      rw [abs_mul, abs_of_nonneg (toRat_pow_nonneg d j)]
      exact (mul_le_of_le_one_left (abs_nonneg _) (toRat_pow_le_one hd j)).trans hy
    have hexponent : ((j + k - 1 : Nat) : ℚ) = ((j - 1 : Nat) : ℚ) + 1 + ((k - 1 : Nat) : ℚ) := by
      have hnat : j + k - 1 = j - 1 + 1 + (k - 1) := by omega
      rw [hnat]
      push_cast
      rfl
    calc |((Decimal.roundedMul x y).toNat : ℚ) - scale * d.toRat ^ (j + k)|
        ≤ |((Decimal.roundedMul x y).toNat : ℚ) - x.toNat * y.toNat / scale| +
            |(x.toNat : ℚ) * y.toNat / scale - scale * d.toRat ^ (j + k)| := abs_sub_le _ _ _
      _ ≤ 1 / 2 + (((j - 1 : Nat) : ℚ) / 2 + ((k - 1 : Nat) : ℚ) / 2) := by
          rw [hsplit]
          exact add_le_add (abs_roundedMul_sub_le hxone hyone)
            ((abs_add_le _ _).trans (add_le_add hfirst hsecond))
      _ = ((j + k - 1 : Nat) : ℚ) / 2 := by
          rw [hexponent]
          ring

/-- Every pass squares the one word and sets a factor aside in the other, and both keep their
bound. -/
theorem Approximates.powLoop (hd : d ≤ one) (hxone : x ≤ one.raw) (hyone : y ≤ one.raw)
    (hj : 1 ≤ j) (hx : Approximates d j x) (hy : Approximates d k y) {n : Nat} (hn : 1 ≤ n) :
    Approximates d (j * n + k) (Decimal.powLoop x y n) := by
  induction n, hn using exponent_induction generalizing x y j k with
  | one =>
    rw [powLoop_one, Nat.mul_one]
    exact hx.roundedMul hd hxone hyone hj hy
  | even m hm ih =>
    have hsquare := hx.roundedMul hd hxone hxone hj hx
    have hsum : j * (2 * m) + k = (j + j) * m + k := by ring
    rw [powLoop_even x y hm, hsum]
    exact ih (roundedMul_le_one hxone hxone) hyone (by omega) hsquare hy
  | odd m hm ih =>
    -- the square goes on, and the exponent it stands for is set aside as well
    have hsquare := hx.roundedMul hd hxone hxone hj hx
    have hsum : j * (2 * m + 1) + k = (j + j) * m + (j + k) := by ring
    rw [powLoop_odd x y hm, hsum]
    exact ih (roundedMul_le_one hxone hxone) (roundedMul_le_one hxone hyone) (by omega) hsquare
      (hx.roundedMul hd hxone hyone hj hy)

end Approximation

/-- The power of a decimal up to one is off by at most half a raw unit for each multiplication that
its exponent counts. -/
theorem pow_accurate {d : Decimal} (hd : d ≤ one) {n : Nat} (hn : 1 ≤ n) (hcap : n ≤ maxExponent) :
    |((d.pow n).rawNat : ℚ) - (d.rawNat : ℚ) ^ n / 10 ^ (18 * (n - 1))| ≤ ((n : ℚ) - 1) / 2 := by
  have hpow : d.pow n = ⟨powLoop d.raw one.raw n⟩ := by
    rw [pow, Nat.min_eq_left hcap, if_neg (by omega)]
  have hloop : Approximates d (1 * n + 0) (powLoop d.raw one.raw n) :=
    (approximates_one d).powLoop hd hd (Nat.le_refl _) (Nat.le_refl 1)
      (approximates_zero_iff.2 rfl) hn
  rw [Nat.one_mul, Nat.add_zero, Approximates, Nat.cast_sub hn, Nat.cast_one] at hloop
  -- a decimal brings one factor of the scale for each time that it is multiplied, and one stays
  have hexact : (d.rawNat : ℚ) ^ n / 10 ^ (18 * (n - 1)) = scale * d.toRat ^ n := by
    obtain ⟨m, rfl⟩ := Nat.exists_eq_add_of_le' hn
    have hscale : (10 : ℚ) ^ 18 = scale := by norm_num
    rw [Nat.add_sub_cancel, pow_mul, hscale, toRat, div_pow, pow_succ (scale : ℚ)]
    field_simp
  rw [hexact, hpow]
  exact hloop

/-- The decay of 255 minutes takes a product at every square. It is 40 raw units too high. -/
theorem minuteDecay_accurate :
    Protocol.minuteDecayFactor ≤ one ∧ 1 ≤ 255 ∧ 255 ≤ maxExponent ∧
      (Protocol.minuteDecayFactor.pow 255).rawNat = 782321399203809527 ∧
      |(782321399203809527 : ℚ) - 999037758833783000 ^ 255 / 10 ^ (18 * (255 - 1))| ≤
        (255 - 1) / 2 := by
  have hfactor : Protocol.minuteDecayFactor ≤ one := by decide
  have hvalue : (Protocol.minuteDecayFactor.pow 255).rawNat = 782321399203809527 := by
    decide +kernel
  have hraw : Protocol.minuteDecayFactor.rawNat = 999037758833783000 := rfl
  have h := pow_accurate hfactor (n := 255) (by decide) (by decide)
  rw [hvalue, hraw] at h
  exact ⟨hfactor, by decide, by decide, hvalue, by exact_mod_cast h⟩

end Cdp.Decimal
