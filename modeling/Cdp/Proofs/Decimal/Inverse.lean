import Cdp.Proofs.Attempt
import Cdp.Proofs.Decimal.Order
import Mathlib.Algebra.Order.Floor.Div

/-!
# Operators that undo each other

A finite number to which another is added is the same again once that is subtracted. A number that
is multiplied by another and then divided by it may come out smaller, because both results are cut
off: it loses what was cut off of the product, over the factor and rounded up (`cutLoss`,
`rawNat_div_mul_add`).

What is cut off is less than the scale. So by a factor of one or more at most a raw unit is lost
(`cutLoss_le_one`), and by a smaller one more: a factor of one raw unit takes away all digits after
the point. Where the sum or the product exists, so does the difference or the quotient
(`inverses_accurate`).
-/

set_option autoImplicit false

namespace Cdp.Decimal

variable {a b c p : Decimal}

/-! ## Sums -/

/-- The sum of finite numbers is finite, and the summand can be taken away again. -/
theorem checkedSub_checkedAdd (ha : a < infinity) (hb : b < infinity)
    (h : checkedAdd a b = some c) : checkedSub c b = some a := by
  obtain ⟨hsum, hc⟩ := (checkedAdd_eq_some_iff ha hb).1 h
  rw [checkedSub_eq_some_iff hc, le_def]
  omega

/-! ## Products -/

/-- A number that is multiplied, cut down to a multiple of `s` and divided again loses the remainder
over the factor, rounded up. -/
theorem mul_cut_div_add (m s : Nat) {n : Nat} (hn : 0 < n) :
    m * n / s * s / n + (m * n % s) ⌈/⌉ n = m := by
  have hcut := Nat.div_add_mod' (m * n) s
  rcases Nat.eq_zero_or_pos (m * n % s) with hrest | hrest
  · rw [hrest, Nat.add_zero] at hcut
    rw [hrest, hcut, zero_ceilDiv, Nat.add_zero, Nat.mul_div_cancel _ hn]
  · -- rounded up, a successor over the factor is one more than its predecessor cut off
    obtain ⟨r, hr⟩ := Nat.exists_eq_add_of_le' hrest
    rw [hr] at hcut ⊢
    have hlt : r < n * m := by
      rw [Nat.mul_comm]
      omega
    have hwhole : m * n / s * s = n * m - (r + 1) := by
      rw [Nat.mul_comm n]
      omega
    have hloss : (r + 1) ⌈/⌉ n = r / n + 1 := by
      rw [Nat.ceilDiv_eq_add_pred_div, Nat.add_right_comm, Nat.add_sub_cancel,
        Nat.add_div_right r hn]
    have hle : r / n + 1 ≤ m := Nat.div_lt_of_lt_mul hlt
    rw [hwhole, Nat.mul_sub_div r n m hlt, hloss, Nat.sub_add_cancel hle]

/-- The raw units that a number loses where it is multiplied and divided by another. -/
def cutLoss (a b : Decimal) : Nat := (a.rawNat * b.rawNat % scale) ⌈/⌉ b.rawNat

/-- What is cut off of a product is less than the scale. -/
theorem cutLoss_le (hpos : 0 < b.rawNat) : cutLoss a b ≤ scale ⌈/⌉ b.rawNat :=
  (gc_mul_ceilDiv hpos).monotone_l (Nat.mod_lt _ (by decide)).le

/-- A factor of seventeen raw units can lose as much. -/
example : cutLoss ⟨⟨470588235294117647, by decide⟩⟩ ⟨⟨17, by decide⟩⟩ = scale ⌈/⌉ 17 := by decide

/-- A factor of one or more is at least what is cut off. -/
theorem cutLoss_le_one (hb : one ≤ b) : cutLoss a b ≤ 1 := by
  rw [le_def, rawNat_one] at hb
  have hrest : a.rawNat * b.rawNat % scale < scale := Nat.mod_lt _ (by decide)
  rw [cutLoss, ceilDiv_le_iff_le_mul (Nat.lt_of_lt_of_le (by decide) hb), Nat.mul_one]
  exact (Nat.le_of_lt hrest).trans hb

theorem cutLoss_eq_zero_iff (hpos : 0 < b.rawNat) :
    cutLoss a b = 0 ↔ scale ∣ a.rawNat * b.rawNat := by
  rw [← Nat.le_zero, cutLoss, ceilDiv_le_iff_le_mul hpos, Nat.mul_zero, Nat.le_zero,
    Nat.dvd_iff_mod_eq_zero]

/-- A product of finite numbers can be divided by its factor again, because its scaled raw value is
no more than the product of the raw values. -/
theorem rawNat_div_mul_add (ha : a < infinity) (hb : b < infinity) (hpos : 0 < b.rawNat)
    (h : checkedMul a b = some p) :
    ∃ q, checkedDiv p b = some q ∧ q.rawNat + cutLoss a b = a.rawNat := by
  obtain ⟨hword, hraw⟩ := (checkedMul_eq_some_iff ha hb).1 h
  have hscaled : p.rawNat * scale ≤ a.rawNat * b.rawNat := by
    rw [hraw]
    exact Nat.div_mul_le_self _ _
  have hquotient : p.rawNat * scale / b.rawNat + cutLoss a b = a.rawNat := by
    rw [hraw]
    exact mul_cut_div_add a.rawNat scale hpos
  have hlt : p.rawNat * scale / b.rawNat < Word.size :=
    Nat.lt_of_le_of_lt (Nat.le.intro hquotient) a.rawNat_lt
  refine ⟨⟨⟨_, hlt⟩⟩, ?_, hquotient⟩
  rw [checkedDiv_eq_some_iff (checkedMul_lt_infinity ha hb h) hb hpos]
  exact ⟨Nat.lt_of_le_of_lt hscaled hword, rfl⟩

/-! ## Operators -/

/-- Where a sum of finite numbers does not break off, subtracting the second gives the first back.
Where a product with a factor other than zero does not break off, dividing by the factor does not
either. The quotient is at most the number that was multiplied, and falls short of it by at most
the scale over the raw factor, rounded up. If the factor is at least one, it is that number or a raw
unit less, and it is that number if and only if the scale divides the product of the raw values. -/
theorem inverses_accurate (ha : a < infinity) (hb : b < infinity) :
    (∀ sum, a.add b = .ok sum → sum.sub b = .ok a) ∧
    (b ≠ zero → ∀ product, a.mul b = .ok product → ∃ q, product.div b = .ok q ∧
      q ≤ a ∧ a.rawNat ≤ q.rawNat + scale ⌈/⌉ b.rawNat ∧
      (one ≤ b → q = a ∨ q.rawNat + 1 = a.rawNat) ∧
      (q = a ↔ scale ∣ a.rawNat * b.rawNat)) := by
  constructor
  · intro sum hsum
    exact sub_eq_ok_iff.2 (checkedSub_checkedAdd ha hb (add_eq_ok_iff.1 hsum))
  · intro hzero product hproduct
    have hpos : 0 < b.rawNat := Nat.pos_of_ne_zero fun h => hzero (ext h)
    obtain ⟨q, hdiv, hq⟩ := rawNat_div_mul_add ha hb hpos (mul_eq_ok_iff.1 hproduct)
    have heq : q = a ↔ cutLoss a b = 0 := by
      constructor
      · rintro rfl
        omega
      · intro hloss
        exact ext (by omega)
    refine ⟨q, div_eq_ok_iff.2 hdiv, Nat.le.intro hq, ?_, ?_, ?_⟩
    · have hloss := cutLoss_le (a := a) hpos
      omega
    · intro hone
      have hloss := cutLoss_le_one (a := a) hone
      rw [heq]
      omega
    · rw [heq, cutLoss_eq_zero_iff hpos]

/-- One and a raw unit. -/
def unitAboveOne : Decimal := ⟨⟨1000000000000000001, by decide⟩⟩

def oneAndQuarter : Decimal := ⟨⟨1250000000000000000, by decide⟩⟩

/-- By one and a quarter the last raw unit is lost: the product is cut off by a quarter of one. -/
theorem oneAndQuarter_loses_unit :
    unitAboveOne < infinity ∧ oneAndQuarter < infinity ∧
      oneAndQuarter ≠ zero ∧ one ≤ oneAndQuarter ∧
      unitAboveOne.add oneAndQuarter = .ok ⟨⟨2250000000000000001, by decide⟩⟩ ∧
      sub ⟨⟨2250000000000000001, by decide⟩⟩ oneAndQuarter = .ok unitAboveOne ∧
      unitAboveOne.mul oneAndQuarter = .ok ⟨⟨1250000000000000001, by decide⟩⟩ ∧
      div ⟨⟨1250000000000000001, by decide⟩⟩ oneAndQuarter = .ok one := by
  have ha : unitAboveOne < infinity := by decide
  have hb : oneAndQuarter < infinity := by decide
  have hzero : oneAndQuarter ≠ zero := by decide
  have hone : one ≤ oneAndQuarter := by decide
  have hadd : unitAboveOne.add oneAndQuarter = .ok ⟨⟨2250000000000000001, by decide⟩⟩ := rfl
  have hmul : unitAboveOne.mul oneAndQuarter = .ok ⟨⟨1250000000000000001, by decide⟩⟩ := rfl
  obtain ⟨hsub, hdiv⟩ := inverses_accurate ha hb
  obtain ⟨q, hq, -, -, hunit, hexact⟩ := hdiv hzero _ hmul
  have hcut : q ≠ unitAboveOne := fun h => absurd (hexact.1 h) (by decide)
  have hvalue : q = one := ext (Nat.succ.inj ((hunit hone).resolve_left hcut))
  exact ⟨ha, hb, hzero, hone, hadd, hsub _ hadd, hmul, hvalue ▸ hq⟩

end Cdp.Decimal
