import Cdp.Proofs.Decimal.Faults
import Cdp.Proofs.Trove.Change

/-!
# The borrow that imitates a decay

Dividing a total by one and the rate takes the fee off again (`withoutFee`). The quotient is cut off
once and the fee of what is left once more, and both together lose at most two raw units
(`le_add_fee_withoutFee`).

A borrow gives less debt once the rate has decayed. Dividing that debt by one and the current rate
gives a smaller borrow, which leads to the same debt now, up to those two units (`imitates`).

`recreate` and `reachDebt` are where the division happens, for a new Trove and for a change. A
change adds to a debt, and an infinite debt hides what was added to it: no change leads there.
-/

set_option autoImplicit false

namespace Cdp

variable {borrow rate decayed : Decimal}

/-! ## Taking the fee off -/

/-- The raw amount that a raw total with its fee leads back to: the total over one and the rate. -/
def withoutFee (total : Nat) (rate : Decimal) : Nat :=
  total * Decimal.scale / (Decimal.scale + rate.rawNat)

/-- An amount and its fee, in a single quotient. -/
theorem add_fee_eq (amount rate : Nat) :
    amount + amount * rate / Decimal.scale = amount * (Decimal.scale + rate) / Decimal.scale := by
  rw [Nat.mul_add, Nat.mul_comm amount Decimal.scale,
    Nat.mul_add_div (by decide : 0 < Decimal.scale)]

/-- What is left without the fee does not exceed the total with its own fee. -/
theorem add_fee_withoutFee_le (total : Nat) (rate : Decimal) :
    withoutFee total rate + withoutFee total rate * rate.rawNat / Decimal.scale ≤ total := by
  have hfloor : withoutFee total rate * (Decimal.scale + rate.rawNat) ≤ total * Decimal.scale :=
    Nat.div_mul_le_self _ _
  rw [add_fee_eq]
  exact Nat.div_le_of_le_mul (Nat.mul_comm Decimal.scale _ ▸ hfloor)

/-- At a rate of at most one it falls short of the total by at most two raw units. -/
theorem le_add_fee_withoutFee (total : Nat) (hone : rate ≤ .one) :
    total ≤ withoutFee total rate + withoutFee total rate * rate.rawNat / Decimal.scale + 2 := by
  have hscale : 0 < Decimal.scale := by decide
  have hrate : rate.rawNat ≤ Decimal.scale := hone
  have hnext : total * Decimal.scale <
      (withoutFee total rate + 1) * (Decimal.scale + rate.rawNat) :=
    Nat.lt_mul_of_div_lt (Nat.lt_succ_self _) (Nat.add_pos_left hscale _)
  rw [add_fee_eq]
  generalize withoutFee total rate = left at hnext ⊢
  have hcut : left * (Decimal.scale + rate.rawNat) <
      (left * (Decimal.scale + rate.rawNat) / Decimal.scale + 1) * Decimal.scale :=
    Nat.lt_mul_of_div_lt (Nat.lt_succ_self _) hscale
  -- the remainder is less than one and the rate, and both together are at most two
  have hlt : total * Decimal.scale <
      (left * (Decimal.scale + rate.rawNat) / Decimal.scale + 3) * Decimal.scale := by
    rw [Nat.add_mul, Nat.one_mul] at hnext hcut
    rw [Nat.add_mul]
    omega
  exact Nat.le_of_lt_succ (Nat.lt_of_mul_lt_mul_right hlt)

/-- When the division by one and a finite rate succeeds, and what it gives. -/
theorem div_growth_eq_ok_iff {total amount : Decimal} (htotal : total < .infinity)
    (hrate : rate < .infinity) :
    (∃ divisor, Decimal.one.add rate = .ok divisor ∧ total.div divisor = .ok amount) ↔
      Decimal.scale + rate.rawNat < Word.size - 1 ∧ total.rawNat * Decimal.scale < Word.size ∧
        amount.rawNat = withoutFee total.rawNat rate := by
  have hscale : 0 < Decimal.scale := by decide
  have hquotient {divisor : Decimal} (hdivisor : divisor.rawNat = Decimal.scale + rate.rawNat)
      (hfinite : divisor < .infinity) : total.div divisor = .ok amount ↔
        total.rawNat * Decimal.scale < Word.size ∧
          amount.rawNat = withoutFee total.rawNat rate := by
    rw [Decimal.div_eq_ok_iff, Decimal.checkedDiv_eq_some_iff htotal hfinite
      (hdivisor ▸ Nat.add_pos_left hscale _), hdivisor, withoutFee]
  constructor
  · rintro ⟨divisor, hdivisor, hdiv⟩
    obtain ⟨hsum, hfinite⟩ :=
      (Decimal.checkedAdd_eq_some_iff (by decide) hrate).1 (Decimal.add_eq_ok_iff.1 hdivisor)
    exact ⟨hsum ▸ hfinite, (hquotient hsum.symm hfinite).1 hdiv⟩
  · rintro ⟨hfits, hrest⟩
    refine ⟨⟨⟨Decimal.scale + rate.rawNat, by omega⟩⟩, ?_, (hquotient rfl hfits).2 hrest⟩
    exact Decimal.add_eq_ok_iff.2
      ((Decimal.checkedAdd_eq_some_iff (by decide) hrate).2 ⟨rfl, hfits⟩)

/-! ## Imitating a decay -/

/-- The raw amount that gives at a rate what a borrow gives at the decayed rate. -/
def imitatedTotal (borrow rate decayed : Decimal) : Nat :=
  withFee borrow decayed * Decimal.scale / (Decimal.scale + rate.rawNat)

/-- A raw amount imitates the decay of the rate for a borrow: it is no larger than the borrow, and
the debt that it gives at the current rate is that of the borrow at the decayed rate, or falls short
of it by at most two raw units. -/
structure Imitates (borrow rate decayed : Decimal) (total : Nat) : Prop where
  total_eq : total = withFee borrow decayed * Decimal.scale / (Decimal.scale + rate.rawNat)
  le_borrow : total ≤ borrow.rawNat
  debt_le : total + total * rate.rawNat / Decimal.scale ≤ withFee borrow decayed
  le_debt : withFee borrow decayed - 2 ≤ total + total * rate.rawNat / Decimal.scale

theorem imitatedTotal_le_borrow (h : decayed ≤ rate) :
    imitatedTotal borrow rate decayed ≤ borrow.rawNat := by
  apply Nat.div_le_of_le_mul
  calc withFee borrow decayed * Decimal.scale
      = borrow.rawNat * (Decimal.scale + decayed.rawNat) / Decimal.scale * Decimal.scale := by
        rw [withFee, add_fee_eq]
    _ ≤ borrow.rawNat * (Decimal.scale + decayed.rawNat) := Nat.div_mul_le_self _ _
    _ ≤ borrow.rawNat * (Decimal.scale + rate.rawNat) :=
        Nat.mul_le_mul_left _ (Nat.add_le_add_left h _)
    _ = (Decimal.scale + rate.rawNat) * borrow.rawNat := Nat.mul_comm _ _

/-- Where the rate has not risen and is at most one, dividing by one and the rate imitates the
decay. -/
theorem imitates (h : decayed ≤ rate) (hone : rate ≤ .one) :
    Imitates borrow rate decayed (imitatedTotal borrow rate decayed) where
  total_eq := rfl
  le_borrow := imitatedTotal_le_borrow h
  debt_le := add_fee_withoutFee_le _ _
  le_debt := Nat.sub_le_of_le_add (le_add_fee_withoutFee _ hone)

/-- At a rate of at most one, a fee is no more than what is borrowed. -/
theorem withFee_le (hone : rate ≤ .one) : withFee borrow rate ≤ 2 * borrow.rawNat := by
  have hfee : borrow.rawNat * rate.rawNat / Decimal.scale ≤ borrow.rawNat := by
    apply Nat.div_le_of_le_mul
    rw [Nat.mul_comm Decimal.scale]
    exact Nat.mul_le_mul_left _ hone
  rw [withFee]
  omega

/-- From two raw units on, something is left of a borrow. -/
theorem imitatedTotal_pos (hone : rate ≤ .one) (h : 2 ≤ borrow.rawNat) :
    0 < imitatedTotal borrow rate decayed := by
  have hrate : rate.rawNat ≤ Decimal.scale := hone
  apply Nat.div_pos
  · calc Decimal.scale + rate.rawNat ≤ 2 * Decimal.scale := by omega
      _ ≤ withFee borrow decayed * Decimal.scale :=
        Nat.mul_le_mul_right _ (Nat.le_trans h (Nat.le_add_right _ _))
  · exact Nat.add_pos_left (by decide) _

namespace Trove

/-- The gas compensation comes on top of the net debt of a new Trove and is taken off again. -/
theorem netDebt_create {params : CreationParams} {trove : Trove} (hrate : rate < .infinity)
    (h : create params rate = .ok trove) :
    trove.netDebt < .infinity ∧ trove.netDebt.rawNat = withFee params.borrow rate := by
  obtain ⟨-, -, hfinite, -, hraw⟩ := opened_of_create hrate h
  refine ⟨Decimal.lt_infinity_of_le (Decimal.saturatingSub_le _ _) hfinite, ?_⟩
  rw [netDebt, Decimal.rawNat_saturatingSub hfinite, hraw, Nat.add_sub_cancel]

/-- When recreating at a finite rate succeeds, and what it gives. -/
theorem recreate_eq_ok_iff {t : Trove} {params : CreationParams} (hdebt : t.netDebt < .infinity)
    (hrate : rate < .infinity) : t.recreate rate = .ok params ↔
      Decimal.scale + rate.rawNat < Word.size - 1 ∧
        t.netDebt.rawNat * Decimal.scale < Word.size ∧ params.deposit = t.collaterals ∧
        params.borrow.rawNat = withoutFee t.netDebt.rawNat rate := by
  simp only [recreate, bind_eq_ok_iff, pure_eq_ok_iff]
  constructor
  · rintro ⟨divisor, hdivisor, amount, hamount, rfl⟩
    obtain ⟨hfits, hsize, hraw⟩ :=
      (div_growth_eq_ok_iff hdebt hrate).1 ⟨divisor, hdivisor, hamount⟩
    exact ⟨hfits, hsize, rfl, hraw⟩
  · rintro ⟨hfits, hsize, hdeposit, hraw⟩
    obtain ⟨divisor, hdivisor, hamount⟩ :=
      (div_growth_eq_ok_iff hdebt hrate).2 ⟨hfits, hsize, hraw⟩
    refine ⟨divisor, hdivisor, params.borrow, hamount, ?_⟩
    rw [← hdeposit]

/-- What opening at the decayed rate and recreating at the current rate gives. -/
theorem recreate_create {params recreated : CreationParams} {trove : Trove}
    (h : decayed ≤ rate) (hone : rate ≤ .one) (hcreate : create params decayed = .ok trove)
    (hrecreate : trove.recreate rate = .ok recreated) :
    recreated.borrow.rawNat = imitatedTotal params.borrow rate decayed := by
  have hrate : rate < .infinity := Decimal.lt_infinity_of_le hone (by decide)
  obtain ⟨hfinite, hnet⟩ := netDebt_create (Decimal.lt_infinity_of_le h hrate) hcreate
  obtain ⟨-, -, -, hraw⟩ := (recreate_eq_ok_iff hfinite hrate).1 hrecreate
  rw [hraw, hnet, withoutFee, imitatedTotal]

/-- A borrow raises a finite debt by itself and its fee, and leaves an infinite one as it is. -/
theorem changeDebt_borrow {t : Trove} {debt : Decimal} (hrate : rate < .infinity)
    (hborrow : borrow < .infinity) (h : t.changeDebt rate (some (.borrow borrow)) = .ok debt) :
    (t.debt = .infinity → debt = .infinity) ∧
      (t.debt < .infinity → debt < .infinity ∧
        debt.rawNat = t.debt.rawNat + withFee borrow rate) := by
  constructor
  · intro hinfinite
    obtain ⟨added, -, hdebt⟩ := bind_eq_ok_iff.1 h
    rw [Attempt.ofOption_eq_ok_iff, hinfinite, Decimal.infinity_checkedAdd, Option.some.injEq]
      at hdebt
    exact hdebt.symm
  · intro hfinite
    obtain ⟨-, hlt, hraw⟩ := (changeDebt_borrow_eq_ok_iff hfinite hrate hborrow).1 h
    rw [Decimal.lt_def, hraw]
    exact ⟨hlt, rfl⟩

/-- When a rise of the debt can be reached by a borrow at a finite rate, and by which. -/
theorem reachDebt_rise_eq_ok_iff {debt wanted : Decimal} {change : Option DebtChange}
    (hwanted : wanted < .infinity) (hrate : rate < .infinity) (hrises : debt < wanted) :
    reachDebt debt wanted rate = .ok change ↔
      Decimal.scale + rate.rawNat < Word.size - 1 ∧
        (wanted.rawNat - debt.rawNat) * Decimal.scale < Word.size ∧
        ∃ amount, change = some (.borrow amount) ∧
          amount.rawNat = withoutFee (wanted.rawNat - debt.rawNat) rate := by
  obtain ⟨rise, hrise⟩ := Decimal.exists_sub_eq_ok (Nat.le_of_lt hrises)
  obtain ⟨-, hraw⟩ := (Decimal.checkedSub_eq_some_iff hwanted).1 (Decimal.sub_eq_ok_iff.1 hrise)
  have hfinite : rise < .infinity := by
    rw [Decimal.lt_def] at hwanted ⊢
    omega
  rw [reachDebt, if_pos hrises, hrise, ← hraw]
  show (do
    let divisor ← Decimal.one.add rate
    let amount ← rise.div divisor
    return some (DebtChange.borrow amount)) = .ok change ↔ _
  simp only [bind_eq_ok_iff, pure_eq_ok_iff]
  constructor
  · rintro ⟨divisor, hdivisor, amount, hamount, rfl⟩
    obtain ⟨hfits, hsize, hquotient⟩ :=
      (div_growth_eq_ok_iff hfinite hrate).1 ⟨divisor, hdivisor, hamount⟩
    exact ⟨hfits, hsize, amount, rfl, hquotient⟩
  · rintro ⟨hfits, hsize, amount, rfl, hquotient⟩
    obtain ⟨divisor, hdivisor, hamount⟩ :=
      (div_growth_eq_ok_iff hfinite hrate).2 ⟨hfits, hsize, hquotient⟩
    exact ⟨divisor, hdivisor, amount, hamount, rfl⟩

/-- What borrowing at the decayed rate and reaching the new debt at the current rate gives. A finite
debt is reached by a borrow; an infinite debt is where the Trove was before. -/
theorem reachDebt_changeDebt {t : Trove} {debt : Decimal} {change : Option DebtChange}
    (h : decayed ≤ rate) (hone : rate ≤ .one) (hpos : 0 < borrow.rawNat)
    (hborrow : borrow < .infinity)
    (hchange : t.changeDebt decayed (some (.borrow borrow)) = .ok debt)
    (hreach : reachDebt t.debt debt rate = .ok change) :
    (t.debt = .infinity → change = none) ∧
      (t.debt < .infinity → ∃ amount, change = some (.borrow amount) ∧
        amount.rawNat = imitatedTotal borrow rate decayed) := by
  have hrate : rate < .infinity := Decimal.lt_infinity_of_le hone (by decide)
  obtain ⟨hstays, hmoves⟩ :=
    changeDebt_borrow (Decimal.lt_infinity_of_le h hrate) hborrow hchange
  constructor
  · intro hinfinite
    have hsame : ¬(Decimal.infinity < Decimal.infinity) := Nat.lt_irrefl _
    rw [hinfinite, hstays hinfinite, reachDebt, if_neg hsame, if_neg hsame] at hreach
    exact (pure_eq_ok_iff.1 hreach).symm
  · intro hfinite
    obtain ⟨hdebtFinite, hraw⟩ := hmoves hfinite
    -- the borrow itself is added, so the debt has risen
    have hrises : t.debt < debt := by
      rw [Decimal.lt_def, hraw, withFee]
      exact Nat.lt_add_of_pos_right (Nat.add_pos_left hpos _)
    obtain ⟨-, -, amount, hchange, hquotient⟩ :=
      (reachDebt_rise_eq_ok_iff hdebtFinite hrate hrises).1 hreach
    refine ⟨amount, hchange, ?_⟩
    rw [hquotient, hraw, Nat.add_sub_cancel_left, withoutFee, imitatedTotal]

end Trove

end Cdp
