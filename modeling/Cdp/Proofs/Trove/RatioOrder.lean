import Cdp.Proofs.Trove.History
import Cdp.Proofs.Trove.Ratio
import Cdp.Proofs.Trove.Value

/-!
# Which way an adjustment moves the ratios

Deposits and repayments leave a Trove with at least as much of every kind and with no more debt, and
withdrawals and borrows do the opposite. The nominal and the collateral ratio follow
(`Strengthened.ratiosAtMost`): sums, products and quotients stay in order when they are cut off or
become infinite, and a Trove without debt has the largest ratio that there is. So an adjustment that
only puts in never lowers a ratio, and one that only takes out never raises one, at any rate and at
any prices (`adjust_moves_ratios`).
-/

set_option autoImplicit false

namespace Cdp

open AddressMap

/-- Nothing is withdrawn and nothing is borrowed. -/
def AdjustmentParams.PutsInOnly (params : AdjustmentParams) : Prop :=
  params.withdraw.isEmpty = true ∧ params.isBorrowing = false

/-- Nothing is deposited and nothing is repaid. -/
def AdjustmentParams.TakesOutOnly (params : AdjustmentParams) : Prop :=
  params.deposit.isEmpty = true ∧ params.isRepaying = false

namespace Trove

variable {t t' : Trove} {m m' : Collaterals} {params : AdjustmentParams} {rate debt : Decimal}

/-! ## Ratios in order -/

/-- The later Trove holds at least as much of every kind and owes no more. -/
structure Strengthened (t t' : Trove) : Prop where
  held : ∀ kind, t.collaterals.rawAt kind ≤ t'.collaterals.rawAt kind
  debt : t'.debt ≤ t.debt

/-- Neither ratio is larger before than after, where both exist. -/
structure RatiosAtMost (t t' : Trove) : Prop where
  nominal : ∀ before after, t.nominalRatio = .ok before → t'.nominalRatio = .ok after →
    before ≤ after
  collateral : ∀ prices before after, t.collateralRatio prices = .ok before →
    t'.collateralRatio prices = .ok after → before ≤ after

theorem countAt_rawNat (m : Collaterals) (kind : Address) :
    m.countAt (fun e => e.2.rawNat) kind = m.rawAt kind := by
  cases hget : m.get? kind with
  | none => rw [countAt_of_none hget, rawAt, hget]; rfl
  | some amount => rw [countAt_of_get? hget, rawAt_of_get? hget]

theorem sum_values (m : Collaterals) :
    (m.values.map Decimal.rawNat).sum = (m.entries.map fun e => e.2.rawNat).sum := by
  rw [values, List.map_map]
  rfl

theorem totalCollateral_le {total total' : Decimal}
    (hheld : ∀ kind, t.collaterals.rawAt kind ≤ t'.collaterals.rawAt kind)
    (h : t.totalCollateral = .ok total) (h' : t'.totalCollateral = .ok total') :
    total ≤ total' := by
  have hsum := Decimal.rawNat_sum_eq h
  have hsum' := Decimal.rawNat_sum_eq h'
  have hle : (t.collaterals.values.map Decimal.rawNat).sum ≤
      (t'.collaterals.values.map Decimal.rawNat).sum := by
    rw [sum_values, sum_values]
    refine sum_entries_le fun kind => ?_
    rw [countAt_rawNat, countAt_rawNat]
    exact hheld kind
  rw [Decimal.le_def, hsum, hsum']
  omega

/-- Where there is debt in a stronger position, there is debt in the weaker one. -/
theorem Strengthened.isZero_debt (h : t.Strengthened t') (hzero : t'.debt.isZero = false) :
    t.debt.isZero = false :=
  Decimal.isZero_eq_false_iff.2
    (Nat.lt_of_lt_of_le (Decimal.isZero_eq_false_iff.1 hzero) h.debt)

theorem Strengthened.nominalRatio_le {before after : Decimal} (h : t.Strengthened t')
    (hbefore : t.nominalRatio = .ok before) (hafter : t'.nominalRatio = .ok after) :
    before ≤ after := by
  rw [nominalRatio_eq_ok_iff] at hbefore hafter
  cases hzero : t'.debt.isZero with
  | true =>
    -- without debt the ratio afterwards is infinite, whatever it was before
    rw [if_pos hzero] at hafter
    exact hafter ▸ Decimal.le_infinity before
  | false =>
    rw [h.isZero_debt hzero, if_neg Bool.false_ne_true] at hbefore
    rw [hzero, if_neg Bool.false_ne_true] at hafter
    obtain ⟨total, htotal, rfl⟩ := hbefore
    obtain ⟨total', htotal', rfl⟩ := hafter
    exact Decimal.mulDiv_le (totalCollateral_le h.held htotal htotal') h.debt
      (Decimal.isZero_eq_false_iff.1 hzero)

theorem Strengthened.collateralRatio_le {prices : Prices} {before after : Decimal}
    (h : t.Strengthened t') (hbefore : t.collateralRatio prices = .ok before)
    (hafter : t'.collateralRatio prices = .ok after) : before ≤ after := by
  obtain ⟨value, hvalue, hdiv⟩ := collateralRatio_eq_ok_iff.1 hbefore
  obtain ⟨value', hvalue', hdiv'⟩ := collateralRatio_eq_ok_iff.1 hafter
  cases hzero : t'.debt.isZero with
  | true =>
    rw [if_pos hzero] at hdiv'
    exact Option.some.inj hdiv' ▸ Decimal.le_infinity before
  | false =>
    rw [h.isZero_debt hzero, if_neg Bool.false_ne_true] at hdiv
    rw [hzero, if_neg Bool.false_ne_true] at hdiv'
    exact Decimal.checkedDiv_le (collateralValue_le h.held hvalue hvalue') h.debt
      (Decimal.isZero_eq_false_iff.1 hzero) hdiv hdiv'

theorem Strengthened.ratiosAtMost (h : t.Strengthened t') : t.RatiosAtMost t' :=
  ⟨fun _ _ => h.nominalRatio_le, fun _ _ _ => h.collateralRatio_le⟩

/-! ## Adjustments -/

theorem Deposits.le {held after : Option Decimal} {e : Address × Decimal}
    (h : Deposits held e after) : held.getD .zero ≤ after.getD .zero := by
  obtain ⟨sum, hsum, rfl⟩ := h
  exact Decimal.le_of_checkedAdd hsum

theorem Withdraws.le {held after : Option Decimal} {e : Address × Decimal}
    (h : Withdraws held e after) : after.getD .zero ≤ held.getD .zero := by
  obtain ⟨remaining, hsub, rfl⟩ := h
  split
  · exact Decimal.zero_le _
  · exact Decimal.le_of_checkedSub hsub

theorem foldlM_depositInto_le {deposit : Collaterals}
    (h : deposit.entries.foldlM (fun m e => depositInto m e.1 e.2) m = .ok m') (kind : Address) :
    m.rawAt kind ≤ m'.rawAt kind :=
  (walked_of_foldlM (fun _ _ _ => depositInto_stepsAt) h).rel
    (r := fun held after => held.getD .zero ≤ after.getD .zero) (fun _ => Decimal.le_refl _)
    (fun _ _ _ => Deposits.le) kind

theorem foldlM_withdrawFrom_le {withdraw : Collaterals}
    (h : withdraw.entries.foldlM (fun m e => withdrawFrom m e.1 e.2) m = .ok m') (kind : Address) :
    m'.rawAt kind ≤ m.rawAt kind :=
  (walked_of_foldlM (fun _ _ _ => withdrawFrom_stepsAt) h).rel
    (r := fun held after => after.getD .zero ≤ held.getD .zero) (fun _ => Decimal.le_refl _)
    (fun _ _ _ => Withdraws.le) kind

theorem changeDebt_le {change : Option DebtChange}
    (hchange : ∀ amount, change ≠ some (.borrow amount))
    (h : t.changeDebt rate change = .ok debt) : debt ≤ t.debt := by
  rcases change with _ | (amount | amount)
  · rw [Except.ok.inj h]
    exact Decimal.le_refl _
  · exact absurd rfl (hchange amount)
  · exact Decimal.le_of_checkedSub (changeDebt_repay_eq_ok_iff.1 h).2.1

theorem le_changeDebt {change : Option DebtChange}
    (hchange : ∀ amount, change ≠ some (.repay amount))
    (h : t.changeDebt rate change = .ok debt) : t.debt ≤ debt := by
  rcases change with _ | (amount | amount)
  · rw [Except.ok.inj h]
    exact Decimal.le_refl _
  · obtain ⟨added, -, hadd⟩ := bind_eq_ok_iff.1 h
    exact Decimal.le_of_checkedAdd (Attempt.ofOption_eq_ok_iff.1 hadd)
  · exact absurd rfl (hchange amount)

/-- Without withdrawals and borrows, each step of an adjustment strengthens the Trove. -/
theorem strengthened_of_putsInOnly (hparams : params.PutsInOnly)
    (h : t.adjust params rate = .ok t') : t.Strengthened t' := by
  obtain ⟨hwithdraw, hborrow⟩ := hparams
  obtain ⟨-, deposited, hdeposited, hcollaterals, hdebt⟩ := adjust_eq_ok_iff.1 h
  constructor
  case held =>
    rw [List.isEmpty_iff.1 hwithdraw] at hcollaterals
    exact Except.ok.inj hcollaterals ▸ foldlM_depositInto_le hdeposited
  case debt =>
    refine changeDebt_le (fun amount heq => ?_) hdebt
    rw [AdjustmentParams.isBorrowing, heq] at hborrow
    cases hborrow

theorem strengthened_of_takesOutOnly (hparams : params.TakesOutOnly)
    (h : t.adjust params rate = .ok t') : t'.Strengthened t := by
  obtain ⟨hdeposit, hrepay⟩ := hparams
  obtain ⟨-, deposited, hdeposited, hcollaterals, hdebt⟩ := adjust_eq_ok_iff.1 h
  constructor
  case held =>
    rw [List.isEmpty_iff.1 hdeposit] at hdeposited
    exact Except.ok.inj hdeposited ▸ foldlM_withdrawFrom_le hcollaterals
  case debt =>
    refine le_changeDebt (fun amount heq => ?_) hdebt
    rw [AdjustmentParams.isRepaying, heq] at hrepay
    cases hrepay

/-- An adjustment that only deposits and repays lowers neither ratio, and one that only withdraws
and borrows raises neither. -/
theorem adjust_moves_ratios (h : t.adjust params rate = .ok t') :
    (params.PutsInOnly → t.RatiosAtMost t') ∧ (params.TakesOutOnly → t'.RatiosAtMost t) :=
  ⟨fun hparams => (strengthened_of_putsInOnly hparams h).ratiosAtMost,
    fun hparams => (strengthened_of_takesOutOnly hparams h).ratiosAtMost⟩

/-- Deposits a kind that is not held yet and repays five hundred. -/
def topUp : AdjustmentParams :=
  ⟨.ofList [(secondKind, .thousandths 10)], .empty, some (.repay (.ofUInt64 500))⟩

def toppedUpTrove : Trove :=
  ⟨.ofList [(firstKind, .ofUInt64 10), (secondKind, .thousandths 10)], .ofUInt64 2715⟩

/-- Takes all of the second kind out and borrows a hundred. -/
def drawDown : AdjustmentParams :=
  ⟨.empty, .ofList [(secondKind, .thousandths 10)], some (.borrow (.ofUInt64 100))⟩

/-- The second kind is dropped, and the fee is half a stablecoin. -/
def drawnDownTrove : Trove :=
  ⟨.ofList [(firstKind, ⟨.ofUInt64 10010000000000000000⟩)],
    ⟨⟨3315510000000000000000, by decide⟩⟩⟩

/-- With the second kind and the repayment the collateral ratio rises, and without that kind and
with the borrow the nominal ratio falls. -/
theorem ratios_follow_secondKind :
    openedTrove.adjust topUp .zero = .ok toppedUpTrove ∧ topUp.PutsInOnly ∧
      (∃ before after, openedTrove.collateralRatio (pricesAt 481) = .ok before ∧
        toppedUpTrove.collateralRatio (pricesAt 481) = .ok after ∧ before ≤ after) ∧
      rewardedTrove.adjust drawDown (.thousandths 5) = .ok drawnDownTrove ∧
      drawDown.TakesOutOnly ∧
      ∃ before after, rewardedTrove.nominalRatio = .ok before ∧
        drawnDownTrove.nominalRatio = .ok after ∧ after ≤ before := by
  have htopUp : openedTrove.adjust topUp .zero = .ok toppedUpTrove := rfl
  have hin : topUp.PutsInOnly := ⟨rfl, rfl⟩
  have hdrawDown : rewardedTrove.adjust drawDown (.thousandths 5) = .ok drawnDownTrove := rfl
  have hout : drawDown.TakesOutOnly := ⟨rfl, rfl⟩
  refine ⟨htopUp, hin, ⟨_, _, rfl, rfl, ?_⟩, hdrawDown, hout, _, _, rfl, rfl, ?_⟩
  · exact ((adjust_moves_ratios htopUp).1 hin).collateral (pricesAt 481) _ _ rfl rfl
  · exact ((adjust_moves_ratios hdrawDown).2 hout).nominal _ _ rfl rfl

end Trove

end Cdp
