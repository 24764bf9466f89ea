import Cdp.Proofs.Attempt
import Cdp.Proofs.Decimal.Order
import Cdp.Trove.Change

/-!
# New Troves and the borrowing rate

What a new Trove owes rises with the borrowing rate. Two rates at which opening succeeds therefore
frame every rate between them: opening succeeds there as well, with a debt between the two debts
(`create_between`). The lower rate keeps the debt above the minimum, the upper one keeps it in the
range of decimals.
-/

set_option autoImplicit false

namespace Cdp

theorem requireAmount_eq_ok_iff {amount : Decimal} (role : AmountRole) :
    requireAmount amount role = .ok () ↔ 0 < amount.rawNat ∧ amount < .infinity := by
  rw [requireAmount, ← Decimal.isZero_eq_false_iff, ← Decimal.isInfinite_eq_false_iff]
  cases amount.isZero <;> cases amount.isInfinite <;> simp [Attempt.refuse]

theorem requireNetDebt_eq_ok_iff {netDebt : Decimal} :
    requireNetDebt netDebt = .ok () ↔ Protocol.minimumNetDebt ≤ netDebt := by
  rw [requireNetDebt, Decimal.le_def]
  split
  · rename_i hlt
    exact ⟨fun h => absurd h (Attempt.refuse_ne_ok _ _), fun h => absurd hlt (Nat.not_lt.2 h)⟩
  · rename_i hlt
    exact ⟨fun _ => Nat.not_lt.1 hlt, fun _ => rfl⟩

theorem requireAmounts_eq_ok_iff {amounts : Collaterals} (role : Address → AmountRole) :
    requireAmounts amounts role = .ok () ↔
      ∀ e ∈ amounts.entries, 0 < e.2.rawNat ∧ e.2 < .infinity := by
  rw [requireAmounts, List.forM_eq_forM]
  induction amounts.entries with
  | nil => simp [pure_eq_ok_iff]
  | cons e rest ih =>
    rw [List.forM_cons, bind_eq_ok_iff, List.forall_mem_cons, ← ih,
      ← requireAmount_eq_ok_iff (role e.1)]
    constructor
    · rintro ⟨⟨⟩, he, hrest⟩
      exact ⟨he, hrest⟩
    · rintro ⟨he, hrest⟩
      exact ⟨(), he, hrest⟩

/-- The rules that creation parameters keep on their own: there is a deposit, and every amount is
neither zero nor infinite. -/
theorem CreationParams.validate_eq_ok_iff {params : CreationParams} :
    params.validate = .ok () ↔ params.deposit.isEmpty = false ∧
      (∀ e ∈ params.deposit.entries, 0 < e.2.rawNat ∧ e.2 < .infinity) ∧
      0 < params.borrow.rawNat ∧ params.borrow < .infinity := by
  rw [validate]
  cases hempty : params.deposit.isEmpty with
  | true =>
    constructor
    · intro h
      cases h
    · rintro ⟨h, -⟩
      cases h
  | false =>
    rw [← requireAmounts_eq_ok_iff .deposit, ← requireAmount_eq_ok_iff .borrow]
    refine bind_eq_ok_iff.trans ⟨?_, ?_⟩
    · rintro ⟨⟨⟩, hdeposit, hborrow⟩
      exact ⟨rfl, hdeposit, hborrow⟩
    · rintro ⟨-, hdeposit, hborrow⟩
      exact ⟨(), hdeposit, hborrow⟩

theorem feeInclusive?_eq_some_iff {amount rate total : Decimal} :
    feeInclusive? amount rate = some total ↔
      ∃ fee, amount.checkedMul rate = some fee ∧ amount.checkedAdd fee = some total :=
  Option.bind_eq_some_iff

theorem feeInclusive?_mono {amount rate rate' total' : Decimal} (hamount : amount < .infinity)
    (hrate : rate ≤ rate') (hrate' : rate' < .infinity)
    (h : feeInclusive? amount rate' = some total') :
    ∃ total, feeInclusive? amount rate = some total ∧ total ≤ total' := by
  obtain ⟨fee', hfee', htotal'⟩ := feeInclusive?_eq_some_iff.1 h
  have hfinite := Decimal.checkedMul_lt_infinity hamount hrate' hfee'
  rw [Decimal.checkedMul_comm] at hfee'
  obtain ⟨fee, hfee, hle⟩ := Decimal.checkedMul_mono_left hrate hrate' hfee'
  obtain ⟨total, htotal, hle'⟩ :=
    Decimal.checkedAdd_mono (Decimal.le_refl amount) hle hamount hfinite htotal'
  rw [Decimal.checkedMul_comm] at hfee
  exact ⟨total, feeInclusive?_eq_some_iff.2 ⟨fee, hfee, htotal⟩, hle'⟩

theorem feeInclusive?_lt_infinity {amount rate total : Decimal} (hamount : amount < .infinity)
    (hrate : rate < .infinity) (h : feeInclusive? amount rate = some total) :
    total < .infinity := by
  obtain ⟨fee, hfee, htotal⟩ := feeInclusive?_eq_some_iff.1 h
  have hfinite := Decimal.checkedMul_lt_infinity hamount hrate hfee
  exact ((Decimal.checkedAdd_eq_some_iff hamount hfinite).1 htotal).2

namespace Trove

/-- When opening succeeds, and what it gives. -/
theorem create_eq_ok_iff {params : CreationParams} {rate : Decimal} {trove : Trove} :
    create params rate = .ok trove ↔ params.validate = .ok () ∧
      ∃ netDebt debt, feeInclusive? params.borrow rate = some netDebt ∧
        Protocol.minimumNetDebt ≤ netDebt ∧
        netDebt.checkedAdd Protocol.gasCompensation = some debt ∧
        trove = ⟨params.deposit, debt⟩ := by
  simp only [create, feeInclusive, bind_eq_ok_iff, Attempt.ofOption_eq_ok_iff, pure_eq_ok_iff]
  constructor
  · rintro ⟨⟨⟩, hvalid, netDebt, hnet, ⟨⟩, hmin, debt, hdebt, rfl⟩
    exact ⟨hvalid, netDebt, debt, hnet, requireNetDebt_eq_ok_iff.1 hmin, hdebt, rfl⟩
  · rintro ⟨hvalid, netDebt, debt, hnet, hmin, hdebt, rfl⟩
    exact ⟨(), hvalid, netDebt, hnet, (), requireNetDebt_eq_ok_iff.2 hmin, debt, hdebt, rfl⟩

/-- Opening succeeds at every rate between two rates at which it succeeds, with a debt between the
debts of the two. -/
theorem create_between {params : CreationParams} {low rate high : Decimal}
    {lowTrove highTrove : Trove}
    (hlow : create params low = .ok lowTrove) (hhigh : create params high = .ok highTrove)
    (hle : low ≤ rate) (hge : rate ≤ high) (hfinite : high < .infinity) :
    ∃ trove, create params rate = .ok trove ∧ lowTrove.debt ≤ trove.debt ∧
      trove.debt ≤ highTrove.debt := by
  obtain ⟨hvalid, lowNet, lowDebt, hlowNet, hmin, hlowDebt, rfl⟩ := create_eq_ok_iff.1 hlow
  obtain ⟨-, highNet, highDebt, hhighNet, -, hhighDebt, rfl⟩ := create_eq_ok_iff.1 hhigh
  have hborrow := (CreationParams.validate_eq_ok_iff.1 hvalid).2.2.2
  have hhighFinite := feeInclusive?_lt_infinity hborrow hfinite hhighNet
  obtain ⟨net, hnet, hnetLe⟩ := feeInclusive?_mono hborrow hge hfinite hhighNet
  have hnetFinite := Decimal.lt_infinity_of_le hnetLe hhighFinite
  obtain ⟨low', hlow', hlowLe⟩ :=
    feeInclusive?_mono hborrow hle (Decimal.lt_infinity_of_le hge hfinite) hnet
  obtain rfl : lowNet = low' := Option.some.inj (hlowNet.symm.trans hlow')
  have hgas : Protocol.gasCompensation < .infinity := by decide
  obtain ⟨debt, hdebt, hdebtLe⟩ :=
    Decimal.checkedAdd_mono hnetLe (Decimal.le_refl _) hhighFinite hgas hhighDebt
  obtain ⟨debt', hdebt', hdebtGe⟩ :=
    Decimal.checkedAdd_mono hlowLe (Decimal.le_refl _) hnetFinite hgas hdebt
  obtain rfl : lowDebt = debt' := Option.some.inj (hlowDebt.symm.trans hdebt')
  refine ⟨⟨params.deposit, debt⟩, create_eq_ok_iff.2 ?_, hdebtGe, hdebtLe⟩
  exact ⟨hvalid, net, debt, hnet, Decimal.le_trans hmin hlowLe, hdebt, rfl⟩

end Trove

end Cdp
