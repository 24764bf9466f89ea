import Cdp.Proofs.Trove.Amounts

/-!
# Changes of a Trove

When an adjustment succeeds and what it gives (`Trove.adjust_eq_ok_iff`). A borrow adds the amount
with its fee, cut off once, to the debt; a repayment takes exactly its amount off. Whatever changes
a debt that is finite and not below the minimum leaves such a debt behind
(`Trove.changeDebt_moves`).
-/

set_option autoImplicit false

namespace Cdp

/-- The rules that adjustment parameters keep on their own: something changes, every amount is
neither zero nor infinite, and no kind is both deposited and withdrawn. -/
theorem AdjustmentParams.validate_eq_ok_iff {params : AdjustmentParams} :
    params.validate = .ok () ↔ params.isEmpty = false ∧
      (∀ e ∈ params.deposit.entries, 0 < e.2.rawNat ∧ e.2 < .infinity) ∧
      (∀ e ∈ params.withdraw.entries, 0 < e.2.rawNat ∧ e.2 < .infinity) ∧
      (∀ kind ∈ params.deposit.keys, params.withdraw.contains kind = false) ∧
      (∀ amount, params.debt = some (.borrow amount) ∨ params.debt = some (.repay amount) →
        0 < amount.rawNat ∧ amount < .infinity) := by
  rw [validate]
  cases hempty : params.isEmpty with
  | true =>
    constructor
    · intro h
      cases h
    · rintro ⟨h, -⟩
      cases h
  | false =>
    rw [← requireAmounts_eq_ok_iff .deposit, ← requireAmounts_eq_ok_iff .withdrawal]
    have hdisjoint : (∀ kind ∈ params.deposit.keys, params.withdraw.contains kind = false) ↔
        params.deposit.keys.find? params.withdraw.contains = none := by
      simp only [List.find?_eq_none, Bool.not_eq_true]
    rw [hdisjoint]
    refine bind_eq_ok_iff.trans ⟨?_, ?_⟩
    · rintro ⟨⟨⟩, hdeposit, hrest⟩
      obtain ⟨⟨⟩, hwithdraw, hrest⟩ := bind_eq_ok_iff.1 hrest
      split at hrest
      · cases hrest
      · rename_i hfind
        refine ⟨rfl, hdeposit, hwithdraw, hfind, ?_⟩
        rintro amount (hdebt | hdebt)
        · rw [hdebt] at hrest
          exact (requireAmount_eq_ok_iff _).1 hrest
        · rw [hdebt] at hrest
          exact (requireAmount_eq_ok_iff _).1 hrest
    · rintro ⟨-, hdeposit, hwithdraw, hfind, hdebt⟩
      refine ⟨(), hdeposit, bind_eq_ok_iff.2 ⟨(), hwithdraw, ?_⟩⟩
      rw [hfind]
      cases hchange : params.debt with
      | none => rfl
      | some change =>
        cases change with
        | borrow amount => exact (requireAmount_eq_ok_iff _).2 (hdebt amount (Or.inl hchange))
        | repay amount => exact (requireAmount_eq_ok_iff _).2 (hdebt amount (Or.inr hchange))

theorem AdjustmentParams.isBorrowing_iff {params : AdjustmentParams} :
    params.isBorrowing = true ↔ ∃ amount, params.debt = some (.borrow amount) := by
  rw [isBorrowing]
  constructor
  · intro h
    split at h
    · rename_i amount hdebt
      exact ⟨amount, hdebt⟩
    · cases h
  · rintro ⟨amount, hdebt⟩
    rw [hdebt]

/-- The raw amount that a borrow adds to the debt, its fee included. -/
def withFee (amount rate : Decimal) : Nat :=
  amount.rawNat + amount.rawNat * rate.rawNat / Decimal.scale

/-- The fee of a borrow exists where the product of the raw values fits a word, and the sum where it
is a finite decimal. -/
theorem feeInclusive?_eq_some_iff_withFee {amount rate total : Decimal}
    (hamount : amount < .infinity) (hrate : rate < .infinity) :
    feeInclusive? amount rate = some total ↔ amount.rawNat * rate.rawNat < Word.size ∧
      total.rawNat = withFee amount rate ∧ total < .infinity := by
  rw [feeInclusive?_eq_some_iff, withFee]
  constructor
  · rintro ⟨fee, hfee, htotal⟩
    have hfeeFinite := Decimal.checkedMul_lt_infinity hamount hrate hfee
    obtain ⟨hfits, hfeeRaw⟩ := (Decimal.checkedMul_eq_some_iff hamount hrate).1 hfee
    obtain ⟨hsum, hfinite⟩ := (Decimal.checkedAdd_eq_some_iff hamount hfeeFinite).1 htotal
    rw [hfeeRaw] at hsum
    exact ⟨hfits, hsum.symm, hfinite⟩
  · rintro ⟨hfits, hraw, hfinite⟩
    have hfeeLt : amount.rawNat * rate.rawNat / Decimal.scale < Word.size :=
      Nat.lt_of_le_of_lt (Nat.div_le_self _ _) hfits
    have hfee : amount.checkedMul rate = some ⟨⟨_, hfeeLt⟩⟩ :=
      (Decimal.checkedMul_eq_some_iff hamount hrate).2 ⟨hfits, rfl⟩
    have hfeeFinite := Decimal.checkedMul_lt_infinity hamount hrate hfee
    exact ⟨_, hfee, (Decimal.checkedAdd_eq_some_iff hamount hfeeFinite).2 ⟨hraw.symm, hfinite⟩⟩

theorem rawNat_of_feeInclusive? {amount rate total : Decimal} (hamount : amount < .infinity)
    (hrate : rate < .infinity) (h : feeInclusive? amount rate = some total) :
    total.rawNat = withFee amount rate :=
  ((feeInclusive?_eq_some_iff_withFee hamount hrate).1 h).2.1

namespace DebtChange

/-- What a change of debt borrows, its fee included. -/
def borrowed (rate : Decimal) : Option DebtChange → Nat
  | some (.borrow amount) => withFee amount rate
  | _ => 0

/-- What a change of debt repays. -/
def repaid : Option DebtChange → Nat
  | some (.repay amount) => amount.rawNat
  | _ => 0

end DebtChange

namespace Trove

variable {t t' : Trove} {params : AdjustmentParams} {rate debt : Decimal}

/-- A new Trove at a finite rate holds its deposit. It owes its borrow with the fee and the gas
compensation, which is finite and at least the minimum. -/
theorem opened_of_create {creation : CreationParams} (hrate : rate < .infinity)
    (h : create creation rate = .ok t) :
    t.collaterals = creation.deposit ∧ t.collaterals.Sound ∧
      t.debt < .infinity ∧ Protocol.minimumDebt ≤ t.debt ∧
      t.debt.rawNat = withFee creation.borrow rate + Protocol.gasCompensation.rawNat := by
  obtain ⟨hvalid, netDebt, debt, hnet, hmin, hdebt, rfl⟩ := create_eq_ok_iff.1 h
  obtain ⟨-, hdeposit, -, hborrow⟩ := CreationParams.validate_eq_ok_iff.1 hvalid
  have hnetFinite := feeInclusive?_lt_infinity hborrow hrate hnet
  obtain ⟨hsum, hdebtFinite⟩ := (Decimal.checkedAdd_eq_some_iff hnetFinite (by decide)).1 hdebt
  refine ⟨rfl, AddressMap.sound_of_entries hdeposit, hdebtFinite, ?_, ?_⟩
  · -- the minimum is the minimum net debt with the gas compensation
    rw [Decimal.le_def] at hmin ⊢
    rw [Protocol.minimumDebt_eq, ← hsum]
    exact Nat.add_le_add_right hmin _
  · rw [← hsum, rawNat_of_feeInclusive? hborrow hrate hnet]

/-- When adjusting succeeds, and what it gives. -/
theorem adjust_eq_ok_iff : t.adjust params rate = .ok t' ↔ params.validate = .ok () ∧
    ∃ deposited,
      params.deposit.entries.foldlM (fun m e => depositInto m e.1 e.2) t.collaterals =
        .ok deposited ∧
      params.withdraw.entries.foldlM (fun m e => withdrawFrom m e.1 e.2) deposited =
        .ok t'.collaterals ∧
      t.changeDebt rate params.debt = .ok t'.debt := by
  simp only [adjust, bind_eq_ok_iff, pure_eq_ok_iff]
  constructor
  · rintro ⟨⟨⟩, hvalid, deposited, hdeposited, collaterals, hcollaterals, debt, hdebt, rfl⟩
    exact ⟨hvalid, deposited, hdeposited, hcollaterals, hdebt⟩
  · rintro ⟨hvalid, deposited, hdeposited, hcollaterals, hdebt⟩
    exact ⟨(), hvalid, deposited, hdeposited, _, hcollaterals, _, hdebt, rfl⟩

theorem changeDebt_repay_eq_ok_iff {amount : Decimal} :
    t.changeDebt rate (some (.repay amount)) = .ok debt ↔
      amount ≤ t.netDebt ∧ t.debt.checkedSub amount = some debt ∧
        Protocol.minimumNetDebt ≤ debt.saturatingSub Protocol.gasCompensation := by
  rw [changeDebt]
  by_cases hlt : t.netDebt < amount
  · rw [if_pos hlt]
    constructor
    · intro h
      cases h
    · rintro ⟨hle, -⟩
      exact absurd hlt (Nat.not_lt.2 hle)
  · rw [if_neg hlt]
    simp only [bind_eq_ok_iff, pure_eq_ok_iff, liftM_faulty_eq_ok_iff, Decimal.sub_eq_ok_iff]
    constructor
    · rintro ⟨d, hsub, ⟨⟩, hmin, rfl⟩
      exact ⟨Nat.not_lt.1 hlt, hsub, requireNetDebt_eq_ok_iff.1 hmin⟩
    · rintro ⟨-, hsub, hmin⟩
      exact ⟨debt, hsub, (), requireNetDebt_eq_ok_iff.2 hmin, rfl⟩

/-- A borrow at a finite rate raises a finite debt by itself and its fee, where both fit. -/
theorem changeDebt_borrow_eq_ok_iff {amount : Decimal} (hdebt : t.debt < .infinity)
    (hrate : rate < .infinity) (hamount : amount < .infinity) :
    t.changeDebt rate (some (.borrow amount)) = .ok debt ↔
      amount.rawNat * rate.rawNat < Word.size ∧
        t.debt.rawNat + withFee amount rate < Word.size - 1 ∧
        debt.rawNat = t.debt.rawNat + withFee amount rate := by
  simp only [changeDebt, feeInclusive, bind_eq_ok_iff, Attempt.ofOption_eq_ok_iff,
    feeInclusive?_eq_some_iff_withFee hamount hrate]
  constructor
  · rintro ⟨added, ⟨hfits, hraw, hlt⟩, h⟩
    obtain ⟨hsum, hfinite⟩ := (Decimal.checkedAdd_eq_some_iff hdebt hlt).1 h
    rw [hraw] at hsum
    exact ⟨hfits, hsum ▸ hfinite, hsum.symm⟩
  · rintro ⟨hfits, hlt, hraw⟩
    have hadded : withFee amount rate < Word.size - 1 := by omega
    refine ⟨⟨⟨withFee amount rate, by omega⟩⟩, ⟨hfits, rfl, hadded⟩, ?_⟩
    refine (Decimal.checkedAdd_eq_some_iff hdebt hadded).2 ⟨hraw.symm, ?_⟩
    rw [Decimal.lt_def, hraw]
    exact hlt

/-- A repayment takes itself off a finite debt, where it leaves the minimum debt. -/
theorem changeDebt_repay_eq_ok_iff_raw {amount : Decimal} (hdebt : t.debt < .infinity) :
    t.changeDebt rate (some (.repay amount)) = .ok debt ↔
      amount.rawNat + Protocol.gasCompensation.rawNat ≤ t.debt.rawNat ∧
        amount.rawNat + Protocol.minimumDebt.rawNat ≤ t.debt.rawNat ∧
        debt.rawNat + amount.rawNat = t.debt.rawNat := by
  have hmin : 0 < Protocol.minimumNetDebt.rawNat := by decide
  have hsplit := Protocol.minimumDebt_eq
  rw [changeDebt_repay_eq_ok_iff, netDebt, Decimal.le_def, Decimal.rawNat_saturatingSub hdebt,
    Decimal.checkedSub_eq_some_iff hdebt, Decimal.le_def]
  constructor
  · rintro ⟨hnet, ⟨hle, hraw⟩, hleft⟩
    have hfinite : debt < .infinity := by
      rw [Decimal.lt_def] at hdebt ⊢
      omega
    rw [Decimal.le_def, Decimal.rawNat_saturatingSub hfinite] at hleft
    omega
  · rintro ⟨hgas, hleft, hraw⟩
    have hfinite : debt < .infinity := by
      rw [Decimal.lt_def] at hdebt ⊢
      omega
    rw [Decimal.le_def, Decimal.rawNat_saturatingSub hfinite]
    omega

/-- A finite debt that is not below the minimum stays so under every change, and it moves by exactly
what is borrowed and repaid. -/
theorem changeDebt_moves {change : Option DebtChange} (hfinite : t.debt < .infinity)
    (hmin : Protocol.minimumDebt ≤ t.debt) (hrate : rate < .infinity)
    (hamount : ∀ amount, change = some (.borrow amount) → amount < .infinity)
    (h : t.changeDebt rate change = .ok debt) :
    debt < .infinity ∧ Protocol.minimumDebt ≤ debt ∧
      debt.rawNat + DebtChange.repaid change =
        t.debt.rawNat + DebtChange.borrowed rate change := by
  cases change with
  | none =>
    cases h
    exact ⟨hfinite, hmin, rfl⟩
  | some change =>
    cases change with
    | borrow amount =>
      obtain ⟨-, hlt, hraw⟩ :=
        (changeDebt_borrow_eq_ok_iff hfinite hrate (hamount amount rfl)).1 h
      rw [Decimal.lt_def, Decimal.le_def, hraw]
      exact ⟨hlt, Nat.le_trans hmin (Nat.le_add_right _ _), rfl⟩
    | repay amount =>
      obtain ⟨-, hleft, hraw⟩ := (changeDebt_repay_eq_ok_iff_raw hfinite).1 h
      refine ⟨?_, ?_, hraw⟩
      · rw [Decimal.lt_def] at hfinite ⊢
        omega
      · rw [Decimal.le_def]
        omega

/-- An adjustment adds its deposits to sound collateral and takes its withdrawals out, and leaves
sound collateral behind. -/
theorem adjust_collaterals (ht : t.collaterals.Sound) (h : t.adjust params rate = .ok t') :
    t'.collaterals.Sound ∧ ∀ kind, t'.collaterals.rawAt kind + params.withdraw.rawAt kind =
      t.collaterals.rawAt kind + params.deposit.rawAt kind := by
  obtain ⟨hvalid, deposited, hdeposited, hcollaterals, -⟩ := adjust_eq_ok_iff.1 h
  obtain ⟨-, hdeposit, -⟩ := AdjustmentParams.validate_eq_ok_iff.1 hvalid
  obtain ⟨hsound, hadds⟩ := foldlM_depositInto_adds ht hdeposit hdeposited
  obtain ⟨hsound', htakes⟩ := foldlM_withdrawFrom_takes hsound hcollaterals
  refine ⟨hsound', fun kind => ?_⟩
  rw [htakes kind, hadds kind]

/-- An adjustment at a finite rate moves the debt by what it borrows and repays. -/
theorem adjust_debt (hfinite : t.debt < .infinity) (hmin : Protocol.minimumDebt ≤ t.debt)
    (hrate : rate < .infinity) (h : t.adjust params rate = .ok t') :
    t'.debt < .infinity ∧ Protocol.minimumDebt ≤ t'.debt ∧
      t'.debt.rawNat + DebtChange.repaid params.debt =
        t.debt.rawNat + DebtChange.borrowed rate params.debt := by
  obtain ⟨hvalid, _, -, -, hdebt⟩ := adjust_eq_ok_iff.1 h
  obtain ⟨-, -, -, -, hamount⟩ := AdjustmentParams.validate_eq_ok_iff.1 hvalid
  exact changeDebt_moves hfinite hmin hrate (fun amount hb => (hamount amount (Or.inl hb)).2) hdebt

end Trove

end Cdp
