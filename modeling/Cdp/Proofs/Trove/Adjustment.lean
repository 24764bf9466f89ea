import Cdp.Proofs.Trove.Faults
import Cdp.Proofs.Trove.History

/-!
# When an adjustment goes through

An adjustment is either refused or it succeeds; it does not break off. `Trove.Admits` lists what it
asks for, kind by kind and for the debt, and `Trove.Adjusted` says what it gives: the deposited
kinds grow and the withdrawn ones shrink by exactly what was asked, a kind of which nothing is left
is dropped, every other kind is untouched, and the debt moves by the borrow with its fee or by the
repayment. An adjustment succeeds exactly where the Trove admits it (`Trove.adjust_iff_admits`).
-/

set_option autoImplicit false

namespace Cdp

open AddressMap

namespace Trove

variable {t t' : Trove} {params : AdjustmentParams} {rate : Decimal}

/-! ## Admission -/

/-- What an adjustment asks of its parameters, of the Trove and of the rate. -/
structure Admits (t : Trove) (params : AdjustmentParams) (rate : Decimal) : Prop where
  changes : params.isEmpty = false
  deposit_amount : ∀ e ∈ params.deposit.entries, 0 < e.2.rawNat ∧ e.2 < .infinity
  withdraw_amount : ∀ e ∈ params.withdraw.entries, 0 < e.2.rawNat ∧ e.2 < .infinity
  debt_amount : ∀ amount, params.debt = some (.borrow amount) ∨ params.debt = some (.repay amount) →
    0 < amount.rawNat ∧ amount < .infinity
  one_side : ∀ kind ∈ params.deposit.keys, params.withdraw.contains kind = false
  /-- Every sum with a deposit stays below the raw value of infinity. -/
  deposit_fits : ∀ e ∈ params.deposit.entries,
    t.collaterals.rawAt e.1 + e.2.rawNat < Word.size - 1
  withdraw_held : ∀ e ∈ params.withdraw.entries, e.2.rawNat ≤ t.collaterals.rawAt e.1
  borrow_fits : ∀ amount, params.debt = some (.borrow amount) →
    amount.rawNat * rate.rawNat < Word.size ∧
      t.debt.rawNat + withFee amount rate < Word.size - 1
  /-- The gas compensation cannot be repaid, and the minimum debt is left. -/
  repay_leaves : ∀ amount, params.debt = some (.repay amount) →
    amount.rawNat + Protocol.gasCompensation.rawNat ≤ t.debt.rawNat ∧
      amount.rawNat + Protocol.minimumDebt.rawNat ≤ t.debt.rawNat

/-- What an adjustment makes of a Trove. -/
structure Adjusted (t : Trove) (params : AdjustmentParams) (rate : Decimal) (t' : Trove) :
    Prop where
  deposited : ∀ e ∈ params.deposit.entries, ∃ sum, t'.collaterals.get? e.1 = some sum ∧
    sum.rawNat = t.collaterals.rawAt e.1 + e.2.rawNat
  /-- A withdrawn kind is dropped where nothing is left of it, and only there. -/
  withdrawn : ∀ e ∈ params.withdraw.entries,
    t'.collaterals.rawAt e.1 + e.2.rawNat = t.collaterals.rawAt e.1 ∧
      (t'.collaterals.get? e.1 = none ↔ t.collaterals.rawAt e.1 = e.2.rawNat)
  untouched : ∀ kind, kind ∉ params.deposit.keys → kind ∉ params.withdraw.keys →
    t'.collaterals.get? kind = t.collaterals.get? kind
  debt : t'.debt.rawNat + DebtChange.repaid params.debt =
    t.debt.rawNat + DebtChange.borrowed rate params.debt

/-- No kind that is deposited is that of a withdrawal. -/
theorem ne_of_one_side
    (h : ∀ kind ∈ params.deposit.keys, params.withdraw.contains kind = false)
    {e d : Address × Decimal} (he : e ∈ params.deposit.entries)
    (hd : d ∈ params.withdraw.entries) : d.1 ≠ e.1 := by
  intro heq
  have hnot := h e.1 (List.mem_map_of_mem he)
  rw [← heq, contains_of_get? (params.withdraw.get?_eq_some_iff.2 hd)] at hnot
  cases hnot

/-- The collateral of an adjustment that succeeded: its deposits fit, its withdrawals were held, and
each kind has become what they make of it. -/
theorem collaterals_of_adjust (hheld : t.collaterals.Finite) (h : t.adjust params rate = .ok t') :
    (∀ e ∈ params.deposit.entries, ∃ sum, t'.collaterals.get? e.1 = some sum ∧ sum < .infinity ∧
      sum.rawNat = t.collaterals.rawAt e.1 + e.2.rawNat) ∧
    (∀ e ∈ params.withdraw.entries,
      t'.collaterals.rawAt e.1 + e.2.rawNat = t.collaterals.rawAt e.1 ∧
        (t'.collaterals.get? e.1 = none ↔ t.collaterals.rawAt e.1 = e.2.rawNat)) ∧
    ∀ kind, kind ∉ params.deposit.keys → kind ∉ params.withdraw.keys →
      t'.collaterals.get? kind = t.collaterals.get? kind := by
  obtain ⟨hvalid, m, hdeposited, hcollaterals, -⟩ := adjust_eq_ok_iff.1 h
  obtain ⟨-, hdeposit, -, hside, -⟩ := AdjustmentParams.validate_eq_ok_iff.1 hvalid
  have hin := walked_of_foldlM (fun _ _ _ => depositInto_stepsAt) hdeposited
  have hout := walked_of_foldlM (fun _ _ _ => withdrawFrom_stepsAt) hcollaterals
  refine ⟨fun e he => ?_, fun e he => ?_, fun kind hkindIn hkindOut => ?_⟩
  · rw [hout.kept e.1 fun d hd => ne_of_one_side hside he hd]
    exact (hin.done e he).rawNat_eq (hheld e.1) (hdeposit e he).2
  · have hsame : m.get? e.1 = t.collaterals.get? e.1 :=
      hin.kept e.1 fun d hd => (ne_of_one_side hside hd he).symm
    have htakes := hout.done e he
    rw [hsame] at htakes
    exact htakes.rawNat_eq (hheld e.1)
  · rw [hout.kept kind fun d hd heq => hkindOut (heq ▸ List.mem_map_of_mem hd)]
    exact hin.kept kind fun d hd heq => hkindIn (heq ▸ List.mem_map_of_mem hd)

/-- Only what a Trove admits succeeds, and it gives what `Adjusted` says. -/
theorem adjusted_of_adjust (hheld : t.collaterals.Finite) (hdebt : t.debt < .infinity)
    (hrate : rate < .infinity) (h : t.adjust params rate = .ok t') :
    t.Admits params rate ∧ t.Adjusted params rate t' := by
  obtain ⟨hvalid, -, -, -, hchange⟩ := adjust_eq_ok_iff.1 h
  obtain ⟨hchanges, hdeposit, hwithdraw, hside, hamount⟩ :=
    AdjustmentParams.validate_eq_ok_iff.1 hvalid
  obtain ⟨hdeposited, hwithdrawn, huntouched⟩ := collaterals_of_adjust hheld h
  have hborrow : ∀ amount, params.debt = some (.borrow amount) →
      amount.rawNat * rate.rawNat < Word.size ∧
        t.debt.rawNat + withFee amount rate < Word.size - 1 ∧
        t'.debt.rawNat = t.debt.rawNat + withFee amount rate := by
    intro amount heq
    rw [heq] at hchange
    exact (changeDebt_borrow_eq_ok_iff hdebt hrate (hamount amount (Or.inl heq)).2).1 hchange
  have hrepay : ∀ amount, params.debt = some (.repay amount) →
      amount.rawNat + Protocol.gasCompensation.rawNat ≤ t.debt.rawNat ∧
        amount.rawNat + Protocol.minimumDebt.rawNat ≤ t.debt.rawNat ∧
        t'.debt.rawNat + amount.rawNat = t.debt.rawNat := by
    intro amount heq
    rw [heq] at hchange
    exact (changeDebt_repay_eq_ok_iff_raw hdebt).1 hchange
  constructor
  · refine ⟨hchanges, hdeposit, hwithdraw, hamount, hside, fun e he => ?_, fun e he => ?_,
      fun amount heq => ?_, fun amount heq => ?_⟩
    · obtain ⟨sum, -, hlt, hraw⟩ := hdeposited e he
      exact hraw ▸ hlt
    · have htaken := (hwithdrawn e he).1
      omega
    · exact ⟨(hborrow amount heq).1, (hborrow amount heq).2.1⟩
    · exact ⟨(hrepay amount heq).1, (hrepay amount heq).2.1⟩
  · refine ⟨fun e he => ?_, hwithdrawn, huntouched, ?_⟩
    · obtain ⟨sum, hsum, -, hraw⟩ := hdeposited e he
      exact ⟨sum, hsum, hraw⟩
    · rcases hcase : params.debt with _ | amount | amount
      · rw [hcase] at hchange
        rw [Except.ok.inj hchange]
        rfl
      · exact (hborrow amount hcase).2.2
      · exact (hrepay amount hcase).2.2

/-- Deposits that fit and withdrawals that are held go through. -/
theorem Admits.exists_collaterals (h : t.Admits params rate) (hheld : t.collaterals.Finite) :
    ∃ deposited collaterals,
      params.deposit.entries.foldlM (fun m e => depositInto m e.1 e.2) t.collaterals =
        .ok deposited ∧
      params.withdraw.entries.foldlM (fun m e => withdrawFrom m e.1 e.2) deposited =
        .ok collaterals := by
  obtain ⟨m, hm⟩ : ∃ m, params.deposit.entries.foldlM (fun m e => depositInto m e.1 e.2)
      t.collaterals = .ok m := by
    refine exists_foldlM_of_local AddressMap.get?
      (P := fun held e => ∃ sum, (held.getD .zero).checkedAdd e.2 = some sum) ?_ ?_ ?_
    · exact fun _ _ _ hs => (depositInto_stepsAt hs).kept
    · rintro m e ⟨sum, hsum⟩
      exact ⟨_, depositInto_eq_ok_iff.2 ⟨sum, hsum, rfl⟩⟩
    · intro e he
      have hfits := h.deposit_fits e he
      refine ⟨⟨⟨t.collaterals.rawAt e.1 + e.2.rawNat, by omega⟩⟩, ?_⟩
      exact (Decimal.checkedAdd_eq_some_iff (hheld e.1) (h.deposit_amount e he).2).2 ⟨rfl, hfits⟩
  have hin := walked_of_foldlM (fun _ _ _ => depositInto_stepsAt) hm
  obtain ⟨m', hm'⟩ : ∃ m', params.withdraw.entries.foldlM (fun m e => withdrawFrom m e.1 e.2) m =
      .ok m' := by
    refine exists_foldlM_of_local AddressMap.get?
      (P := fun held e => ∃ remaining, (held.getD .zero).checkedSub e.2 = some remaining) ?_ ?_ ?_
    · exact fun _ _ _ hs => (withdrawFrom_stepsAt hs).kept
    · rintro m e ⟨remaining, hsub⟩
      exact ⟨_, withdrawFrom_eq_ok_iff.2 ⟨remaining, hsub, rfl⟩⟩
    · intro e he
      have hsame : m.get? e.1 = t.collaterals.get? e.1 :=
        hin.kept e.1 fun d hd => (ne_of_one_side h.one_side hd he).symm
      rw [hsame]
      exact Decimal.exists_checkedSub (h.withdraw_held e he)
  exact ⟨m, m', hm, hm'⟩

/-- A change of debt that is admitted goes through. -/
theorem Admits.exists_debt (h : t.Admits params rate) (hdebt : t.debt < .infinity)
    (hrate : rate < .infinity) : ∃ debt, t.changeDebt rate params.debt = .ok debt := by
  rcases hcase : params.debt with _ | amount | amount
  · exact ⟨t.debt, rfl⟩
  · obtain ⟨hfits, hlt⟩ := h.borrow_fits amount hcase
    obtain ⟨-, hamount⟩ := h.debt_amount amount (Or.inl hcase)
    refine ⟨⟨⟨t.debt.rawNat + withFee amount rate, by omega⟩⟩, ?_⟩
    exact (changeDebt_borrow_eq_ok_iff hdebt hrate hamount).2 ⟨hfits, hlt, rfl⟩
  · obtain ⟨hgas, hleft⟩ := h.repay_leaves amount hcase
    have hword := t.debt.rawNat_lt
    refine ⟨⟨⟨t.debt.rawNat - amount.rawNat, by omega⟩⟩, ?_⟩
    refine (changeDebt_repay_eq_ok_iff_raw hdebt).2 ⟨hgas, hleft, ?_⟩
    rw [Decimal.rawNat_mk]
    omega

theorem Admits.exists_adjust (h : t.Admits params rate) (hheld : t.collaterals.Finite)
    (hdebt : t.debt < .infinity) (hrate : rate < .infinity) :
    ∃ t', t.adjust params rate = .ok t' := by
  obtain ⟨deposited, collaterals, hdeposited, hcollaterals⟩ := h.exists_collaterals hheld
  obtain ⟨debt, hchange⟩ := h.exists_debt hdebt hrate
  have hvalid : params.validate = .ok () := AdjustmentParams.validate_eq_ok_iff.2
    ⟨h.changes, h.deposit_amount, h.withdraw_amount, h.one_side, h.debt_amount⟩
  exact ⟨⟨collaterals, debt⟩,
    adjust_eq_ok_iff.2 ⟨hvalid, deposited, hdeposited, hcollaterals, hchange⟩⟩

/-- At a finite rate, adjusting a Trove with finite amounts does not break off. It succeeds exactly
where the Trove admits the adjustment, and then every kind and the debt are what `Adjusted` says. -/
theorem adjust_iff_admits (hheld : t.collaterals.Finite) (hdebt : t.debt < .infinity)
    (hrate : rate < .infinity) :
    Attempt.Unbroken (t.adjust params rate) ∧
      ((∃ t', t.adjust params rate = .ok t') ↔ t.Admits params rate) ∧
      ∀ t', t.adjust params rate = .ok t' → t.Adjusted params rate t' := by
  refine ⟨unbroken_adjust params, ⟨?_, ?_⟩, fun t' h => ?_⟩
  · rintro ⟨t', h⟩
    exact (adjusted_of_adjust hheld hdebt hrate h).1
  · intro h
    exact h.exists_adjust hheld hdebt hrate
  · exact (adjusted_of_adjust hheld hdebt hrate h).2

/-! ## An exchange of kinds -/

/-- Puts two of the first kind in, takes all of the second kind out and borrows a little, with a fee
that is cut off. -/
def exchangeKinds : AdjustmentParams :=
  ⟨.ofList [(firstKind, .ofUInt64 2)], .ofList [(secondKind, .thousandths 10)],
    some (.borrow ⟨⟨1001, by decide⟩⟩)⟩

/-- The second kind is dropped, and the debt rises by the borrow and five raw units. -/
def exchangedTrove : Trove :=
  ⟨.ofList [(firstKind, ⟨⟨12010000000000000000, by decide⟩⟩)],
    ⟨⟨3215010000000000001006, by decide⟩⟩⟩

/-- The rewarded Trove admits the exchange, and comes out of it as described. -/
theorem exchangeKinds_admitted :
    rewardedTrove.collaterals.Finite ∧ rewardedTrove.debt < .infinity ∧
      Decimal.thousandths 5 < .infinity ∧
      rewardedTrove.adjust exchangeKinds (.thousandths 5) = .ok exchangedTrove ∧
      rewardedTrove.Admits exchangeKinds (.thousandths 5) ∧
      rewardedTrove.Adjusted exchangeKinds (.thousandths 5) exchangedTrove := by
  have hheld : rewardedTrove.collaterals.Finite := finite_of_entries (by decide)
  have hdebt : rewardedTrove.debt < .infinity := by decide
  have hrate : Decimal.thousandths 5 < .infinity := by decide
  have hadjust : rewardedTrove.adjust exchangeKinds (.thousandths 5) = .ok exchangedTrove := rfl
  have hall := @adjust_iff_admits rewardedTrove exchangeKinds _ hheld hdebt hrate
  exact ⟨hheld, hdebt, hrate, hadjust, hall.2.1.1 ⟨_, hadjust⟩, hall.2.2 _ hadjust⟩

end Trove

end Cdp
