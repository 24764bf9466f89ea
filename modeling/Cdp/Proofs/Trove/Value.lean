import Cdp.Proofs.AddressMap.Sum
import Cdp.Proofs.Decimal.Capped
import Cdp.Proofs.Trove.Amounts
import Cdp.Trove.Ratio

/-!
# The value of collateral

The value of collateral is the sum of what its amounts are worth at given prices, capped at infinity
(`collateralValue_eq_ok`). Prices and amounts may be infinite there. A part of it that is finite is
the product of the raw amount and the raw price, cut off (`worth`), so a finite value is the sum of
those products (`collateralValue_eq_totalWorth`). More of every kind is worth no less, finite or not
(`collateralValue_le`).
-/

set_option autoImplicit false

namespace Cdp.Trove

open AddressMap

variable {t t' : Trove} {m m' : Collaterals} {prices : Prices} {e : Address × Decimal}
  {value : Decimal}

/-- The raw value of an amount, cut off. An infinite amount counts with its raw value. -/
def worth (prices : Prices) (e : Address × Decimal) : Nat :=
  e.2.rawNat * prices.rawAt e.1 / Decimal.scale

/-- The raw value of all amounts. -/
def totalWorth (prices : Prices) (es : List (Address × Decimal)) : Nat :=
  (es.map (worth prices)).sum

/-- The raw value that an amount has, infinity included. An amount without one counts nothing. -/
def valueRaw (prices : Prices) (e : Address × Decimal) : Nat :=
  match valueOf prices e.1 e.2 with
  | .ok value => value.rawNat
  | .error _ => 0

theorem worth_eq_zero (h : e.2.isZero = true) : worth prices e = 0 := by
  rw [worth, Decimal.isZero_iff.1 h, Decimal.rawNat_zero, Nat.zero_mul, Nat.zero_div]

theorem valueOf_eq_ok (h : valueOf prices e.1 e.2 = .ok value) :
    ∃ price, prices.get? e.1 = some price ∧ e.2.checkedMul price = some value := by
  obtain ⟨price, hprice, hmul⟩ := bind_eq_ok_iff.1 h
  exact ⟨price, Attempt.ofOption_eq_ok_iff.1 hprice,
    Decimal.mul_eq_ok_iff.1 (liftM_faulty_eq_ok_iff.1 hmul)⟩

theorem valueRaw_of_ok (h : valueOf prices e.1 e.2 = .ok value) :
    valueRaw prices e = value.rawNat := by
  rw [valueRaw, h]

/-- A finite value is the cut-off product. An infinite factor only goes with a zero one. -/
theorem valueOf_eq_worth (h : valueOf prices e.1 e.2 = .ok value) (hfinite : value < .infinity) :
    value.rawNat = worth prices e := by
  obtain ⟨price, hprice, hmul⟩ := valueOf_eq_ok h
  rw [worth, rawAt_of_get? hprice]
  rcases Decimal.lt_infinity_or_eq e.2 with hamount | hamount
  · rcases Decimal.lt_infinity_or_eq price with hp | rfl
    · exact ((Decimal.checkedMul_eq_some_iff hamount hp).1 hmul).2
    · obtain ⟨hzero, rfl⟩ := Decimal.eq_zero_of_checkedMul_infinity hmul hfinite
      rw [hzero, Decimal.rawNat_zero, Nat.zero_mul, Nat.zero_div]
  · rw [hamount, Decimal.checkedMul_comm] at hmul
    obtain ⟨hzero, rfl⟩ := Decimal.eq_zero_of_checkedMul_infinity hmul hfinite
    rw [hzero, Decimal.rawNat_zero, Nat.mul_zero, Nat.zero_div]

/-- Collateral that has a value has one for every amount, and the value is their sum. -/
theorem collateralValue_eq_ok (h : t.collateralValue prices = .ok value) :
    (∀ e ∈ t.collaterals.entries, ∃ part, valueOf prices e.1 e.2 = .ok part ∧ part ≤ value) ∧
      value.rawNat =
        min (t.collaterals.entries.map (valueRaw prices)).sum Decimal.infinity.rawNat := by
  refine foldlM_eq_ok_induct
    (P := fun done acc => (∀ e ∈ done, ∃ part, valueOf prices e.1 e.2 = .ok part ∧ part ≤ acc) ∧
      acc.rawNat = min (done.map (valueRaw prices)).sum Decimal.infinity.rawNat) ?_ ?_ h
  · exact ⟨nofun, rfl⟩
  · rintro done e acc acc' - ⟨hparts, hraw⟩ hstep
    obtain ⟨part, hpart, hadd⟩ := bind_eq_ok_iff.1 hstep
    have hadd := Decimal.add_eq_ok_iff.1 (liftM_faulty_eq_ok_iff.1 hadd)
    constructor
    · intro d hd
      rcases List.mem_append.1 hd with hd | hd
      · obtain ⟨part', hpart', hle⟩ := hparts d hd
        exact ⟨part', hpart', Decimal.le_trans hle (Decimal.le_of_checkedAdd hadd)⟩
      · rw [List.mem_singleton.1 hd]
        exact ⟨part, hpart, Decimal.le_of_checkedAdd_right hadd⟩
    · rw [Decimal.rawNat_checkedAdd_eq hadd, hraw, List.map_append, List.sum_append,
        List.map_singleton, List.sum_singleton, valueRaw_of_ok hpart]
      omega

/-- Finite values have a finite sum. -/
theorem collateralValue_lt_infinity
    (hparts : ∀ e ∈ t.collaterals.entries, ∀ part, valueOf prices e.1 e.2 = .ok part →
      part < .infinity) (h : t.collateralValue prices = .ok value) : value < .infinity := by
  refine foldlM_eq_ok_induct (P := fun _ acc => acc < .infinity) (by decide) ?_ h
  intro done e acc acc' he hfinite hstep
  obtain ⟨part, hpart, hadd⟩ := bind_eq_ok_iff.1 hstep
  exact ((Decimal.checkedAdd_eq_some_iff hfinite (hparts e he part hpart)).1
    (Decimal.add_eq_ok_iff.1 (liftM_faulty_eq_ok_iff.1 hadd))).2

theorem collateralValue_eq_totalWorth (h : t.collateralValue prices = .ok value)
    (hfinite : value < .infinity) :
    value.rawNat = totalWorth prices t.collaterals.entries := by
  obtain ⟨hparts, hraw⟩ := collateralValue_eq_ok h
  have hworth : t.collaterals.entries.map (valueRaw prices) =
      t.collaterals.entries.map (worth prices) := by
    refine List.map_congr_left fun e he => ?_
    obtain ⟨part, hpart, hle⟩ := hparts e he
    rw [valueRaw_of_ok hpart]
    exact valueOf_eq_worth hpart (Decimal.lt_infinity_of_le hle hfinite)
  rw [Decimal.lt_def] at hfinite
  rw [hworth] at hraw
  rw [totalWorth]
  omega

/-- A kind of which no less is held is worth no less. -/
theorem countAt_valueRaw_le {kind : Address} (hheld : m.rawAt kind ≤ m'.rawAt kind)
    (hvalued : ∀ e ∈ m.entries, ∃ part, valueOf prices e.1 e.2 = .ok part)
    (hvalued' : ∀ e ∈ m'.entries, ∃ part, valueOf prices e.1 e.2 = .ok part) :
    m.countAt (valueRaw prices) kind ≤ m'.countAt (valueRaw prices) kind := by
  cases hget : m.get? kind with
  | none =>
    rw [countAt_of_none hget]
    exact Nat.zero_le _
  | some amount =>
    obtain ⟨part, hpart⟩ := hvalued _ (m.get?_eq_some_iff.1 hget)
    obtain ⟨price, hprice, hmul⟩ := valueOf_eq_ok hpart
    rw [rawAt_of_get? hget] at hheld
    rw [countAt_of_get? hget, valueRaw_of_ok hpart]
    cases hget' : m'.get? kind with
    | none =>
      -- what is dropped was nothing before
      have hzero : amount = .zero := by
        apply Decimal.ext
        rw [rawAt, hget'] at hheld
        exact Nat.le_zero.1 hheld
      rw [hzero, Decimal.checkedMul_comm, Decimal.checkedMul_zero] at hmul
      cases hmul
      exact Nat.zero_le _
    | some amount' =>
      obtain ⟨part', hpart'⟩ := hvalued' _ (m'.get?_eq_some_iff.1 hget')
      obtain ⟨price', hprice', hmul'⟩ := valueOf_eq_ok hpart'
      obtain rfl : price = price' := Option.some.inj (hprice.symm.trans hprice')
      rw [rawAt_of_get? hget'] at hheld
      rw [countAt_of_get? hget', valueRaw_of_ok hpart']
      exact Decimal.checkedMul_le hheld hmul hmul'

theorem collateralValue_le {value value' : Decimal}
    (hheld : ∀ kind, t.collaterals.rawAt kind ≤ t'.collaterals.rawAt kind)
    (h : t.collateralValue prices = .ok value) (h' : t'.collateralValue prices = .ok value') :
    value ≤ value' := by
  obtain ⟨hparts, hraw⟩ := collateralValue_eq_ok h
  obtain ⟨hparts', hraw'⟩ := collateralValue_eq_ok h'
  have hle : (t.collaterals.entries.map (valueRaw prices)).sum ≤
      (t'.collaterals.entries.map (valueRaw prices)).sum :=
    sum_entries_le fun kind => countAt_valueRaw_le (hheld kind)
      (fun e he => (hparts e he).imp fun _ h => h.1)
      (fun e he => (hparts' e he).imp fun _ h => h.1)
  rw [Decimal.le_def, hraw, hraw']
  omega

end Cdp.Trove
