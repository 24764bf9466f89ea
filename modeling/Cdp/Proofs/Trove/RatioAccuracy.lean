import Cdp.Proofs.Trove.History
import Cdp.Proofs.Trove.Ratio
import Cdp.Proofs.Trove.Value
import Mathlib.Tactic.Ring

/-!
# How accurate the comparison with the weighted ratio is

The comparison cuts off the value of each kind, its part of the weighted value, and both quotients,
and it compares what is left with each other. The exact comparison starts from the values of the
kinds (`worth`): the total value over the debt is below the values times their ratios over the total
value. Without quotients, the square of the total value is less than the debt times the values times
their ratios.

A Trove that is found below is below exactly. One that is not found below is not below exactly, up
to a raw unit of value for each held kind and one of the ratio (`Trove.isBelow_accurate`). A Trove
with an infinite amount that is worth something is left out there: its ratio is infinite, and it is
never found below, whatever its debt is (`Trove.endlessTrove_passes`).
-/

set_option autoImplicit false

namespace Cdp.Trove

variable {t : Trove} {prices : Prices} {ratios : Ratios} {e : Address × Decimal}
  {es : List (Address × Decimal)} {value total weighted : Decimal} {below : Bool}

/-! ## Cut-off sums and quotients -/

section CutOff

-- a value, a debt, the weighted values with and without their parts cut off, a number of kinds and
-- the scale
variable {α : Type} {V D w W n S : Nat}

theorem sum_div_mul_le (f : α → Nat) (S : Nat) (xs : List α) :
    (xs.map fun x => f x / S).sum * S ≤ (xs.map f).sum := by
  induction xs with
  | nil => simp
  | cons x rest ih =>
    have hcut := Nat.div_mul_le_self (f x) S
    simp only [List.map_cons, List.sum_cons, Nat.add_mul]
    omega

/-- Each term that is not zero loses less than the divisor. -/
theorem le_sum_div_mul (f : α → Nat) (hS : 0 < S) {counts : α → Bool}
    (hzero : ∀ x, counts x = false → f x = 0) (xs : List α) :
    (xs.map f).sum ≤ (xs.map fun x => f x / S).sum * S + xs.countP counts * S := by
  induction xs with
  | nil => simp
  | cons x rest ih =>
    simp only [List.map_cons, List.sum_cons, List.countP_cons, Nat.add_mul]
    cases hcounts : counts x with
    | false =>
      rw [hzero x hcounts]
      simpa using ih
    | true =>
      have hcut := Nat.div_add_mod' (f x) S
      have hrest := Nat.mod_lt (f x) hS
      simp only [if_true, Nat.one_mul]
      omega

/-- If the ratio is below the weighted ratio once both are cut off, it is below exactly: it is below
by a whole raw unit, which makes up for its own cut. -/
theorem square_lt_of_div_lt (hvalue : 0 < V) (hdebt : 0 < D) (hcut : w * S ≤ W)
    (h : V * S / D < w * S / V) : V ^ 2 * S < D * W := by
  have hratio : V * S < w * S / V * D := Nat.lt_mul_of_div_lt h hdebt
  calc V ^ 2 * S = V * S * V := by ring
    _ < w * S / V * D * V := Nat.mul_lt_mul_of_pos_right hratio hvalue
    _ = D * (w * S / V * V) := by ring
    _ ≤ D * (w * S) := Nat.mul_le_mul_left _ (Nat.div_mul_le_self _ _)
    _ ≤ D * W := Nat.mul_le_mul_left _ hcut

/-- If it is not, the weighted ratio exceeds it by less than a raw unit. -/
theorem lt_square_of_div_le (hvalue : 0 < V) (hdebt : 0 < D) (hcut : W ≤ w * S + n * S)
    (h : w * S / V ≤ V * S / D) : D * W < V ^ 2 * S + D * (n * S + V) := by
  have hthreshold : w * S < (V * S / D + 1) * V :=
    Nat.lt_mul_of_div_lt (Nat.lt_succ_of_le h) hvalue
  calc D * W ≤ D * (w * S + n * S) := Nat.mul_le_mul_left _ hcut
    _ < D * ((V * S / D + 1) * V + n * S) :=
      Nat.mul_lt_mul_of_pos_left (Nat.add_lt_add_right hthreshold _) hdebt
    _ = V * S / D * D * V + D * (n * S + V) := by ring
    _ ≤ V * S * V + D * (n * S + V) :=
      Nat.add_le_add_right (Nat.mul_le_mul_right _ (Nat.div_mul_le_self _ _)) _
    _ = V ^ 2 * S + D * (n * S + V) := by ring

end CutOff

/-! ## Exact sums -/

/-- The values times their ratios, without any further cut. -/
def weightedWorth (prices : Prices) (ratios : Ratios) (es : List (Address × Decimal)) : Nat :=
  (es.map fun e => worth prices e * ratios.rawAt e.1).sum

/-- The values times their ratios, with the part of each kind cut off. -/
def cutWorth (prices : Prices) (ratios : Ratios) (es : List (Address × Decimal)) : Nat :=
  (es.map fun e => worth prices e * ratios.rawAt e.1 / Decimal.scale).sum

/-- The number of kinds of which something is held. -/
def heldKinds (es : List (Address × Decimal)) : Nat := es.countP fun e => !e.2.isZero

/-- Cutting the parts of the weighted value off never makes them more. -/
theorem cutWorth_le (es : List (Address × Decimal)) :
    cutWorth prices ratios es * Decimal.scale ≤ weightedWorth prices ratios es :=
  sum_div_mul_le _ _ es

/-- Each held kind loses less than a raw unit. -/
theorem le_cutWorth (es : List (Address × Decimal)) : weightedWorth prices ratios es ≤
    cutWorth prices ratios es * Decimal.scale + heldKinds es * Decimal.scale := by
  refine le_sum_div_mul _ (by decide) (fun e he => ?_) es
  rw [Bool.not_eq_false'] at he
  rw [worth_eq_zero he, Nat.zero_mul]

/-! ## The sums of the program -/

/-- An infinite amount that is worth something. -/
def Endless (prices : Prices) (e : Address × Decimal) : Prop :=
  e.2 = .infinity ∧ 0 < prices.rawAt e.1

theorem valueOf_endless (hend : Endless prices e) (h : valueOf prices e.1 e.2 = .ok value) :
    value = .infinity := by
  obtain ⟨hamount, hpos⟩ := hend
  obtain ⟨price, hprice, hmul⟩ := valueOf_eq_ok h
  rw [AddressMap.rawAt_of_get? hprice, ← Decimal.isZero_eq_false_iff] at hpos
  rw [hamount, Decimal.checkedMul_comm, Decimal.checkedMul_infinity, hpos] at hmul
  exact (Option.some.inj hmul).symm

theorem valueOf_worth (hprices : prices.Finite) (hend : ¬Endless prices e)
    (h : valueOf prices e.1 e.2 = .ok value) :
    value < .infinity ∧ value.rawNat = worth prices e := by
  obtain ⟨price, hprice, hmul⟩ := valueOf_eq_ok h
  have hfinite : value < .infinity := by
    have hpriceFinite := hprices e.1
    rw [hprice, Option.getD_some] at hpriceFinite
    rcases Decimal.lt_infinity_or_eq e.2 with hamount | hamount
    · exact Decimal.checkedMul_lt_infinity hamount hpriceFinite hmul
    · -- only a price of zero is left for an infinite amount
      have hzero : price = .zero := by
        apply Decimal.ext
        rw [← AddressMap.rawAt_of_get? hprice]
        exact Nat.eq_zero_of_not_pos fun hpos => hend ⟨hamount, hpos⟩
      rw [hzero, Decimal.checkedMul_zero] at hmul
      cases hmul
      decide
  exact ⟨hfinite, valueOf_eq_worth h hfinite⟩

theorem collateralValue_endless (hend : ∃ e ∈ t.collaterals.entries, Endless prices e)
    (h : t.collateralValue prices = .ok value) : value = .infinity := by
  have hwalk : (∃ e ∈ t.collaterals.entries, Endless prices e) → value = .infinity := by
    -- from the endless amount on, the sum absorbs what is added to it
    refine foldlM_eq_ok_induct
      (P := fun done acc => (∃ e ∈ done, Endless prices e) → acc = .infinity) ?_ ?_ h
    · rintro ⟨e, he, -⟩
      cases he
    · rintro done e acc acc' - ih hstep ⟨d, hd, hdend⟩
      obtain ⟨part, hpart, hadd⟩ := bind_eq_ok_iff.1 hstep
      have hadd' := Decimal.add_eq_ok_iff.1 (liftM_faulty_eq_ok_iff.1 hadd)
      rcases List.mem_append.1 hd with hd | hd
      · rw [ih ⟨d, hd, hdend⟩, Decimal.infinity_checkedAdd] at hadd'
        exact (Option.some.inj hadd').symm
      · rw [List.mem_singleton] at hd
        subst hd
        rw [valueOf_endless hdend hpart, Decimal.checkedAdd_infinity] at hadd'
        exact (Option.some.inj hadd').symm
  exact hwalk hend

theorem collateralValue_worth (hprices : prices.Finite)
    (hend : ∀ e ∈ t.collaterals.entries, ¬Endless prices e)
    (h : t.collateralValue prices = .ok value) :
    value < .infinity ∧ value.rawNat = totalWorth prices t.collaterals.entries := by
  have hfinite := collateralValue_lt_infinity
    (fun e he _ hpart => (valueOf_worth hprices (hend e he) hpart).1) h
  exact ⟨hfinite, collateralValue_eq_totalWorth h hfinite⟩

theorem weigh_cutWorth (hprices : prices.Finite) (hratios : ratios.Finite)
    (hend : ∀ e ∈ es, ¬Endless prices e) (h : weigh prices ratios es = .ok (total, weighted)) :
    weighted < .infinity ∧ weighted.rawNat = cutWorth prices ratios es := by
  refine foldlM_eq_ok_induct
    (P := fun done acc => acc.2 < .infinity ∧ acc.2.rawNat = cutWorth prices ratios done) ?_ ?_ h
  · exact ⟨by decide, rfl⟩
  · rintro done e acc acc' he ⟨hfinite, hraw⟩ hstep
    obtain ⟨value, hvalue, hstep⟩ := bind_eq_ok_iff.1 hstep
    obtain ⟨ratio, hratio, hstep⟩ := bind_eq_ok_iff.1 hstep
    obtain ⟨sum, -, hstep⟩ := bind_eq_ok_iff.1 hstep
    obtain ⟨part, hpart, hstep⟩ := bind_eq_ok_iff.1 hstep
    obtain ⟨sum', hadd, hstep⟩ := bind_eq_ok_iff.1 hstep
    cases hstep
    rw [Attempt.ofOption_eq_ok_iff] at hratio
    rw [liftM_faulty_eq_ok_iff, Decimal.mul_eq_ok_iff] at hpart
    rw [liftM_faulty_eq_ok_iff, Decimal.add_eq_ok_iff] at hadd
    have hratioFinite := hratios e.1
    rw [hratio, Option.getD_some] at hratioFinite
    obtain ⟨hvalueFinite, hvalueRaw⟩ := valueOf_worth hprices (hend e he) hvalue
    obtain ⟨-, hpartRaw⟩ := (Decimal.checkedMul_eq_some_iff hvalueFinite hratioFinite).1 hpart
    have hpartFinite := Decimal.checkedMul_lt_infinity hvalueFinite hratioFinite hpart
    obtain ⟨hsum, hsumFinite⟩ := (Decimal.checkedAdd_eq_some_iff hfinite hpartFinite).1 hadd
    refine ⟨hsumFinite, ?_⟩
    rw [← hsum, hraw, hpartRaw, hvalueRaw, ← AddressMap.rawAt_of_get? hratio]
    simp [cutWorth]

/-! ## The comparison -/

/-- Where no amount is endless, the comparison is between the two cut-off quotients. -/
theorem isBelow_eq_ok (hdebt : 0 < t.debt.rawNat) (hfinite : t.debt < .infinity)
    (hprices : prices.Finite) (hratios : ratios.Finite)
    (hend : ∀ e ∈ t.collaterals.entries, ¬Endless prices e)
    (hworth : 0 < totalWorth prices t.collaterals.entries)
    (h : t.isBelow prices ratios = .ok below) :
    below = decide (totalWorth prices t.collaterals.entries * Decimal.scale / t.debt.rawNat <
      cutWorth prices ratios t.collaterals.entries * Decimal.scale /
        totalWorth prices t.collaterals.entries) := by
  rcases isBelow_eq_ok_iff.1 h with ⟨hratio, -⟩ | ⟨_, -, -, hvalue, -⟩ | ⟨ratio, threshold, hw, rfl⟩
  · -- a finite value over a finite debt is not infinite
    obtain ⟨value, hvalue, hdiv⟩ := collateralRatio_eq_ok_iff.1 hratio
    rw [Decimal.isZero_eq_false_iff.2 hdebt, if_neg Bool.false_ne_true] at hdiv
    have hvalueFinite := (collateralValue_worth hprices hend hvalue).1
    exact absurd (Decimal.checkedDiv_lt_infinity hvalueFinite hfinite hdebt hdiv) (Nat.lt_irrefl _)
  · have hzero := (collateralValue_worth hprices hend hvalue).2
    rw [Decimal.rawNat_zero] at hzero
    omega
  · obtain ⟨value, hvalue, hdiv⟩ := collateralRatio_eq_ok_iff.1 hw.ratio_eq
    rw [Decimal.isZero_eq_false_iff.2 hdebt, if_neg Bool.false_ne_true] at hdiv
    obtain ⟨hvalueFinite, hvalueRaw⟩ := collateralValue_worth hprices hend hvalue
    obtain ⟨total, weighted, hweigh, hquotient⟩ := weightedRatio_eq_ok_iff.1 hw.threshold_eq
    obtain rfl : value = total :=
      Except.ok.inj (hvalue.symm.trans (collateralValue_of_weigh hweigh))
    obtain ⟨hweightedFinite, hweightedRaw⟩ := weigh_cutWorth hprices hratios hend hweigh
    obtain ⟨-, hratioRaw⟩ :=
      (Decimal.checkedDiv_eq_some_iff hvalueFinite hfinite hdebt).1 hdiv
    obtain ⟨-, hthresholdRaw⟩ := (Decimal.checkedDiv_eq_some_iff hweightedFinite hvalueFinite
      (hvalueRaw ▸ hworth)).1 hquotient
    simp only [Decimal.lt_def, hratioRaw, hthresholdRaw, hvalueRaw, hweightedRaw]

/-- Where an amount is endless, so is the ratio, and the Trove is not found below. -/
theorem isBelow_endless (hend : ∃ e ∈ t.collaterals.entries, Endless prices e)
    (h : t.isBelow prices ratios = .ok below) : below = false := by
  rcases isBelow_eq_ok_iff.1 h with ⟨-, rfl⟩ | ⟨_, -, -, hvalue, -⟩ | ⟨ratio, threshold, hw, -⟩
  · rfl
  · exact absurd (collateralValue_endless hend hvalue) (by decide)
  · obtain ⟨value, hvalue, -⟩ := hw.value_eq
    have hvalueFinite := (ratio_le_value hw.ratio_eq hw.finite hvalue).1
    rw [collateralValue_endless hend hvalue] at hvalueFinite
    exact absurd hvalueFinite (Nat.lt_irrefl _)

/-- At finite prices and ratios, a Trove with a positive finite debt and with value that is found
below is below exactly. One that is not found below, and of which no amount is endless, is not below
exactly up to a raw unit of value for each held kind and one of the ratio. One with an endless
amount is not found below. -/
theorem isBelow_accurate (hdebt : 0 < t.debt.rawNat) (hfinite : t.debt < .infinity)
    (hprices : prices.Finite) (hratios : ratios.Finite)
    (hworth : 0 < totalWorth prices t.collaterals.entries)
    (h : t.isBelow prices ratios = .ok below) :
    (below = true → totalWorth prices t.collaterals.entries ^ 2 * Decimal.scale <
      t.debt.rawNat * weightedWorth prices ratios t.collaterals.entries) ∧
    (below = false → (∀ e ∈ t.collaterals.entries, ¬Endless prices e) →
      t.debt.rawNat * weightedWorth prices ratios t.collaterals.entries <
        totalWorth prices t.collaterals.entries ^ 2 * Decimal.scale +
          t.debt.rawNat * (heldKinds t.collaterals.entries * Decimal.scale +
            totalWorth prices t.collaterals.entries)) ∧
    ((∃ e ∈ t.collaterals.entries, Endless prices e) → below = false) := by
  refine ⟨fun hbelow => ?_, fun hbelow hend => ?_, fun hend => isBelow_endless hend h⟩
  · have hend : ∀ e ∈ t.collaterals.entries, ¬Endless prices e := by
      intro e he hend
      rw [isBelow_endless ⟨e, he, hend⟩ h] at hbelow
      cases hbelow
    have hcut := isBelow_eq_ok hdebt hfinite hprices hratios hend hworth h
    rw [hbelow, eq_comm, decide_eq_true_iff] at hcut
    exact square_lt_of_div_lt hworth hdebt (cutWorth_le _) hcut
  · have hcut := isBelow_eq_ok hdebt hfinite hprices hratios hend hworth h
    rw [hbelow, eq_comm, decide_eq_false_iff_not, Nat.not_lt] at hcut
    exact lt_square_of_div_le hworth hdebt (le_cutWorth _) hcut

/-! ## A Trove close to its weighted ratio -/

/-- Ratios that the rewarded Trove is close to. -/
def closeRatios : Ratios :=
  .ofList [(firstKind, ⟨⟨1500000000000000000, by decide⟩⟩),
    (secondKind, ⟨⟨1700000000000000000, by decide⟩⟩)]

/-- A price of one more makes the difference, and the answers agree with the exact comparison. -/
theorem rewardedTrove_compared :
    rewardedTrove.isBelow (pricesAt 481) closeRatios = .ok true ∧
      totalWorth (pricesAt 481) rewardedTrove.collaterals.entries ^ 2 * Decimal.scale <
        rewardedTrove.debt.rawNat *
          weightedWorth (pricesAt 481) closeRatios rewardedTrove.collaterals.entries ∧
      rewardedTrove.isBelow (pricesAt 482) closeRatios = .ok false ∧
      rewardedTrove.debt.rawNat *
          weightedWorth (pricesAt 482) closeRatios rewardedTrove.collaterals.entries <
        totalWorth (pricesAt 482) rewardedTrove.collaterals.entries ^ 2 * Decimal.scale +
          rewardedTrove.debt.rawNat *
            (heldKinds rewardedTrove.collaterals.entries * Decimal.scale +
              totalWorth (pricesAt 482) rewardedTrove.collaterals.entries) := by
  have hlow : rewardedTrove.isBelow (pricesAt 481) closeRatios = .ok true := by decide
  have hhigh : rewardedTrove.isBelow (pricesAt 482) closeRatios = .ok false := by decide
  have hpriceLow : (pricesAt 481).Finite := AddressMap.finite_of_entries (by decide)
  have hpriceHigh : (pricesAt 482).Finite := AddressMap.finite_of_entries (by decide)
  have hratios : closeRatios.Finite := AddressMap.finite_of_entries (by decide)
  have hend : ∀ e ∈ rewardedTrove.collaterals.entries, ¬Endless (pricesAt 482) e := by
    have hamounts : ∀ e ∈ rewardedTrove.collaterals.entries, e.2 ≠ .infinity := by decide
    exact fun e he h => hamounts e he h.1
  obtain ⟨hbelow, -⟩ := isBelow_accurate (by decide) (by decide) hpriceLow hratios (by decide) hlow
  obtain ⟨-, hnot, -⟩ :=
    isBelow_accurate (by decide) (by decide) hpriceHigh hratios (by decide) hhigh
  exact ⟨hlow, hbelow rfl, hhigh, hnot rfl hend⟩

/-! ## An endless amount -/

/-- An infinite amount of one kind and nearly the largest debt. -/
def endlessTrove : Trove :=
  ⟨.ofList [(firstKind, .infinity)], ⟨⟨10 ^ 77, by decide⟩⟩⟩

def unitPrices : Prices := .ofList [(firstKind, .one)]

def unitRatios : Ratios := .ofList [(firstKind, ⟨⟨1500000000000000000, by decide⟩⟩)]

/-- Counted with its raw value, an infinite amount falls short of the ratio by far, and the Trove is
not found below. -/
theorem endlessTrove_passes :
    0 < endlessTrove.debt.rawNat ∧ endlessTrove.debt < .infinity ∧ unitPrices.Finite ∧
      unitRatios.Finite ∧ 0 < totalWorth unitPrices endlessTrove.collaterals.entries ∧
      endlessTrove.isBelow unitPrices unitRatios = .ok false ∧
      ¬endlessTrove.debt.rawNat *
          weightedWorth unitPrices unitRatios endlessTrove.collaterals.entries <
        totalWorth unitPrices endlessTrove.collaterals.entries ^ 2 * Decimal.scale +
          endlessTrove.debt.rawNat * (heldKinds endlessTrove.collaterals.entries * Decimal.scale +
            totalWorth unitPrices endlessTrove.collaterals.entries) := by
  refine ⟨by decide, by decide, AddressMap.finite_of_entries (by decide),
    AddressMap.finite_of_entries (by decide), by decide, rfl, by decide⟩

end Cdp.Trove
