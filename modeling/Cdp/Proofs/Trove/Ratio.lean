import Cdp.Proofs.Attempt
import Cdp.Proofs.Decimal.Order
import Cdp.Trove.Ratio

/-!
# What a Trove is compared with

The value of a Trove is summed up in two places, once for its collateral ratio and once beside the
weighted ratio, and both sums are the same (`collateralValue_of_weigh`). A Trove that is compared
with a weighted ratio is `Weighed`: its ratio is finite, its collateral is worth something, and the
weighted ratio exists. `isBelow_eq_ok_iff` lists the ways in which the comparison can end.
-/

set_option autoImplicit false

namespace Cdp.Trove

variable {t : Trove} {prices : Prices} {ratios : Ratios}
  {ratio threshold value total weighted : Decimal}

theorem nominalRatio_eq_ok_iff : t.nominalRatio = .ok ratio ↔
    if t.debt.isZero then .infinity = ratio
    else ∃ total, t.totalCollateral = .ok total ∧
      total.mulDiv Protocol.nominalRatioPrecision t.debt = ratio := by
  rw [nominalRatio]
  split
  · exact ⟨Except.ok.inj, congrArg _⟩
  · simp only [bind_eq_ok_iff, pure_eq_ok_iff]

theorem collateralRatio_eq_ok_iff : t.collateralRatio prices = .ok ratio ↔
    ∃ value, t.collateralValue prices = .ok value ∧
      (if t.debt.isZero then some .infinity else value.checkedDiv t.debt) = some ratio := by
  rw [collateralRatio, bind_eq_ok_iff]
  refine exists_congr fun value => and_congr_right fun _ => ?_
  cases hdebt : t.debt.isZero with
  | true => simp [pure_eq_ok_iff]
  | false => simp [liftM_faulty_eq_ok_iff, Decimal.div_eq_ok_iff]

theorem weightedRatio_eq_ok_iff : t.weightedRatio prices ratios = .ok threshold ↔
    ∃ total weighted, weigh prices ratios t.collaterals.entries = .ok (total, weighted) ∧
      weighted.checkedDiv total = some threshold := by
  rw [weightedRatio, bind_eq_ok_iff]
  constructor
  · rintro ⟨⟨total, weighted⟩, hweigh, hdiv⟩
    exact ⟨total, weighted, hweigh, Decimal.div_eq_ok_iff.1 (liftM_faulty_eq_ok_iff.1 hdiv)⟩
  · rintro ⟨total, weighted, hweigh, hdiv⟩
    exact ⟨(total, weighted), hweigh, liftM_faulty_eq_ok_iff.2 (Decimal.div_eq_ok_iff.2 hdiv)⟩

/-- One step of summing up the value of the collateral. -/
def addValue (prices : Prices) (sum : Decimal) (e : Address × Decimal) :
    Attempt TroveError Decimal := do
  let value ← valueOf prices e.1 e.2
  sum.add value

/-- The total beside the weighted sum is the value of the collateral. -/
theorem collateralValue_of_weigh
    (h : weigh prices ratios t.collaterals.entries = .ok (total, weighted)) :
    t.collateralValue prices = .ok total := by
  -- the weighing has summed up the values of the entries that are done, and of no others
  apply foldlM_eq_ok_induct
    (P := fun done acc => done.foldlM (addValue prices) .zero = .ok acc.1) ?_ ?_ h
  · rfl
  · intro done e acc acc' _ hsum hstep
    obtain ⟨value, hvalue, hstep⟩ := bind_eq_ok_iff.1 hstep
    obtain ⟨ratio, -, hstep⟩ := bind_eq_ok_iff.1 hstep
    obtain ⟨sum, hadd, hstep⟩ := bind_eq_ok_iff.1 hstep
    obtain ⟨part, -, hstep⟩ := bind_eq_ok_iff.1 hstep
    obtain ⟨weighted, -, hstep⟩ := bind_eq_ok_iff.1 hstep
    cases hstep
    have hlast : addValue prices acc.1 e = .ok sum := bind_eq_ok_iff.2 ⟨value, hvalue, hadd⟩
    have hone : [e].foldlM (addValue prices) acc.1 = .ok sum := by
      rw [List.foldlM_cons, hlast]
      rfl
    rw [List.foldlM_append]
    exact bind_eq_ok_iff.2 ⟨acc.1, hsum, hone⟩

/-- A finite ratio is at most the scaled value. -/
theorem ratio_le_value (hratio : t.collateralRatio prices = .ok ratio) (hfinite : ratio < .infinity)
    (hvalue : t.collateralValue prices = .ok value) :
    value < .infinity ∧ ratio.rawNat ≤ value.rawNat * Decimal.scale := by
  obtain ⟨value', hvalue', hdiv⟩ := collateralRatio_eq_ok_iff.1 hratio
  obtain rfl : value = value' := Except.ok.inj (hvalue.symm.trans hvalue')
  cases hzero : t.debt.isZero with
  | true =>
    rw [hzero, if_pos rfl] at hdiv
    cases hdiv
    exact absurd hfinite (Nat.lt_irrefl _)
  | false =>
    rw [hzero, if_neg (by decide)] at hdiv
    have hdebt := Decimal.isZero_eq_false_iff.1 hzero
    have hvalueFinite := Decimal.lt_infinity_of_checkedDiv hdebt hdiv hfinite
    refine ⟨hvalueFinite, ?_⟩
    rcases Decimal.lt_infinity_or_eq t.debt with hdebtFinite | hinf
    · obtain ⟨-, hraw⟩ := (Decimal.checkedDiv_eq_some_iff hvalueFinite hdebtFinite hdebt).1 hdiv
      rw [hraw]
      exact Nat.div_le_self _ _
    · rw [hinf, Decimal.checkedDiv_infinity hvalueFinite] at hdiv
      cases hdiv
      exact Nat.zero_le _

/-- The value times a finite weighted ratio stays in the range of words. -/
theorem threshold_mul_value_lt (hthreshold : t.weightedRatio prices ratios = .ok threshold)
    (hfinite : threshold < .infinity) (hvalue : t.collateralValue prices = .ok value)
    (hpos : 0 < value.rawNat) (hvalueFinite : value < .infinity) :
    threshold.rawNat * value.rawNat < Word.size := by
  obtain ⟨total, weighted, hweigh, hdiv⟩ := weightedRatio_eq_ok_iff.1 hthreshold
  obtain rfl : value = total := Except.ok.inj (hvalue.symm.trans (collateralValue_of_weigh hweigh))
  have hweighted := Decimal.lt_infinity_of_checkedDiv hpos hdiv hfinite
  obtain ⟨hscaled, hraw⟩ := (Decimal.checkedDiv_eq_some_iff hweighted hvalueFinite hpos).1 hdiv
  calc threshold.rawNat * value.rawNat ≤ weighted.rawNat * Decimal.scale := by
        rw [hraw]
        exact Nat.div_mul_le_self _ _
    _ < Word.size := hscaled

/-- The Trove is compared with a weighted ratio: its own ratio is finite and its collateral is worth
something. -/
structure Weighed (t : Trove) (prices : Prices) (ratios : Ratios) (ratio threshold : Decimal) :
    Prop where
  ratio_eq : t.collateralRatio prices = .ok ratio
  finite : ratio < .infinity
  value_eq : ∃ value, t.collateralValue prices = .ok value ∧ 0 < value.rawNat
  threshold_eq : t.weightedRatio prices ratios = .ok threshold

/-- The comparison ends at an infinite ratio, at collateral that is worth nothing, or at the
weighted ratio. -/
theorem isBelow_eq_ok_iff {below : Bool} : t.isBelow prices ratios = .ok below ↔
    (t.collateralRatio prices = .ok .infinity ∧ below = false) ∨
    (∃ ratio, t.collateralRatio prices = .ok ratio ∧ ratio < .infinity ∧
      t.collateralValue prices = .ok .zero ∧ below = true) ∨
    ∃ ratio threshold, t.Weighed prices ratios ratio threshold ∧
      below = decide (ratio < threshold) := by
  rw [isBelow, bind_eq_ok_iff]
  constructor
  · rintro ⟨ratio, hratio, h⟩
    cases hinf : ratio.isInfinite with
    | true =>
      rw [if_pos hinf] at h
      cases h
      exact Or.inl ⟨Decimal.isInfinite_iff.1 hinf ▸ hratio, rfl⟩
    | false =>
      rw [if_neg (by simp [hinf])] at h
      have hfinite := Decimal.isInfinite_eq_false_iff.1 hinf
      obtain ⟨value, hvalue, h⟩ := bind_eq_ok_iff.1 h
      cases hzero : value.isZero with
      | true =>
        rw [if_pos hzero] at h
        cases h
        exact Or.inr (Or.inl ⟨ratio, hratio, hfinite, Decimal.isZero_iff.1 hzero ▸ hvalue, rfl⟩)
      | false =>
        rw [if_neg (by simp [hzero])] at h
        obtain ⟨threshold, hthreshold, h⟩ := bind_eq_ok_iff.1 h
        cases h
        have hpos := Decimal.isZero_eq_false_iff.1 hzero
        have hw : t.Weighed prices ratios ratio threshold :=
          ⟨hratio, hfinite, ⟨value, hvalue, hpos⟩, hthreshold⟩
        exact Or.inr (Or.inr ⟨ratio, threshold, hw, rfl⟩)
  · rintro (⟨hratio, rfl⟩ | ⟨ratio, hratio, hfinite, hvalue, rfl⟩ | ⟨ratio, threshold, hw, rfl⟩)
    · exact ⟨.infinity, hratio, rfl⟩
    · refine ⟨ratio, hratio, ?_⟩
      rw [if_neg (by simp [Decimal.isInfinite_eq_false_iff.2 hfinite]), hvalue]
      rfl
    · obtain ⟨value, hvalue, hpos⟩ := hw.value_eq
      refine ⟨ratio, hw.ratio_eq, ?_⟩
      rw [if_neg (by simp [Decimal.isInfinite_eq_false_iff.2 hw.finite]), hvalue, hw.threshold_eq]
      show (if value.isZero = true then _ else _) = _
      rw [if_neg (by simp [Decimal.isZero_eq_false_iff.2 hpos])]
      rfl

end Cdp.Trove
