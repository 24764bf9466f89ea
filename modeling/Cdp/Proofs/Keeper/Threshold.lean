import Cdp.Keeper.Health
import Cdp.Proofs.Trove.Ratio

/-!
# The score and the threshold

Whether a Trove may be liquidated is decided twice. The library compares its collateral ratio with
the weighted ratio, and the keeper divides the one by the other and compares the quotient, which is
cut off, with one. Cutting off does not matter: a quotient is below one exactly where its numerator
is below its denominator (`quotient_lt_one_iff`). The edges do. A ratio of zero over a weighted
ratio of zero scores zero, and a ratio too large to be scaled scores infinity.

The two decisions differ at these two edges only, and each edge says which of them takes the Trove
for one that may be liquidated there (`AlikeBut`). The second edge is one that no Trove stands on
(`Trove.not_beyondRange`): values large enough for it leave the range of words when they are
weighted.
-/

set_option autoImplicit false

namespace Cdp

/-! ## The quotient -/

section Quotient

variable {ratio threshold : Decimal}

/-- Over a positive weighted ratio, a quotient that cannot be worked out counts as infinite, and
cutting off does not carry the others over one. -/
theorem quotient_lt_one_iff_of_pos (hratio : ratio < .infinity) (hfinite : threshold < .infinity)
    (hpos : 0 < threshold.rawNat) :
    (ratio.checkedDiv threshold).getD .infinity < .one ↔
      ratio < threshold ∧ ratio.rawNat * Decimal.scale < Word.size := by
  have hdiv (quotient : Decimal) : ratio.checkedDiv threshold = some quotient ↔ _ :=
    Decimal.checkedDiv_eq_some_iff hratio hfinite hpos
  cases hquotient : ratio.checkedDiv threshold with
  | none =>
    have hover : ¬ratio.rawNat * Decimal.scale < Word.size := by
      intro hfits
      have hlt := Nat.lt_of_le_of_lt (Nat.div_le_self _ threshold.rawNat) hfits
      rw [(hdiv ⟨⟨_, hlt⟩⟩).2 ⟨hfits, rfl⟩] at hquotient
      cases hquotient
    exact iff_of_false (by decide) fun h => hover h.2
  | some quotient =>
    obtain ⟨hfits, hraw⟩ := (hdiv quotient).1 hquotient
    have hcut : quotient.rawNat < Decimal.scale ↔ ratio.rawNat < threshold.rawNat := by
      rw [hraw, Nat.div_lt_iff_lt_mul hpos, Nat.mul_comm Decimal.scale]
      exact Nat.mul_lt_mul_right (by decide)
    rw [Option.getD_some]
    exact hcut.trans ⟨fun hlow => ⟨hlow, hfits⟩, fun h => h.1⟩

/-- Over zero, only zero has a quotient below one. -/
theorem quotient_zero_lt_one_iff :
    (ratio.checkedDiv .zero).getD .infinity < .one ↔ ratio = .zero := by
  have hdiv : ratio.checkedDiv .zero = some (if ratio.isZero then .zero else .infinity) := rfl
  rw [hdiv, Option.getD_some, ← Decimal.isZero_iff]
  cases ratio.isZero with
  | true => exact iff_of_true (by decide) rfl
  | false => exact iff_of_false (by decide) (by decide)

/-- A quotient is below one exactly where the numerator is below the denominator, or both are zero,
unless the numerator cannot be scaled. -/
theorem quotient_lt_one_iff (hratio : ratio < .infinity) :
    (ratio.checkedDiv threshold).getD .infinity < .one ↔
      (ratio < threshold ∧
        ¬(Word.size ≤ ratio.rawNat * Decimal.scale ∧ threshold < .infinity)) ∨
      (ratio = .zero ∧ threshold = .zero) := by
  rcases Decimal.lt_infinity_or_eq threshold with hfinite | rfl
  · rcases Nat.eq_zero_or_pos threshold.rawNat with hraw | hpos
    · obtain rfl : threshold = .zero := Decimal.ext hraw
      have hlow : ¬ratio < .zero := Nat.not_lt_zero _
      simp [quotient_zero_lt_one_iff, hlow]
    · have hne : threshold ≠ .zero := by
        rintro rfl
        exact absurd hpos (Nat.lt_irrefl 0)
      rw [quotient_lt_one_iff_of_pos hratio hfinite hpos]
      simp [hne, hfinite]
  · rw [Decimal.checkedDiv_infinity hratio, Option.getD_some]
    refine iff_of_true (by decide) (Or.inl ⟨hratio, ?_⟩)
    rintro ⟨-, hlt⟩
    exact absurd hlt (Nat.lt_irrefl _)

end Quotient

/-! ## Agreement -/

/-- Two decisions are the same but for two edges: at the first only the score decides for a
liquidation, at the second only the comparison does. -/
structure AlikeBut (score below : Bool) (scoreOnly belowOnly : Prop) : Prop where
  same_iff : score = below ↔ ¬scoreOnly ∧ ¬belowOnly
  at_score : scoreOnly → score = true ∧ below = false
  at_below : belowOnly → score = false ∧ below = true

section Alike

variable {score below : Bool} {scoreOnly belowOnly : Prop}

theorem AlikeBut.of_edges (hsame : ¬scoreOnly → ¬belowOnly → score = below)
    (hscore : scoreOnly → score = true ∧ below = false)
    (hbelow : belowOnly → score = false ∧ below = true) :
    AlikeBut score below scoreOnly belowOnly where
  same_iff := by
    constructor
    · rintro rfl
      constructor
      · intro h
        obtain ⟨htrue, hfalse⟩ := hscore h
        exact absurd (htrue.symm.trans hfalse) (by decide)
      · intro h
        obtain ⟨hfalse, htrue⟩ := hbelow h
        exact absurd (htrue.symm.trans hfalse) (by decide)
    · rintro ⟨hnot, hnot'⟩
      exact hsame hnot hnot'
  at_score := hscore
  at_below := hbelow

theorem AlikeBut.of_no_edge (hsame : score = below) (hscore : ¬scoreOnly) (hbelow : ¬belowOnly) :
    AlikeBut score below scoreOnly belowOnly :=
  .of_edges (fun _ _ => hsame) (fun h => absurd h hscore) (fun h => absurd h hbelow)

end Alike

/-- The cut-off quotient and the comparison of a finite ratio with any weighted ratio. -/
theorem alikeBut_quotient {ratio threshold : Decimal} (hratio : ratio < .infinity) :
    AlikeBut (decide ((ratio.checkedDiv threshold).getD .infinity < .one))
      (decide (ratio < threshold)) (ratio = .zero ∧ threshold = .zero)
      (Word.size ≤ ratio.rawNat * Decimal.scale ∧ ratio < threshold ∧ threshold < .infinity) := by
  have hquotient := @quotient_lt_one_iff ratio threshold hratio
  have hzero : ratio = .zero ∧ threshold = .zero → ¬ratio < threshold := by
    rintro ⟨rfl, rfl⟩
    exact Nat.lt_irrefl 0
  apply AlikeBut.of_edges
  · intro hnot hnot'
    rw [decide_eq_decide, hquotient]
    constructor
    · rintro (⟨hlow, -⟩ | hedge)
      · exact hlow
      · exact absurd hedge hnot
    · intro hlow
      exact Or.inl ⟨hlow, fun hover => hnot' ⟨hover.1, hlow, hover.2⟩⟩
  · intro hedge
    rw [decide_eq_true_eq, decide_eq_false_iff_not, hquotient]
    exact ⟨Or.inr hedge, hzero hedge⟩
  · rintro ⟨hover, hlow, hfinite⟩
    rw [decide_eq_true_eq, decide_eq_false_iff_not, hquotient]
    refine ⟨?_, hlow⟩
    rintro (⟨-, hnot⟩ | hedge)
    · exact hnot ⟨hover, hfinite⟩
    · exact hzero hedge hlow

namespace Trove

/-- A ratio of zero against a weighted ratio of zero. -/
def ZeroAgainstZero (t : Trove) (prices : Prices) (ratios : Ratios) : Prop :=
  t.Weighed prices ratios .zero .zero

/-- A ratio that cannot be scaled, below a finite weighted ratio. -/
def BeyondRange (t : Trove) (prices : Prices) (ratios : Ratios) : Prop :=
  ∃ ratio threshold, t.Weighed prices ratios ratio threshold ∧
    Word.size ≤ ratio.rawNat * Decimal.scale ∧ ratio < threshold ∧ threshold < .infinity

variable {t : Trove} {prices : Prices} {ratios : Ratios} {ratio threshold : Decimal}

theorem Weighed.unique {ratio' threshold' : Decimal} (h : t.Weighed prices ratios ratio threshold)
    (h' : t.Weighed prices ratios ratio' threshold') : ratio = ratio' ∧ threshold = threshold' :=
  ⟨Except.ok.inj (h.ratio_eq.symm.trans h'.ratio_eq),
    Except.ok.inj (h.threshold_eq.symm.trans h'.threshold_eq)⟩

theorem Weighed.beyondRange_iff (h : t.Weighed prices ratios ratio threshold) :
    t.BeyondRange prices ratios ↔
      Word.size ≤ ratio.rawNat * Decimal.scale ∧ ratio < threshold ∧ threshold < .infinity := by
  constructor
  · rintro ⟨ratio', threshold', h', hbounds⟩
    obtain ⟨rfl, rfl⟩ := h.unique h'
    exact hbounds
  · intro hbounds
    exact ⟨ratio, threshold, h, hbounds⟩

theorem Weighed.zeroAgainstZero_iff (h : t.Weighed prices ratios ratio threshold) :
    t.ZeroAgainstZero prices ratios ↔ ratio = .zero ∧ threshold = .zero := by
  constructor
  · intro h'
    exact h.unique h'
  · rintro ⟨rfl, rfl⟩
    exact h

/-- A ratio that cannot be scaled belongs to a value that leaves the range of words when it is
weighted with a still higher ratio, so no Trove is beyond the range. -/
theorem not_beyondRange : ¬t.BeyondRange prices ratios := by
  rintro ⟨ratio, threshold, h, hover, hlow, hfinite⟩
  obtain ⟨value, hvalue, hpos⟩ := h.value_eq
  obtain ⟨hvalueFinite, hratio⟩ := ratio_le_value h.ratio_eq h.finite hvalue
  have hfits := threshold_mul_value_lt h.threshold_eq hfinite hvalue hpos hvalueFinite
  -- the ratio and the value are both too large for their product to fit
  have hratioLarge : Word.size / Decimal.scale ≤ threshold.rawNat := by
    apply Nat.div_le_of_le_mul
    rw [Nat.mul_comm]
    exact Nat.le_trans hover (Nat.mul_le_mul_right _ (Nat.le_of_lt hlow))
  have hvalueLarge : Word.size / (Decimal.scale * Decimal.scale) ≤ value.rawNat := by
    apply Nat.div_le_of_le_mul
    rw [Nat.mul_comm, ← Nat.mul_assoc]
    exact Nat.le_trans hover (Nat.mul_le_mul_right _ hratio)
  have hproduct := Nat.mul_le_mul hratioLarge hvalueLarge
  have hsize : Word.size ≤
      Word.size / Decimal.scale * (Word.size / (Decimal.scale * Decimal.scale)) := by decide
  omega

end Trove

namespace Whitelist

variable {w : Whitelist} {trove : Trove} {user : UserTrove} {recoveryMode : Bool} {block : UInt64}

/-! ## The score -/

theorem healthFactor_worthless {ratio : Decimal} (hratio : ratio < .infinity)
    (hvalue : trove.collateralValue w.prices = .ok .zero) :
    w.healthFactor trove ratio recoveryMode = .ok .zero := by
  rw [healthFactor, if_neg (by simp [Decimal.isInfinite_eq_false_iff.2 hratio]), hvalue]
  rfl

theorem healthFactor_weighed {ratio threshold : Decimal}
    (h : trove.Weighed w.prices (w.thresholds recoveryMode) ratio threshold) :
    w.healthFactor trove ratio recoveryMode =
      .ok ((ratio.checkedDiv threshold).getD .infinity) := by
  obtain ⟨value, hvalue, hpos⟩ := h.value_eq
  rw [healthFactor, if_neg (by simp [Decimal.isInfinite_eq_false_iff.2 h.finite]), hvalue,
    h.threshold_eq]
  show (if value.isZero = true then _ else _) = _
  rw [if_neg (by simp [Decimal.isZero_eq_false_iff.2 hpos])]
  rfl

/-- The health of an open Trove is worked out from its collateral ratio. -/
theorem health_of_assess {score : Option TroveHealth} (hopen : user.status.isOpen = true)
    (h : w.assess user recoveryMode block = .ok score) :
    ∃ ratio health, user.trove.collateralRatio w.prices = .ok ratio ∧
      w.healthFactor user.trove ratio recoveryMode = .ok health ∧
      score = some ⟨user.owner, health, ratio, user.trove.debt, block⟩ := by
  rw [assess, hopen] at h
  obtain ⟨ratio, hratio, h⟩ := bind_eq_ok_iff.1 h
  obtain ⟨health, hhealth, h⟩ := bind_eq_ok_iff.1 h
  cases h
  exact ⟨ratio, health, hratio, hhealth, rfl⟩

/-! ## Two decisions -/

/-- Wherever the score of an open Trove and the comparison of its ratio with the weighted ratio both
exist, in either mode, they decide alike unless a ratio of zero meets a weighted ratio of zero,
where only the score lets the Trove be liquidated, or a ratio that cannot be scaled is below a
finite weighted ratio, where only the comparison does. No Trove is of the second kind. -/
theorem assess_alikeBut_isBelow {score : Option TroveHealth} {below : Bool}
    (hopen : user.status.isOpen = true) (hscore : w.assess user recoveryMode block = .ok score)
    (hbelow : user.trove.isBelow w.prices (w.thresholds recoveryMode) = .ok below) :
    ∃ health, score = some health ∧
      AlikeBut health.isLiquidatable below
        (user.trove.ZeroAgainstZero w.prices (w.thresholds recoveryMode))
        (user.trove.BeyondRange w.prices (w.thresholds recoveryMode)) ∧
      ¬user.trove.BeyondRange w.prices (w.thresholds recoveryMode) := by
  obtain ⟨ratio, health, hratio, hhealth, rfl⟩ := health_of_assess hopen hscore
  refine ⟨_, rfl, ?_, Trove.not_beyondRange⟩
  rcases Trove.isBelow_eq_ok_iff.1 hbelow with
    ⟨hratio', rfl⟩ | ⟨ratio', hratio', hfinite, hvalue, rfl⟩ | ⟨ratio', threshold, hw, rfl⟩
  · -- an infinite ratio has infinite health, and it is not below anything
    obtain rfl : ratio = .infinity := Except.ok.inj (hratio.symm.trans hratio')
    cases hhealth
    apply AlikeBut.of_no_edge rfl _ Trove.not_beyondRange
    intro hw
    have hinf : Decimal.zero = .infinity := Except.ok.inj (hw.ratio_eq.symm.trans hratio')
    exact absurd hinf (by decide)
  · -- collateral that is worth nothing has health zero, and it is below everything
    obtain rfl : ratio = ratio' := Except.ok.inj (hratio.symm.trans hratio')
    rw [healthFactor_worthless hfinite hvalue] at hhealth
    cases hhealth
    apply AlikeBut.of_no_edge rfl _ Trove.not_beyondRange
    intro hw
    obtain ⟨value, hvalue', hpos⟩ := hw.value_eq
    obtain rfl : Decimal.zero = value := Except.ok.inj (hvalue.symm.trans hvalue')
    exact absurd hpos (Nat.lt_irrefl 0)
  · obtain rfl : ratio = ratio' := Except.ok.inj (hratio.symm.trans hw.ratio_eq)
    rw [healthFactor_weighed hw] at hhealth
    cases hhealth
    rw [hw.beyondRange_iff, hw.zeroAgainstZero_iff]
    exact alikeBut_quotient hw.finite

/-! ## Dust without a threshold -/

/-- A kind that is worth next to nothing and has no thresholds. -/
def dustList : Whitelist :=
  .ofEntries [(⟨31, by decide⟩, ⟨18, ⟨.ofUInt64 1⟩, .zero, .zero, false⟩)]

/-- One unit of the kind against a debt of two thousand. -/
def dustUser : UserTrove :=
  ⟨⟨32, by decide⟩, .open, ⟨.ofList [(⟨31, by decide⟩, .one)], .ofUInt64 2000⟩⟩

theorem dustUser_zeroAgainstZero :
    dustUser.trove.ZeroAgainstZero dustList.prices (dustList.thresholds false) where
  ratio_eq := rfl
  finite := by decide
  value_eq := ⟨⟨.ofUInt64 1⟩, rfl, by decide⟩
  threshold_eq := rfl

/-- At the first edge the score lets the Trove be liquidated, and the comparison does not. -/
theorem dustUser_scored_only :
    dustUser.status.isOpen = true ∧
      dustUser.trove.isBelow dustList.prices (dustList.thresholds false) = .ok false ∧
      ∃ health, dustList.assess dustUser false 100 = .ok (some health) ∧
        AlikeBut health.isLiquidatable false
          (dustUser.trove.ZeroAgainstZero dustList.prices (dustList.thresholds false))
          (dustUser.trove.BeyondRange dustList.prices (dustList.thresholds false)) ∧
        health.isLiquidatable = true := by
  have hbelow : dustUser.trove.isBelow dustList.prices (dustList.thresholds false) = .ok false :=
    Trove.isBelow_eq_ok_iff.2 (Or.inr (Or.inr ⟨_, _, dustUser_zeroAgainstZero, by decide⟩))
  obtain ⟨score, hscore⟩ : ∃ score, dustList.assess dustUser false 100 = .ok score :=
    exists_eq_ok_of_isOk (by decide +kernel)
  obtain ⟨health, rfl, halike, -⟩ := assess_alikeBut_isBelow rfl hscore hbelow
  exact ⟨rfl, hbelow, health, hscore, halike, (halike.at_score dustUser_zeroAgainstZero).1⟩

end Whitelist

end Cdp
