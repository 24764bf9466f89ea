import Cdp.Fees
import Cdp.Proofs.Attempt
import Cdp.Proofs.Decimal.Order
import Cdp.Proofs.Decimal.Power

/-!
# The decay of fees

Between two fee operations the base rate only falls, and so do the rates that contain it. A later
time has at least as many full minutes, the power of the decay factor is at most as large, and every
operation on the way is monotone. Where an earlier time gives a rate without a fault, so does every
later one.

An infinite base rate stands apart: it stays infinite until the power has rounded to zero, and then
it is zero (`baseRateAt_fall`). The redemption rate is also no higher for a smaller fraction
(`redemptionRateAt_mono`).

The main statement `rates_fall_in_bounds` says this of all three rates, and adds the bounds that the
borrowing and the redemption rate keep at every time.
-/

set_option autoImplicit false

namespace Cdp.Fees

variable {factory : FeesFactory} {timestamp t₁ t₂ : UInt64} {recoveryMode : Bool}

theorem minutesAt_mono (fees : Fees) (h : t₁ ≤ t₂) :
    (fees.minutesAt t₁).toNat ≤ (fees.minutesAt t₂).toNat := by
  have hnat : t₁.toNat ≤ t₂.toNat := UInt64.le_iff_toNat_le.1 h
  rw [minutesAt, minutesAt, UInt64.toNat_div, UInt64.toNat_div, Counter.toNat_saturatingSub,
    Counter.toNat_saturatingSub]
  exact Nat.div_le_div_right (by omega)

/-- The base rate `later` is one that `earlier` may fall to: no larger, and where `earlier` is
infinite either infinite too or zero. -/
structure BaseFall (earlier later : Decimal) : Prop where
  le : later ≤ earlier
  of_infinite : earlier = .infinity → later = .infinity ∨ later = .zero

theorem baseRateAt_fall (h : t₁ ≤ t₂) {b₁ : Decimal}
    (h₁ : (factory.at timestamp recoveryMode).baseRateAt t₁ = .ok b₁) :
    ∃ b₂, (factory.at timestamp recoveryMode).baseRateAt t₂ = .ok b₂ ∧ BaseFall b₁ b₂ := by
  generalize hfees : factory.at timestamp recoveryMode = fees at h₁ ⊢
  have hfactor : fees.minuteDecayFactor = Protocol.minuteDecayFactor := by
    rw [← hfees]
    rfl
  have hpow := Decimal.pow_antitone Decimal.minuteDecayFactor_decays (fees.minutesAt_mono h)
  have hfin : ∀ n, Protocol.minuteDecayFactor.pow n < .infinity := fun n =>
    Decimal.lt_infinity_of_le (Decimal.pow_le_one Decimal.minuteDecayFactor_decays n) (by decide)
  simp only [baseRateAt, hfactor, Decimal.mul_eq_ok_iff] at h₁ ⊢
  obtain ⟨b₂, h₂, hle⟩ := Decimal.checkedMul_mono_left hpow (hfin _) h₁
  refine ⟨b₂, h₂, hle, fun hinf => ?_⟩
  rcases Decimal.lt_infinity_or_eq fees.baseRateWithoutDecay with hbase | hbase
  · have hlt := Decimal.checkedMul_lt_infinity (hfin _) hbase h₁
    rw [hinf] at hlt
    exact absurd hlt (Nat.lt_irrefl _)
  · rw [hbase, Decimal.checkedMul_infinity, Option.some.injEq] at h₂
    split at h₂
    · exact Or.inr h₂.symm
    · exact Or.inl h₂.symm

/-- Adding the base rate to a finite rate falls with it. -/
theorem BaseFall.checkedAdd {b₁ b₂ x s₁ : Decimal} (hfall : BaseFall b₁ b₂) (hx : x < .infinity)
    (h₁ : x.checkedAdd b₁ = some s₁) : ∃ s₂, x.checkedAdd b₂ = some s₂ ∧ s₂ ≤ s₁ := by
  rcases Decimal.lt_infinity_or_eq b₁ with hb₁ | hb₁
  · exact Decimal.checkedAdd_mono (Decimal.le_refl x) hfall.le hx hb₁ h₁
  · rcases hfall.of_infinite hb₁ with rfl | rfl
    · rw [hb₁] at h₁
      exact ⟨s₁, h₁, Decimal.le_refl _⟩
    · exact ⟨x, Decimal.checkedAdd_zero x, Decimal.le_of_checkedAdd h₁⟩

/-- The borrowing rate of a later time exists wherever that of an earlier time does, and is no
higher. -/
theorem borrowingRateAt_fall (h : t₁ ≤ t₂) {r₁ : Decimal}
    (h₁ : (factory.at timestamp recoveryMode).borrowingRateAt t₁ = .ok r₁) :
    ∃ r₂, (factory.at timestamp recoveryMode).borrowingRateAt t₂ = .ok r₂ ∧ r₂ ≤ r₁ := by
  cases recoveryMode with
  | true => exact ⟨r₁, h₁, Decimal.le_refl _⟩
  | false =>
    have hunfold : ∀ t, (factory.at timestamp false).borrowingRateAt t = (do
        let base ← (factory.at timestamp false).baseRateAt t
        let rate ← Protocol.borrowingFeeFloor.add base
        return min rate Protocol.maxBorrowingFee) := fun _ => rfl
    rw [hunfold] at h₁ ⊢
    obtain ⟨b₁, hb₁, hrest⟩ := bind_eq_ok_iff.1 h₁
    obtain ⟨s₁, hs₁, hmin⟩ := bind_eq_ok_iff.1 hrest
    obtain ⟨b₂, hb₂, hfall⟩ := baseRateAt_fall h hb₁
    obtain ⟨s₂, hs₂, hle⟩ := hfall.checkedAdd (by decide) (Decimal.add_eq_ok_iff.1 hs₁)
    cases hmin
    refine ⟨min s₂ Protocol.maxBorrowingFee, ?_, Decimal.min_le_min_right hle _⟩
    exact bind_eq_ok_iff.2 ⟨b₂, hb₂, bind_eq_ok_iff.2 ⟨s₂, Decimal.add_eq_ok_iff.2 hs₂, rfl⟩⟩

theorem borrowingRateAt_le_max {fees : Fees} {t : UInt64} {r : Decimal}
    (h : fees.borrowingRateAt t = .ok r) : r ≤ Protocol.maxBorrowingFee := by
  rw [borrowingRateAt] at h
  split at h
  · cases h
    exact Decimal.zero_le _
  · obtain ⟨b, -, hrest⟩ := bind_eq_ok_iff.1 h
    obtain ⟨s, -, hmin⟩ := bind_eq_ok_iff.1 hrest
    cases hmin
    exact Decimal.min_le_right _ _

/-! ## The redemption rate -/

/-- A raised part that is a fraction over beta leaves room for the floor. -/
theorem exists_checkedAdd_of_div_beta {fraction raised : Decimal}
    (h : fraction.checkedDiv Protocol.beta = some raised) :
    ∃ total, Protocol.redemptionFeeFloor.checkedAdd raised = some total := by
  rcases Decimal.lt_infinity_or_eq fraction with hfraction | rfl
  · have hbeta : Protocol.beta.rawNat = 2 * Decimal.scale := rfl
    have hfloor : Protocol.redemptionFeeFloor.rawNat = 5000000000000000 := rfl
    obtain ⟨hlt, hraised⟩ := (Decimal.checkedDiv_eq_some_iff hfraction (by decide) (by decide)).1 h
    -- the scaled fraction fits a word, so its half leaves more than half of the range
    have hroom : Protocol.redemptionFeeFloor.rawNat + raised.rawNat < Word.size - 1 := by
      rw [hraised, hbeta, hfloor]
      simp only [Decimal.scale, Word.size] at hlt ⊢
      omega
    have hfinite : raised < .infinity := by
      rw [Decimal.lt_def, Decimal.rawNat_infinity]
      omega
    refine ⟨⟨⟨_, Nat.lt_trans hroom (by decide)⟩⟩, ?_⟩
    exact (Decimal.checkedAdd_eq_some_iff (by decide) hfinite).2 ⟨rfl, hroom⟩
  · rw [Decimal.checkedDiv_of_infinite (by decide)] at h
    cases h
    exact ⟨.infinity, Decimal.checkedAdd_infinity _⟩

/-- The floor, the base rate and a raised part together fall with the base rate. -/
theorem BaseFall.checkedAdd_add {b₁ b₂ fraction raised s₁ total₁ : Decimal}
    (hfall : BaseFall b₁ b₂) (hraised : fraction.checkedDiv Protocol.beta = some raised)
    (h₁ : Protocol.redemptionFeeFloor.checkedAdd b₁ = some s₁)
    (htotal₁ : s₁.checkedAdd raised = some total₁) :
    ∃ s₂ total₂, Protocol.redemptionFeeFloor.checkedAdd b₂ = some s₂ ∧
      s₂.checkedAdd raised = some total₂ ∧ total₂ ≤ total₁ := by
  have hfloor : Protocol.redemptionFeeFloor < .infinity := by decide
  rcases Decimal.lt_infinity_or_eq b₁ with hb₁ | hb₁
  · have hs₁ := ((Decimal.checkedAdd_eq_some_iff hfloor hb₁).1 h₁).2
    obtain ⟨s₂, hs₂, hle⟩ := hfall.checkedAdd hfloor h₁
    rcases Decimal.lt_infinity_or_eq raised with hfinite | rfl
    · obtain ⟨total₂, htotal₂, hle⟩ :=
        Decimal.checkedAdd_mono hle (Decimal.le_refl raised) hs₁ hfinite htotal₁
      exact ⟨s₂, total₂, hs₂, htotal₂, hle⟩
    · rw [Decimal.checkedAdd_infinity] at htotal₁
      cases htotal₁
      exact ⟨s₂, .infinity, hs₂, Decimal.checkedAdd_infinity _, Decimal.le_refl _⟩
  · rcases hfall.of_infinite hb₁ with rfl | rfl
    · rw [hb₁] at h₁
      exact ⟨s₁, total₁, h₁, htotal₁, Decimal.le_refl _⟩
    · -- the total was infinite and is now the floor with the raised part
      rw [hb₁, Decimal.checkedAdd_infinity] at h₁
      cases h₁
      have htotal : total₁ = .infinity := by
        rw [Decimal.infinity_checkedAdd] at htotal₁
        exact (Option.some.inj htotal₁).symm
      obtain ⟨total₂, htotal₂⟩ := exists_checkedAdd_of_div_beta hraised
      refine ⟨_, total₂, Decimal.checkedAdd_zero _, htotal₂, ?_⟩
      rw [htotal]
      exact Decimal.le_infinity total₂

theorem redemptionRateAt_eq_ok_iff {fees : Fees} {fraction r : Decimal} {t : UInt64} :
    fees.redemptionRateAt fraction t = .ok r ↔
      ∃ raised base rate total, fraction.checkedDiv fees.beta = some raised ∧
        fees.baseRateAt t = .ok base ∧ Protocol.redemptionFeeFloor.checkedAdd base = some rate ∧
        rate.checkedAdd raised = some total ∧ r = min total .one := by
  simp only [redemptionRateAt, bind_eq_ok_iff, pure_eq_ok_iff, Decimal.div_eq_ok_iff,
    Decimal.add_eq_ok_iff]
  constructor
  · rintro ⟨raised, hraised, base, hbase, rate, hrate, total, htotal, rfl⟩
    exact ⟨raised, base, rate, total, hraised, hbase, hrate, htotal, rfl⟩
  · rintro ⟨raised, base, rate, total, hraised, hbase, hrate, htotal, rfl⟩
    exact ⟨raised, hraised, base, hbase, rate, hrate, total, htotal, rfl⟩

/-- The redemption rate of a later time exists wherever that of an earlier time does, and is no
higher. -/
theorem redemptionRateAt_fall {fraction r₁ : Decimal} (h : t₁ ≤ t₂)
    (h₁ : (factory.at timestamp recoveryMode).redemptionRateAt fraction t₁ = .ok r₁) :
    ∃ r₂, (factory.at timestamp recoveryMode).redemptionRateAt fraction t₂ = .ok r₂ ∧
      r₂ ≤ r₁ := by
  obtain ⟨raised, b₁, s₁, total₁, hraised, hb₁, hs₁, htotal₁, rfl⟩ :=
    redemptionRateAt_eq_ok_iff.1 h₁
  obtain ⟨b₂, hb₂, hfall⟩ := baseRateAt_fall h hb₁
  obtain ⟨s₂, total₂, hs₂, htotal₂, hle⟩ := hfall.checkedAdd_add hraised hs₁ htotal₁
  refine ⟨min total₂ .one, ?_, Decimal.min_le_min_right hle _⟩
  apply redemptionRateAt_eq_ok_iff.2
  exact ⟨raised, b₂, s₂, total₂, hraised, hb₂, hs₂, htotal₂, rfl⟩

/-- A smaller finite fraction has a redemption rate too, and it is no higher. -/
theorem redemptionRateAt_mono {fraction fraction' r' : Decimal} {t : UInt64}
    (hle : fraction ≤ fraction') (hfinite : fraction' < .infinity)
    (h : (factory.at timestamp recoveryMode).redemptionRateAt fraction' t = .ok r') :
    ∃ r, (factory.at timestamp recoveryMode).redemptionRateAt fraction t = .ok r ∧ r ≤ r' := by
  obtain ⟨raised', base, rate, total', hraised', hbase, hrate, htotal', rfl⟩ :=
    redemptionRateAt_eq_ok_iff.1 h
  have hbeta : (factory.at timestamp recoveryMode).beta = Protocol.beta := rfl
  rw [hbeta] at hraised'
  obtain ⟨raised, hraised, hraisedLe⟩ :=
    Decimal.checkedDiv_mono_left hle hfinite (by decide) (by decide) hraised'
  have hraisedFinite : raised' < .infinity :=
    Decimal.checkedDiv_lt_infinity hfinite (by decide) (by decide) hraised'
  obtain ⟨total, htotal, htotalLe⟩ :=
    Decimal.checkedAdd_mono_right hraisedLe hraisedFinite htotal'
  refine ⟨min total .one, ?_, Decimal.min_le_min_right htotalLe _⟩
  apply redemptionRateAt_eq_ok_iff.2
  exact ⟨raised, base, rate, total, hraised, hbase, hrate, htotal, rfl⟩

/-! ## Bounds -/

theorem floor_le_borrowingRateAt {fees : Fees} {t : UInt64} {r : Decimal}
    (hmode : fees.recoveryMode = false) (h : fees.borrowingRateAt t = .ok r) :
    Protocol.borrowingFeeFloor ≤ r := by
  rw [borrowingRateAt, hmode, if_neg (by decide)] at h
  obtain ⟨b, -, hrest⟩ := bind_eq_ok_iff.1 h
  obtain ⟨s, hs, hmin⟩ := bind_eq_ok_iff.1 hrest
  cases hmin
  apply Decimal.le_min
  · exact Decimal.le_of_checkedAdd (Decimal.add_eq_ok_iff.1 hs)
  · decide

theorem redemptionRateAt_bounds {fees : Fees} {fraction r : Decimal} {t : UInt64}
    (h : fees.redemptionRateAt fraction t = .ok r) :
    Protocol.redemptionFeeFloor ≤ r ∧ r ≤ .one := by
  obtain ⟨raised, base, rate, total, -, -, hrate, htotal, rfl⟩ := redemptionRateAt_eq_ok_iff.1 h
  refine ⟨Decimal.le_min ?_ (by decide), Decimal.min_le_right _ _⟩
  exact Decimal.le_trans (Decimal.le_of_checkedAdd hrate) (Decimal.le_of_checkedAdd htotal)

/-! ## All rates -/

/-- From any time on, a rate that exists goes on to exist and never rises. -/
def Falls (rate : UInt64 → Except Fault Decimal) : Prop :=
  ∀ t₁ t₂, t₁ ≤ t₂ → ∀ r₁, rate t₁ = .ok r₁ → ∃ r₂, rate t₂ = .ok r₂ ∧ r₂ ≤ r₁

/-- The base, borrowing and redemption rates of a fee state fall with time, whatever the base rate,
the last operation, the recovery mode and the redeemed fraction are. In recovery mode borrowing is
free at every time, and otherwise its rate is between the floor and the maximum; the redemption rate
is between its floor and one. -/
theorem rates_fall_in_bounds (factory : FeesFactory) (timestamp : UInt64) (recoveryMode : Bool)
    (fraction : Decimal) :
    Falls (factory.at timestamp recoveryMode).baseRateAt ∧
      Falls (factory.at timestamp recoveryMode).borrowingRateAt ∧
      Falls ((factory.at timestamp recoveryMode).redemptionRateAt fraction) ∧
      ∀ t, (recoveryMode = true →
          (factory.at timestamp recoveryMode).borrowingRateAt t = .ok .zero) ∧
        (recoveryMode = false →
          ∀ r, (factory.at timestamp recoveryMode).borrowingRateAt t = .ok r →
            Protocol.borrowingFeeFloor ≤ r ∧ r ≤ Protocol.maxBorrowingFee) ∧
        ∀ r, (factory.at timestamp recoveryMode).redemptionRateAt fraction t = .ok r →
          Protocol.redemptionFeeFloor ≤ r ∧ r ≤ .one := by
  refine ⟨?_, ?_, ?_, fun t => ⟨?_, ?_, fun r => redemptionRateAt_bounds⟩⟩
  · intro t₁ t₂ h b₁ hb₁
    obtain ⟨b₂, hb₂, hfall⟩ := baseRateAt_fall h hb₁
    exact ⟨b₂, hb₂, hfall.le⟩
  · intro t₁ t₂ h r₁ hr₁
    exact borrowingRateAt_fall h hr₁
  · intro t₁ t₂ h r₁ hr₁
    exact redemptionRateAt_fall h hr₁
  · rintro rfl
    rfl
  · rintro rfl r hr
    exact ⟨floor_le_borrowingRateAt rfl hr, borrowingRateAt_le_max hr⟩

/-- Fees after a base rate of three percent was set at time zero. -/
def threePercent : FeesFactory := ⟨.thousandths 30, 0⟩

/-- The powers of the minutes 1023 and 1024 share no product, and still every rate falls from the
one minute to the other. -/
theorem threePercent_falls_over_carry :
    ∃ b₁ b₂ r₁ r₂ q₁ q₂ : Decimal, (61380 : UInt64) ≤ 61440 ∧
      (threePercent.at 0 false).baseRateAt 61380 = .ok b₁ ∧
      (threePercent.at 0 false).baseRateAt 61440 = .ok b₂ ∧ b₂ ≤ b₁ ∧
      (threePercent.at 0 false).borrowingRateAt 61380 = .ok r₁ ∧
      (threePercent.at 0 false).borrowingRateAt 61440 = .ok r₂ ∧ r₂ ≤ r₁ ∧
      Protocol.borrowingFeeFloor ≤ r₂ ∧
      (threePercent.at 0 false).redemptionRateAt (.thousandths 100) 61380 = .ok q₁ ∧
      (threePercent.at 0 false).redemptionRateAt (.thousandths 100) 61440 = .ok q₂ ∧ q₂ ≤ q₁ ∧
      q₁ ≤ .one := by
  obtain ⟨hbase, hborrowing, hredemption, hbounds⟩ :=
    rates_fall_in_bounds threePercent 0 false (.thousandths 100)
  have hle : (61380 : UInt64) ≤ 61440 := by decide
  obtain ⟨b₁, hb₁⟩ : ∃ b₁, (threePercent.at 0 false).baseRateAt 61380 = .ok b₁ :=
    exists_eq_ok_of_isOk (by decide +kernel)
  obtain ⟨r₁, hr₁⟩ : ∃ r₁, (threePercent.at 0 false).borrowingRateAt 61380 = .ok r₁ :=
    exists_eq_ok_of_isOk (by decide +kernel)
  obtain ⟨q₁, hq₁⟩ : ∃ q₁, (threePercent.at 0 false).redemptionRateAt (.thousandths 100) 61380 =
      .ok q₁ := exists_eq_ok_of_isOk (by decide +kernel)
  obtain ⟨b₂, hb₂, hb⟩ := hbase _ _ hle b₁ hb₁
  obtain ⟨r₂, hr₂, hr⟩ := hborrowing _ _ hle r₁ hr₁
  obtain ⟨q₂, hq₂, hq⟩ := hredemption _ _ hle q₁ hq₁
  have hfloor := ((hbounds 61440).2.1 rfl r₂ hr₂).1
  have hone := ((hbounds 61380).2.2 q₁ hq₁).2
  exact ⟨b₁, b₂, r₁, r₂, q₁, q₂, hle, hb₁, hb₂, hb, hr₁, hr₂, hr, hfloor, hq₁, hq₂, hq, hone⟩

end Cdp.Fees
