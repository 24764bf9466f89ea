import Cdp.Proofs.Transaction.GasLimit

/-!
# The limit for two estimates

The gas for a walk along the sorted list is added to the first of two estimates, the larger of this
sum and the second estimate is taken, and the gas for the update of the base rate is added to that
(`Policy.paddedGas`). The limit is this sum where a block holds it, and otherwise what a block holds
or the larger of the two estimates (`toNat_gasLimit_dual`). A call for which both estimates were
answered carries exactly this limit (`withDualGas_limit`).

So the gas for a walk belongs to the first estimate. Both estimates have it (`Policy.promisedGas`)
if and only if the first one is the larger or a walk costs nothing; a second estimate that is larger
goes without it or with a part of it.
-/

set_option autoImplicit false

namespace Cdp

open Procedure

namespace Policy

/-- The first estimate with the gas for a walk, or the second where that is larger, and the gas for
the update of the base rate. -/
def paddedGas (policy : Policy) (now soon updateGas : UInt64) : Nat :=
  max (now.toNat + policy.listTraversalGas.toNat) soon.toNat + updateGas.toNat

/-- The larger of two estimates with the gas for a walk and for the update of the base rate. -/
def promisedGas (policy : Policy) (now soon updateGas : UInt64) : Nat :=
  max now.toNat soon.toNat + policy.listTraversalGas.toNat + updateGas.toNat

end Policy

namespace GasEstimate

variable {policy : Policy} {now soon updateGas : UInt64}

/-- The sums stop at the largest counter, which no block exceeds. -/
theorem toNat_gasLimit_dual :
    (dual policy now soon updateGas).gasLimit.toNat =
      max (min (policy.paddedGas now soon updateGas) policy.blockGasLimit.toNat)
        (max now.toNat soon.toNat) := by
  have hblock : policy.blockGasLimit.toNat < UInt64.size := UInt64.toNat_lt _
  have hsoon : soon.toNat < UInt64.size := UInt64.toNat_lt _
  rw [dual, capped, UInt64.toNat_max, UInt64.toNat_min, UInt64.toNat_max, Counter.saturatingAdd,
    Counter.toNat_clamp, UInt64.toNat_max, Counter.saturatingAdd, Counter.toNat_clamp,
    Policy.paddedGas]
  omega

/-- No limit is below the first estimate. -/
theorem toNat_headroom_dual : (dual policy now soon updateGas).headroom.toNat =
    (dual policy now soon updateGas).gasLimit.toNat - now.toNat := by
  have hle : now ≤ (dual policy now soon updateGas).gasLimit := by
    rw [UInt64.le_iff_toNat_le, toNat_gasLimit_dual]
    exact Nat.le_trans (Nat.le_max_left _ _) (Nat.le_max_right _ _)
  exact UInt64.toNat_sub_of_le _ _ hle

/-- A sum that a block holds is the limit. -/
theorem gasLimit_dual_eq
    (hfits : policy.paddedGas now soon updateGas ≤ policy.blockGasLimit.toNat) :
    (dual policy now soon updateGas).gasLimit.toNat = policy.paddedGas now soon updateGas := by
  rw [toNat_gasLimit_dual]
  rw [Policy.paddedGas] at hfits ⊢
  omega

/-- What is missing where both estimates with the gas for a walk fit a block. -/
theorem gasLimit_dual_add_shortfall
    (hfits : policy.promisedGas now soon updateGas ≤ policy.blockGasLimit.toNat) :
    (dual policy now soon updateGas).gasLimit.toNat +
        min policy.listTraversalGas.toNat (soon.toNat - now.toNat) =
      policy.promisedGas now soon updateGas := by
  rw [toNat_gasLimit_dual, Policy.paddedGas]
  rw [Policy.promisedGas] at hfits ⊢
  omega

end GasEstimate

namespace Context

/-- There is a call where both estimates were answered, and nowhere else, and it carries exactly the
limit for the two, with its headroom. The limit is what a block holds of the padded sum, or the
larger estimate where that is more, so where the sum fits a block it is the limit. Where the larger
estimate fits a block together with the gas for a walk and for the update of the base rate, the
limit covers all three if and only if the first estimate is the larger one or a walk costs nothing,
and otherwise the smaller of the gas for the walk and the difference of the estimates is missing. -/
theorem withDualGas_limit (context : Context) (call later : ContractCall) (updateGas : UInt64) :
    (∀ trace priced, (context.withDualGas call later updateGas).Yields trace (.ok priced) ↔
      ∃ (now soon : UInt64) (gas : GasEstimate),
        trace = [⟨ChainRequest.estimateGas call, .ok now⟩,
          ⟨ChainRequest.estimateGas later, .ok soon⟩] ∧
        gas = .dual context.policy now soon updateGas ∧
        priced = ({ call with gasLimit := some gas.gasLimit }, some gas.headroom)) ∧
      ∀ (now soon : UInt64) (gas : GasEstimate), gas = .dual context.policy now soon updateGas →
        gas.gasLimit.toNat =
            max (min (context.policy.paddedGas now soon updateGas)
              context.policy.blockGasLimit.toNat) (max now.toNat soon.toNat) ∧
        gas.headroom.toNat = gas.gasLimit.toNat - now.toNat ∧
        (context.policy.paddedGas now soon updateGas ≤ context.policy.blockGasLimit.toNat →
          gas.gasLimit.toNat = context.policy.paddedGas now soon updateGas) ∧
        (context.policy.promisedGas now soon updateGas ≤ context.policy.blockGasLimit.toNat →
          (context.policy.promisedGas now soon updateGas ≤ gas.gasLimit.toNat ↔
            soon ≤ now ∨ context.policy.listTraversalGas = 0) ∧
          gas.gasLimit.toNat +
              min context.policy.listTraversalGas.toNat (soon.toNat - now.toNat) =
            context.policy.promisedGas now soon updateGas) := by
  constructor
  · intro trace priced
    rw [withDualGas_yields_ok_iff]
    constructor
    · rintro ⟨now, soon, htrace, hpriced⟩
      exact ⟨now, soon, _, htrace, rfl, hpriced⟩
    · rintro ⟨now, soon, _, htrace, rfl, hpriced⟩
      exact ⟨now, soon, htrace, hpriced⟩
  · rintro now soon _ rfl
    refine ⟨GasEstimate.toNat_gasLimit_dual, GasEstimate.toNat_headroom_dual,
      GasEstimate.gasLimit_dual_eq, fun hfits => ?_⟩
    have hshort := GasEstimate.gasLimit_dual_add_shortfall hfits
    refine ⟨?_, hshort⟩
    rw [← hshort, UInt64.le_iff_toNat_le, ← UInt64.toNat_inj, UInt64.toNat_zero]
    omega

/-- A call to estimate. -/
def plainCall : ContractCall := soleSender.callTo .zero []

/-- With the usual policy, a first estimate that is the larger one gets the gas for a walk. A second
estimate that is larger by more than a walk costs is the limit itself. -/
theorem standardEstimates_limits :
    (GasEstimate.dual soleSender.policy 400000 380000 15656).gasLimit.toNat = 440656 ∧
      soleSender.policy.promisedGas 400000 380000 15656 = 440656 ∧
      (GasEstimate.dual soleSender.policy 400000 500000 0).gasLimit.toNat = 500000 ∧
      (GasEstimate.dual soleSender.policy 400000 500000 0).gasLimit.toNat + 25000 =
        soleSender.policy.promisedGas 400000 500000 0 := by
  obtain ⟨-, -, hfirst, -⟩ := (withDualGas_limit soleSender plainCall plainCall 15656).2 400000
    380000 _ rfl
  obtain ⟨-, -, hsecond, hshort⟩ := (withDualGas_limit soleSender plainCall plainCall 0).2 400000
    500000 _ rfl
  exact ⟨hfirst (by decide), by decide, hsecond (by decide), (hshort (by decide)).2⟩

/-- A second estimate of half a million behind a first one of four hundred thousand: the call goes
out with a limit of half a million, which leaves nothing for a walk. -/
theorem largerDecay_not_covered :
    (soleSender.withDualGas plainCall plainCall 0).Yields
        [⟨ChainRequest.estimateGas plainCall, .ok (400000 : UInt64)⟩,
          ⟨ChainRequest.estimateGas plainCall, .ok (500000 : UInt64)⟩]
        (.ok ({ plainCall with gasLimit := some 500000 }, some 100000)) ∧
      soleSender.policy.promisedGas 400000 500000 0 ≤ soleSender.policy.blockGasLimit.toNat ∧
      ¬soleSender.policy.promisedGas 400000 500000 0 ≤ (500000 : UInt64).toNat := by
  refine ⟨withDualGas_yields_ok_iff.2 ⟨400000, 500000, rfl, ?_⟩, by decide, by decide⟩
  decide

end Context

end Cdp
