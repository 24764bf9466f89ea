import Cdp.Trove.Ratio

/-!
# Redistribution

The collateral and debt of a liquidated Trove may be spread over all open Troves in proportion to
their stakes. The chain keeps only cumulative rewards per unit of stake, and each Trove the rewards
at its last change, so a Trove is owed its stake times the growth since then.
-/

set_option autoImplicit false

namespace Cdp

namespace StoredTrove

/-- Adds the rewards of one kind. -/
def applyReward (snapshots totals : RewardTotals) (t : Trove) (kind : Address) (stake : Decimal) :
    Attempt TroveError Trove := do
  let total ← Attempt.ofOption (.missingTotals kind) (totals.get? kind)
  let snapshot := (snapshots.get? kind).getD default
  let collateralGrowth ← Attempt.ofOption (.staleTotals kind)
    (total.collateral.checkedSub snapshot.collateral)
  let debtGrowth ← Attempt.ofOption (.staleTotals kind) (total.debt.checkedSub snapshot.debt)
  let pending ← stake.mul collateralGrowth
  let collaterals ←
    if pending.isZero then .ok t.collaterals else Trove.addAmount t.collaterals kind pending
  let owed ← stake.mul debtGrowth
  let debt ← t.debt.add owed
  return ⟨collaterals, debt⟩

/-- The Trove with the rewards since its last change; a Trove that is not open has none. -/
def applyRedistribution (stored : StoredTrove) (totals : RewardTotals) :
    Attempt TroveError UserTrove :=
  if !stored.user.status.isOpen then .ok stored.user
  else do
    let trove ← stored.stakes.entries.foldlM
      (fun t e => applyReward stored.snapshots totals t e.1 e.2) stored.user.trove
    return { stored.user with trove }

end StoredTrove

end Cdp
