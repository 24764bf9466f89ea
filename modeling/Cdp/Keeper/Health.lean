import Cdp.Chain.Positions

/-!
# The health of Troves

The health of a Trove is its collateral ratio over the weighted ratio at which it may be
liquidated; below one it may be. In recovery mode the recovery ratios count, else the safety
ratios. The riskiest Troves stand at the tail of the list, which is walked up to a depth.
-/

set_option autoImplicit false

namespace Cdp

/-- The health of an owner's Trove as of a block. -/
structure TroveHealth where
  owner : Address
  health : Decimal
  collateralRatio : Decimal
  debt : Decimal
  block : UInt64
deriving DecidableEq

def TroveHealth.isLiquidatable (h : TroveHealth) : Bool := decide (h.health < .one)

namespace Whitelist

/-- The ratios below which a Trove may be liquidated. -/
def thresholds (w : Whitelist) (recoveryMode : Bool) : Ratios :=
  if recoveryMode then w.recoveryRatios else w.safetyRatios

/-- The collateral ratio over the weighted threshold. It is infinite where the collateral ratio is
or the quotient leaves its range, and zero where the collateral is worth nothing. -/
def healthFactor (w : Whitelist) (trove : Trove) (collateralRatio : Decimal)
    (recoveryMode : Bool) : Attempt TroveError Decimal := do
  if collateralRatio.isInfinite then return .infinity
  let value ← trove.collateralValue w.prices
  if value.isZero then return .zero
  let threshold ← trove.weightedRatio w.prices (w.thresholds recoveryMode)
  return (collateralRatio.checkedDiv threshold).getD .infinity

/-- The health of a Trove; a Trove that is not open has none. -/
def assess (w : Whitelist) (user : UserTrove) (recoveryMode : Bool) (block : UInt64) :
    Attempt TroveError (Option TroveHealth) :=
  if !user.status.isOpen then .ok none
  else do
    let collateralRatio ← user.trove.collateralRatio w.prices
    let health ← w.healthFactor user.trove collateralRatio recoveryMode
    return some ⟨user.owner, health, collateralRatio, user.trove.debt, block⟩

end Whitelist

namespace Chain

/-- Walks from an owner toward the head of the list, past at most `depth` owners. -/
def walkUp (tag : BlockTag) : Nat → Address → ChainProcedure (List Address)
  | 0, _ => return []
  | depth + 1, current =>
    if current.isZero then return []
    else do
      let next ← readAt (.prev current) tag
      let others ← walkUp tag depth next
      return current :: others

/-- Up to `depth` owners from the tail of the list, the last one first. -/
def scanTail (depth : Nat) (tag : BlockTag) : ChainProcedure (List Address) := do
  let last ← readAt .last tag
  walkUp tag depth last

/-- The health of the open Troves among some owners, all read at one block. -/
def assessTroves (whitelist : Whitelist) (owners : List Address) (recoveryMode : Bool)
    (block : UInt64) : ChainProcedure (List TroveHealth) := do
  let users ← owners.mapM fun owner => readTrove owner whitelist (.number block)
  let scores ← (users.mapM fun user =>
    (whitelist.assess user recoveryMode block : Attempt Error (Option TroveHealth)))
  return scores.filterMap id

end Chain

end Cdp
