import Cdp.InsertHint.Search
import Cdp.Transaction.Leverage

/-!
# Preparing redemptions

A redemption exchanges stablecoin for the collateral of the riskiest Troves. The contracts redeem
whole Troves and at most one in part, which keeps the minimum net debt, so a redemption may cover
less than was asked for. It can then be continued with the covered amount plus the minimum net
debt, under the rate that was pinned for it.
-/

set_option autoImplicit false

namespace Cdp

/-- A prepared redemption and how much of the request it covers. -/
structure PreparedRedemption where
  transaction : Prepared RedemptionParser
  attempted : Decimal
  redeemable : Decimal
  isTruncated : Bool
  /-- The highest rate that the caller pinned. -/
  pinnedRate : Option Decimal

namespace Context

/-- The highest redemption rate to accept by default: the rate for the redeemed fraction of the
total debt and some slippage, up to one. -/
def defaultRedemptionRate (context : Context) (fees : Fees) (redeemable totalDebt : Decimal) :
    Except Fault Decimal := do
  let fraction := min ((redeemable.checkedDiv totalDebt).getD .one) .one
  let rate ← fees.redemptionRate fraction
  let sum ← rate.add context.policy.redemptionRateSlippage
  return min sum .one

/-- Prepares a redemption where the state of the system and the hints to the Troves are known. -/
def redeemFound (context : Context) (amount : Decimal) (maxRate : Option Decimal)
    (gasLimit : Option UInt64) (seed : Word) (state : SystemState) (found : RedemptionHints) :
    ChainProcedure PreparedRedemption := do
  let policy := context.policy
  let redeemable : Decimal := ⟨found.truncatedAmount⟩
  if redeemable.isZero then
    Procedure.fail (.refused (.redemptionTooLow Protocol.minimumNetDebt))
  let partialRatio : Decimal := ⟨found.partialRatio⟩
  let hints ←
    if partialRatio.isZero then pure HintPair.none
    else (HintFinder.ofPolicy policy).findWithSeed partialRatio none seed
  let fees ← state.feesAfter 0
  let rate ←
    match maxRate with
    | some pinned => (.ok pinned : Except Fault Decimal)
    | none => context.defaultRedemptionRate fees redeemable state.total.debt
  let data := Contract.redeemCollateral.call [.word redeemable.raw, .word rate.raw,
    .address found.first, .address hints.prev, .address hints.next, .word partialRatio.raw,
    .counter policy.redeemMaxIterations]
  let padding ← policy.decayToleranceGas
  let (call, gasHeadroom) ←
    context.withGas (context.callTo context.addresses.troveManager data) gasLimit padding
  return {
    transaction :=
      { call, gasHeadroom
        parser := ⟨context.addresses.troveManager, state.whitelist.decimals⟩ }
    attempted := amount
    redeemable
    isTruncated := decide (redeemable < amount)
    pinnedRate := maxRate }

/-- Prepares the redemption of up to `amount` of stablecoin. -/
def redeem (context : Context) (amount : Decimal) (maxRate : Option Decimal)
    (gasLimit : Option UInt64) (seed : Word) : ChainProcedure PreparedRedemption := do
  requireAmount amount .redemption
  let state ← Chain.readState .latest
  let found ← readAt (.redemptionHints amount.raw context.policy.redeemMaxIterations) .latest
  context.redeemFound amount maxRate gasLimit seed state found

end Context

namespace PreparedRedemption

/-- The amount of the continuation, if the redemption was cut short. -/
def continuationAmount (redemption : PreparedRedemption) : Except Fault (Option Decimal) :=
  if redemption.isTruncated then do
    let amount ← redemption.redeemable.add Protocol.minimumNetDebt
    return some amount
  else return none

/-- Prepares the continuation, under the rate given now or else the one pinned before. -/
def topUp (redemption : PreparedRedemption) (context : Context) (maxRate : Option Decimal)
    (seed : Word) : ChainProcedure PreparedRedemption := do
  let amount? ← redemption.continuationAmount
  let amount ← (Attempt.ofOption .redemptionNotTruncated amount? : Attempt Error Decimal)
  context.redeem amount (maxRate.or redemption.pinnedRate) none seed

end PreparedRedemption

end Cdp
