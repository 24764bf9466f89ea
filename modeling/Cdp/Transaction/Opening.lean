import Cdp.InsertHint.Search
import Cdp.Transaction.Leverage

/-!
# Preparing the opening and the adjustment of a Trove

Both check the parameters, read the state of the system, work out the Trove that the change gives
at the current rate, find its place in the list and encode the call. Where the call borrows and no
gas limit is pinned, a second call imitates the decay of the borrowing fee while the first one
waits, and the debt at the end of the wait must still pass the minimum.
-/

set_option autoImplicit false

namespace Cdp

namespace Context

/-- The parser of the sender's changes. -/
def troveChangeParser (context : Context) (whitelist : Whitelist) : TroveChangeParser :=
  ⟨context.addresses.borrowerOperations, context.sender, whitelist.decimals⟩

/-- The refusal of a debt that falls below the minimum while the fee decays. -/
def debtDecay (context : Context) : Error :=
  .debtDecay context.policy.decayToleranceMinutes Protocol.minimumDebt

/-- The borrowing rate at the end of the time that a transaction may wait. -/
def decayedRate (context : Context) (fees : Fees) : Except Fault Decimal := do
  let wait ← context.policy.decayToleranceSeconds
  let time ← Counter.add fees.timestamp wait
  fees.borrowingRateAt time

/-- Gas for the update of the base rate, which does not happen in recovery mode. -/
def updateGas (context : Context) (fees : Fees) : Except Fault UInt64 :=
  if fees.recoveryMode then .ok 0 else context.policy.decayToleranceGas

/-! ## Opening -/

/-- The Trove at the decayed rate, if its debt passes the minimum. -/
def decayedOpening (context : Context) (effective : CreationParams) (decayedRate : Decimal) :
    Attempt Error Trove :=
  match Trove.create effective decayedRate with
  | .error (.refused (.belowMinimumDebt _ _)) => Attempt.refuse context.debtDecay
  | .error failure => .error (failure.map .trove)
  | .ok decayed =>
    if decayed.debt < Protocol.minimumDebt then Attempt.refuse context.debtDecay else .ok decayed

/-- The owner's own borrow that gives, at the current rate, the debt that the whole borrow gives at
the decayed rate. -/
def simulatedBorrow (decayed : Trove) (rate additionalDebt : Decimal) : Except Fault Decimal := do
  let recreated ← decayed.recreate rate
  return recreated.borrow.saturatingSub additionalDebt

/-- The data of the call that imitates the decay of the fee. -/
def laterOpening (context : Context) (whitelist : Whitelist) (params : OpenParams) (fees : Fees)
    (rate : Decimal) (levered : LeveredDeposit) (effective : CreationParams) (hints : HintPair)
    (maxRate : Decimal) : Attempt Error Bytes := do
  let decayedRate ← context.decayedRate fees
  let decayed ← context.decayedOpening effective decayedRate
  let borrow ← simulatedBorrow decayed rate levered.additionalDebt
  Contract.encodeOpen whitelist params borrow hints maxRate

/-- Prepares the opening of a Trove. `maxRate` is the highest fee to accept, by default the current
rate and some slippage; a pinned `gasLimit` is taken without estimates. -/
def openTrove (context : Context) (params : OpenParams) (maxRate : Option Decimal)
    (gasLimit : Option UInt64) (seed : Word) : ChainProcedure (Prepared TroveChangeParser) := do
  params.trove.validate
  let state ← Chain.readState .latest
  let whitelist := state.whitelist
  whitelist.require params.trove.deposit.keys
  let fees ← state.feesAfter 0
  let rate ← fees.borrowingRate
  let levered ← leverUp params.trove.deposit params.leverage whitelist.prices
  let effective ← params.trove.levered levered
  let trove ← Trove.create effective rate
  let hints ← (HintFinder.ofPolicy context.policy).findForTrove trove none seed
  let defaultRate ← rate.add context.policy.borrowingRateSlippage
  let maxRate := maxRate.getD defaultRate
  let data ← Contract.encodeOpen whitelist params params.trove.borrow hints maxRate
  let call := context.callTo context.addresses.borrowerOperations data
  let (call, gasHeadroom) ←
    match gasLimit with
    | some _ => context.withGas call gasLimit 0
    | none => do
      let data ← context.laterOpening whitelist params fees rate levered effective hints maxRate
      let later := context.callTo context.addresses.borrowerOperations data
      let updateGas ← context.updateGas fees
      context.withDualGas call later updateGas
  return { call, gasHeadroom, parser := context.troveChangeParser whitelist }

/-! ## Adjusting -/

/-- The owner's own borrow that leads, at the current rate, to the debt that the whole borrow gives
at the decayed rate. -/
def simulatedChange (trove decayed : Trove) (rate additionalDebt : Decimal) :
    Except Fault (Option DebtChange) := do
  let change ← trove.adjustTo decayed rate
  match change.debt with
  | some (.borrow amount) =>
    let own := amount.saturatingSub additionalDebt
    return if own.isZero then none else some (.borrow own)
  | _ => return none

/-- The data of the call that imitates the decay of the fee. -/
def laterAdjustment (context : Context) (whitelist : Whitelist) (params : AdjustParams)
    (fees : Fees) (rate : Decimal) (trove : Trove) (levered : LeveredDeposit)
    (effective : AdjustmentParams) (hints : HintPair) (maxRate : Decimal) :
    Attempt Error Bytes := do
  let decayedRate ← context.decayedRate fees
  let decayed ← trove.adjust effective decayedRate
  let change ← simulatedChange trove decayed rate levered.additionalDebt
  Contract.encodeAdjust whitelist params change hints maxRate

/-- Prepares an adjustment of the sender's Trove. Only a call that borrows is estimated twice;
others pay no fee and are padded for a walk along the list. -/
def adjustTrove (context : Context) (params : AdjustParams) (maxRate : Option Decimal)
    (gasLimit : Option UInt64) (seed : Word) : ChainProcedure (Prepared TroveChangeParser) := do
  params.adjustment.validate
  if !params.leverage.isEmpty && params.adjustment.isRepaying then
    Procedure.fail (.refused (.invalidParams .repayWhileLevering))
  let state ← Chain.readState .latest
  let whitelist := state.whitelist
  whitelist.require (params.adjustment.deposit.keys ++ params.adjustment.withdraw.keys)
  let user ← Chain.readTrove context.sender whitelist .latest
  let trove ← user.openTrove
  let fees ← state.feesAfter 0
  let rate ← fees.borrowingRate
  let levered ← leverUp params.adjustment.deposit params.leverage whitelist.prices
  let effective ← params.adjustment.levered levered
  let adjusted ← trove.adjust effective rate
  let hints ← (HintFinder.ofPolicy context.policy).findForTrove adjusted (some context.sender) seed
  let defaultRate ←
    if effective.isBorrowing then rate.add context.policy.borrowingRateSlippage
    else (.ok .zero : Except Fault Decimal)
  let maxRate := maxRate.getD defaultRate
  let data ← Contract.encodeAdjust whitelist params params.adjustment.debt hints maxRate
  let call := context.callTo context.addresses.borrowerOperations data
  let (call, gasHeadroom) ←
    match gasLimit, effective.isBorrowing with
    | some _, _ => context.withGas call gasLimit 0
    | none, false => context.withGas call none context.policy.listTraversalGas
    | none, true => do
      let data ←
        context.laterAdjustment whitelist params fees rate trove levered effective hints maxRate
      let later := context.callTo context.addresses.borrowerOperations data
      let updateGas ← context.updateGas fees
      context.withDualGas call later updateGas
  return { call, gasHeadroom, parser := context.troveChangeParser whitelist }

end Context

end Cdp
