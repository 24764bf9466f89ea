import Cdp.Transaction.Opening

/-!
# Preparing closings and liquidations

A closing may sell some of the collateral for the debt it has to repay. Liquidations name the
owners, or a number of Troves from the tail of the list; their gas compensation goes to the sender.
-/

set_option autoImplicit false

namespace Cdp

/-- Collateral that is sold to repay debt on closing, and the slippage it may suffer. -/
structure Unlever where
  amount : Decimal
  maxSlippage : Decimal
deriving DecidableEq

/-- Refuses an amount that is zero or infinite and a slippage above one. -/
def Unlever.validate (unlever : Unlever) (kind : Address) : Attempt Error Unit := do
  requireAmount unlever.amount (.unlever kind)
  if .one < unlever.maxSlippage then
    Attempt.refuse (.invalidParams (.slippage kind unlever.maxSlippage))

/-- Refuses to sell more than the Trove holds. -/
def Trove.requireHeld (trove : Trove) (kind : Address) (amount : Decimal) :
    Attempt TroveError Unit :=
  let available := (trove.collaterals.get? kind).getD .zero
  if available < amount then Attempt.refuse (.insufficientCollateral kind available amount)
  else .ok ()

/-- The data of a call that closes a Trove. -/
def Contract.encodeClose (whitelist : Whitelist) (trove : Trove) (unlever : AddressMap Unlever) :
    Attempt Error Bytes :=
  if unlever.isEmpty then .ok (closeTrove.call [])
  else do
    let amounts : Collaterals := unlever.map (·.amount)
    amounts.entries.forM fun e => (trove.requireHeld e.1 e.2 : Attempt Error Unit)
    let (kinds, units) ← whitelist.encode amounts
    let slippages := Whitelist.align kinds (unlever.map (·.maxSlippage.raw)) .zero
    return closeTroveUnlever.call [.addresses kinds, .list units, .list slippages]

namespace Context

/-- Prepares the closing of the sender's Trove. -/
def closeTrove (context : Context) (unlever : AddressMap Unlever) (gasLimit : Option UInt64) :
    ChainProcedure (Prepared TroveChangeParser) := do
  unlever.entries.forM fun e => (e.2.validate e.1 : Attempt Error Unit)
  let whitelist ← Chain.readWhitelist .latest
  whitelist.require unlever.keys
  let user ← Chain.readTrove context.sender whitelist .latest
  let trove ← user.openTrove
  let data ← Contract.encodeClose whitelist trove unlever
  let call := context.callTo context.addresses.borrowerOperations data
  let (call, gasHeadroom) ← context.withGas call gasLimit 0
  return { call, gasHeadroom, parser := context.troveChangeParser whitelist }

/-- The parser of liquidations. -/
def liquidationParser (context : Context) (whitelist : Whitelist) : LiquidationParser :=
  ⟨context.addresses.troveManager, whitelist.decimals⟩

/-- Prepares a call of the Trove manager that liquidates, padded for a walk along the list. -/
def prepareLiquidation (context : Context) (data : Bytes) (gasLimit : Option UInt64) :
    ChainProcedure (Prepared LiquidationParser) := do
  let whitelist ← Chain.readWhitelist .latest
  let call := context.callTo context.addresses.troveManager data
  let (call, gasHeadroom) ← context.withGas call gasLimit context.policy.listTraversalGas
  return { call, gasHeadroom, parser := context.liquidationParser whitelist }

/-- Prepares the liquidation of the Troves of a list of owners. -/
def liquidate (context : Context) (owners : List Address) (gasLimit : Option UInt64) :
    ChainProcedure (Prepared LiquidationParser) :=
  if owners.isEmpty then .fail (.refused (.invalidParams .nothingToLiquidate))
  else
    context.prepareLiquidation
      (Contract.batchLiquidateTroves.call [.addresses owners, .address context.sender]) gasLimit

/-- Prepares the liquidation of up to `count` Troves from the tail of the list. -/
def liquidateUpTo (context : Context) (count : UInt64) (gasLimit : Option UInt64) :
    ChainProcedure (Prepared LiquidationParser) :=
  if count = 0 then .fail (.refused (.invalidParams .nothingToLiquidate))
  else context.prepareLiquidation (Contract.liquidateTroves.call [.counter count]) gasLimit

end Context

end Cdp
