import Cdp.Json.TroveForms
import Cdp.Chain.State
import Cdp.Transaction.Closing

/-!
# Forms of the system's state and of policies

The parts of a policy and the leverage of a change may be left out; they then have their defaults.
-/

set_option autoImplicit false

namespace Cdp

open Json.Record

instance : JsonForm FeesFactory where
  write f := .object
    [("base_rate_without_decay", write f.baseRateWithoutDecay),
      ("last_fee_operation_time", write f.lastFeeOperationTime)]
  read := read? do
    let baseRateWithoutDecay ← required "base_rate_without_decay"
    let lastFeeOperationTime ← required "last_fee_operation_time"
    return ⟨baseRateWithoutDecay, lastFeeOperationTime⟩

instance : JsonForm Fees where
  write f := .object
    [("base_rate_without_decay", write f.baseRateWithoutDecay),
      ("minute_decay_factor", write f.minuteDecayFactor),
      ("beta", write f.beta),
      ("last_fee_operation_time", write f.lastFeeOperationTime),
      ("timestamp", write f.timestamp),
      ("recovery_mode", write f.recoveryMode)]
  read := read? do
    let baseRateWithoutDecay ← required "base_rate_without_decay"
    let minuteDecayFactor ← required "minute_decay_factor"
    let beta ← required "beta"
    let lastFeeOperationTime ← required "last_fee_operation_time"
    let timestamp ← required "timestamp"
    let recoveryMode ← required "recovery_mode"
    return ⟨baseRateWithoutDecay, minuteDecayFactor, beta, lastFeeOperationTime, timestamp,
      recoveryMode⟩

instance : JsonForm CollateralInfo where
  write i := .object
    [("decimals", write i.decimals),
      ("price", write i.price),
      ("safety_ratio", write i.safetyRatio),
      ("recovery_ratio", write i.recoveryRatio),
      ("wrapped", write i.wrapped)]
  read := read? do
    let decimals ← required "decimals"
    let price ← required "price"
    let safetyRatio ← required "safety_ratio"
    let recoveryRatio ← required "recovery_ratio"
    let wrapped ← required "wrapped"
    return ⟨decimals, price, safetyRatio, recoveryRatio, wrapped⟩

/-- The order and the entries of a whitelist are taken as they are. -/
instance : JsonForm Whitelist where
  write w := .object [("order", write w.order), ("info", write w.info)]
  read := read? do
    let order ← required "order"
    let info ← required "info"
    return ⟨order, info⟩

instance : JsonForm BlockInfo where
  write b := .object [("number", write b.number), ("timestamp", write b.timestamp)]
  read := read? do
    let number ← required "number"
    let timestamp ← required "timestamp"
    return ⟨number, timestamp⟩

instance : JsonForm SystemState where
  write s := .object
    [("block", write s.block),
      ("collateral", write s.whitelist),
      ("total", write s.total),
      ("fees_factory", write s.feesFactory)]
  read := read? do
    let block ← required "block"
    let whitelist ← required "collateral"
    let total ← required "total"
    let feesFactory ← required "fees_factory"
    return ⟨block, whitelist, total, feesFactory⟩

instance : JsonForm HintPair where
  write p := .object [("prev", write p.prev), ("next", write p.next)]
  read := read? do
    let prev ← required "prev"
    let next ← required "next"
    return ⟨prev, next⟩

/-- The name of an operation in data. -/
def TroveOperation.key : TroveOperation → String
  | .open => "Open"
  | .close => "Close"
  | .adjust => "Adjust"

def TroveOperation.ofKey? : String → Option TroveOperation
  | "Open" => some .open
  | "Close" => some .close
  | "Adjust" => some .adjust
  | _ => none

instance : JsonForm TroveOperation where
  write o := .string o.key
  read j := j.caseName?.bind TroveOperation.ofKey?

instance : JsonForm ContractAddresses where
  write a := .object
    [("borrower_operations", write a.borrowerOperations),
      ("trove_manager", write a.troveManager),
      ("sorted_troves", write a.sortedTroves),
      ("hint_helpers", write a.hintHelpers),
      ("whitelist", write a.whitelist),
      ("active_pool", write a.activePool),
      ("default_pool", write a.defaultPool)]
  read := read? do
    let borrowerOperations ← required "borrower_operations"
    let troveManager ← required "trove_manager"
    let sortedTroves ← required "sorted_troves"
    let hintHelpers ← required "hint_helpers"
    let whitelist ← required "whitelist"
    let activePool ← required "active_pool"
    let defaultPool ← required "default_pool"
    return ⟨borrowerOperations, troveManager, sortedTroves, hintHelpers, whitelist, activePool,
      defaultPool⟩

instance : JsonForm Policy where
  write p := .object
    [("borrowing_fee_decay_tolerance_minutes", write p.decayToleranceMinutes),
      ("list_traversal_gas", write p.listTraversalGas),
      ("base_rate_update_gas", write p.baseRateUpdateGas),
      ("base_rate_update_gas_per_squaring", write p.baseRateUpdateGasPerSquaring),
      ("block_gas_limit", write p.blockGasLimit),
      ("borrowing_rate_slippage", write p.borrowingRateSlippage),
      ("redemption_rate_slippage", write p.redemptionRateSlippage),
      ("redeem_max_iterations", write p.redeemMaxIterations),
      ("hint_trials_factor", write p.hintTrialsFactor),
      ("max_trials_per_call", write p.maxTrialsPerCall)]
  read := read? do
    let p := Policy.standard
    let decayToleranceMinutes ←
      withDefault "borrowing_fee_decay_tolerance_minutes" p.decayToleranceMinutes
    let listTraversalGas ← withDefault "list_traversal_gas" p.listTraversalGas
    let baseRateUpdateGas ← withDefault "base_rate_update_gas" p.baseRateUpdateGas
    let baseRateUpdateGasPerSquaring ←
      withDefault "base_rate_update_gas_per_squaring" p.baseRateUpdateGasPerSquaring
    let blockGasLimit ← withDefault "block_gas_limit" p.blockGasLimit
    let borrowingRateSlippage ← withDefault "borrowing_rate_slippage" p.borrowingRateSlippage
    let redemptionRateSlippage ← withDefault "redemption_rate_slippage" p.redemptionRateSlippage
    let redeemMaxIterations ← withDefault "redeem_max_iterations" p.redeemMaxIterations
    let hintTrialsFactor ← withDefault "hint_trials_factor" p.hintTrialsFactor
    let maxTrialsPerCall ← withDefault "max_trials_per_call" p.maxTrialsPerCall
    return ⟨decayToleranceMinutes, listTraversalGas, baseRateUpdateGas,
      baseRateUpdateGasPerSquaring, blockGasLimit, borrowingRateSlippage, redemptionRateSlippage,
      redeemMaxIterations, hintTrialsFactor, maxTrialsPerCall⟩

instance : JsonForm Context where
  write c := .object
    [("addresses", write c.addresses), ("sender", write c.sender), ("config", write c.policy)]
  read := read? do
    let addresses ← required "addresses"
    let sender ← required "sender"
    let policy ← withDefault "config" Policy.standard
    return ⟨addresses, sender, policy⟩

instance : JsonForm OpenParams where
  write p := .object [("trove", write p.trove), ("leverage", write p.leverage)]
  read := read? do
    let trove ← required "trove"
    let leverage ← withDefault "leverage" .empty
    return ⟨trove, leverage⟩

instance : JsonForm AdjustParams where
  write p := .object [("adjustment", write p.adjustment), ("leverage", write p.leverage)]
  read := read? do
    let adjustment ← required "adjustment"
    let leverage ← withDefault "leverage" .empty
    return ⟨adjustment, leverage⟩

instance : JsonForm Unlever where
  write u := .object [("amount", write u.amount), ("max_slippage", write u.maxSlippage)]
  read := read? do
    let amount ← required "amount"
    let maxSlippage ← required "max_slippage"
    return ⟨amount, maxSlippage⟩

/-- A tag is only ever written. -/
def BlockTag.toJson (tag : BlockTag) : Json := .string tag.quantity

end Cdp
