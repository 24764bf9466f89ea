import Cdp.Error
import Cdp.Procedure

/-!
# Requests to the chain

The reads that the protocol's contracts answer, each at a block, and the three requests that submit
a transaction and follow it. `Chain` is the interface of the procedures that read the protocol's
state, prepare transactions and send them.
-/

set_option autoImplicit false

namespace Cdp

/-- What can be read at a block. -/
inductive Query where
  | block
  | troveStatus (owner : Address)
  | troveDebt (owner : Address)
  | troveColls (owner : Address)
  | troveStake (owner kind : Address)
  | rewardSnapshot (owner kind : Address)
  | totalRedistributed (kind : Address)
  | troveOwnersCount
  | baseRate
  | lastFeeOperationTime
  | poolDebt (pool : Pool)
  | poolCollateral (pool : Pool) (kind : Address)
  | validCollateral
  | price (kind : Address)
  | decimals (kind : Address)
  | safetyRatio (kind : Address)
  | recoveryRatio (kind : Address)
  | isWrapped (kind : Address)
  | first
  | last
  | size
  | next (id : Address)
  | prev (id : Address)
  | insertPosition (ratio : Word) (prev next : Address)
  | approxHint (ratio : Word) (trials : UInt64) (seed : Word)
  | redemptionHints (amount : Word) (maxIterations : UInt64)
deriving DecidableEq

/-- The answer to a read. -/
@[reducible] def Query.Answer : Query → Type
  | .block => BlockInfo
  | .troveStatus _ => UInt8
  | .troveColls _ => List (Address × Word)
  | .rewardSnapshot _ _ | .totalRedistributed _ => RawReward
  | .troveOwnersCount | .lastFeeOperationTime | .size => UInt64
  | .validCollateral => List Address
  | .decimals _ => UInt8
  | .isWrapped _ => Bool
  | .first | .last | .next _ | .prev _ => Address
  | .insertPosition _ _ _ => Address × Address
  | .approxHint _ _ _ => ApproxHint
  | .redemptionHints _ _ => RedemptionHints
  | .troveDebt _ | .troveStake _ _ | .baseRate | .poolDebt _ | .poolCollateral _ _ | .price _
  | .safetyRatio _ | .recoveryRatio _ => Word

/-- A request to the chain. -/
inductive ChainRequest where
  | read (query : Query) (tag : BlockTag)
  | estimateGas (call : ContractCall)
  | send (call : ContractCall)
  /-- Waits until the transaction or its replacement is mined, at most `timeout` milliseconds. -/
  | waitForReceipt (transaction : Submitted) (timeout : Nat)
deriving DecidableEq

/-- The answer to a request. -/
@[reducible] def ChainRequest.Answer : ChainRequest → Type
  | .read query _ => query.Answer
  | .estimateGas _ => UInt64
  | .send _ => Submitted
  | .waitForReceipt _ _ => Outcome

/-- The interface of the chain. -/
def Chain : Interface := ⟨ChainRequest, ChainRequest.Answer⟩

/-- A procedure over the chain that can be refused or break off. -/
abbrev ChainProcedure (α : Type) := Procedure Chain (Failure Error) α

/-- Reads at a block. -/
def readAt (query : Query) (tag : BlockTag) : ChainProcedure query.Answer :=
  Procedure.request (I := Chain) (fun e => .refused (.chain e)) (.read query tag)

/-- The name of a read. -/
def Query.name : Query → String
  | .block => "block"
  | .troveStatus _ => "get_trove_status"
  | .troveDebt _ => "get_trove_debt"
  | .troveColls _ => "get_trove_colls"
  | .troveStake _ _ => "get_trove_stake"
  | .rewardSnapshot _ _ => "get_reward_snapshot"
  | .totalRedistributed _ => "get_total_redistributed"
  | .troveOwnersCount => "get_trove_owners_count"
  | .baseRate => "base_rate"
  | .lastFeeOperationTime => "last_fee_operation_time"
  | .poolDebt _ => "get_pool_debt"
  | .poolCollateral _ _ => "get_pool_collateral"
  | .validCollateral => "get_valid_collateral"
  | .price _ => "get_price"
  | .decimals _ => "get_decimals"
  | .safetyRatio _ => "get_safety_ratio"
  | .recoveryRatio _ => "get_recovery_ratio"
  | .isWrapped _ => "is_wrapped"
  | .first => "get_first"
  | .last => "get_last"
  | .size => "get_size"
  | .next _ => "get_next"
  | .prev _ => "get_prev"
  | .insertPosition _ _ _ => "find_insert_position"
  | .approxHint _ _ _ => "get_approx_hint"
  | .redemptionHints _ _ => "get_redemption_hints"

/-- The name of a request. -/
def ChainRequest.name : ChainRequest → String
  | .read query _ => query.name
  | .estimateGas _ => "estimate_gas"
  | .send _ => "send_transaction"
  | .waitForReceipt _ _ => "wait_for_receipt"

end Cdp
