import Cdp.Chain.Interface
import Cdp.Contract.Interface
import Cdp.Policy
import Cdp.Receipt.Parser

/-!
# Prepared transactions

A prepared transaction is a call with its gas limit and the way to read its receipt. The limit
covers an estimate and a padding, up to the gas limit of a block but never less than any estimate.

A transaction that borrows may wait while the base rate decays, and a smaller borrow then gives the
debt that the caller saw. Its gas is therefore estimated twice, for the call as it is and for the
call that imitates the decay, and the limit covers the worse of the two.
-/

set_option autoImplicit false

namespace Cdp

/-- A gas limit, and how far it exceeds the estimate of the call as it is. -/
structure GasEstimate where
  gasLimit : UInt64
  headroom : UInt64
deriving DecidableEq

namespace GasEstimate

/-- A limit no higher than a block's, but at least `floor`, which is at least `now`. -/
def capped (policy : Policy) (now floor limit : UInt64) : GasEstimate :=
  let gasLimit := max (min limit policy.blockGasLimit) floor
  ⟨gasLimit, gasLimit - now⟩

/-- The limit for the worse of two estimates. -/
def dual (policy : Policy) (now later updateGas : UInt64) : GasEstimate :=
  let walked := Counter.saturatingAdd now policy.listTraversalGas
  capped policy now (max now later) (Counter.saturatingAdd (max walked later) updateGas)

/-- The limit for one estimate and a padding. -/
def padded (policy : Policy) (estimate padding : UInt64) : GasEstimate :=
  capped policy estimate estimate (Counter.saturatingAdd estimate padding)

end GasEstimate

/-- A call that is ready to be sent. -/
structure Prepared (P : Type) where
  call : ContractCall
  /-- Gas above the estimate of the call as it is, where there was an estimate. -/
  gasHeadroom : Option UInt64
  parser : P

namespace Context

/-- A call of the sender to a contract. -/
def callTo (context : Context) (target : Address) (data : Bytes) : ContractCall :=
  { sender := context.sender, target, data, value := .zero, gasLimit := none }

/-- Estimates the gas of a call. -/
def estimate (call : ContractCall) : ChainProcedure UInt64 :=
  Procedure.request (I := Chain) (fun e => .refused (.chain e)) (.estimateGas call)

/-- A call with the gas limit that an estimate gives. -/
def limited (call : ContractCall) (gas : GasEstimate) : ContractCall × Option UInt64 :=
  ({ call with gasLimit := some gas.gasLimit }, some gas.headroom)

/-- Sets the limit that the caller pins, or estimates and pads one. -/
def withGas (context : Context) (call : ContractCall) (pinned : Option UInt64) (padding : UInt64) :
    ChainProcedure (ContractCall × Option UInt64) :=
  match pinned with
  | some limit => pure ({ call with gasLimit := some limit }, none)
  | none => do
    let now ← estimate call
    return limited call (.padded context.policy now padding)

/-- Estimates the call as it is and the call that imitates the decay. -/
def withDualGas (context : Context) (call later : ContractCall) (updateGas : UInt64) :
    ChainProcedure (ContractCall × Option UInt64) := do
  let gasNow ← estimate call
  let gasLater ← estimate later
  return limited call (.dual context.policy gasNow gasLater updateGas)

end Context

end Cdp
