import Cdp.Address
import Cdp.Counter

/-!
# Policy and context

How much gas a transaction reserves, how far rates may move against it, and how hard the search for
insert positions tries; and the contracts and the sender that every prepared transaction refers to.
-/

set_option autoImplicit false

namespace Cdp

structure Policy where
  /-- Minutes that a transaction may wait while its debt still passes the minimum. -/
  decayToleranceMinutes : UInt64 := 10
  /-- Gas for a walk along the sorted list where the hints have become stale. -/
  listTraversalGas : UInt64 := 25000
  /-- The fixed part of the gas for updating the base rate. -/
  baseRateUpdateGas : UInt64 := 10000
  /-- Gas for each squaring in the contracts' power function. -/
  baseRateUpdateGasPerSquaring : UInt64 := 1414
  blockGasLimit : UInt64 := 30000000
  /-- Added to the current borrowing rate where the caller accepts no rate of its own. -/
  borrowingRateSlippage : Decimal := .thousandths 5
  /-- Added to the current redemption rate where the caller accepts no rate of its own. -/
  redemptionRateSlippage : Decimal := .thousandths 1
  redeemMaxIterations : UInt64 := 70
  /-- Samples per square root of the list size. -/
  hintTrialsFactor : UInt64 := 10
  /-- The most samples in one request. -/
  maxTrialsPerCall : UInt64 := 2500
deriving DecidableEq

/-- The policy of those who ask for nothing else. -/
def Policy.standard : Policy := {}

/-- The deployed contracts. -/
structure ContractAddresses where
  borrowerOperations : Address
  troveManager : Address
  sortedTroves : Address
  hintHelpers : Address
  whitelist : Address
  activePool : Address
  defaultPool : Address
deriving DecidableEq

/-- What every prepared transaction refers to; the sender signs and pays. -/
structure Context where
  addresses : ContractAddresses
  sender : Address
  policy : Policy
deriving DecidableEq

namespace Policy

/-- Binary digits of a number, none for zero. -/
def bitLength (n : Nat) : Nat := if n = 0 then 0 else Nat.log2 n + 1

/-- Gas for letting the base rate decay by a number of minutes: the contracts square once for each
binary digit of the exponent. -/
def updateGas (policy : Policy) (minutes : UInt64) : Except Fault UInt64 := do
  let squarings ← Counter.mul policy.baseRateUpdateGasPerSquaring
    (UInt64.ofNat (bitLength minutes.toNat))
  Counter.add policy.baseRateUpdateGas squarings

/-- Gas for the decay over the whole time that a transaction may wait. -/
def decayToleranceGas (policy : Policy) : Except Fault UInt64 :=
  policy.updateGas policy.decayToleranceMinutes

/-- The seconds that a transaction may wait. -/
def decayToleranceSeconds (policy : Policy) : Except Fault UInt64 :=
  Counter.mul policy.decayToleranceMinutes 60

end Policy

end Cdp
