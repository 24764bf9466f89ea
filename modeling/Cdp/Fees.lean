import Cdp.Attempt
import Cdp.Counter
import Cdp.Decimal.Power
import Cdp.Protocol

/-!
# Fees

Borrowing and redemption cost a fee that follows a base rate. Redemptions raise the base rate, and
it decays with every full minute since the last fee operation. The rate that a transaction pays
depends on the block it lands in, so fees are evaluated at any time that the caller asks about.
-/

set_option autoImplicit false

namespace Cdp

/-- The two values of the fee state on the chain. Times are in seconds. -/
structure FeesFactory where
  baseRateWithoutDecay : Decimal
  lastFeeOperationTime : UInt64
deriving DecidableEq

/-- Fees as a block at `timestamp` sees them. -/
structure Fees where
  baseRateWithoutDecay : Decimal
  minuteDecayFactor : Decimal
  beta : Decimal
  lastFeeOperationTime : UInt64
  timestamp : UInt64
  recoveryMode : Bool
deriving DecidableEq

/-- The fees of a block. -/
def FeesFactory.at (factory : FeesFactory) (timestamp : UInt64) (recoveryMode : Bool) : Fees :=
  { baseRateWithoutDecay := factory.baseRateWithoutDecay
    minuteDecayFactor := Protocol.minuteDecayFactor
    beta := Protocol.beta
    lastFeeOperationTime := factory.lastFeeOperationTime
    timestamp
    recoveryMode }

namespace Fees

/-- Full minutes since the last fee operation; a time before it counts as none. -/
def minutesAt (fees : Fees) (time : UInt64) : UInt64 :=
  Counter.saturatingSub time fees.lastFeeOperationTime / 60

/-- The base rate after its decay. -/
def baseRateAt (fees : Fees) (time : UInt64) : Except Fault Decimal :=
  (fees.minuteDecayFactor.pow (fees.minutesAt time).toNat).mul fees.baseRateWithoutDecay

/-- The borrowing rate: none in recovery mode, else the floor plus the base rate up to a maximum. -/
def borrowingRateAt (fees : Fees) (time : UInt64) : Except Fault Decimal :=
  if fees.recoveryMode then .ok .zero
  else do
    let base ← fees.baseRateAt time
    let rate ← Protocol.borrowingFeeFloor.add base
    return min rate Protocol.maxBorrowingFee

/-- The redemption rate for a fraction of the supply: the floor, the base rate and the fraction
over beta, up to one. -/
def redemptionRateAt (fees : Fees) (fraction : Decimal) (time : UInt64) :
    Except Fault Decimal := do
  let raised ← fraction.div fees.beta
  let base ← fees.baseRateAt time
  let rate ← Protocol.redemptionFeeFloor.add base
  let total ← rate.add raised
  return min total .one

def baseRate (fees : Fees) : Except Fault Decimal := fees.baseRateAt fees.timestamp

def borrowingRate (fees : Fees) : Except Fault Decimal := fees.borrowingRateAt fees.timestamp

def redemptionRate (fees : Fees) (fraction : Decimal) : Except Fault Decimal :=
  fees.redemptionRateAt fraction fees.timestamp

end Fees

end Cdp
