import Cdp.Decimal.Basic

/-!
# Protocol constants

The amounts and rates that the deployed contracts fix. Debt checks and fee projections disagree
with the chain if any of them is off by a raw unit.
-/

set_option autoImplicit false

namespace Cdp.Protocol

/-- Debt that every Trove carries for the gas of its liquidator and gets back when it is closed. -/
def gasCompensation : Decimal := .ofUInt64 200

/-- The smallest debt without gas compensation. -/
def minimumNetDebt : Decimal := .ofUInt64 1800

/-- The smallest debt with gas compensation. -/
def minimumDebt : Decimal := .ofUInt64 2000

/-- The factor by which the base rate shrinks in a minute; it halves in twelve hours. -/
def minuteDecayFactor : Decimal := ⟨⟨999037758833783000, by decide⟩⟩

/-- The divisor of the redeemed fraction of the supply in the redemption rate. -/
def beta : Decimal := .ofUInt64 2

/-- Half a percent. -/
def borrowingFeeFloor : Decimal := .thousandths 5

/-- Five percent. -/
def maxBorrowingFee : Decimal := .thousandths 50

/-- Half a percent. -/
def redemptionFeeFloor : Decimal := .thousandths 5

/-- Nominal ratios are multiplied by one hundred for precision in the sorted list. -/
def nominalRatioPrecision : Decimal := .ofUInt64 100

theorem minimumDebt_eq :
    minimumDebt.rawNat = minimumNetDebt.rawNat + gasCompensation.rawNat := rfl

end Cdp.Protocol
