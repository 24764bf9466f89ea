import Cdp.Protocol
import Cdp.Trove.Basic

/-!
# Totals and ratios

Three ratios of a Trove are in use. The nominal ratio, one hundred times the sum of the collateral
amounts over the debt, does not depend on prices and orders the list on the chain. The collateral
ratio is the value of the collateral over the debt. The weighted ratio averages a ratio given by
kind over the value of the collateral; a Trove is compared with it to see whether it is at risk.
A Trove without debt has infinite ratios.
-/

set_option autoImplicit false

namespace Cdp

/-- The price of a kind. -/
def Prices.require (prices : Prices) (kind : Address) : Attempt TroveError Decimal :=
  Attempt.ofOption (.missingPrice kind) (prices.get? kind)

namespace Trove

def isEmpty (t : Trove) : Bool := t.collaterals.values.all Decimal.isZero && t.debt.isZero

/-- The sum of the collateral amounts. -/
def totalCollateral (t : Trove) : Except Fault Decimal := Decimal.sum t.collaterals.values

/-- Debt without gas compensation. -/
def netDebt (t : Trove) : Decimal := t.debt.saturatingSub Protocol.gasCompensation

/-- The nominal ratio. -/
def nominalRatio (t : Trove) : Except Fault Decimal :=
  if t.debt.isZero then .ok .infinity
  else do
    let total ← t.totalCollateral
    return total.mulDiv Protocol.nominalRatioPrecision t.debt

/-- The value of one held amount. -/
def valueOf (prices : Prices) (kind : Address) (amount : Decimal) : Attempt TroveError Decimal := do
  let price ← prices.require kind
  amount.mul price

/-- The value of the collateral; every held kind must have a price. -/
def collateralValue (t : Trove) (prices : Prices) : Attempt TroveError Decimal :=
  t.collaterals.entries.foldlM (fun sum e => do
    let value ← valueOf prices e.1 e.2
    sum.add value) .zero

/-- The value of the collateral over the debt. -/
def collateralRatio (t : Trove) (prices : Prices) : Attempt TroveError Decimal := do
  let value ← t.collateralValue prices
  if t.debt.isZero then return .infinity
  value.div t.debt

/-- The total value and the sum of the values times their ratios. -/
def weigh (prices : Prices) (ratios : Ratios) (entries : List (Address × Decimal)) :
    Attempt TroveError (Decimal × Decimal) :=
  entries.foldlM (fun acc e => do
    let value ← valueOf prices e.1 e.2
    let ratio ← Attempt.ofOption (.missingPrice e.1) (ratios.get? e.1)
    let total ← acc.1.add value
    let part ← value.mul ratio
    let weighted ← acc.2.add part
    return (total, weighted)) (.zero, .zero)

/-- The average of `ratios` over the value of the collateral. -/
def weightedRatio (t : Trove) (prices : Prices) (ratios : Ratios) : Attempt TroveError Decimal := do
  let (total, weighted) ← weigh prices ratios t.collaterals.entries
  weighted.div total

/-- Whether the collateral ratio is below the weighted ratio. A Trove without debt never is, one
with debt and without value always. -/
def isBelow (t : Trove) (prices : Prices) (ratios : Ratios) : Attempt TroveError Bool := do
  let ratio ← t.collateralRatio prices
  if ratio.isInfinite then return false
  let value ← t.collateralValue prices
  if value.isZero then return true
  let threshold ← t.weightedRatio prices ratios
  return decide (ratio < threshold)

/-- Collateral with an amount added to one kind. -/
def addAmount (m : Collaterals) (kind : Address) (amount : Decimal) : Except Fault Collaterals := do
  let sum ← ((m.get? kind).getD .zero).add amount
  return m.insert kind sum

/-- The sum of two positions, kind by kind. -/
def add (t other : Trove) : Except Fault Trove := do
  let collaterals ←
    other.collaterals.entries.foldlM (fun m e => addAmount m e.1 e.2) t.collaterals
  let debt ← t.debt.add other.debt
  return ⟨collaterals, debt⟩

end Trove

end Cdp
