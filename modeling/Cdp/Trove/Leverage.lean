import Cdp.Trove.Change

/-!
# Leverage

A levered deposit is multiplied with borrowed stablecoin: the contracts buy the extra collateral on
the market, and its price is added to the debt.
-/

set_option autoImplicit false

namespace Cdp

/-- A deposit after leverage, and the value of the collateral bought with borrowed stablecoin. -/
structure LeveredDeposit where
  collaterals : Collaterals
  additionalDebt : Decimal
deriving DecidableEq

/-- Refuses leverage below one, infinite leverage and slippage above one. -/
def LeverUp.validate (lever : LeverUp) (kind : Address) : Attempt TroveError Unit := do
  if lever.leverage < .one || lever.leverage.isInfinite then
    Attempt.refuse (.invalidLeverage kind lever.leverage)
  if .one < lever.maxSlippage then
    Attempt.refuse (.invalidParams (.slippage kind lever.maxSlippage))

/-- Applies the leverage of one kind. -/
def LeveredDeposit.lever (deposit : Collaterals) (prices : Prices) (acc : LeveredDeposit)
    (kind : Address) (lever : LeverUp) : Attempt TroveError LeveredDeposit := do
  let amount ← Attempt.ofOption (.invalidParams (.leverageWithoutDeposit kind)) (deposit.get? kind)
  lever.validate kind
  let factor ← lever.leverage.sub .one
  let extra ← amount.mul factor
  if extra.isZero then return acc
  let price ← prices.require kind
  let cost ← extra.mul price
  let additionalDebt ← acc.additionalDebt.add cost
  let total ← amount.add extra
  return ⟨acc.collaterals.insert kind total, additionalDebt⟩

/-- Applies leverage to a deposit, kind by kind; kinds without leverage stay as they are. -/
def leverUp (deposit : Collaterals) (leverage : AddressMap LeverUp) (prices : Prices) :
    Attempt TroveError LeveredDeposit :=
  leverage.entries.foldlM (fun acc e => acc.lever deposit prices e.1 e.2) ⟨deposit, .zero⟩

end Cdp
