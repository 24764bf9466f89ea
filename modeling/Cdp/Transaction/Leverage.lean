import Cdp.InsertHint.Basic
import Cdp.Chain.State
import Cdp.Transaction.Prepared

/-!
# Levered changes and their encoding

Leverage turns the owner's parameters into effective ones: the deposit grows, and its price is
borrowed on top. The contracts take the owner's own parameters and the leverage of each deposited
kind, in lists that run along the deposit.
-/

set_option autoImplicit false

namespace Cdp

/-- Opens a Trove with leverage for some of the deposit. -/
structure OpenParams where
  trove : CreationParams
  leverage : AddressMap LeverUp
deriving DecidableEq

/-- Adjusts a Trove with leverage for some of the deposit. -/
structure AdjustParams where
  adjustment : AdjustmentParams
  leverage : AddressMap LeverUp
deriving DecidableEq

/-- The parameters with the levered deposit and its debt. -/
def CreationParams.levered (params : CreationParams) (levered : LeveredDeposit) :
    Except Fault CreationParams := do
  let borrow ← params.borrow.add levered.additionalDebt
  return ⟨levered.collaterals, borrow⟩

/-- The change of debt with the debt of leverage; a repayment cannot be levered. -/
def leveredDebt (debt : Option DebtChange) (additional : Decimal) :
    Attempt Error (Option DebtChange) :=
  if additional.isZero then .ok debt
  else
    match debt with
    | none => .ok (some (.borrow additional))
    | some (.borrow amount) => do
      let total ← amount.add additional
      return some (.borrow total)
    | some (.repay _) => Attempt.refuse (.invalidParams .repayWhileLevering)

/-- The parameters with the levered deposit and its debt. -/
def AdjustmentParams.levered (params : AdjustmentParams) (levered : LeveredDeposit) :
    Attempt Error AdjustmentParams := do
  let debt ← leveredDebt params.debt levered.additionalDebt
  return ⟨levered.collaterals, params.withdraw, debt⟩

namespace Contract

/-- Leverage and slippage of a list of kinds; a kind without leverage has one and none. -/
def encodeLeverage (kinds : List Address) (leverage : AddressMap LeverUp) :
    List Word × List Word :=
  (kinds.map fun kind =>
    match leverage.get? kind with
    | some lever => (lever.leverage.raw, lever.maxSlippage.raw)
    | none => (Decimal.one.raw, .zero)).unzip

/-- An amount and whether it raises the debt. -/
def encodeDebtChange : Option DebtChange → Word × Bool
  | some (.borrow amount) => (amount.raw, true)
  | some (.repay amount) => (amount.raw, false)
  | none => (.zero, false)

/-- The data of a call that opens a Trove. -/
def encodeOpen (whitelist : Whitelist) (params : OpenParams) (borrow : Decimal) (hints : HintPair)
    (maxRate : Decimal) : Attempt Error Bytes := do
  let (kinds, amounts) ← whitelist.encode params.trove.deposit
  let common := [.word maxRate.raw, .word borrow.raw, .address hints.prev, .address hints.next,
    .addresses kinds, .list amounts]
  if params.leverage.isEmpty then return openTrove.call common
  let (leverages, slippages) := encodeLeverage kinds params.leverage
  return openTroveLeverUp.call (common ++ [.list leverages, .list slippages])

/-- The data of a call that adjusts a Trove. -/
def encodeAdjust (whitelist : Whitelist) (params : AdjustParams) (debt : Option DebtChange)
    (hints : HintPair) (maxRate : Decimal) : Attempt Error Bytes := do
  let (kindsIn, amountsIn) ← whitelist.encode params.adjustment.deposit
  let (kindsOut, amountsOut) ← whitelist.encode params.adjustment.withdraw
  let (change, isIncrease) := encodeDebtChange debt
  let deposited := [.addresses kindsIn, .list amountsIn]
  let others := [.addresses kindsOut, .list amountsOut, .word change, .flag isIncrease,
    .address hints.prev, .address hints.next, .word maxRate.raw]
  if params.leverage.isEmpty then return adjustTrove.call (deposited ++ others)
  let (leverages, slippages) := encodeLeverage kindsIn params.leverage
  return adjustTroveLeverUp.call (deposited ++ [.list leverages, .list slippages] ++ others)

end Contract

end Cdp
