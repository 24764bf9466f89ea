import Cdp.Trove.Ratio

/-!
# Opening and adjusting

A new Trove owes what it borrows, the borrowing fee and the gas compensation. An adjustment adds
deposits, takes out withdrawals and changes the debt; the fee is charged on the borrowed part. Both
refuse to leave less than the minimum net debt where debt is set anew or repaid.

`recreate` and `adjustTo` go the other way, from a wanted Trove to the parameters that lead to it,
up to the rounding of the fee.
-/

set_option autoImplicit false

namespace Cdp

/-- Refuses amounts that are zero or infinite. -/
def requireAmount (amount : Decimal) (role : AmountRole) : Attempt TroveError Unit :=
  if amount.isZero || amount.isInfinite then Attempt.refuse (.invalidAmount role) else .ok ()

/-- Refuses the first amount that is zero or infinite. -/
def requireAmounts (amounts : Collaterals) (role : Address → AmountRole) :
    Attempt TroveError Unit :=
  amounts.entries.forM fun e => requireAmount e.2 (role e.1)

/-- The rules that creation parameters keep on their own. -/
def CreationParams.validate (params : CreationParams) : Attempt TroveError Unit := do
  if params.deposit.isEmpty then Attempt.refuse (.invalidParams .noDeposit)
  requireAmounts params.deposit .deposit
  requireAmount params.borrow .borrow

namespace AdjustmentParams

def isEmpty (params : AdjustmentParams) : Bool :=
  params.deposit.isEmpty && params.withdraw.isEmpty && params.debt.isNone

def isBorrowing (params : AdjustmentParams) : Bool :=
  match params.debt with
  | some (.borrow _) => true
  | _ => false

def isRepaying (params : AdjustmentParams) : Bool :=
  match params.debt with
  | some (.repay _) => true
  | _ => false

/-- The rules that adjustment parameters keep on their own. -/
def validate (params : AdjustmentParams) : Attempt TroveError Unit := do
  if params.isEmpty then Attempt.refuse (.invalidParams .nothingChanges)
  requireAmounts params.deposit .deposit
  requireAmounts params.withdraw .withdrawal
  match params.deposit.keys.find? params.withdraw.contains with
  | some kind => Attempt.refuse (.duplicateCollateral kind)
  | none =>
    match params.debt with
    | some (.borrow amount) => requireAmount amount .borrow
    | some (.repay amount) => requireAmount amount .repayment
    | none => return ()

end AdjustmentParams

/-- The fee for borrowing an amount. -/
def borrowingFee (amount rate : Decimal) : Except Fault Decimal := amount.mul rate

/-- A borrowed amount with its fee, unless it leaves the range of decimals. -/
def feeInclusive? (amount rate : Decimal) : Option Decimal := do
  let fee ← amount.checkedMul rate
  amount.checkedAdd fee

/-- A borrowed amount with its fee. -/
def feeInclusive (amount rate : Decimal) : Attempt TroveError Decimal :=
  Attempt.ofOption (.invalidAmount .borrow) (feeInclusive? amount rate)

/-- Refuses a net debt below the minimum. -/
def requireNetDebt (netDebt : Decimal) : Attempt TroveError Unit :=
  if netDebt < Protocol.minimumNetDebt then
    Attempt.refuse (.belowMinimumDebt netDebt Protocol.minimumNetDebt)
  else .ok ()

namespace Trove

/-- The Trove that opening with `params` at a borrowing rate gives. -/
def create (params : CreationParams) (rate : Decimal) : Attempt TroveError Trove := do
  params.validate
  let netDebt ← feeInclusive params.borrow rate
  requireNetDebt netDebt
  let debt ← Attempt.ofOption (.invalidAmount .borrow) (netDebt.checkedAdd Protocol.gasCompensation)
  return ⟨params.deposit, debt⟩

/-- The parameters that give this Trove at a borrowing rate. -/
def recreate (t : Trove) (rate : Decimal) : Except Fault CreationParams := do
  let divisor ← Decimal.one.add rate
  let borrow ← t.netDebt.div divisor
  return ⟨t.collaterals, borrow⟩

/-- Adds one deposit. -/
def depositInto (m : Collaterals) (kind : Address) (amount : Decimal) :
    Attempt TroveError Collaterals := do
  let sum ← Attempt.ofOption (.invalidAmount (.deposit kind))
    (((m.get? kind).getD .zero).checkedAdd amount)
  return m.insert kind sum

/-- Takes out one withdrawal; a kind with nothing left is dropped. -/
def withdrawFrom (m : Collaterals) (kind : Address) (amount : Decimal) :
    Attempt TroveError Collaterals := do
  let available := (m.get? kind).getD .zero
  let remaining ← Attempt.ofOption (.insufficientCollateral kind available amount)
    (available.checkedSub amount)
  return if remaining.isZero then m.erase kind else m.insert kind remaining

/-- The debt after a change at a borrowing rate. -/
def changeDebt (t : Trove) (rate : Decimal) : Option DebtChange → Attempt TroveError Decimal
  | none => .ok t.debt
  | some (.borrow amount) => do
    let added ← feeInclusive amount rate
    Attempt.ofOption (.invalidAmount .borrow) (t.debt.checkedAdd added)
  | some (.repay amount) => do
    let repayable := t.netDebt
    if repayable < amount then Attempt.refuse (.repayExceedsDebt amount repayable)
    let debt ← t.debt.sub amount
    requireNetDebt (debt.saturatingSub Protocol.gasCompensation)
    return debt

/-- The Trove after a signed change at a borrowing rate. -/
def adjust (t : Trove) (params : AdjustmentParams) (rate : Decimal) : Attempt TroveError Trove := do
  params.validate
  let deposited ← params.deposit.entries.foldlM (fun m e => depositInto m e.1 e.2) t.collaterals
  let collaterals ← params.withdraw.entries.foldlM (fun m e => withdrawFrom m e.1 e.2) deposited
  let debt ← t.changeDebt rate params.debt
  return ⟨collaterals, debt⟩

/-- Deposits and withdrawals that turn the held amount of a kind into the wanted one. -/
def reachAmount (held : Collaterals) (change : Collaterals × Collaterals)
    (kind : Address) (wanted : Decimal) : Except Fault (Collaterals × Collaterals) := do
  let amount := (held.get? kind).getD .zero
  if amount < wanted then
    let missing ← wanted.sub amount
    return (change.1.insert kind missing, change.2)
  else if wanted < amount then
    let surplus ← amount.sub wanted
    return (change.1, change.2.insert kind surplus)
  else return change

/-- The change of debt that leads to a wanted debt at a borrowing rate. -/
def reachDebt (debt wanted rate : Decimal) : Except Fault (Option DebtChange) := do
  if debt < wanted then
    let rise ← wanted.sub debt
    let divisor ← Decimal.one.add rate
    let amount ← rise.div divisor
    return some (.borrow amount)
  else if wanted < debt then
    let fall ← debt.sub wanted
    return some (.repay fall)
  else return none

/-- The change that leads from this Trove to a wanted one at a borrowing rate. -/
def adjustTo (t target : Trove) (rate : Decimal) : Except Fault AdjustmentParams := do
  let (deposit, reduced) ←
    target.collaterals.entries.foldlM
      (fun change e => reachAmount t.collaterals change e.1 e.2) (.empty, .empty)
  let withdraw := t.collaterals.entries.foldl (fun m e =>
    if !target.collaterals.contains e.1 && !e.2.isZero then m.insert e.1 e.2 else m) reduced
  let debt ← reachDebt t.debt target.debt rate
  return ⟨deposit, withdraw, debt⟩

end Trove

end Cdp
