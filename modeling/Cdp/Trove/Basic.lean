import Cdp.AddressMap
import Cdp.Attempt

/-!
# Troves

A Trove is a position: amounts of collateral by kind, and a debt. The kinds are the addresses of
their tokens. A Trove on the chain also has an owner and a status, and it may have a share in
collateral and debt that liquidations have spread over all Troves since it last changed.
-/

set_option autoImplicit false

namespace Cdp

/-- Amounts of collateral by kind. -/
abbrev Collaterals := AddressMap Decimal

/-- Live prices by kind. -/
abbrev Prices := AddressMap Decimal

/-- Safety or recovery ratios by kind. -/
abbrev Ratios := AddressMap Decimal

/-- Collateral and debt spread over each unit of stake, for one kind. -/
structure RewardPerStake where
  collateral : Decimal
  debt : Decimal
deriving DecidableEq, Inhabited

/-- Cumulative rewards by kind. -/
abbrev RewardTotals := AddressMap RewardPerStake

/-- What has become of a Trove. -/
inductive TroveStatus where
  | nonExistent
  | open
  | closedByOwner
  | closedByLiquidation
  | closedByRedemption
deriving DecidableEq

namespace TroveStatus

/-- The status of a contract's code for it. -/
def ofCode? : UInt8 → Option TroveStatus
  | 0 => some .nonExistent
  | 1 => some .open
  | 2 => some .closedByOwner
  | 3 => some .closedByLiquidation
  | 4 => some .closedByRedemption
  | _ => none

def isOpen (status : TroveStatus) : Bool := status == .open

/-- The status as messages name it. -/
def name : TroveStatus → String
  | .nonExistent => "NonExistent"
  | .open => "Open"
  | .closedByOwner => "ClosedByOwner"
  | .closedByLiquidation => "ClosedByLiquidation"
  | .closedByRedemption => "ClosedByRedemption"

end TroveStatus

/-- Collateral and debt of a position. -/
structure Trove where
  collaterals : Collaterals
  debt : Decimal
deriving DecidableEq, Inhabited

/-- What an owner puts into a new Trove and borrows from it. -/
structure CreationParams where
  deposit : Collaterals
  borrow : Decimal
deriving DecidableEq

/-- A signed change of debt. -/
inductive DebtChange where
  | borrow (amount : Decimal)
  | repay (amount : Decimal)
deriving DecidableEq

/-- A signed change of a Trove. -/
structure AdjustmentParams where
  deposit : Collaterals
  withdraw : Collaterals
  debt : Option DebtChange
deriving DecidableEq

/-- Leverage for one deposited kind: the final collateral as a multiple of the deposit, and the
slippage that the swap may suffer. -/
structure LeverUp where
  leverage : Decimal
  maxSlippage : Decimal
deriving DecidableEq

/-- A Trove with its owner and status. -/
structure UserTrove where
  owner : Address
  status : TroveStatus
  trove : Trove
deriving DecidableEq

/-- A Trove as the chain stores it, before the rewards since its last change are added: `stakes`
are its shares by kind and `snapshots` the cumulative rewards at that change. -/
structure StoredTrove where
  user : UserTrove
  stakes : AddressMap Decimal
  snapshots : RewardTotals
deriving DecidableEq

/-! ## Refusals -/

/-- The role that a refused amount plays. -/
inductive AmountRole where
  | deposit (kind : Address)
  | withdrawal (kind : Address)
  | borrow
  | repayment
  | unlever (kind : Address)
  | redemption
deriving DecidableEq

/-- A rule that parameters break on their own account. -/
inductive ParamsFlaw where
  | noDeposit
  | nothingChanges
  | leverageWithoutDeposit (kind : Address)
  | slippage (kind : Address) (maxSlippage : Decimal)
deriving DecidableEq

/-- Why an operation on a Trove is refused. -/
inductive TroveError where
  | belowMinimumDebt (netDebt minimum : Decimal)
  | insufficientCollateral (kind : Address) (available requested : Decimal)
  | repayExceedsDebt (repay repayable : Decimal)
  | missingPrice (kind : Address)
  | missingTotals (kind : Address)
  | staleTotals (kind : Address)
  | notOpen (status : TroveStatus)
  | invalidAmount (role : AmountRole)
  | duplicateCollateral (kind : Address)
  | invalidParams (flaw : ParamsFlaw)
  | invalidLeverage (kind : Address) (leverage : Decimal)
deriving DecidableEq

def AmountRole.text : AmountRole → String
  | .deposit kind => "deposit of " ++ kind.toChecksumText
  | .withdrawal kind => "withdrawal of " ++ kind.toChecksumText
  | .borrow => "borrow"
  | .repayment => "repayment"
  | .unlever kind => "unlever of " ++ kind.toChecksumText
  | .redemption => "redemption"

/-- The wording for a slippage above one, which several operations refuse. -/
def slippageText (kind : Address) (maxSlippage : Decimal) : String :=
  "max slippage " ++ maxSlippage.toText ++ " for " ++ kind.toChecksumText ++ " exceeds 100%"

def ParamsFlaw.text : ParamsFlaw → String
  | .noDeposit => "a new Trove needs at least one collateral deposit"
  | .nothingChanges => "adjustment changes nothing"
  | .leverageWithoutDeposit kind =>
    "leverage given for " ++ kind.toChecksumText ++ " without a deposit"
  | .slippage kind maxSlippage => slippageText kind maxSlippage

/-- The wording of a refusal. -/
def TroveError.message : TroveError → String
  | .belowMinimumDebt netDebt minimum =>
    "resulting net debt " ++ netDebt.toText ++ " is below the minimum net debt of " ++
      minimum.toText
  | .insufficientCollateral kind available requested =>
    "cannot withdraw " ++ requested.toText ++ " of collateral " ++ kind.toChecksumText ++
      ": only " ++ available.toText ++ " held"
  | .repayExceedsDebt repay repayable =>
    "cannot repay " ++ repay.toText ++ ": at most " ++ repayable.toText ++
      " of net debt can be repaid"
  | .missingPrice kind => "no price data for collateral " ++ kind.toChecksumText
  | .missingTotals kind => "no redistribution totals for collateral " ++ kind.toChecksumText
  | .staleTotals kind =>
    "redistribution totals for collateral " ++ kind.toChecksumText ++
      " are older than the Trove's snapshot"
  | .notOpen status => "trove is not open (status: " ++ status.name ++ ")"
  | .invalidAmount role => "invalid amount for " ++ role.text ++ ": must be non-zero and finite"
  | .duplicateCollateral kind =>
    "collateral " ++ kind.toChecksumText ++ " appears on both sides of the adjustment"
  | .invalidParams flaw => "invalid parameters: " ++ flaw.text
  | .invalidLeverage kind leverage =>
    "invalid leverage " ++ leverage.toText ++ " for collateral " ++ kind.toChecksumText ++
      ": must be at least 1"

namespace UserTrove

/-- The entry for an owner without an open Trove. -/
def empty (owner : Address) (status : TroveStatus) : UserTrove := ⟨owner, status, default⟩

/-- The Trove, if it is open. -/
def openTrove (user : UserTrove) : Attempt TroveError Trove :=
  if user.status.isOpen then .ok user.trove else Attempt.refuse (.notOpen user.status)

end UserTrove

end Cdp
