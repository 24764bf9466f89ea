import Cdp.Receipt.Logs

/-!
# Details of receipts

What a successful transaction did is read from the logs of its receipt: a change of the owner's
Trove, a redemption, or the liquidation of a batch of Troves.
-/

set_option autoImplicit false

namespace Cdp

/-- A way to read the details of a successful receipt. -/
class ReceiptParser (P : Type) (Details : outParam Type) where
  parse : P → Receipt → Attempt ChainError Details

/-! ## Changes of a Trove -/

/-- The operations that an owner performs. -/
inductive TroveOperation where
  | open
  | close
  | adjust
deriving DecidableEq

/-- The operation of a contract's code for it. -/
def TroveOperation.ofCode? : UInt8 → Option TroveOperation
  | 0 => some .open
  | 1 => some .close
  | 2 => some .adjust
  | _ => none

/-- What the contracts report of a changed Trove. -/
structure TroveUpdate where
  borrower : Address
  debt : Word
  tokens : List Address
  amounts : List Word
  operation : UInt8

def TroveUpdate.ofValues? : List Contract.Value → Option TroveUpdate
  | [.word borrower, .word debt, .list tokens, .list amounts, .word operation] =>
    some ⟨.ofWord borrower, debt, tokens.map .ofWord, amounts, Contract.byteOfWord operation⟩
  | _ => none

/-- What the contracts report of a paid borrowing fee. -/
structure FeePaid where
  borrower : Address
  fee : Word

def FeePaid.ofValues? : List Contract.Value → Option FeePaid
  | [.word borrower, .word fee] => some ⟨.ofWord borrower, fee⟩
  | _ => none

/-- The change that an owner's transaction made; the new Trove is empty after it was closed. -/
structure TroveChange where
  owner : Address
  operation : TroveOperation
  newTrove : Trove
  fee : Decimal
deriving DecidableEq

structure TroveChangeParser where
  borrowerOperations : Address
  owner : Address
  decimals : AddressMap UInt8
deriving DecidableEq

namespace TroveChangeParser

/-- The last update of the owner's Trove. -/
def lastUpdate (p : TroveChangeParser) (receipt : Receipt) : Attempt ChainError TroveUpdate := do
  let updates ← (receipt.logsOf p.borrowerOperations Contract.troveUpdated).mapM
    (Contract.troveUpdated.readLog TroveUpdate.ofValues?)
  Attempt.ofOption (.notFound (.troveUpdate p.owner))
    (updates.filter fun update => update.borrower = p.owner).getLast?

/-- The sum of the fees that the owner paid. -/
def totalFee (p : TroveChangeParser) (receipt : Receipt) : Attempt ChainError Decimal :=
  (receipt.logsOf p.borrowerOperations Contract.borrowingFeePaid).foldlM (fun sum log => do
    let paid ← Contract.borrowingFeePaid.readLog FeePaid.ofValues? log
    if paid.borrower = p.owner then sum.add ⟨paid.fee⟩ else return sum) .zero

/-- The owner's change: the last update of the Trove and the sum of the fees. -/
def parse (p : TroveChangeParser) (receipt : Receipt) : Attempt ChainError TroveChange := do
  let update ← p.lastUpdate receipt
  let operation ← Attempt.ofOption
    (.undecodable (.operationCode Contract.troveUpdated.signature update.operation))
    (TroveOperation.ofCode? update.operation)
  let fee ← p.totalFee receipt
  let collaterals ← collateralsOfArrays p.decimals update.tokens update.amounts
  return ⟨p.owner, operation, ⟨collaterals, ⟨update.debt⟩⟩, fee⟩

instance : ReceiptParser TroveChangeParser TroveChange := ⟨parse⟩

end TroveChangeParser

/-! ## Redemptions -/

/-- What a redemption did. -/
structure RedemptionDetails where
  attempted : Decimal
  actual : Decimal
  fee : Decimal
  collateralTaken : Collaterals
deriving DecidableEq

structure RedemptionParser where
  troveManager : Address
  decimals : AddressMap UInt8
deriving DecidableEq

namespace RedemptionParser

/-- The first report of a redemption. -/
def parse (p : RedemptionParser) (receipt : Receipt) : Attempt ChainError RedemptionDetails := do
  let log ← Attempt.ofOption (.notFound .redemption)
    (receipt.logsOf p.troveManager Contract.redemption).head?
  let (attempted, actual, fee, tokens, amounts) ← Contract.redemption.readLog (fun
    | [.word attempted, .word actual, .word fee, .list tokens, .list amounts] =>
      some (attempted, actual, fee, tokens, amounts)
    | _ => none) log
  let collaterals ← collateralsOfArrays p.decimals (tokens.map .ofWord) amounts
  return ⟨⟨attempted⟩, ⟨actual⟩, ⟨fee⟩, collaterals⟩

instance : ReceiptParser RedemptionParser RedemptionDetails := ⟨parse⟩

end RedemptionParser

/-! ## Liquidations -/

/-- What a liquidation did. -/
structure LiquidationDetails where
  liquidated : List Address
  totalDebt : Decimal
  gasCompensation : Decimal
  collateral : Collaterals
deriving DecidableEq

structure LiquidationParser where
  troveManager : Address
  decimals : AddressMap UInt8
deriving DecidableEq

namespace LiquidationParser

/-- The owners of the liquidated Troves. -/
def liquidated (p : LiquidationParser) (receipt : Receipt) : Attempt ChainError (List Address) :=
  (receipt.logsOf p.troveManager Contract.troveLiquidated).mapM
    (Contract.troveLiquidated.readLog fun
      | [.word borrower, .word _, .word _] => some (.ofWord borrower)
      | _ => none)

/-- The liquidated owners and the first summary. -/
def parse (p : LiquidationParser) (receipt : Receipt) : Attempt ChainError LiquidationDetails := do
  let owners ← p.liquidated receipt
  let log ← Attempt.ofOption (.notFound .liquidation)
    (receipt.logsOf p.troveManager Contract.liquidation).head?
  let (debt, compensation, tokens, amounts) ← Contract.liquidation.readLog (fun
    | [.word debt, .word compensation, .list tokens, .list amounts] =>
      some (debt, compensation, tokens, amounts)
    | _ => none) log
  let collaterals ← collateralsOfArrays p.decimals (tokens.map .ofWord) amounts
  return ⟨owners, ⟨debt⟩, ⟨compensation⟩, collaterals⟩

instance : ReceiptParser LiquidationParser LiquidationDetails := ⟨parse⟩

end LiquidationParser

end Cdp
