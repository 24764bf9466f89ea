import Cdp.Decimal.Parse
import Cdp.Json.Basic
import Cdp.Trove.Basic

/-!
# Forms of decimals and Troves

A decimal is written as text, never as a number, so that no digit is lost. A case without data is
its name, a case with data an object with the name as its only field.
-/

set_option autoImplicit false

namespace Cdp

open Json.Record

instance : JsonForm Decimal where
  write d := .string d.toText
  read
    | .string s => (Decimal.parse s).toOption
    | _ => none

instance : JsonForm Trove where
  write t := .object [("collaterals", write t.collaterals), ("debt", write t.debt)]
  read := read? do
    let collaterals ← required "collaterals"
    let debt ← required "debt"
    return ⟨collaterals, debt⟩

/-- The name of a status in data. -/
def TroveStatus.key : TroveStatus → String
  | .nonExistent => "nonExistent"
  | .open => "open"
  | .closedByOwner => "closedByOwner"
  | .closedByLiquidation => "closedByLiquidation"
  | .closedByRedemption => "closedByRedemption"

def TroveStatus.ofKey? : String → Option TroveStatus
  | "nonExistent" => some .nonExistent
  | "open" => some .open
  | "closedByOwner" => some .closedByOwner
  | "closedByLiquidation" => some .closedByLiquidation
  | "closedByRedemption" => some .closedByRedemption
  | _ => none

instance : JsonForm TroveStatus where
  write s := .string s.key
  read j := j.caseName?.bind TroveStatus.ofKey?

instance : JsonForm DebtChange where
  write
    | .borrow amount => .object [("borrow", write amount)]
    | .repay amount => .object [("repay", write amount)]
  read
    | .object [("borrow", amount)] => (JsonRead.read amount).map .borrow
    | .object [("repay", amount)] => (JsonRead.read amount).map .repay
    | _ => none

instance : JsonForm CreationParams where
  write p := .object [("deposit", write p.deposit), ("borrow", write p.borrow)]
  read := read? do
    let deposit ← required "deposit"
    let borrow ← required "borrow"
    return ⟨deposit, borrow⟩

instance : JsonForm AdjustmentParams where
  write p := .object
    [("deposit", write p.deposit), ("withdraw", write p.withdraw), ("debt", write p.debt)]
  read := read? do
    let deposit ← required "deposit"
    let withdraw ← required "withdraw"
    let debt ← optional "debt"
    return ⟨deposit, withdraw, debt⟩

instance : JsonForm LeverUp where
  write l := .object [("leverage", write l.leverage), ("max_slippage", write l.maxSlippage)]
  read := read? do
    let leverage ← required "leverage"
    let maxSlippage ← required "max_slippage"
    return ⟨leverage, maxSlippage⟩

instance : JsonForm UserTrove where
  write u := .object
    [("owner", write u.owner), ("status", write u.status), ("trove", write u.trove)]
  read := read? do
    let owner ← required "owner"
    let status ← required "status"
    let trove ← required "trove"
    return ⟨owner, status, trove⟩

instance : JsonForm RewardPerStake where
  write r := .object [("collateral", write r.collateral), ("debt", write r.debt)]
  read := read? do
    let collateral ← required "collateral"
    let debt ← required "debt"
    return ⟨collateral, debt⟩

instance : JsonForm StoredTrove where
  write s := .object
    [("user", write s.user), ("stakes", write s.stakes), ("snapshots", write s.snapshots)]
  read := read? do
    let user ← required "user"
    let stakes ← required "stakes"
    let snapshots ← required "snapshots"
    return ⟨user, stakes, snapshots⟩

end Cdp
