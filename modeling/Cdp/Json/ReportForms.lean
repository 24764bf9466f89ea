import Cdp.Json.ChainForms
import Cdp.Keeper.Notice
import Cdp.Snapshot.Basic
import Cdp.Transaction.Redemption

/-!
# Forms of results

What the library works out, as data: gas limits, prepared transactions, the details of receipts,
the health of Troves and the notices of the keeper. They are only ever written.
-/

set_option autoImplicit false

namespace Cdp

instance : JsonWrite GasEstimate where
  write g := .object [("gas_limit", write g.gasLimit), ("headroom", write g.headroom)]

instance : JsonWrite LeveredDeposit where
  write l := .object
    [("collaterals", write l.collaterals), ("additional_debt", write l.additionalDebt)]

/-! ## Parsers and details -/

/-- A parser with its emitter, its owner if it has one, and its decimals. -/
def Json.parser (kind : String) (emitter : Address) (owner : Option Address)
    (decimals : AddressMap UInt8) : Json :=
  .object ([("kind", .string kind), ("emitter", write emitter)] ++
    (owner.map fun o => ("owner", write o)).toList ++ [("decimals", write decimals)])

instance : JsonWrite TroveChangeParser where
  write p := Json.parser "trove_change" p.borrowerOperations (some p.owner) p.decimals

instance : JsonWrite RedemptionParser where
  write p := Json.parser "redemption" p.troveManager none p.decimals

instance : JsonWrite LiquidationParser where
  write p := Json.parser "liquidation" p.troveManager none p.decimals

instance : JsonWrite TroveChange where
  write d := .object
    [("owner", write d.owner),
      ("operation", write d.operation),
      ("new_trove", write d.newTrove),
      ("fee", write d.fee)]

instance : JsonWrite RedemptionDetails where
  write d := .object
    [("attempted", write d.attempted),
      ("actual", write d.actual),
      ("fee", write d.fee),
      ("collateral_taken", write d.collateralTaken)]

instance : JsonWrite LiquidationDetails where
  write d := .object
    [("liquidated", write d.liquidated),
      ("total_debt", write d.totalDebt),
      ("gas_compensation", write d.gasCompensation),
      ("collateral", write d.collateral)]

instance {D : Type} [JsonWrite D] : JsonWrite (TransactionResult D) where
  write
    | .pending => .object [("result", .string "pending"), ("pending", .bool true)]
    | .failed receipt => .object [("result", .string "failed"), ("raw", write receipt)]
    | .succeeded receipt details => .object
      [("result", .string "succeeded"),
        ("hash", write (Hash.mk receipt.hash)),
        ("details", write details)]
    | .replaced receipt cancelled => .object
      [("result", .string "replaced"), ("cancelled", .bool cancelled), ("raw", write receipt)]

/-! ## Prepared transactions -/

/-- The call, its headroom and its parser. -/
def Prepared.fields {P : Type} [JsonWrite P] (tx : Prepared P) : List (String × Json) :=
  [("call", write tx.call), ("gas_headroom", write tx.gasHeadroom), ("parser", write tx.parser)]

/-- How much of the request a redemption covers, and the amount of its continuation. -/
def PreparedRedemption.fields (r : PreparedRedemption) (continuation : Option Decimal) :
    List (String × Json) :=
  [("attempted", write r.attempted),
    ("redeemable", write r.redeemable),
    ("truncated", write r.isTruncated),
    ("continuation", write continuation)]

/-! ## Snapshots -/

/-- What was read for a snapshot. -/
def Snapshot.fields (s : Snapshot) : List (String × Json) :=
  [("block", write s.block),
    ("collateral", write s.whitelist),
    ("active_pool", write s.activePool),
    ("default_pool", write s.defaultPool),
    ("totals", write s.totals),
    ("factory", write s.feesFactory),
    ("number_of_troves", write s.troveCount),
    ("owner_trove", write s.ownerTrove)]

/-! ## The keeper -/

instance : JsonWrite TroveHealth where
  write h := .object
    [("owner", write h.owner),
      ("health", write h.health),
      ("collateral_ratio", write h.collateralRatio),
      ("debt", write h.debt),
      ("block", write h.block),
      ("liquidatable", write h.isLiquidatable)]

/-- The size of a queue, its first entry and the owners that may be liquidated. -/
def HealthQueue.fields (q : HealthQueue) : List (String × Json) :=
  [("len", .integer q.size),
    ("empty", write q.isEmpty),
    ("peek", write q.peek?),
    ("liquidatable", write (q.liquidatable.map (·.owner)))]

instance : JsonWrite Keeper.Notice where
  write n := .array [.string n.level.name, .string n.text]

end Cdp
