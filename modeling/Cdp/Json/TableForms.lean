import Cdp.Chain.Tables
import Cdp.Json.ChainForms
import Cdp.Json.Field

/-!
# Forms of tables

The tables of a chain as an object: a field for every table. Amounts of collateral are in units,
debts, rewards and ratios are decimals. Tables that are not named have their defaults, or stay as
they were where tables are replaced.

Tables are replaced one after another. The first that is misread ends the revision; those before it
stay replaced, and a table that is filled entry by entry keeps the entries before the misread one.
-/

set_option autoImplicit false

namespace Cdp

def RewardPerStake.toRaw (r : RewardPerStake) : RawReward := ⟨r.collateral.raw, r.debt.raw⟩

def TroveRecord.decode (j : Json) : Except Misread TroveRecord := do
  let status ← j.part UInt8 "status"
  let debt ← j.decimalPart "debt"
  let units ← j.part? (List (Address × Word)) "colls"
  let stakes ← j.part? (AddressMap Decimal) "stakes"
  let snapshots ← j.part? RewardTotals "snapshots"
  return ⟨status, debt.raw, units.getD [], (stakes.getD .empty).map (·.raw),
    (snapshots.getD .empty).map RewardPerStake.toRaw⟩

def PoolRecord.decode (j : Json) : Except Misread PoolRecord := do
  j.requireObject
  let debt ← j.decimalPart? "debt"
  let units ← j.part? (AddressMap Word) "units"
  return ⟨(debt.getD .zero).raw, units.getD .empty⟩

def RedemptionHints.decode (j : Json) : Except Misread RedemptionHints := do
  j.requireObject
  let first ← j.part? Address "first"
  let ratio ← j.decimalPart? "partial_nicr"
  let truncated ← j.decimalPart? "truncated"
  return ⟨first.getD .zero, (ratio.getD .zero).raw, (truncated.getD .zero).raw⟩

/-- The cause of an outage by its kind. -/
def outageCause? (kind text : String) : Option ChainError :=
  match kind with
  | "transport" => some (.transport text)
  | "decode" => some (.undecodable (.other "scripted value" text))
  | "reverted" => some (.reverted text)
  | "not_found" => some (.notFound (.other text))
  | _ => none

/-- The outage of a kind of request. -/
def Outage.decode (request : String) (j : Json) : Except Misread Outage := do
  let kind ← j.part String "error"
  let text ← j.part String "text"
  let after ← j.part? UInt64 "after"
  let cause ← Json.present (outageCause? kind text)
  return ⟨request, cause, (after.getD 0).toNat⟩

namespace Tables

/-- The tables of a chain on which nothing has happened. -/
def initial : Tables where
  block := ⟨100, 1700000000⟩
  baseRate := .zero
  lastFeeOperationTime := 1700000000
  whitelist := []
  troves := .empty
  totals := .empty
  activePool := ⟨.zero, .empty⟩
  defaultPool := ⟨.zero, .empty⟩
  sorted := []
  size := none
  position := none
  samples := []
  redemption := ⟨.zero, .zero, .zero⟩
  gas := []
  outcomes := []
  outages := []

/-! ## Revisions -/

/-- A change of tables that may be misread; what it did before that stays done. -/
abbrev Revision := ExceptT Misread (StateM Tables)

namespace Revision

/-- Puts a value into the tables if it is read. -/
def put {α : Type} (value : Except Misread α) (change : α → Tables → Tables) : Revision Unit := do
  let a ← value
  modify (change a)

/-- The items of a list, entered one by one. -/
def fill (j : Json) (enter : Json → Revision Unit) : Revision Unit := do
  let items ← j.decodeItems
  items.forM enter

/-- The fields of an object, entered one by one. -/
def fillNamed (j : Json) (enter : String → Json → Revision Unit) : Revision Unit :=
  match j with
  | .object fields => fields.forM fun f => enter f.1 f.2
  | _ => throw .form

/-- Enters the Trove of an owner. -/
def enterTrove (owner : String) (j : Json) : Revision Unit := do
  let owner ← Json.present (Address.ofText? owner)
  put (TroveRecord.decode j) fun record t => { t with troves := t.troves.insert owner record }

/-- Enters a sample behind the others. -/
def enterSample (j : Json) : Revision Unit :=
  put (j.decode ApproxHint) fun hint t => { t with samples := t.samples ++ [hint] }

/-- Enters the outage of a kind of request. -/
def enterOutage (request : String) (j : Json) : Revision Unit :=
  put (Outage.decode request j) fun outage t => { t with outages := t.outages ++ [outage] }

/-- Replaces one table. -/
def replaceOne (name : String) (j : Json) : Revision Unit := do
  match name with
  | "block" => put (j.decode BlockInfo) fun block t => { t with block }
  | "base_rate" => put j.decodeDecimal fun rate t => { t with baseRate := rate.raw }
  | "last_fee_operation_time" =>
    put (j.decode UInt64) fun time t => { t with lastFeeOperationTime := time }
  | "whitelist" =>
    put (j.decode (List (Address × CollateralInfo))) fun whitelist t => { t with whitelist }
  | "troves" =>
    modify fun t => { t with troves := .empty }
    fillNamed j enterTrove
  | "totals" =>
    put (j.decode RewardTotals) fun totals t =>
      { t with totals := totals.map RewardPerStake.toRaw }
  | "active_pool" => put (PoolRecord.decode j) fun activePool t => { t with activePool }
  | "default_pool" => put (PoolRecord.decode j) fun defaultPool t => { t with defaultPool }
  | "list" =>
    put (j.decode (List (Address × Decimal))) fun entries t =>
      { t with sorted := entries.map fun e => (e.1, e.2.raw) }
  | "size" => put (j.decode (Option UInt64)) fun size t => { t with size }
  | "insert" => put (j.decode (Option (Address × Address))) fun position t => { t with position }
  | "approx" =>
    modify fun t => { t with samples := [] }
    fill j enterSample
  | "redemption" => put (RedemptionHints.decode j) fun redemption t => { t with redemption }
  | "gas" => put (j.decode (List UInt64)) fun gas t => { t with gas }
  | "outcomes" => put (j.decode (List Outcome)) fun outcomes t => { t with outcomes }
  | "fail" =>
    modify fun t => { t with outages := [] }
    fillNamed j enterOutage
  | _ => pure ()

/-- Replaces the tables that an object names, in its order. -/
def replace (j : Json) : Revision Unit := fillNamed j replaceOne

end Revision

/-- The tables after a revision, and whether all of it was read. -/
def revise (t : Tables) (revision : Revision Unit) : Except Misread Unit × Tables :=
  revision.run.run t

end Tables

end Cdp
