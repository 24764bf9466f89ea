import Cdp.Chain.Interface
import Cdp.Trove.Redistribution
import Cdp.Whitelist

/-!
# Reading the whitelist, Troves and pools

Contracts count collateral in the units of its token; the whitelist's decimals turn the amounts into
decimals as they are read. Prices, ratios, stakes and rewards are decimals already. Reads go out one
after the other, and the first one that fails ends the reading. Where nothing of a part depends on
another, the parts may as well be asked side by side (`Cdp.Proofs.Chain.Joined`).
-/

set_option autoImplicit false

namespace Cdp.Chain

/-- Reads what is known of one kind. -/
def readCollateralInfo (tag : BlockTag) (kind : Address) : ChainProcedure CollateralInfo := do
  let price ← readAt (.price kind) tag
  let decimals ← readAt (.decimals kind) tag
  let safetyRatio ← readAt (.safetyRatio kind) tag
  let recoveryRatio ← readAt (.recoveryRatio kind) tag
  let wrapped ← readAt (.isWrapped kind) tag
  return ⟨decimals, ⟨price⟩, ⟨safetyRatio⟩, ⟨recoveryRatio⟩, wrapped⟩

/-- Reads the whitelist with its live prices and ratios. -/
def readWhitelist (tag : BlockTag) : ChainProcedure Whitelist := do
  let kinds ← readAt .validCollateral tag
  let entries ← kinds.mapM fun kind => do
    let info ← readCollateralInfo tag kind
    return (kind, info)
  return Whitelist.ofEntries entries

/-- Cumulative rewards as decimals. -/
def rewardPerStake (raw : RawReward) : RewardPerStake := ⟨⟨raw.collateral⟩, ⟨raw.debt⟩⟩

/-- Amounts in units as a map of decimals; zero amounts are left out, and of two amounts of one
kind the later counts. -/
def collateralsOfUnits (whitelist : Whitelist) (units : List (Address × Word)) :
    Attempt Error Collaterals :=
  units.foldlM (fun m e => do
    let amount ← whitelist.toDecimal e.1 e.2
    return if amount.isZero then m else m.insert e.1 amount) .empty

/-- Reads the stake of an owner in one kind and the rewards at the Trove's last change. -/
def readStake (owner : Address) (tag : BlockTag) (kind : Address) :
    ChainProcedure (Address × Decimal × RewardPerStake) := do
  let stake ← readAt (.troveStake owner kind) tag
  let snapshot ← readAt (.rewardSnapshot owner kind) tag
  return (kind, ⟨stake⟩, rewardPerStake snapshot)

/-- Reads a Trove as the chain stores it, with stakes and snapshots for the kinds it lists. -/
def readStoredTrove (owner : Address) (whitelist : Whitelist) (tag : BlockTag) :
    ChainProcedure StoredTrove := do
  let code ← readAt (.troveStatus owner) tag
  match TroveStatus.ofCode? code with
  | none => .fail (.refused (.chain (.undecodable (.statusCode code))))
  | some status =>
    if !status.isOpen then return ⟨.empty owner status, .empty, .empty⟩
    let debt ← readAt (.troveDebt owner) tag
    let units ← readAt (.troveColls owner) tag
    let collaterals ← collateralsOfUnits whitelist units
    let perKind ← units.mapM fun e => readStake owner tag e.1
    return {
      user := ⟨owner, status, ⟨collaterals, ⟨debt⟩⟩⟩
      stakes := .ofList (perKind.map fun e => (e.1, e.2.1))
      snapshots := .ofList (perKind.map fun e => (e.1, e.2.2)) }

/-- Reads the cumulative rewards of a list of kinds. -/
def readTotals (kinds : List Address) (tag : BlockTag) : ChainProcedure RewardTotals := do
  let totals ← kinds.mapM fun kind => do
    let raw ← readAt (.totalRedistributed kind) tag
    return (kind, rewardPerStake raw)
  return .ofList totals

/-- Reads a Trove and adds the rewards since its last change. -/
def readTrove (owner : Address) (whitelist : Whitelist) (tag : BlockTag) :
    ChainProcedure UserTrove := do
  let stored ← readStoredTrove owner whitelist tag
  let totals ← readTotals whitelist.kinds tag
  stored.applyRedistribution totals

/-- Reads the collateral and debt of a pool. -/
def readPool (pool : Pool) (whitelist : Whitelist) (tag : BlockTag) : ChainProcedure Trove := do
  let debt ← readAt (.poolDebt pool) tag
  let units ← whitelist.kinds.mapM fun kind => do
    let raw ← readAt (.poolCollateral pool kind) tag
    return (kind, raw)
  let collaterals ← collateralsOfUnits whitelist units
  return ⟨collaterals, ⟨debt⟩⟩

/-- Reads the collateral and debt of both pools together. -/
def readTotal (whitelist : Whitelist) (tag : BlockTag) : ChainProcedure Trove := do
  let active ← readPool .active whitelist tag
  let default ← readPool .default whitelist tag
  active.add default

end Cdp.Chain
