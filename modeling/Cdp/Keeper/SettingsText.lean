import Cdp.Json.SystemForms
import Cdp.Keeper.Settings
import Cdp.Toml.Document

/-!
# Settings as text

The keeper's settings are read from a document. The endpoint, the contracts and the keeper have to
be given; the rest has defaults. A list in a document may go on behind the items that are read of
it.
-/

set_option autoImplicit false

namespace Cdp

open Json.Record

/-- A list without the items behind a number of items. -/
def Json.cutAfter (count : Nat) : Json → Json
  | .array items => .array (items.take count)
  | j => j

/-- An address of a document: at most the item after its bytes is looked at. -/
def Address.ofDocument (j : Json) : Json := j.cutAfter 21

/-- The contracts of a document, with their addresses. -/
def ContractAddresses.ofDocument : Json → Json
  | .array items => .array ((items.take 7).map Address.ofDocument)
  | .object fields => .object (fields.map fun f => (f.1, Address.ofDocument f.2))
  | j => j

/-- The policy of a document. -/
def Policy.ofDocument (j : Json) : Json := j.cutAfter 10

instance : JsonForm KeeperSettings where
  write s := .object
    [("rpc_url", write s.endpoint),
      ("contracts", write s.contracts),
      ("keeper", write s.keeper),
      ("poll_interval_secs", write s.pollIntervalSeconds),
      ("scan_depth", write s.scanDepth),
      ("max_liquidations_per_batch", write s.maxLiquidationsPerBatch),
      ("receipt_timeout_secs", write s.receiptTimeoutSeconds),
      ("populate", write s.policy)]
  read := read? do
    let endpoint ← required "rpc_url"
    let contracts ← requiredAfter ContractAddresses.ofDocument "contracts"
    let keeper ← requiredAfter Address.ofDocument "keeper"
    let s : KeeperSettings := { endpoint, contracts, keeper }
    let pollInterval ← withDefault "poll_interval_secs" s.pollIntervalSeconds
    let scanDepth ← withDefault "scan_depth" s.scanDepth
    let maxPerBatch ← withDefault "max_liquidations_per_batch" s.maxLiquidationsPerBatch
    let receiptTimeout ← withDefault "receipt_timeout_secs" s.receiptTimeoutSeconds
    let policy ← withDefaultAfter Policy.ofDocument "populate" s.policy
    return ⟨endpoint, contracts, keeper, pollInterval, scanDepth, maxPerBatch, receiptTimeout,
      policy⟩

/-- Why there are no settings. -/
inductive SettingsError where
  | unreadable
  | malformed
  | invalid (flaw : KeeperSettings.Flaw)
deriving DecidableEq

namespace KeeperSettings

/-- Reads settings and checks them. -/
def ofText (text : String) : Except SettingsError KeeperSettings :=
  match (Toml.parse text).bind JsonRead.read with
  | none => .error .malformed
  | some settings =>
    match KeeperSettings.validate settings with
    | .ok _ => .ok settings
    | .error flaw => .error (.invalid flaw)

/-- The settings of a file that may not exist. -/
def ofFile (contents : Option String) : Except SettingsError KeeperSettings :=
  match contents with
  | none => .error .unreadable
  | some text => ofText text

end KeeperSettings

end Cdp
