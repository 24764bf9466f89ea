import Cdp.Policy

/-!
# The settings of the keeper

Where the keeper finds the chain, on whose behalf it liquidates, how often it looks and how much it
takes on in one pass.
-/

set_option autoImplicit false

namespace Cdp

structure KeeperSettings where
  endpoint : String
  contracts : ContractAddresses
  /-- Sends the liquidations and collects their gas compensation. -/
  keeper : Address
  pollIntervalSeconds : UInt64 := 12
  /-- The most Troves that are walked from the tail of the list in one pass. -/
  scanDepth : UInt64 := 200
  maxLiquidationsPerBatch : UInt64 := 10
  receiptTimeoutSeconds : UInt64 := 120
  policy : Policy := .standard
deriving DecidableEq

namespace KeeperSettings

/-- Why settings are refused. -/
inductive Flaw where
  | pollInterval
  | scanOrBatch
  | nullAddress
deriving DecidableEq

def Flaw.message : Flaw → String
  | .pollInterval => "invalid config: poll_interval_secs must be positive"
  | .scanOrBatch => "invalid config: scan_depth and max_liquidations_per_batch must be positive"
  | .nullAddress => "invalid config: keeper and contract addresses must be set"

/-- Refuses settings under which the keeper cannot work. -/
def validate (s : KeeperSettings) : Except Flaw Unit :=
  if s.pollIntervalSeconds = 0 then .error .pollInterval
  else if s.scanDepth = 0 || s.maxLiquidationsPerBatch = 0 then .error .scanOrBatch
  else if s.keeper.isZero || s.contracts.troveManager.isZero then .error .nullAddress
  else .ok ()

/-- The context of the keeper's transactions. -/
def context (s : KeeperSettings) : Context := ⟨s.contracts, s.keeper, s.policy⟩

end KeeperSettings

end Cdp
