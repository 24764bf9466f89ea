import Cdp.Fees
import Cdp.Chain.Positions

/-!
# The state of the system

What a transaction depends on besides the owner's own Trove: a block, the whitelist, the total of
both pools and the fee state. Whether the system is in recovery mode follows from the total, and
the fees from that.
-/

set_option autoImplicit false

namespace Cdp

/-- The state of the system at a block. -/
structure SystemState where
  block : BlockInfo
  whitelist : Whitelist
  total : Trove
  feesFactory : FeesFactory
deriving DecidableEq

namespace SystemState

def isRecoveryMode (state : SystemState) : Attempt Error Bool :=
  state.whitelist.isRecoveryMode state.total

/-- The fees of a block that is mined `seconds` later. -/
def feesAfter (state : SystemState) (seconds : UInt64) : Attempt Error Fees := do
  let time ← Counter.add state.block.timestamp seconds
  let recoveryMode ← state.isRecoveryMode
  return state.feesFactory.at time recoveryMode

end SystemState

namespace Chain

/-- Reads the fee state. -/
def readFeesFactory (tag : BlockTag) : ChainProcedure FeesFactory := do
  let baseRate ← readAt .baseRate tag
  let lastFeeOperationTime ← readAt .lastFeeOperationTime tag
  return ⟨⟨baseRate⟩, lastFeeOperationTime⟩

/-- Reads the fees of the block itself. -/
def readFees (whitelist : Whitelist) (tag : BlockTag) : ChainProcedure Fees := do
  let factory ← readFeesFactory tag
  let total ← readTotal whitelist tag
  let block ← readAt .block tag
  let recoveryMode ← whitelist.isRecoveryMode total
  return factory.at block.timestamp recoveryMode

/-- Reads the number of Troves. -/
def readTroveCount (tag : BlockTag) : ChainProcedure UInt64 := readAt .troveOwnersCount tag

/-- Reads the state of the system. -/
def readState (tag : BlockTag) : ChainProcedure SystemState := do
  let block ← readAt .block tag
  let whitelist ← readWhitelist tag
  let feesFactory ← readFeesFactory tag
  let total ← readTotal whitelist tag
  return { block, whitelist, total, feesFactory }

end Chain

end Cdp
