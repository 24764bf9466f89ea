import Cdp.Chain.State

/-!
# Snapshots

A snapshot holds what is commonly read of the protocol, all of it as of one block. Reading one first
resolves the block, and pins every further read to the block's number.
-/

set_option autoImplicit false

namespace Cdp

/-- The state of the protocol at a block. -/
structure Snapshot where
  block : BlockInfo
  whitelist : Whitelist
  activePool : Trove
  defaultPool : Trove
  totals : RewardTotals
  feesFactory : FeesFactory
  troveCount : UInt64
  /-- The Trove of the owner that is watched, if there is one. -/
  ownerTrove : Option StoredTrove
deriving DecidableEq

namespace Snapshot

/-- The collateral and debt of both pools together. -/
def total (s : Snapshot) : Except Fault Trove := s.activePool.add s.defaultPool

def isRecoveryMode (s : Snapshot) : Attempt Error Bool := do
  let total ← s.total
  s.whitelist.isRecoveryMode total

/-- The fees of the block. -/
def fees (s : Snapshot) : Attempt Error Fees := do
  let recoveryMode ← s.isRecoveryMode
  return s.feesFactory.at s.block.timestamp recoveryMode

/-- The watched Trove with the rewards since its last change. -/
def trove (s : Snapshot) : Option (Attempt TroveError UserTrove) :=
  s.ownerTrove.map fun stored => stored.applyRedistribution s.totals

def pool (s : Snapshot) : Pool → Trove
  | .active => s.activePool
  | .default => s.defaultPool

end Snapshot

namespace Chain

/-- Reads the Trove that is watched, if there is one. -/
def readOwnerTrove (owner : Option Address) (whitelist : Whitelist) (tag : BlockTag) :
    ChainProcedure (Option StoredTrove) :=
  match owner with
  | none => return none
  | some owner => do
    let stored ← readStoredTrove owner whitelist tag
    return some stored

/-- Reads the snapshot of a block that is already resolved, with every read pinned to it. -/
def readSnapshotAt (owner : Option Address) (block : BlockInfo) : ChainProcedure Snapshot := do
  let pinned : BlockTag := .number block.number
  let whitelist ← readWhitelist pinned
  let feesFactory ← readFeesFactory pinned
  let troveCount ← readTroveCount pinned
  let activePool ← readPool .active whitelist pinned
  let defaultPool ← readPool .default whitelist pinned
  let totals ← readTotals whitelist.kinds pinned
  let ownerTrove ← readOwnerTrove owner whitelist pinned
  return { block, whitelist, activePool, defaultPool, totals, feesFactory, troveCount, ownerTrove }

/-- Reads the snapshot of the block that a tag refers to. -/
def readSnapshot (owner : Option Address) (tag : BlockTag) : ChainProcedure Snapshot := do
  let block ← readAt .block tag
  readSnapshotAt owner block

end Chain

end Cdp
