import Cdp.Snapshot.Cache

/-!
# Following the chain

A store keeps the snapshot of the latest block that it has seen. It looks for a new block at regular
times; a block with a higher number than the published snapshot's is read as a whole, and only a
complete reading replaces the snapshot. A look or a reading that fails leaves it as it was, and the
next look tries again.

The looks are due at the start of the store and then once in every interval. A look is taken when
time has moved past the moment at which it is due. Times are in milliseconds.
-/

set_option autoImplicit false

namespace Cdp

/-- The published snapshot and the owner that is watched. -/
structure Store where
  published : Snapshot
  owner : Option Address

namespace Store

/-- Starts with a first snapshot of the latest block. -/
def start (owner : Option Address) : ChainProcedure Store := do
  let published ← Chain.readSnapshot owner .latest
  return ⟨published, owner⟩

/-- Reads the snapshot of a block and publishes it if the reading is complete. -/
def refresh (store : Store) (number : UInt64) : Procedure Chain Empty Store := do
  let result ← (Chain.readSnapshot store.owner (.number number)).attempt
  match result with
  | .ok published => return { store with published }
  | .error _ => return store

/-- Looks for a new block once. -/
def poll (store : Store) : Procedure Chain Empty Store := do
  let latest ← (readAt .block .latest).attempt
  match latest with
  | .error _ => return store
  | .ok block =>
    if store.published.block.number < block.number then store.refresh block.number
    else return store

/-- Looks for a new block a number of times. -/
def pollTimes : Nat → Store → Procedure Chain Empty Store
  | 0, store => return store
  | count + 1, store => do
    let next ← store.poll
    pollTimes count next

end Store

/-- When a store looks for new blocks. -/
structure Polling where
  interval : Nat
  startedAt : Nat
  /-- How many looks there have been. -/
  done : Nat

namespace Polling

/-- How many looks are due before a time. An interval of zero never falls due. -/
def dueBy (polling : Polling) (time : Nat) : Nat :=
  if polling.interval = 0 || time ≤ polling.startedAt then 0
  else (time - polling.startedAt - 1) / polling.interval + 1

/-- How many looks are due before a time and have not been taken yet. -/
def missing (polling : Polling) (time : Nat) : Nat := polling.dueBy time - polling.done

/-- The polling after all looks before a time have been taken. -/
def advance (polling : Polling) (time : Nat) : Polling :=
  { polling with done := max polling.done (polling.dueBy time) }

end Polling

end Cdp
