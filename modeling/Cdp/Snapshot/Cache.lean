import Cdp.Snapshot.Basic

/-!
# Reading through a snapshot

A cache answers a read at the latest block from a snapshot where the snapshot covers it; every other
read at the latest block goes to the chain pinned to the snapshot's block. So what is read from the
chain agrees with what the snapshot answers. A read that is pinned to a block goes to the chain as
it is.
-/

set_option autoImplicit false

namespace Cdp.Snapshot

/-- The balance of a pool in the units of a kind. -/
def poolUnits (s : Snapshot) (pool : Pool) (kind : Address) (info : CollateralInfo) :
    Except ChainError Word :=
  let amount := ((s.pool pool).collaterals.get? kind).getD .zero
  (amount.toUnits info.decimals).mapError fun cause => .undecodable (.poolBalance cause)

/-- The answer to a read at the latest block, where the snapshot covers the read. -/
def answer? (s : Snapshot) : (q : Query) → Option (Except ChainError q.Answer)
  | .block => some (.ok s.block)
  | .totalRedistributed kind =>
    (s.totals.get? kind).map fun total => .ok ⟨total.collateral.raw, total.debt.raw⟩
  | .troveOwnersCount => some (.ok s.troveCount)
  | .baseRate => some (.ok s.feesFactory.baseRateWithoutDecay.raw)
  | .lastFeeOperationTime => some (.ok s.feesFactory.lastFeeOperationTime)
  | .poolDebt pool => some (.ok (s.pool pool).debt.raw)
  | .poolCollateral pool kind =>
    (s.whitelist.get? kind).map (s.poolUnits pool kind)
  | .validCollateral => some (.ok s.whitelist.kinds)
  | .price kind => (s.whitelist.get? kind).map fun info => .ok info.price.raw
  | .decimals kind => (s.whitelist.get? kind).map fun info => .ok info.decimals
  | .safetyRatio kind => (s.whitelist.get? kind).map fun info => .ok info.safetyRatio.raw
  | .recoveryRatio kind => (s.whitelist.get? kind).map fun info => .ok info.recoveryRatio.raw
  | .isWrapped kind => (s.whitelist.get? kind).map fun info => .ok info.wrapped
  | _ => none

/-- The block that a forwarded read refers to. -/
def pin (s : Snapshot) : BlockTag → BlockTag
  | .latest => .number s.block.number
  | .number n => .number n

/-- Sends a request on to the chain. -/
def forward (r : ChainRequest) : Procedure Chain ChainError r.Answer :=
  Procedure.request (I := Chain) id r

/-- A read through the cache. -/
def read (s : Snapshot) (q : Query) : BlockTag → Procedure Chain ChainError q.Answer
  | .latest =>
    match s.answer? q with
    | some answer => .done answer
    | none => forward (.read q (s.pin .latest))
  | tag => forward (.read q tag)

/-- A request through the cache; only reads are answered from the snapshot. -/
def serve (s : Snapshot) : (r : ChainRequest) → Procedure Chain ChainError r.Answer
  | .read q tag => s.read q tag
  | r => forward r

/-- A procedure whose reads all go through the cache. -/
def through (s : Snapshot) {ε α : Type} (p : Procedure Chain ε α) : Procedure Chain ε α :=
  p.redirect (I := Chain) (J := Chain) s.serve

end Cdp.Snapshot
