import Cdp.Chain.Interface
import Cdp.TroveList
import Cdp.Whitelist

/-!
# A chain described by tables

A chain that exists only as tables of answers. The answers are the same at every block. Requests
that use something up take it from the front of a queue: samples of the list, estimates of gas and
outcomes of transactions. A kind of request may be told to fail after a number of successes, and a
request that fails uses nothing up.

Everything that is asked goes into a journal, so that what a procedure asked can be compared with
what it should have asked.
-/

set_option autoImplicit false

namespace Cdp

/-- A Trove as the contracts hold it, with collateral in units. -/
structure TroveRecord where
  status : UInt8
  debt : Word
  units : List (Address × Word)
  stakes : AddressMap Word
  snapshots : AddressMap RawReward

/-- What the contracts hold for an owner without a Trove. -/
def TroveRecord.none : TroveRecord := ⟨0, .zero, [], .empty, .empty⟩

/-- A pool, with collateral in units. -/
structure PoolRecord where
  debt : Word
  units : AddressMap Word

/-- A kind of request that fails once it has succeeded `after` more times. -/
structure Outage where
  request : String
  cause : ChainError
  after : Nat

structure Tables where
  block : BlockInfo
  baseRate : Word
  lastFeeOperationTime : UInt64
  whitelist : List (Address × CollateralInfo)
  troves : AddressMap TroveRecord
  totals : AddressMap RawReward
  activePool : PoolRecord
  defaultPool : PoolRecord
  sorted : TroveList
  /-- The number of Troves, where it is not the length of the list. -/
  size : Option UInt64
  /-- The answer to every search for a position, where it is not read off the list. -/
  position : Option (Address × Address)
  samples : List ApproxHint
  redemption : RedemptionHints
  gas : List UInt64
  outcomes : List Outcome
  outages : List Outage

namespace Tables

/-- The number of Troves. -/
def listSize (t : Tables) : UInt64 := t.size.getD (UInt64.ofNat t.sorted.length)

def pool (t : Tables) : Pool → PoolRecord
  | .active => t.activePool
  | .default => t.defaultPool

/-- What the first entry of a kind says; reads of other kinds revert. -/
def collateral (t : Tables) (kind : Address) : Except ChainError CollateralInfo :=
  match t.whitelist.find? fun e => e.1 = kind with
  | some e => .ok e.2
  | none => .error (.reverted "not whitelisted")

def trove (t : Tables) (owner : Address) : TroveRecord := (t.troves.get? owner).getD .none

/-- The answer to a sample when none is left. -/
def noSample (seed : Word) : ApproxHint := ⟨.zero, .max, seed⟩

/-- The answer to a read. -/
def answer (t : Tables) : (q : Query) → Except ChainError q.Answer
  | .block => .ok t.block
  | .troveStatus owner => .ok (t.trove owner).status
  | .troveDebt owner => .ok (t.trove owner).debt
  | .troveColls owner => .ok (t.trove owner).units
  | .troveStake owner kind => .ok (((t.trove owner).stakes.get? kind).getD .zero)
  | .rewardSnapshot owner kind => .ok (((t.trove owner).snapshots.get? kind).getD default)
  | .totalRedistributed kind => .ok ((t.totals.get? kind).getD default)
  | .troveOwnersCount => .ok t.listSize
  | .baseRate => .ok t.baseRate
  | .lastFeeOperationTime => .ok t.lastFeeOperationTime
  | .poolDebt pool => .ok (t.pool pool).debt
  | .poolCollateral pool kind => .ok (((t.pool pool).units.get? kind).getD .zero)
  | .validCollateral => .ok (t.whitelist.map (·.1))
  | .price kind => (t.collateral kind).map (·.price.raw)
  | .decimals kind => (t.collateral kind).map (·.decimals)
  | .safetyRatio kind => (t.collateral kind).map (·.safetyRatio.raw)
  | .recoveryRatio kind => (t.collateral kind).map (·.recoveryRatio.raw)
  | .isWrapped kind => (t.collateral kind).map (·.wrapped)
  | .first => .ok (t.sorted.head?.getD .zero)
  | .last => .ok (t.sorted.tail?.getD .zero)
  | .size => .ok t.listSize
  | .next id => .ok ((t.sorted.next? id).getD .zero)
  | .prev id => .ok ((t.sorted.prev? id).getD .zero)
  | .insertPosition ratio _ _ => .ok (t.position.getD (t.sorted.insertPosition ratio))
  | .approxHint _ _ seed => .ok (t.samples.head?.getD (noSample seed))
  | .redemptionHints _ _ => .ok t.redemption

/-- The estimate that is given next. -/
def nextGas (t : Tables) : UInt64 := t.gas.head?.getD 300000

/-- The tables after a request has been answered. The last estimate is never used up. -/
def after (t : Tables) : ChainRequest → Tables
  | .read (.approxHint _ _ _) _ => { t with samples := t.samples.tail }
  | .estimateGas _ => if t.gas.length ≤ 1 then t else { t with gas := t.gas.tail }
  | .waitForReceipt _ _ => { t with outcomes := t.outcomes.tail }
  | _ => t

/-- The failure of a request that is told to fail now. -/
def failure? (t : Tables) (name : String) : Option ChainError :=
  (t.outages.find? fun o => o.request = name && o.after = 0).map (·.cause)

/-- The tables with one success less before a kind of request fails. -/
def countDown (t : Tables) (name : String) : Tables :=
  { t with
    outages := t.outages.map fun o =>
      if o.request = name then { o with after := o.after - 1 } else o }

end Tables

/-- A request that was made, and whether it succeeded. -/
structure JournalEntry where
  request : ChainRequest
  succeeded : Bool

/-- A chain of tables; the journal has the last request first. -/
structure TableChain where
  tables : Tables
  nonce : UInt64
  journal : List JournalEntry

namespace TableChain

/-- The answer to a request that is not told to fail. The hash of a transaction is the number of
transactions up to it. -/
def answer (chain : TableChain) : (r : ChainRequest) → Except ChainError r.Answer
  | .read query _ => chain.tables.answer query
  | .estimateGas _ => .ok chain.tables.nextGas
  | .send call => .ok ⟨.wrap (chain.nonce.toNat + 1), call.sender, chain.nonce⟩
  | .waitForReceipt _ _ => .ok (chain.tables.outcomes.head?.getD .pending)

/-- The nonce after a request has been answered. -/
def nonceAfter (chain : TableChain) : ChainRequest → UInt64
  | .send _ => chain.nonce + 1
  | _ => chain.nonce

/-- Answers a request. -/
def handle (r : ChainRequest) : StateM TableChain (Except ChainError r.Answer) := fun chain =>
  match chain.tables.failure? r.name with
  | some cause =>
    (.error cause, { chain with journal := ⟨r, false⟩ :: chain.journal })
  | none =>
    let result := chain.answer r
    (result, {
      tables := (chain.tables.after r).countDown r.name
      nonce := chain.nonceAfter r
      journal := ⟨r, result.isOk⟩ :: chain.journal })

/-- Runs a procedure on the chain. -/
def run {ε α : Type} (p : Procedure Chain ε α) : StateM TableChain (Except ε α) :=
  p.run (I := Chain) handle

end TableChain

end Cdp
