import Cdp.Proofs.Procedure.Joined
import Cdp.Snapshot.Basic
import Cdp.Transaction.Redemption

/-!
# Reads that are joined

What a reading of the chain needs is asked side by side wherever nothing of it depends on another
answer. The computations here join these parts, and the procedures that read the whitelist, Troves,
pools, fees, the state of the system and snapshots do one part after the other: each is the
sequential form of its computation. So are the two that ask side by side for what a transaction
needs.

So what holds of the procedures holds of every order of the answers (`Chain.joined_readings`,
`Context.joined_preparations`). A joined reading that succeeds has asked what a run of the procedure
asks and has its value, and where the chain has one answer to each request, it fails exactly if the
procedure does.
-/

set_option autoImplicit false

namespace Cdp

open Cdp.Joined Procedure

namespace Chain

variable {tag : BlockTag}

/-- A reading of the chain with joined parts. -/
abbrev JoinedReading (α : Type) := Joined Chain (Failure Error) α

/-- One read. -/
def joinedAt (query : Query) (tag : BlockTag) : JoinedReading query.Answer :=
  .procedure (readAt query tag)

/-- A value that is computed from what was read. -/
def computed {α : Type} (x : Attempt Error α) : JoinedReading α := .procedure x

def joinedCollateralInfo (tag : BlockTag) (kind : Address) : JoinedReading CollateralInfo :=
  (both (joinedAt (.price kind) tag) (both (joinedAt (.decimals kind) tag)
    (both (joinedAt (.safetyRatio kind) tag) (both (joinedAt (.recoveryRatio kind) tag)
      (joinedAt (.isWrapped kind) tag))))).andThen
    fun (price, decimals, safetyRatio, recoveryRatio, wrapped) =>
      value ⟨decimals, ⟨price⟩, ⟨safetyRatio⟩, ⟨recoveryRatio⟩, wrapped⟩

def joinedWhitelist (tag : BlockTag) : JoinedReading Whitelist :=
  (joinedAt .validCollateral tag).andThen fun kinds =>
    (all (kinds.map fun kind =>
      (joinedCollateralInfo tag kind).andThen fun info => value (kind, info))).andThen
        fun entries => value (.ofEntries entries)

def joinedStake (owner : Address) (tag : BlockTag) (kind : Address) :
    JoinedReading (Address × Decimal × RewardPerStake) :=
  (both (joinedAt (.troveStake owner kind) tag) (joinedAt (.rewardSnapshot owner kind) tag)).andThen
    fun (stake, snapshot) => value (kind, ⟨stake⟩, rewardPerStake snapshot)

def joinedStoredTrove (owner : Address) (whitelist : Whitelist) (tag : BlockTag) :
    JoinedReading StoredTrove :=
  (joinedAt (.troveStatus owner) tag).andThen fun code =>
    match TroveStatus.ofCode? code with
    | none => .procedure (.fail (.refused (.chain (.undecodable (.statusCode code)))))
    | some status =>
      if !status.isOpen then value ⟨.empty owner status, .empty, .empty⟩
      else
        (both (joinedAt (.troveDebt owner) tag) (joinedAt (.troveColls owner) tag)).andThen
          fun (debt, units) => (computed (collateralsOfUnits whitelist units)).andThen
            fun collaterals => (all (units.map fun e => joinedStake owner tag e.1)).andThen
              fun perKind => value {
                user := ⟨owner, status, ⟨collaterals, ⟨debt⟩⟩⟩
                stakes := .ofList (perKind.map fun e => (e.1, e.2.1))
                snapshots := .ofList (perKind.map fun e => (e.1, e.2.2)) }

def joinedTotals (kinds : List Address) (tag : BlockTag) : JoinedReading RewardTotals :=
  (all (kinds.map fun kind => (joinedAt (.totalRedistributed kind) tag).andThen fun raw =>
    value (kind, rewardPerStake raw))).andThen fun totals => value (.ofList totals)

def joinedTrove (owner : Address) (whitelist : Whitelist) (tag : BlockTag) :
    JoinedReading UserTrove :=
  (both (joinedStoredTrove owner whitelist tag) (joinedTotals whitelist.kinds tag)).andThen
    fun (stored, totals) => .procedure (stored.applyRedistribution totals)

def joinedPool (pool : Pool) (whitelist : Whitelist) (tag : BlockTag) : JoinedReading Trove :=
  (both (joinedAt (.poolDebt pool) tag) (all (whitelist.kinds.map fun kind =>
    (joinedAt (.poolCollateral pool kind) tag).andThen fun raw => value (kind, raw)))).andThen
      fun (debt, units) => (computed (collateralsOfUnits whitelist units)).andThen
        fun collaterals => value ⟨collaterals, ⟨debt⟩⟩

def joinedTotal (whitelist : Whitelist) (tag : BlockTag) : JoinedReading Trove :=
  (both (joinedPool .active whitelist tag) (joinedPool .default whitelist tag)).andThen
    fun (active, default) => .procedure (active.add default)

def joinedFeesFactory (tag : BlockTag) : JoinedReading FeesFactory :=
  (both (joinedAt .baseRate tag) (joinedAt .lastFeeOperationTime tag)).andThen
    fun (baseRate, lastFeeOperationTime) => value ⟨⟨baseRate⟩, lastFeeOperationTime⟩

def joinedFees (whitelist : Whitelist) (tag : BlockTag) : JoinedReading Fees :=
  (both (joinedFeesFactory tag) (both (joinedTotal whitelist tag) (joinedAt .block tag))).andThen
    fun (factory, total, block) => (computed (whitelist.isRecoveryMode total)).andThen
      fun recoveryMode => value (factory.at block.timestamp recoveryMode)

def joinedState (tag : BlockTag) : JoinedReading SystemState :=
  (both (joinedAt .block tag) (both (joinedWhitelist tag) (joinedFeesFactory tag))).andThen
    fun (block, whitelist, feesFactory) => (joinedTotal whitelist tag).andThen
      fun total => value { block, whitelist, total, feesFactory }

/-- The Trove that is watched, if there is one. -/
def joinedOwnerTrove (owner : Option Address) (whitelist : Whitelist) (tag : BlockTag) :
    JoinedReading (Option StoredTrove) :=
  match owner with
  | none => value none
  | some owner => (joinedStoredTrove owner whitelist tag).andThen fun stored => value (some stored)

def joinedSnapshotAt (owner : Option Address) (block : BlockInfo) : JoinedReading Snapshot :=
  let pinned : BlockTag := .number block.number
  (both (joinedWhitelist pinned) (both (joinedFeesFactory pinned)
    (.procedure (readTroveCount pinned)))).andThen fun (whitelist, feesFactory, troveCount) =>
      (both (joinedPool .active whitelist pinned) (both (joinedPool .default whitelist pinned)
        (both (joinedTotals whitelist.kinds pinned)
          (joinedOwnerTrove owner whitelist pinned)))).andThen
            fun (activePool, defaultPool, totals, ownerTrove) => value {
              block, whitelist, activePool, defaultPool, totals, feesFactory, troveCount,
              ownerTrove }

/-! ## One part after the other -/

@[simp] theorem sequential_joinedCollateralInfo (kind : Address) :
    (joinedCollateralInfo tag kind).sequential = readCollateralInfo tag kind := by
  simp [joinedCollateralInfo, joinedAt, readCollateralInfo, Procedure.bind_assoc]

@[simp] theorem sequential_joinedWhitelist :
    (joinedWhitelist tag).sequential = readWhitelist tag := by
  simp [joinedWhitelist, joinedAt, readWhitelist]

@[simp] theorem sequential_joinedStake (owner kind : Address) :
    (joinedStake owner tag kind).sequential = readStake owner tag kind := by
  simp [joinedStake, joinedAt, readStake, Procedure.bind_assoc]

@[simp] theorem sequential_joinedStoredTrove (owner : Address) (whitelist : Whitelist) :
    (joinedStoredTrove owner whitelist tag).sequential = readStoredTrove owner whitelist tag := by
  rw [joinedStoredTrove, readStoredTrove, sequential_andThen, joinedAt, sequential_procedure]
  refine congrArg _ (funext fun code => ?_)
  cases TroveStatus.ofCode? code with
  | none => rfl
  | some status =>
    cases hopen : status.isOpen with
    | false => simp [hopen]
    | true => simp [joinedAt, computed, hopen, Procedure.bind_assoc]

@[simp] theorem sequential_joinedTotals (kinds : List Address) :
    (joinedTotals kinds tag).sequential = readTotals kinds tag := by
  simp [joinedTotals, joinedAt, readTotals]

@[simp] theorem sequential_joinedTrove (owner : Address) (whitelist : Whitelist) :
    (joinedTrove owner whitelist tag).sequential = readTrove owner whitelist tag := by
  simp [joinedTrove, readTrove, Procedure.bind_assoc]

@[simp] theorem sequential_joinedPool (pool : Pool) (whitelist : Whitelist) :
    (joinedPool pool whitelist tag).sequential = readPool pool whitelist tag := by
  simp [joinedPool, joinedAt, computed, readPool, Procedure.bind_assoc]

@[simp] theorem sequential_joinedTotal (whitelist : Whitelist) :
    (joinedTotal whitelist tag).sequential = readTotal whitelist tag := by
  simp [joinedTotal, readTotal, Procedure.bind_assoc]

@[simp] theorem sequential_joinedFeesFactory :
    (joinedFeesFactory tag).sequential = readFeesFactory tag := by
  simp [joinedFeesFactory, joinedAt, readFeesFactory, Procedure.bind_assoc]

@[simp] theorem sequential_joinedFees (whitelist : Whitelist) :
    (joinedFees whitelist tag).sequential = readFees whitelist tag := by
  simp [joinedFees, joinedAt, computed, readFees, Procedure.bind_assoc]

@[simp] theorem sequential_joinedState : (joinedState tag).sequential = readState tag := by
  simp [joinedState, joinedAt, readState, Procedure.bind_assoc]

@[simp] theorem sequential_joinedOwnerTrove (owner : Option Address) (whitelist : Whitelist) :
    (joinedOwnerTrove owner whitelist tag).sequential = readOwnerTrove owner whitelist tag := by
  cases owner with
  | none => rfl
  | some owner => simp [joinedOwnerTrove, readOwnerTrove]

@[simp] theorem sequential_joinedSnapshotAt (owner : Option Address) (block : BlockInfo) :
    (joinedSnapshotAt owner block).sequential = readSnapshotAt owner block := by
  simp [joinedSnapshotAt, readSnapshotAt, Procedure.bind_assoc]

/-! ## In any order -/

/-- The readings of Troves, fees, the state of the system and snapshots come to the same in every
order in which their joined reads may be answered. -/
theorem joined_readings :
    (∀ tag, (joinedState tag).Orders (readState tag)) ∧
      (∀ owner whitelist tag,
        (joinedStoredTrove owner whitelist tag).Orders (readStoredTrove owner whitelist tag) ∧
          (joinedTrove owner whitelist tag).Orders (readTrove owner whitelist tag)) ∧
      (∀ whitelist tag, (joinedFees whitelist tag).Orders (readFees whitelist tag)) ∧
      ∀ owner block, (joinedSnapshotAt owner block).Orders (readSnapshotAt owner block) :=
  ⟨fun _ => orders_of_sequential sequential_joinedState,
    fun owner whitelist _ => ⟨orders_of_sequential (sequential_joinedStoredTrove owner whitelist),
      orders_of_sequential (sequential_joinedTrove owner whitelist)⟩,
    fun whitelist _ => orders_of_sequential (sequential_joinedFees whitelist),
    fun owner block => orders_of_sequential (sequential_joinedSnapshotAt owner block)⟩

end Chain

/-! ## Preparing transactions -/

namespace Context

variable (context : Context)

/-- The two estimates are on their way side by side. -/
def joinedDualGas (call later : ContractCall) (updateGas : UInt64) :
    Chain.JoinedReading (ContractCall × Option UInt64) :=
  (both (.procedure (estimate call)) (.procedure (estimate later))).andThen
    fun (gasNow, gasLater) => value (limited call (.dual context.policy gasNow gasLater updateGas))

/-- The state and the hints of a redemption are read side by side. -/
def joinedRedeem (amount : Decimal) (maxRate : Option Decimal) (gasLimit : Option UInt64)
    (seed : Word) : Chain.JoinedReading PreparedRedemption :=
  (Joined.procedure (requireAmount amount .redemption : ChainProcedure Unit)).andThen fun _ =>
    (both (Chain.joinedState .latest) (Chain.joinedAt
      (.redemptionHints amount.raw context.policy.redeemMaxIterations) .latest)).andThen
        fun (state, found) =>
          .procedure (context.redeemFound amount maxRate gasLimit seed state found)

/-- A dual limit and a redemption come to the same in every order in which what they join may be
answered. -/
theorem joined_preparations :
    (∀ call later updateGas, (context.joinedDualGas call later updateGas).Orders
        (context.withDualGas call later updateGas)) ∧
      ∀ amount maxRate gasLimit seed, (context.joinedRedeem amount maxRate gasLimit seed).Orders
        (context.redeem amount maxRate gasLimit seed) := by
  constructor
  · refine fun call later updateGas => orders_of_sequential ?_
    simp [joinedDualGas, withDualGas, Procedure.bind_assoc]
  · refine fun amount maxRate gasLimit seed => orders_of_sequential ?_
    simp [joinedRedeem, Chain.joinedAt, redeem, Procedure.bind_assoc]

end Context

end Cdp
