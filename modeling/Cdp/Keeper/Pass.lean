import Cdp.Keeper.Queue
import Cdp.Keeper.Settings
import Cdp.Chain.State
import Cdp.Transaction.Closing
import Cdp.Transaction.Sending

/-!
# A pass of the keeper

A pass reads the tail of the list at the latest block, refreshes the queue with the health of the
Troves it finds there, and liquidates those with a health below one in batches. If the refresh
fails, the pass ends with the queue as it was. Otherwise every batch is attempted, whatever became
of the ones before it, and the Troves that a batch reports as liquidated leave the queue.

A pass works on any kind of queue. The report of a pass says all that happened in it; what the
keeper tells its operator is read off the report.
-/

set_option autoImplicit false

namespace Cdp

/-- A refusal as a value; only a fault still ends the procedure. -/
def Procedure.settle {I : Interface} {ε α : Type} (p : Procedure I (Failure ε) α) :
    Procedure I Fault (Except ε α) :=
  p.onResult fun
    | .ok a => .done (.ok (.ok a))
    | .error (.refused e) => .done (.ok (.error e))
    | .error (.broken fault) => .done (.error fault)

namespace Keeper

/-- Owners in batches of at most `limit`, in their order; none if the limit is zero. -/
def batches (limit : Nat) (owners : List Address) : List (List Address) :=
  if _h : limit = 0 then []
  else if _h : owners = [] then []
  else owners.take limit :: batches limit (owners.drop limit)
termination_by owners.length
decreasing_by
  have : 0 < owners.length := List.length_pos_iff.2 ‹owners ≠ []›
  simp only [List.length_drop]
  omega

/-! ## Refreshing the queue -/

/-- The part of a refresh that failed. -/
inductive RefreshStage where
  | systemState
  | sortedTroves
  | troves
deriving DecidableEq

def RefreshStage.text : RefreshStage → String
  | .systemState => "Failed to read system state"
  | .sortedTroves => "Failed to walk sorted Troves"
  | .troves => "Failed to read Troves"

/-- A refused refresh; that the recovery mode cannot be told belongs to no stage. -/
structure RefreshFailure where
  stage : Option RefreshStage
  cause : Error
deriving DecidableEq

/-- The stage and the cause, each with its own cause behind it. -/
def RefreshFailure.message (failure : RefreshFailure) : String :=
  ": ".intercalate ((failure.stage.map RefreshStage.text).toList ++ failure.cause.messages)

/-- A procedure whose refusals name a stage. -/
def inStage {α : Type} (stage : RefreshStage) (p : ChainProcedure α) :
    Procedure Chain (Failure RefreshFailure) α :=
  p.onResult fun
    | .ok a => .done (.ok a)
    | .error failure => .done (.error (failure.map fun cause => ⟨some stage, cause⟩))

section Refreshing

variable {Q : Type} [QueueOperations Q]

/-- The queue after the Troves at the tail of the list have been scored as of the state's block. -/
def rescore (queue : Q) (state : SystemState) (recoveryMode : Bool) (scanDepth : Nat) :
    Procedure Chain (Failure RefreshFailure) Q := do
  let block := state.block.number
  let owners ← inStage .sortedTroves (Chain.scanTail scanDepth (.number block))
  let scores ← inStage .troves (Chain.assessTroves state.whitelist owners recoveryMode block)
  return QueueOperations.update queue owners scores

/-- What a refresh found. -/
structure Refresh (Q : Type) where
  /-- The block, if the system is in recovery mode. -/
  recoveryBlock : Option UInt64
  result : Except (Failure RefreshFailure) Q

/-- Scores the Troves at the tail of the list as of the latest block. -/
def refresh (queue : Q) (scanDepth : Nat) : Procedure Chain Empty (Refresh Q) := do
  let read ← (inStage .systemState (Chain.readState .latest)).attempt
  match read with
  | .error failure => return ⟨none, .error failure⟩
  | .ok state =>
    match state.isRecoveryMode with
    | .error failure => return ⟨none, .error (failure.map fun cause => ⟨none, cause⟩)⟩
    | .ok recoveryMode => do
      let result ← (rescore queue state recoveryMode scanDepth).attempt
      return ⟨if recoveryMode then some state.block.number else none, result⟩

end Refreshing

/-! ## Liquidating -/

/-- What became of a batch, and the hash of its transaction if there is one. -/
structure BatchReport where
  owners : List Address
  hash : Option Word
  result : Except Error (TransactionResult LiquidationDetails)

/-- The owners that a batch reports as liquidated. -/
def BatchReport.liquidated (report : BatchReport) : List Address :=
  match report.result with
  | .ok (.succeeded _ details) => details.liquidated
  | _ => []

/-- A chain failure of a transaction as a refusal of the keeper. -/
def Sent.waitAsError (sent : Sent LiquidationParser) (timeout : Nat) :
    ChainProcedure (TransactionResult LiquidationDetails) :=
  (sent.wait timeout).onResult fun
    | .ok result => .done (.ok result)
    | .error failure => .done (.error (failure.map .chain))

/-- Follows the transaction of a batch. -/
def followBatch (timeout : Nat) (owners : List Address) (sent : Sent LiquidationParser) :
    Procedure Chain Fault BatchReport := do
  let result ← (Sent.waitAsError sent timeout).settle
  return ⟨owners, some sent.submitted.hash, result⟩

/-- Sends the transaction of a batch and follows it. -/
def sendBatch (timeout : Nat) (owners : List Address) (transaction : Prepared LiquidationParser) :
    Procedure Chain Fault BatchReport := do
  let sent ← (transaction.send fun cause => Failure.refused (.chain cause)).settle
  match sent with
  | .error cause => return ⟨owners, none, .error cause⟩
  | .ok sent => followBatch timeout owners sent

/-- Prepares, sends and follows the liquidation of a batch. -/
def liquidateBatch (context : Context) (timeout : Nat) (owners : List Address) :
    Procedure Chain Fault BatchReport := do
  let prepared ← (context.liquidate owners none).settle
  match prepared with
  | .error cause => return ⟨owners, none, .error cause⟩
  | .ok transaction => sendBatch timeout owners transaction

section Passes

variable {Q : Type} [QueueOperations Q]

/-- What became of the batches of a pass, and the queue behind them. A fault ends the pass. -/
structure Liquidation (Q : Type) where
  queue : Q
  batches : List BatchReport
  fault : Option Fault

/-- Attempts all batches one after another. -/
def liquidateAll (context : Context) (timeout : Nat) (queue : Q) :
    List (List Address) → Procedure Chain Empty (Liquidation Q)
  | [] => return ⟨queue, [], none⟩
  | owners :: rest => do
    let result ← (liquidateBatch context timeout owners).attempt
    match result with
    | .error fault => return ⟨queue, [], some fault⟩
    | .ok report => do
      let others ← liquidateAll context timeout
        (QueueOperations.eraseAll queue report.liquidated) rest
      return { others with batches := report :: others.batches }

/-! ## The pass -/

/-- What one pass may take on. The timeout of a receipt is in seconds. -/
structure Limits where
  scanDepth : UInt64
  maxPerBatch : UInt64
  receiptTimeout : UInt64
deriving DecidableEq

/-- The limits of the keeper's settings. -/
def Limits.ofSettings (s : KeeperSettings) : Limits :=
  ⟨s.scanDepth, s.maxLiquidationsPerBatch, s.receiptTimeoutSeconds⟩

/-- All that happened in a pass. -/
structure Report (Q : Type) where
  /-- The queue behind the pass. -/
  queue : Q
  recoveryBlock : Option UInt64
  /-- The Troves that were found to be liquidated. -/
  found : List TroveHealth
  batches : List BatchReport
  /-- How the pass ended. -/
  outcome : Except (Failure RefreshFailure) Unit

/-- A refresh as the whole of a pass. -/
def refreshOnly (queue : Q) (limits : Limits) : Procedure Chain Empty (Report Q) := do
  let refreshed ← refresh queue limits.scanDepth.toNat
  match refreshed.result with
  | .error failure => return ⟨queue, refreshed.recoveryBlock, [], [], .error failure⟩
  | .ok queue => return ⟨queue, refreshed.recoveryBlock, [], [], .ok ()⟩

/-- Refreshes the queue and liquidates all Troves with a health below one. -/
def pass (context : Context) (limits : Limits) (queue : Q) : Procedure Chain Empty (Report Q) := do
  let report ← refreshOnly queue limits
  match report.outcome with
  | .error _ => return report
  | .ok _ => do
    let found := QueueOperations.liquidatableUpTo report.queue limits.scanDepth.toNat
    let liquidation ← liquidateAll context (limits.receiptTimeout.toNat * 1000) report.queue
      (batches limits.maxPerBatch.toNat (found.map (·.owner)))
    return { report with
      queue := liquidation.queue
      found
      batches := liquidation.batches
      outcome := match liquidation.fault with
        | none => .ok ()
        | some fault => .error (.broken fault) }

end Passes

end Keeper

end Cdp
