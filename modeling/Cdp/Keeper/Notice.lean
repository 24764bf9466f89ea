import Cdp.Keeper.Pass

/-!
# What the keeper tells its operator

The lines that a pass writes, in the order of what happened: the recovery mode, the Troves found,
and for every batch its submission and its end.
-/

set_option autoImplicit false

namespace Cdp.Keeper

inductive Level where
  | info
  | warning
  | error
deriving DecidableEq

/-- The level as lines show it. -/
def Level.name : Level → String
  | .info => "INFO"
  | .warning => "WARN"
  | .error => "ERROR"

/-- A line for the operator. -/
structure Notice where
  level : Level
  text : String
deriving DecidableEq

namespace Notice

def recoveryMode (block : UInt64) : Notice :=
  ⟨.warning, "System is in recovery mode at block " ++ toString block.toNat⟩

def found (count : Nat) : Notice :=
  ⟨.info, "Found " ++ toString count ++ " Troves needing liquidation"⟩

def liquidating (h : TroveHealth) : Notice :=
  ⟨.info, "Liquidating " ++ h.owner.toChecksumText ++ " (health: " ++ h.health.toText ++
    ", debt: " ++ h.debt.toText ++ ")"⟩

def submitted (hash : Word) : Notice := ⟨.info, "Liquidation submitted: " ++ hash.toHashText⟩

/-- A number of seconds; none is written in the smallest unit. -/
def secondsText (seconds : UInt64) : String :=
  if seconds = 0 then "0ns" else toString seconds.toNat ++ "s"

def flagText (b : Bool) : String := if b then "true" else "false"

/-- The line for the end of a batch. -/
def ofResult (timeout : UInt64) (size : Nat) :
    Except Error (TransactionResult LiquidationDetails) → Notice
  | .ok (.succeeded _ details) =>
    ⟨.info, "Liquidated " ++ toString details.liquidated.length ++ " Troves, debt " ++
      details.totalDebt.toText ++ ", compensation " ++ details.gasCompensation.toText⟩
  | .ok (.failed receipt) => ⟨.error, "Liquidation " ++ receipt.hash.toHashText ++ " reverted"⟩
  | .ok (.replaced receipt cancelled) =>
    ⟨.warning, "Liquidation replaced by " ++ receipt.hash.toHashText ++ " (cancelled: " ++
      flagText cancelled ++ ")"⟩
  | .ok .pending => ⟨.warning, "Liquidation still pending after " ++ secondsText timeout⟩
  | .error cause =>
    ⟨.error, "Failed to liquidate batch of " ++ toString size ++ ": " ++
      ": ".intercalate cause.messages⟩

def ofBatch (timeout : UInt64) (report : BatchReport) : List Notice :=
  (report.hash.map submitted).toList ++ [ofResult timeout report.owners.length report.result]

end Notice

/-- The lines of a pass. -/
def Report.notices {Q : Type} (limits : Limits) (report : Report Q) : List Notice :=
  (report.recoveryBlock.map Notice.recoveryMode).toList ++
    (if report.found.isEmpty then []
    else Notice.found report.found.length :: report.found.map Notice.liquidating) ++
    report.batches.flatMap (Notice.ofBatch limits.receiptTimeout)

end Cdp.Keeper
