import Cdp.Transaction.Prepared

/-!
# Sending and following transactions

Once a prepared transaction is sent, waiting for it gives one of four results. That it failed or
was replaced is a result and not an error, and the receipt of a failed transaction is not read.
-/

set_option autoImplicit false

namespace Cdp

/-- What became of a transaction, with its details if it succeeded. -/
inductive TransactionResult (Details : Type) where
  | pending
  | failed (receipt : Receipt)
  | succeeded (receipt : Receipt) (details : Details)
  | replaced (receipt : Receipt) (cancelled : Bool)

/-- A transaction that was sent. -/
structure Sent (P : Type) where
  submitted : Submitted
  parser : P

variable {P Details ε : Type}

/-- Sends a prepared transaction. -/
def Prepared.send (wrap : ChainError → ε) (transaction : Prepared P) :
    Procedure Chain ε (Sent P) := do
  let submitted ← Procedure.request (I := Chain) wrap (.send transaction.call)
  return ⟨submitted, transaction.parser⟩

/-- Reads the details that an outcome carries. -/
def Sent.resolve [ReceiptParser P Details] (sent : Sent P) :
    Outcome → Attempt ChainError (TransactionResult Details)
  | .pending => .ok .pending
  | .mined receipt =>
    if receipt.succeeded then do
      let details ← ReceiptParser.parse sent.parser receipt
      return .succeeded receipt details
    else .ok (.failed receipt)
  | .replaced receipt cancelled => .ok (.replaced receipt cancelled)

/-- Waits for a transaction, at most `timeout` milliseconds. -/
def Sent.wait [ReceiptParser P Details] (sent : Sent P) (timeout : Nat) :
    Procedure Chain (Failure ChainError) (TransactionResult Details) := do
  let outcome ← Procedure.request (I := Chain) .refused (.waitForReceipt sent.submitted timeout)
  sent.resolve outcome

end Cdp
