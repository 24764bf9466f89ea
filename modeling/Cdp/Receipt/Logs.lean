import Cdp.Chain.Error
import Cdp.Contract.Interface
import Cdp.Decimal.Units
import Cdp.Trove.Ratio

/-!
# Reading logs

A receipt carries the logs of every contract that took part. The logs of an event are those that
the expected contract emitted and whose first topic marks the event; all others mean nothing here.
A log that carries the mark and cannot be read is an error.
-/

set_option autoImplicit false

namespace Cdp

/-- The logs of an event that a contract emitted. -/
def Receipt.logsOf (receipt : Receipt) (emitter : Address) (event : Contract.Event) : List Log :=
  receipt.logs.filter fun log => log.address = emitter && log.topics.head? = some event.topic

namespace Contract.Event

/-- The fields of a log, the indexed ones first. -/
def fields? (event : Event) (log : Log) : Option (List Value) :=
  if log.topics.length = event.indexed.length + 1 then
    (decode (event.fields.map ValueType.shape) log.data).map fun fields =>
      (log.topics.drop 1).map Value.word ++ fields
  else none

/-- Reads a log of the event. -/
def readLog {α : Type} (event : Event) (build : List Value → Option α) (log : Log) :
    Attempt ChainError α :=
  Attempt.ofOption (.undecodable (.layout event.signature)) ((event.fields? log).bind build)

end Contract.Event

/-- Collateral from parallel lists of tokens and amounts in units; repeated tokens are summed and
zero amounts left out. -/
def collateralsOfArrays (decimals : AddressMap UInt8) (tokens : List Address)
    (amounts : List Word) : Attempt ChainError Collaterals := do
  if tokens.length ≠ amounts.length then
    Attempt.refuse (.undecodable (.unevenArrays tokens.length amounts.length))
  (tokens.zip amounts).foldlM (fun m e => do
    let places ← Attempt.ofOption (.undecodable (.unknownCollateral e.1)) (decimals.get? e.1)
    let amount ← Attempt.ofExcept (fun cause => .undecodable (.amount cause))
      (Decimal.ofUnits e.2 places)
    if amount.isZero then return m
    else Trove.addAmount m e.1 amount) .empty

end Cdp
