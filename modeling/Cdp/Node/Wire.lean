import Cdp.Json.ChainForms

/-!
# What a node exchanges

A node answers requests that have a method and parameters. Numbers are quantities, hexadecimal text
without leading zeros; bytes, addresses and hashes are hexadecimal text of fixed meaning. What a
node does not know is null.
-/

set_option autoImplicit false

namespace Cdp

open Json.Record

/-- A request to a node. -/
structure NodeRequest where
  method : String
  params : List Json

/-- The interface of a node. -/
def Node : Interface := ⟨NodeRequest, fun _ => Json⟩

namespace Node

/-! ## Forms -/

/-- The number of a quantity. -/
def quantity? (s : String) : Option Nat :=
  match s.toList with
  | '0' :: 'x' :: d :: digits => Hex.numberOfDigits? (d :: digits)
  | _ => none

/-- A counter as a quantity. -/
structure Quantity where
  value : UInt64
deriving DecidableEq

instance : JsonForm Quantity where
  write q := .string (Hex.ofNat q.value.toNat)
  read
    | .string s => (quantity? s).bind fun n =>
      if n < UInt64.size then some ⟨UInt64.ofNat n⟩ else none
    | _ => none

/-- A word as a quantity. -/
structure Amount where
  value : Word
deriving DecidableEq

instance : JsonForm Amount where
  write a := .string (Hex.ofNat a.value.toNat)
  read
    | .string s => ((quantity? s).bind Word.ofNat?).map Amount.mk
    | _ => none

/-! ## Records -/

/-- A block without its transactions. -/
structure BlockHeader where
  block : BlockInfo

instance : JsonForm BlockHeader where
  write h := .object
    [("number", write (Quantity.mk h.block.number)),
      ("timestamp", write (Quantity.mk h.block.timestamp))]
  read := read? do
    let number : Quantity ← required "number"
    let timestamp : Quantity ← required "timestamp"
    return ⟨⟨number.value, timestamp.value⟩⟩

/-- A transaction as its block lists it. -/
structure Listed where
  hash : Word
  sender : Address
  recipient : Option Address
  nonce : UInt64
  value : Word
  data : Bytes
deriving DecidableEq

instance : JsonForm Listed where
  write t := .object
    [("hash", write (Hash.mk t.hash)),
      ("from", write t.sender),
      ("to", write t.recipient),
      ("nonce", write (Quantity.mk t.nonce)),
      ("value", write (Amount.mk t.value)),
      ("input", write (HexBytes.mk t.data))]
  read := read? do
    let hash : Hash ← required "hash"
    let sender ← required "from"
    let recipient ← optional "to"
    let nonce : Quantity ← required "nonce"
    let value ← withDefault "value" (Amount.mk .zero)
    let data : HexBytes ← required "input"
    return ⟨hash.value, sender, recipient, nonce.value, value.value, data.bytes⟩

/-- The transactions of a block. -/
structure BlockBody where
  transactions : List Listed

instance : JsonForm BlockBody where
  write b := .object [("transactions", write b.transactions)]
  read := read? do
    let transactions ← required "transactions"
    return ⟨transactions⟩

/-- A log of a receipt. -/
structure LogEntry where
  log : Log

instance : JsonForm LogEntry where
  write e := .object
    [("address", write e.log.address),
      ("topics", write (e.log.topics.map Hash.mk)),
      ("data", write (HexBytes.mk e.log.data))]
  read := read? do
    let address ← required "address"
    let topics : List Hash ← required "topics"
    let data : HexBytes ← required "data"
    return ⟨⟨address, topics.map Hash.value, data.bytes⟩⟩

/-- A receipt; a status other than one, or none, is a failure. -/
structure ReceiptRecord where
  receipt : Receipt

instance : JsonForm ReceiptRecord where
  write r := .object
    [("transactionHash", write (Hash.mk r.receipt.hash)),
      ("blockNumber", write (Quantity.mk r.receipt.blockNumber)),
      ("status", write (Quantity.mk (if r.receipt.succeeded then 1 else 0))),
      ("gasUsed", write (Quantity.mk r.receipt.gasUsed)),
      ("logs", write (r.receipt.logs.map LogEntry.mk))]
  read := read? do
    let hash : Hash ← required "transactionHash"
    let blockNumber : Quantity ← required "blockNumber"
    let status : Option Quantity ← optional "status"
    let gasUsed : Quantity ← required "gasUsed"
    let logs : List LogEntry ← required "logs"
    return ⟨⟨hash.value, blockNumber.value, decide (status = some ⟨1⟩), gasUsed.value,
      logs.map LogEntry.log⟩⟩

/-! ## Requests -/

/-- A call without the fields that a node fills in itself. -/
def callFields (sender : Option Address) (target : Address) (data : Bytes) (value : Word)
    (gas nonce : Option UInt64) : Json :=
  .object <|
    (sender.map fun a => ("from", write a)).toList ++
    [("to", write target), ("data", write (HexBytes.mk data)),
      ("value", write (Amount.mk value))] ++
    (gas.map fun n => ("gas", write (Quantity.mk n))).toList ++
    (nonce.map fun n => ("nonce", write (Quantity.mk n))).toList

end Node

namespace NodeRequest

open Node

def block (tag : BlockTag) (withTransactions : Bool) : NodeRequest :=
  ⟨"eth_getBlockByNumber", [tag.toJson, .bool withTransactions]⟩

/-- A read of a contract. -/
def view (target : Address) (data : Bytes) (tag : BlockTag) : NodeRequest :=
  ⟨"eth_call", [callFields none target data .zero none none, tag.toJson]⟩

def estimate (call : ContractCall) : NodeRequest :=
  ⟨"eth_estimateGas", [callFields (some call.sender) call.target call.data call.value none none]⟩

def send (call : ContractCall) (nonce : UInt64) : NodeRequest :=
  ⟨"eth_sendTransaction",
    [callFields (some call.sender) call.target call.data call.value call.gasLimit (some nonce)]⟩

/-- The number of transactions of a sender, mined ones or all. -/
def transactionCount (sender : Address) (pending : Bool) : NodeRequest :=
  ⟨"eth_getTransactionCount", [write sender, .string (if pending then "pending" else "latest")]⟩

def receipt (hash : Word) : NodeRequest :=
  ⟨"eth_getTransactionReceipt", [write (Hash.mk hash)]⟩

end NodeRequest

end Cdp
