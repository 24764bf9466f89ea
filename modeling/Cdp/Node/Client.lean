import Cdp.Node.Wire

/-!
# The chain behind a node

Every request to the chain becomes requests to a node: reads call the deployed contracts, and
transactions are sent and followed under the nonce of their sender.

A transaction is mined when the node has a receipt for its hash. If the sender's nonce has moved
past it and there is still no receipt, another transaction has taken its place. That one is looked
for from the latest block down to some blocks below the one at which the waiting began.
-/

set_option autoImplicit false

namespace Cdp

/-- A procedure over a node. -/
abbrev NodeProcedure (α : Type) := Procedure Node ChainError α

namespace Node

/-- Asks a request whose answer has a form. -/
def ask {α : Type} [JsonRead α] (r : NodeRequest) : NodeProcedure α := do
  let reply ← Procedure.request (I := Node) id r
  match JsonRead.read reply with
  | some a => return a
  | none => .fail (.transport ("unexpected result of " ++ r.method))

/-! ## Reads -/

/-- Calls a function of a contract and reads its results. -/
def callFunction {α : Type} (tag : BlockTag) (target : Address) (f : Contract.Function)
    (arguments : List Contract.Value) (build : List Contract.Value → Option α) :
    NodeProcedure α := do
  let output : HexBytes ← ask (.view target (f.call arguments) tag)
  match (f.readResults output.bytes).bind build with
  | some a => return a
  | none => .fail (.undecodable (.layout f.signature))

def oneWord? : List Contract.Value → Option Word
  | [.word w] => some w
  | _ => none

def oneAddress? (vs : List Contract.Value) : Option Address := (oneWord? vs).map .ofWord

/-- A function with one word as its result. -/
def callWord (tag : BlockTag) (target : Address) (f : Contract.Function)
    (arguments : List Contract.Value) : NodeProcedure Word :=
  callFunction tag target f arguments oneWord?

def callAddress (tag : BlockTag) (target : Address) (f : Contract.Function)
    (arguments : List Contract.Value) : NodeProcedure Address :=
  callFunction tag target f arguments oneAddress?

/-- A function whose result has to fit a counter. -/
def callCounter (tag : BlockTag) (target : Address) (f : Contract.Function) :
    NodeProcedure UInt64 := do
  let count ← callWord tag target f []
  if count.toNat < UInt64.size then return UInt64.ofNat count.toNat
  else .fail (.undecodable (.wideCount f.name count))

/-- Reads a block. -/
def readBlock (tag : BlockTag) : NodeProcedure BlockInfo := do
  let header : Option BlockHeader ← ask (.block tag false)
  match header with
  | some header => return header.block
  | none => .fail (.notFound (.block tag))

/-- Reads a Trove's status. -/
def readStatus (addresses : ContractAddresses) (tag : BlockTag) (owner : Address) :
    NodeProcedure UInt8 := do
  let status ←
    callWord tag addresses.troveManager Contract.getTroveStatus [.address owner]
  if status.toNat < UInt8.size then return UInt8.ofNat status.toNat
  else .fail (.undecodable (.wideStatus status))

/-- Reads a Trove's collateral. -/
def readCollateral (addresses : ContractAddresses) (tag : BlockTag) (owner : Address) :
    NodeProcedure (List (Address × Word)) := do
  let (tokens, amounts) ←
    callFunction tag addresses.troveManager Contract.getTroveColls [.address owner] fun
      | [.list tokens, .list amounts] => some (tokens, amounts)
      | _ => none
  if tokens.length = amounts.length then return (tokens.map Address.ofWord).zip amounts
  else .fail (.undecodable .unevenCollateral)

/-- Reads two words that make up a reward. -/
def readReward (addresses : ContractAddresses) (tag : BlockTag)
    (collateral debt : Contract.Function) (arguments : List Contract.Value) :
    NodeProcedure RawReward := do
  let forCollateral ← callWord tag addresses.troveManager collateral arguments
  let forDebt ← callWord tag addresses.troveManager debt arguments
  return ⟨forCollateral, forDebt⟩

def poolAddress (addresses : ContractAddresses) : Pool → Address
  | .active => addresses.activePool
  | .default => addresses.defaultPool

/-- Answers a read. -/
def read (a : ContractAddresses) (tag : BlockTag) : (q : Query) → NodeProcedure q.Answer
  | .block => readBlock tag
  | .troveStatus owner => readStatus a tag owner
  | .troveDebt owner => callWord tag a.troveManager Contract.getTroveDebt [.address owner]
  | .troveColls owner => readCollateral a tag owner
  | .troveStake owner kind =>
    callWord tag a.troveManager Contract.getTroveStake [.address owner, .address kind]
  | .rewardSnapshot owner kind =>
    readReward a tag Contract.getRewardSnapshotColl Contract.getRewardSnapshotDebt
      [.address owner, .address kind]
  | .totalRedistributed kind =>
    readReward a tag Contract.getTotalRewardColl Contract.getTotalRewardDebt [.address kind]
  | .troveOwnersCount => callCounter tag a.troveManager Contract.getTroveOwnersCount
  | .baseRate => callWord tag a.troveManager Contract.baseRate []
  | .lastFeeOperationTime => callCounter tag a.troveManager Contract.lastFeeOperationTime
  | .poolDebt pool => callWord tag (poolAddress a pool) Contract.getPoolDebt []
  | .poolCollateral pool kind =>
    callWord tag (poolAddress a pool) Contract.getPoolCollateral [.address kind]
  | .validCollateral =>
    callFunction tag a.whitelist Contract.getValidCollateral [] fun
      | [.list kinds] => some (kinds.map Address.ofWord)
      | _ => none
  | .price kind => callWord tag a.whitelist Contract.getPrice [.address kind]
  | .decimals kind =>
    callFunction tag a.whitelist Contract.getDecimals [.address kind] fun vs =>
      (oneWord? vs).map Contract.byteOfWord
  | .safetyRatio kind => callWord tag a.whitelist Contract.getSafetyRatio [.address kind]
  | .recoveryRatio kind => callWord tag a.whitelist Contract.getRecoveryRatio [.address kind]
  | .isWrapped kind =>
    callFunction tag a.whitelist Contract.isWrapped [.address kind] fun vs =>
      (oneWord? vs).map fun w => !w.isZero
  | .first => callAddress tag a.sortedTroves Contract.getFirst []
  | .last => callAddress tag a.sortedTroves Contract.getLast []
  | .size => callCounter tag a.sortedTroves Contract.getSize
  | .next id => callAddress tag a.sortedTroves Contract.getNext [.address id]
  | .prev id => callAddress tag a.sortedTroves Contract.getPrev [.address id]
  | .insertPosition ratio prev next =>
    callFunction tag a.sortedTroves Contract.findInsertPosition
      [.word ratio, .address prev, .address next] fun
      | [.word p, .word n] => some (.ofWord p, .ofWord n)
      | _ => none
  | .approxHint ratio trials seed =>
    callFunction tag a.hintHelpers Contract.getApproxHint
      [.word ratio, .counter trials, .word seed] fun
      | [.word hint, .word diff, .word seed] => some ⟨.ofWord hint, diff, seed⟩
      | _ => none
  | .redemptionHints amount maxIterations =>
    callFunction tag a.hintHelpers Contract.getRedemptionHints
      [.word amount, .counter maxIterations] fun
      | [.word first, .word ratio, .word truncated] => some ⟨.ofWord first, ratio, truncated⟩
      | _ => none

/-! ## Transactions -/

/-- The number of transactions of a sender. -/
def readCount (sender : Address) (pending : Bool) : NodeProcedure UInt64 := do
  let count : Quantity ← ask (.transactionCount sender pending)
  return count.value

/-- The receipt of a hash, if the node has one. -/
def readReceipt (hash : Word) : NodeProcedure (Option Receipt) := do
  let found : Option ReceiptRecord ← ask (.receipt hash)
  return found.map ReceiptRecord.receipt

def estimate (call : ContractCall) : NodeProcedure UInt64 := do
  let gas : Quantity ← ask (.estimate call)
  return gas.value

/-- Sends a call under the next nonce of its sender. -/
def send (call : ContractCall) : NodeProcedure Submitted := do
  let nonce ← readCount call.sender true
  let hash : Hash ← ask (.send call nonce)
  return ⟨hash.value, call.sender, nonce⟩

/-- How far below the block at which the waiting began a replacement is looked for. -/
def replacementDepth : Nat := 64

/-- Whether a listed transaction has the sender and nonce of a submitted one, but another hash. -/
def takesPlaceOf (submitted : Submitted) (t : Listed) : Bool :=
  t.sender = submitted.sender && t.nonce = submitted.nonce && t.hash != submitted.hash

/-- Whether a replacement is an empty transfer of the sender to itself. -/
def isCancellation (submitted : Submitted) (t : Listed) : Bool :=
  t.recipient = some submitted.sender && t.data.isEmpty && t.value.isZero

/-- The outcome of a transaction that another one has replaced. -/
def replacedBy (submitted : Submitted) (t : Listed) : NodeProcedure Outcome := do
  let receipt ← readReceipt t.hash
  match receipt with
  | some receipt => return .replaced receipt (isCancellation submitted t)
  | none => .fail (.notFound (.replacementReceipt t.hash))

/-- Looks for a replacement in the `count` blocks from `lowest` on, the highest first. -/
def searchBlocks (submitted : Submitted) (lowest : Nat) : Nat → NodeProcedure Outcome
  | 0 => .fail (.notFound (.replacement submitted.hash))
  | count + 1 => do
    let body : Option BlockBody ← ask (.block (.number (UInt64.ofNat (lowest + count))) true)
    match body.bind fun body => body.transactions.find? (takesPlaceOf submitted) with
    | some t => replacedBy submitted t
    | none => searchBlocks submitted lowest count

/-- Looks for a replacement from the latest block down. -/
def findReplacement (submitted : Submitted) (startBlock : UInt64) : NodeProcedure Outcome := do
  let latest ← readBlock .latest
  let lowest := startBlock.toNat - replacementDepth
  searchBlocks submitted lowest (latest.number.toNat + 1 - lowest)

/-- Looks once for the outcome of a transaction; there is none as long as it is pending. -/
def look (submitted : Submitted) (startBlock : UInt64) : NodeProcedure (Option Outcome) := do
  let receipt ← readReceipt submitted.hash
  match receipt with
  | some receipt => return some (.mined receipt)
  | none => do
    let count ← readCount submitted.sender false
    if count ≤ submitted.nonce then return none
    let again ← readReceipt submitted.hash
    match again with
    | some receipt => return some (.mined receipt)
    | none => some <$> findReplacement submitted startBlock

/-- Looks for the outcome, a number of times more after the first. -/
def follow (submitted : Submitted) (startBlock : UInt64) : Nat → NodeProcedure Outcome
  | 0 => do
    let outcome ← look submitted startBlock
    return outcome.getD .pending
  | more + 1 => do
    let outcome ← look submitted startBlock
    match outcome with
    | some outcome => return outcome
    | none => follow submitted startBlock more

/-- How often a wait looks again: once in every interval until the timeout is over. -/
def retries (interval timeout : Nat) : Nat := (timeout + interval - 1) / interval

/-- Waits for a transaction or its replacement. -/
def wait (interval : Nat) (submitted : Submitted) (timeout : Nat) : NodeProcedure Outcome := do
  let start ← readBlock .latest
  follow submitted start.number (retries interval timeout)

/-! ## The chain -/

/-- Answers a request to the chain; the interval between two looks for a receipt is in
milliseconds. -/
def serve (addresses : ContractAddresses) (interval : Nat) :
    (r : ChainRequest) → NodeProcedure r.Answer
  | .read query tag => read addresses tag query
  | .estimateGas call => estimate call
  | .send call => send call
  | .waitForReceipt submitted timeout => wait interval submitted timeout

/-- Runs a procedure over the chain on a node. -/
def through {ε α : Type} (addresses : ContractAddresses) (interval : Nat)
    (p : Procedure Chain ε α) : Procedure Node ε α :=
  p.redirect (I := Chain) (J := Node) (serve addresses interval)

end Node

end Cdp
