import Cdp.Chain.Interface
import Cdp.Json.SystemForms

/-!
# Forms of what the chain exchanges

A word is written in decimal digits, a hash and bytes in hexadecimal digits; hashes and bytes are
also read from lists of bytes. A read is an object with its name and arguments.
-/

set_option autoImplicit false

namespace Cdp

open Json.Record

instance : JsonForm Word where
  write w := .string w.toDecimalText
  read
    | .string s => Word.ofDecimalText? s
    | _ => none

/-- Bytes as data. -/
structure HexBytes where
  bytes : Bytes
deriving DecidableEq

instance : JsonForm HexBytes where
  write b := .string (Hex.ofBytes b.bytes)
  read
    | .string s => (Hex.bytes? s).map HexBytes.mk
    | .array items => (items.mapM JsonRead.read).map HexBytes.mk
    | _ => none

/-- A hash or a topic as data. -/
structure Hash where
  value : Word
deriving DecidableEq

instance : JsonForm Hash where
  write h := .string h.value.toHashText
  read
    | .string s => (Word.ofHashText? s).map Hash.mk
    | .array items => (Json.fixedBytes? 32 items).map fun bytes => ⟨.wrap (natOfBytes bytes)⟩
    | _ => none

/-! ## Transactions -/

instance : JsonForm ContractCall where
  write c := .object
    [("from", write c.sender),
      ("to", write c.target),
      ("data", write (HexBytes.mk c.data)),
      ("value", write c.value),
      ("gas_limit", write c.gasLimit)]
  read := readNamed? do
    let sender ← required "from"
    let target ← required "to"
    let data : HexBytes ← required "data"
    let value : Option Word ← optional "value"
    let gasLimit ← optional "gas_limit"
    return ⟨sender, target, data.bytes, value.getD .zero, gasLimit⟩

instance : JsonForm Submitted where
  write s := .object
    [("hash", write (Hash.mk s.hash)), ("from", write s.sender), ("nonce", write s.nonce)]
  read := readNamed? do
    let hash : Hash ← required "hash"
    let sender ← required "from"
    let nonce ← required "nonce"
    return ⟨hash.value, sender, nonce⟩

instance : JsonForm Log where
  write l := .object
    [("address", write l.address),
      ("topics", write (l.topics.map Hash.mk)),
      ("data", write (HexBytes.mk l.data))]
  read := readNamed? do
    let address ← required "address"
    let topics : List Hash ← required "topics"
    let data : HexBytes ← required "data"
    return ⟨address, topics.map Hash.value, data.bytes⟩

instance : JsonForm Receipt where
  write r := .object
    [("transaction_hash", write (Hash.mk r.hash)),
      ("block_number", write r.blockNumber),
      ("status", write r.succeeded),
      ("gas_used", write r.gasUsed),
      ("logs", write r.logs)]
  read := readNamed? do
    let hash : Hash ← required "transaction_hash"
    let blockNumber ← required "block_number"
    let succeeded ← required "status"
    let gasUsed ← required "gas_used"
    let logs ← required "logs"
    return ⟨hash.value, blockNumber, succeeded, gasUsed, logs⟩

/-- The outcome of a kind, with the fields that the kind has. -/
def Outcome.ofKind? (kind : String) (receipt : Option Receipt) (cancelled : Option Bool) :
    Option Outcome :=
  match kind, receipt, cancelled with
  | "pending", _, _ => some .pending
  | "mined", some receipt, _ => some (.mined receipt)
  | "replaced", some receipt, some cancelled => some (.replaced receipt cancelled)
  | _, _, _ => none

instance : JsonForm Outcome where
  write
    | .pending => .object [("kind", .string "pending")]
    | .mined receipt => .object [("kind", .string "mined"), ("receipt", write receipt)]
    | .replaced receipt cancelled => .object
      [("kind", .string "replaced"), ("receipt", write receipt), ("cancelled", .bool cancelled)]
  read := readNamed? do
    let kind ← required "kind"
    let receipt ← optional "receipt"
    let cancelled ← optional "cancelled"
    StateT.lift (Outcome.ofKind? kind receipt cancelled)

/-! ## Reads -/

instance : JsonWrite RawReward where
  write r := .object [("collateral", write r.collateral), ("debt", write r.debt)]

instance : JsonForm ApproxHint where
  write h := .object [("hint", write h.hint), ("diff", write h.diff), ("seed", write h.seed)]
  read := readNamed? do
    let hint ← required "hint"
    let diff ← required "diff"
    let seed ← required "seed"
    return ⟨hint, diff, seed⟩

instance : JsonWrite RedemptionHints where
  write h := .object
    [("first", write h.first),
      ("partial_nicr", write h.partialRatio),
      ("truncated", write h.truncatedAmount)]

/-- The answer to a read. -/
def Query.writeAnswer : (q : Query) → q.Answer → Json
  | .block, b => write b
  | .troveStatus _, n | .decimals _, n => write n
  | .troveDebt _, w | .troveStake _ _, w | .baseRate, w | .poolDebt _, w | .poolCollateral _ _, w
  | .price _, w | .safetyRatio _, w | .recoveryRatio _, w => write w
  | .troveColls _, units => write units
  | .rewardSnapshot _ _, r | .totalRedistributed _, r => write r
  | .troveOwnersCount, n | .lastFeeOperationTime, n | .size, n => write n
  | .validCollateral, kinds => write kinds
  | .isWrapped _, b => write b
  | .first, a | .last, a | .next _, a | .prev _, a => write a
  | .insertPosition _ _ _, p => write p
  | .approxHint _ _ _, h => write h
  | .redemptionHints _ _, h => write h

/-- A tag with its number as a number. -/
instance : JsonWrite BlockTag where
  write
    | .latest => .string "latest"
    | .number n => write n

instance : JsonRead Pool where
  read
    | .string "active" => some .active
    | .string "default" => some .default
    | _ => none

/-- The arguments of a read, by the name of the read; the pool is the active one unless another is
named. -/
def Query.arguments (name : String) : Reader Query := do
  let owner : Reader Address := required "owner"
  let kind : Reader Address := required "kind"
  let id : Reader Address := required "id"
  let pool : Reader Pool := (·.getD .active) <$> optional "pool"
  match name with
  | "block" => return .block
  | "get_trove_status" => return .troveStatus (← owner)
  | "get_trove_debt" => return .troveDebt (← owner)
  | "get_trove_colls" => return .troveColls (← owner)
  | "get_trove_stake" => return .troveStake (← owner) (← kind)
  | "get_reward_snapshot" => return .rewardSnapshot (← owner) (← kind)
  | "get_total_redistributed" => return .totalRedistributed (← kind)
  | "get_trove_owners_count" => return .troveOwnersCount
  | "base_rate" => return .baseRate
  | "last_fee_operation_time" => return .lastFeeOperationTime
  | "get_pool_debt" => return .poolDebt (← pool)
  | "get_pool_collateral" => return .poolCollateral (← pool) (← kind)
  | "get_valid_collateral" => return .validCollateral
  | "get_price" => return .price (← kind)
  | "get_decimals" => return .decimals (← kind)
  | "get_safety_ratio" => return .safetyRatio (← kind)
  | "get_recovery_ratio" => return .recoveryRatio (← kind)
  | "is_wrapped" => return .isWrapped (← kind)
  | "get_first" => return .first
  | "get_last" => return .last
  | "get_size" => return .size
  | "get_next" => return .next (← id)
  | "get_prev" => return .prev (← id)
  | "find_insert_position" =>
    return .insertPosition (← required "nicr") (← required "prev") (← required "next")
  | "get_approx_hint" =>
    return .approxHint (← required "nicr") (← required "trials") (← required "seed")
  | "get_redemption_hints" =>
    return .redemptionHints (← required "amount") (← required "max_iterations")
  | _ => StateT.lift none

instance : JsonRead Query where
  read := readNamed? do
    let name ← required "call"
    Query.arguments name

end Cdp
