import Cdp.AddressMap

/-!
# What the chain exchanges

Blocks, calls, receipts and the raw answers of contracts. Amounts cross this boundary as words in
the units of their token; times are in seconds.
-/

set_option autoImplicit false

namespace Cdp

/-- The block that a read refers to. -/
inductive BlockTag where
  | latest
  | number (n : UInt64)
deriving DecidableEq

structure BlockInfo where
  number : UInt64
  timestamp : UInt64
deriving DecidableEq

/-- Where collateral and debt of Troves are held. -/
inductive Pool where
  /-- Collateral and debt of open Troves. -/
  | active
  /-- Redistributed collateral and debt that no Trove has taken over yet. -/
  | default
deriving DecidableEq

/-- The closest of a number of sampled Troves, its distance, and the seed for further samples. -/
structure ApproxHint where
  hint : Address
  diff : Word
  seed : Word
deriving DecidableEq

/-- Where a redemption starts, the ratio of the Trove it redeems in part, and its amount. -/
structure RedemptionHints where
  first : Address
  partialRatio : Word
  truncatedAmount : Word
deriving DecidableEq

/-- Cumulative rewards per stake as the contracts keep them. -/
structure RawReward where
  collateral : Word
  debt : Word
deriving DecidableEq, Inhabited

/-- An unsigned call of a contract. -/
structure ContractCall where
  sender : Address
  target : Address
  data : Bytes
  value : Word
  gasLimit : Option UInt64
deriving DecidableEq

/-- A transaction that the node has accepted. -/
structure Submitted where
  hash : Word
  sender : Address
  nonce : UInt64
deriving DecidableEq

structure Log where
  address : Address
  topics : List Word
  data : Bytes
deriving DecidableEq

structure Receipt where
  hash : Word
  blockNumber : UInt64
  succeeded : Bool
  gasUsed : UInt64
  logs : List Log
deriving DecidableEq

/-- What became of a submitted transaction. -/
inductive Outcome where
  | pending
  /-- Mined under its own hash, whether or not it succeeded. -/
  | mined (receipt : Receipt)
  /-- Another transaction of the same sender took its nonce; a cancellation is an empty transfer of
  the sender to itself. -/
  | replaced (receipt : Receipt) (cancelled : Bool)
deriving DecidableEq

/-- The tag as messages name it. -/
def BlockTag.debugText : BlockTag → String
  | .latest => "Latest"
  | .number n => "Number(" ++ toString n.toNat ++ ")"

/-- The tag as nodes take it. -/
def BlockTag.quantity : BlockTag → String
  | .latest => "latest"
  | .number n => Hex.ofNat n.toNat

end Cdp
