import Cdp.Node.Client
import Cdp.Proofs.Procedure.Trace

/-!
# Answers of a node

What a node told with an answer to a request: a receipt or that there is none, a number of
transactions, a block. Each of the reads asks its one request (`AsksOnce`), and has a value just if
the answer tells it.

`NoCount` keeps apart the requests that do not ask for a number of transactions, so that a trace
shows where that number was told.
-/

set_option autoImplicit false

namespace Cdp.Node

open Procedure

variable {trace : List (Exchange Node)}

/-! ## One request -/

section Answers

variable {α : Type} [JsonRead α] {e : Exchange Node} {r : NodeRequest} {a b : α}

/-- The node answered a request, and its answer reads as `a`. -/
def Tells (e : Exchange Node) (r : NodeRequest) (a : α) : Prop :=
  ∃ reply : Json, e = ⟨r, .ok reply⟩ ∧ JsonRead.read reply = some a

theorem Tells.request_eq (h : Tells e r a) : e.request = r := by
  obtain ⟨reply, rfl, -⟩ := h
  rfl

theorem Tells.unique {r' : NodeRequest} (ha : Tells e r a) (hb : Tells e r' b) : a = b := by
  obtain ⟨reply, rfl, ha⟩ := ha
  obtain ⟨reply', he, hb⟩ := hb
  cases he
  exact Option.some.inj (ha.symm.trans hb)

/-- A procedure of one request. -/
def AsksOnce {ε β : Type} (r : NodeRequest) (p : Procedure Node ε β) : Prop :=
  ∀ trace x, p.Yields trace x → ∃ e, trace = [e] ∧ e.request = r

theorem asksOnce_ask : AsksOnce r (ask r : NodeProcedure α) := by
  intro trace x h
  rcases yields_bind_iff.1 h with ⟨front, rest, reply, rfl, hfront, hrest⟩ | ⟨cause, he, -⟩
  · obtain rfl := yields_request_ok_iff.1 hfront
    split at hrest
    · obtain ⟨rfl, -⟩ := yields_done_iff.1 hrest
      exact ⟨_, rfl, rfl⟩
    · obtain ⟨rfl, -⟩ := yields_done_iff.1 hrest
      exact ⟨_, rfl, rfl⟩
  · obtain ⟨x, rfl, -⟩ := yields_request_iff.1 he
    exact ⟨_, rfl, rfl⟩

theorem ask_yields_ok_iff :
    (ask r : NodeProcedure α).Yields trace (.ok a) ↔ ∃ e, trace = [e] ∧ Tells e r a := by
  constructor
  · intro h
    obtain ⟨front, rest, reply, rfl, hfront, hrest⟩ := yields_bind_ok_iff.1 h
    obtain rfl := yields_request_ok_iff.1 hfront
    split at hrest
    · rename_i value hread
      obtain ⟨rfl, rfl⟩ := yields_pure_ok_iff.1 hrest
      exact ⟨_, rfl, reply, rfl, hread⟩
    · exact absurd (yields_done_iff.1 hrest).2 nofun
  · rintro ⟨e, rfl, reply, rfl, hread⟩
    apply yields_bind_ok_iff.2
    refine ⟨[⟨r, .ok reply⟩], [], reply, rfl, yields_request_ok_iff.2 rfl, ?_⟩
    rw [hread]
    exact yields_pure_ok_iff.2 ⟨rfl, rfl⟩

/-- A request does not fail on an answer that can be read. -/
theorem Tells.not_error {r' : NodeRequest} {cause : ChainError} (h : Tells e r' a) :
    ¬(ask r : NodeProcedure α).Yields [e] (.error cause) := by
  intro herror
  obtain ⟨e', htrace, hrequest⟩ := asksOnce_ask _ _ herror
  obtain rfl := List.singleton_inj.1 htrace
  obtain rfl : r' = r := h.request_eq.symm.trans hrequest
  exact absurd (herror.result_unique (ask_yields_ok_iff.2 ⟨_, rfl, h⟩)) nofun

/-- What is made of an answer leaves the request as it is. -/
theorem AsksOnce.bind_done {ε β γ : Type} {p : Procedure Node ε β} {f : β → Procedure Node ε γ}
    (hp : AsksOnce r p) (hf : ∀ b, ∃ x, f b = .done x) : AsksOnce r (p >>= f) := by
  intro trace x h
  rcases yields_bind_iff.1 h with ⟨front, rest, b, rfl, hfront, hrest⟩ | ⟨cause, he, -⟩
  · obtain ⟨y, hy⟩ := hf b
    rw [hy] at hrest
    obtain ⟨rfl, -⟩ := yields_done_iff.1 hrest
    rw [List.append_nil]
    exact hp _ _ hfront
  · exact hp _ _ he

end Answers

/-! ## Receipts, counts and blocks -/

variable {e : Exchange Node} {hash : Word} {sender : Address} {found : Option Receipt}
  {count : UInt64} {info : BlockInfo}

/-- The node answered a lookup of a hash with its receipt, or with none. -/
def TellsReceipt (e : Exchange Node) (hash : Word) (found : Option Receipt) : Prop :=
  ∃ record : Option ReceiptRecord, Tells e (.receipt hash) record ∧
    record.map ReceiptRecord.receipt = found

/-- The node answered with the number of mined transactions of a sender. -/
def TellsCount (e : Exchange Node) (sender : Address) (count : UInt64) : Prop :=
  Tells e (.transactionCount sender false) (Quantity.mk count)

/-- The node answered with the latest block. -/
def TellsLatest (e : Exchange Node) (info : BlockInfo) : Prop :=
  ∃ header : BlockHeader, Tells e (.block .latest false) (some header) ∧ header.block = info

/-- The node answered with the transactions of a block, or that it has no such block. -/
def TellsBlock (e : Exchange Node) (number : UInt64) (body : Option BlockBody) : Prop :=
  Tells e (.block (.number number) true) body

theorem TellsReceipt.request_eq (h : TellsReceipt e hash found) : e.request = .receipt hash := by
  obtain ⟨record, hrecord, -⟩ := h
  exact Tells.request_eq hrecord

theorem TellsCount.unique {count' : UInt64} (h : TellsCount e sender count)
    (h' : TellsCount e sender count') : count = count' :=
  congrArg Quantity.value (Tells.unique h h')

theorem TellsLatest.unique {info' : BlockInfo} (h : TellsLatest e info)
    (h' : TellsLatest e info') : info = info' := by
  obtain ⟨header, hheader, rfl⟩ := h
  obtain ⟨header', hheader', rfl⟩ := h'
  rw [Option.some.inj (hheader.unique hheader')]

theorem asksOnce_readReceipt : AsksOnce (.receipt hash) (readReceipt hash) :=
  asksOnce_ask.bind_done fun _ => ⟨_, rfl⟩

theorem asksOnce_readCount : AsksOnce (.transactionCount sender false) (readCount sender false) :=
  asksOnce_ask.bind_done fun _ => ⟨_, rfl⟩

theorem asksOnce_readLatest : AsksOnce (.block .latest false) (readBlock .latest) := by
  refine asksOnce_ask.bind_done fun header => ?_
  cases header with
  | none => exact ⟨_, rfl⟩
  | some header => exact ⟨_, rfl⟩

theorem readReceipt_yields_ok_iff :
    (readReceipt hash).Yields trace (.ok found) ↔ ∃ e, trace = [e] ∧ TellsReceipt e hash found := by
  constructor
  · intro h
    obtain ⟨front, rest, record, rfl, hfront, hrest⟩ := yields_bind_ok_iff.1 h
    obtain ⟨e, rfl, he⟩ := ask_yields_ok_iff.1 hfront
    obtain ⟨rfl, rfl⟩ := yields_pure_ok_iff.1 hrest
    exact ⟨e, rfl, record, he, rfl⟩
  · rintro ⟨e, rfl, record, he, rfl⟩
    apply yields_bind_ok_iff.2
    exact ⟨[e], [], record, rfl, ask_yields_ok_iff.2 ⟨e, rfl, he⟩, yields_pure_ok_iff.2 ⟨rfl, rfl⟩⟩

theorem readCount_yields_ok_iff :
    (readCount sender false).Yields trace (.ok count) ↔
      ∃ e, trace = [e] ∧ TellsCount e sender count := by
  constructor
  · intro h
    obtain ⟨front, rest, quantity, rfl, hfront, hrest⟩ := yields_bind_ok_iff.1 h
    obtain ⟨e, rfl, he⟩ := ask_yields_ok_iff.1 hfront
    obtain ⟨rfl, rfl⟩ := yields_pure_ok_iff.1 hrest
    exact ⟨e, rfl, he⟩
  · rintro ⟨e, rfl, he⟩
    apply yields_bind_ok_iff.2
    exact ⟨[e], [], _, rfl, ask_yields_ok_iff.2 ⟨e, rfl, he⟩, yields_pure_ok_iff.2 ⟨rfl, rfl⟩⟩

theorem readLatest_yields_ok_iff :
    (readBlock .latest).Yields trace (.ok info) ↔ ∃ e, trace = [e] ∧ TellsLatest e info := by
  constructor
  · intro h
    obtain ⟨front, rest, header, rfl, hfront, hrest⟩ := yields_bind_ok_iff.1 h
    obtain ⟨e, rfl, he⟩ := ask_yields_ok_iff.1 hfront
    split at hrest
    · rename_i header
      obtain ⟨rfl, rfl⟩ := yields_pure_ok_iff.1 hrest
      exact ⟨e, rfl, header, he, rfl⟩
    · exact absurd (yields_done_iff.1 hrest).2 nofun
  · rintro ⟨e, rfl, header, he, rfl⟩
    apply yields_bind_ok_iff.2
    exact ⟨[e], [], some header, rfl, ask_yields_ok_iff.2 ⟨e, rfl, he⟩,
      yields_pure_ok_iff.2 ⟨rfl, rfl⟩⟩

/-! ## Requests for other than a count -/

/-- A request that is not one for the number of transactions. -/
def NoCount (r : NodeRequest) : Prop := r.method ≠ "eth_getTransactionCount"

theorem noCount_receipt : NoCount (.receipt hash) := by
  simp [NoCount, NodeRequest.receipt]

theorem noCount_block {tag : BlockTag} {full : Bool} : NoCount (.block tag full) := by
  simp [NoCount, NodeRequest.block]

theorem TellsLatest.noCount (h : TellsLatest e info) : NoCount e.request := by
  obtain ⟨header, hheader, -⟩ := h
  rw [hheader.request_eq]
  exact noCount_block

/-- An answer that tells the number of transactions was asked for it. -/
theorem TellsCount.not_noCount (h : TellsCount e sender count) : ¬NoCount e.request := by
  intro hno
  rw [h.request_eq] at hno
  exact hno rfl

theorem asks_ask {α : Type} [JsonRead α] {r : NodeRequest} (hr : NoCount r) :
    Asks NoCount (ask r : NodeProcedure α) := by
  refine asks_bind (asks_request hr) fun reply => ?_
  split <;> exact .done _

theorem asks_readReceipt (hash : Word) : Asks NoCount (readReceipt hash) :=
  asks_bind (asks_ask noCount_receipt) fun _ => .done _

theorem asks_readLatest : Asks NoCount (readBlock .latest) := by
  refine asks_bind (asks_ask noCount_block) fun header => ?_
  split <;> exact .done _

end Cdp.Node
