import Cdp.Receipt.Parser

/-!
# The logs that count

A receipt carries the logs of all contracts that took part, in the order in which they were emitted.
`Inserted P` relates a list to one with more items between its own, each of the kind `P`. The main
statement `Receipt.details_of_inserted` says that further logs change nothing of what a parser makes
of a receipt, whether details or an error, as long as they are foreign to the parser's contract and
events; and that the changes of an owner's Trove are not touched by readable logs about other
borrowers either.

Every parser goes over the receipt in passes, one for each event. A pass takes in the logs of its
event only (`logsOf_inserted_eq`), and where it reads the logs of other borrowers, it passes over
them (`Inserted.chosen_mapM_eq`, `Inserted.foldlM_eq`).
-/

set_option autoImplicit false

namespace Cdp

/-! ## Insertions -/

/-- The second list is the first with items of the kind `P` put in at any places. -/
inductive Inserted {α : Type} (P : α → Prop) : List α → List α → Prop where
  | nil : Inserted P [] []
  | keep {a : α} {as bs : List α} : Inserted P as bs → Inserted P (a :: as) (a :: bs)
  | insert {b : α} {as bs : List α} : P b → Inserted P as bs → Inserted P as (b :: bs)

namespace Inserted

variable {α β γ ε : Type} {P Q : α → Prop} {as bs : List α}

theorem eq_of_forall_not (h : Inserted P as bs) (hP : ∀ a, ¬P a) : bs = as := by
  induction h with
  | nil => rfl
  | keep _ ih => rw [ih]
  | insert hb _ _ => exact absurd hb (hP _)

/-- Of the items that were put in, a filter leaves those that it keeps. -/
theorem filter (h : Inserted P as bs) (keeps : α → Bool)
    (hQ : ∀ a, P a → keeps a = true → Q a) :
    Inserted Q (as.filter keeps) (bs.filter keeps) := by
  induction h with
  | nil => exact .nil
  | @keep a as bs _ ih =>
    rw [List.filter_cons, List.filter_cons]
    split
    · exact .keep ih
    · exact ih
  | @insert b as bs hb _ ih =>
    rw [List.filter_cons]
    split
    case isTrue hkept => exact .insert (hQ b hb hkept) ih
    case isFalse => exact ih

/-- Whoever reads all items, and goes on with the chosen ones of the values, passes over items that
are read and not chosen. -/
theorem chosen_mapM_eq {read : α → Except ε β} {chosen : β → Bool}
    (h : Inserted (fun a => ∃ b, read a = .ok b ∧ chosen b = false) as bs)
    (next : List β → Except ε γ) :
    (bs.mapM read >>= fun values => next (values.filter chosen)) =
      as.mapM read >>= fun values => next (values.filter chosen) := by
  -- what has been chosen in front goes into `next`, so it is general in the induction
  induction h generalizing next with
  | nil => rfl
  | @keep a as bs _ ih =>
    rw [List.mapM_cons, List.mapM_cons, bind_assoc, bind_assoc]
    refine bind_congr fun b => ?_
    simp only [bind_assoc, pure_bind, List.filter_cons]
    split
    · exact ih fun values => next (b :: values)
    · exact ih next
  | @insert a as bs ha _ ih =>
    obtain ⟨b, hread, hchosen⟩ := ha
    rw [← ih next, List.mapM_cons, hread, bind_assoc]
    change (bs.mapM read >>= fun values => pure (b :: values)) >>= _ = _
    simp only [bind_assoc, pure_bind, List.filter_cons, hchosen]
    rfl

/-- A walk passes over items whose step leaves everything as it is. -/
theorem foldlM_eq {step : β → α → Except ε β}
    (h : Inserted (fun a => ∀ b, step b a = .ok b) as bs) (b : β) :
    bs.foldlM step b = as.foldlM step b := by
  induction h generalizing b with
  | nil => rfl
  | @keep a as bs _ ih =>
    rw [List.foldlM_cons, List.foldlM_cons]
    exact bind_congr ih
  | @insert a as bs ha _ ih =>
    rw [List.foldlM_cons, ha b]
    exact ih b

end Inserted

/-! ## Kinds of logs -/

namespace Log

/-- A log of another contract, or of none of these events. -/
def Foreign (emitter : Address) (events : List Contract.Event) (log : Log) : Prop :=
  log.address ≠ emitter ∨ ∀ event ∈ events, log.topics.head? ≠ some event.topic

/-- A log of the event that can be read and is about another borrower than the owner. -/
structure AboutAnother {α : Type} (owner : Address) (event : Contract.Event)
    (build : List Contract.Value → Option α) (borrower : α → Address) (log : Log) : Prop where
  marked : log.topics.head? = some event.topic
  reads : ∃ a, event.readLog build log = .ok a ∧ borrower a ≠ owner

theorem Foreign.not_marked {emitter : Address} {events : List Contract.Event} {log : Log}
    {event : Contract.Event} (h : Foreign emitter events log) (hevent : event ∈ events)
    (haddress : log.address = emitter) : log.topics.head? ≠ some event.topic := by
  rcases h with h | h
  · exact absurd haddress h
  · exact h event hevent

end Log

namespace Receipt

variable {receipt receipt' : Receipt} {emitter : Address} {events : List Contract.Event}
  {event : Contract.Event}

/-- Of further logs, those that carry the mark of an event become logs of the event. -/
theorem logsOf_inserted {P Q : Log → Prop} (h : Inserted P receipt.logs receipt'.logs)
    (hQ : ∀ log, P log → log.address = emitter → log.topics.head? = some event.topic → Q log) :
    Inserted Q (receipt.logsOf emitter event) (receipt'.logsOf emitter event) := by
  refine h.filter _ fun log hlog hkept => ?_
  rw [Bool.and_eq_true, decide_eq_true_iff, decide_eq_true_iff] at hkept
  exact hQ log hlog hkept.1 hkept.2

/-- Foreign logs are no logs of an event. -/
theorem logsOf_inserted_eq (h : Inserted (Log.Foreign emitter events) receipt.logs receipt'.logs)
    (hevent : event ∈ events) : receipt'.logsOf emitter event = receipt.logsOf emitter event := by
  have hnone : Inserted (fun _ => False) (receipt.logsOf emitter event)
      (receipt'.logsOf emitter event) :=
    logsOf_inserted h fun log hlog haddress hmarked => hlog.not_marked hevent haddress hmarked
  exact hnone.eq_of_forall_not fun _ => id

end Receipt

/-! ## Parsers -/

section Parsers

variable {receipt receipt' : Receipt}

theorem Contract.topic_troveUpdated_ne :
    Contract.troveUpdated.topic ≠ Contract.borrowingFeePaid.topic := by
  decide +kernel

namespace TroveChangeParser

variable {p : TroveChangeParser}

/-- A log that means nothing for the owner's change: it is foreign, or it can be read and is about
another borrower. -/
def Irrelevant (p : TroveChangeParser) (log : Log) : Prop :=
  log.Foreign p.borrowerOperations [Contract.troveUpdated, Contract.borrowingFeePaid] ∨
    log.AboutAnother p.owner Contract.troveUpdated TroveUpdate.ofValues? TroveUpdate.borrower ∨
    log.AboutAnother p.owner Contract.borrowingFeePaid FeePaid.ofValues? FeePaid.borrower

/-- What is irrelevant and carries the mark of an update is an update of another Trove. -/
theorem Irrelevant.update {log : Log} (h : p.Irrelevant log)
    (haddress : log.address = p.borrowerOperations)
    (hmarked : log.topics.head? = some Contract.troveUpdated.topic) :
    ∃ update, Contract.troveUpdated.readLog TroveUpdate.ofValues? log = .ok update ∧
      update.borrower ≠ p.owner := by
  rcases h with hforeign | hupdate | hfee
  · exact absurd hmarked (hforeign.not_marked (by simp) haddress)
  · exact hupdate.reads
  · -- a log has one first topic, and the two events have different ones
    have htopics := Option.some.inj (hmarked.symm.trans hfee.marked)
    exact absurd htopics Contract.topic_troveUpdated_ne

/-- What is irrelevant and carries the mark of a fee is a fee of another borrower. -/
theorem Irrelevant.fee {log : Log} (h : p.Irrelevant log)
    (haddress : log.address = p.borrowerOperations)
    (hmarked : log.topics.head? = some Contract.borrowingFeePaid.topic) :
    ∃ paid, Contract.borrowingFeePaid.readLog FeePaid.ofValues? log = .ok paid ∧
      paid.borrower ≠ p.owner := by
  rcases h with hforeign | hupdate | hfee
  · exact absurd hmarked (hforeign.not_marked (by simp) haddress)
  · have htopics := Option.some.inj (hupdate.marked.symm.trans hmarked)
    exact absurd htopics Contract.topic_troveUpdated_ne
  · exact hfee.reads

theorem lastUpdate_inserted (h : Inserted p.Irrelevant receipt.logs receipt'.logs) :
    p.lastUpdate receipt' = p.lastUpdate receipt := by
  have hothers : Inserted (fun log => ∃ update,
      Contract.troveUpdated.readLog TroveUpdate.ofValues? log = .ok update ∧
        decide (update.borrower = p.owner) = false)
      (receipt.logsOf p.borrowerOperations Contract.troveUpdated)
      (receipt'.logsOf p.borrowerOperations Contract.troveUpdated) := by
    refine Receipt.logsOf_inserted h fun log hlog haddress hmarked => ?_
    obtain ⟨update, hupdate, hother⟩ := hlog.update haddress hmarked
    exact ⟨update, hupdate, decide_eq_false hother⟩
  exact hothers.chosen_mapM_eq fun mine => Attempt.ofOption _ mine.getLast?

theorem totalFee_inserted (h : Inserted p.Irrelevant receipt.logs receipt'.logs) :
    p.totalFee receipt' = p.totalFee receipt := by
  refine (Receipt.logsOf_inserted h fun log hlog haddress hmarked sum => ?_).foldlM_eq Decimal.zero
  obtain ⟨paid, hpaid, hother⟩ := hlog.fee haddress hmarked
  rw [hpaid]
  exact if_neg hother

theorem parse_inserted (h : Inserted p.Irrelevant receipt.logs receipt'.logs) :
    p.parse receipt' = p.parse receipt := by
  rw [parse, parse, lastUpdate_inserted h, totalFee_inserted h]

end TroveChangeParser

theorem RedemptionParser.parse_inserted {p : RedemptionParser}
    (h : Inserted (Log.Foreign p.troveManager [Contract.redemption]) receipt.logs receipt'.logs) :
    p.parse receipt' = p.parse receipt := by
  rw [parse, parse, Receipt.logsOf_inserted_eq h (by simp)]

theorem LiquidationParser.parse_inserted {p : LiquidationParser}
    (h : Inserted (Log.Foreign p.troveManager [Contract.troveLiquidated, Contract.liquidation])
      receipt.logs receipt'.logs) :
    p.parse receipt' = p.parse receipt := by
  rw [parse, parse, liquidated, liquidated, Receipt.logsOf_inserted_eq h (by simp),
    Receipt.logsOf_inserted_eq h (by simp)]

/-- Further logs change nothing of what the parsers make of a receipt, details or error: for each
parser logs that are foreign to its contract and events, and for the changes of an owner's Trove
also readable logs of the two events about other borrowers. -/
theorem Receipt.details_of_inserted (receipt receipt' : Receipt) :
    (∀ p : TroveChangeParser, Inserted p.Irrelevant receipt.logs receipt'.logs →
      p.parse receipt' = p.parse receipt) ∧
    (∀ p : RedemptionParser,
      Inserted (Log.Foreign p.troveManager [Contract.redemption]) receipt.logs receipt'.logs →
        p.parse receipt' = p.parse receipt) ∧
    (∀ p : LiquidationParser,
      Inserted (Log.Foreign p.troveManager [Contract.troveLiquidated, Contract.liquidation])
          receipt.logs receipt'.logs →
        p.parse receipt' = p.parse receipt) :=
  ⟨fun _ => TroveChangeParser.parse_inserted, fun _ => RedemptionParser.parse_inserted,
    fun _ => LiquidationParser.parse_inserted⟩

end Parsers

/-! ## A receipt with a stranger's fee -/

/-- An owner, another borrower, and the parser for the owner's changes. -/
def changingOwner : Address := .wrap 8

def otherBorrower : Address := .wrap 9

def ownerChanges : TroveChangeParser := ⟨.wrap 10, changingOwner, .empty⟩

/-- The update of the owner's Trove. -/
def ownerUpdate : Log where
  address := .wrap 10
  topics := [Contract.troveUpdated.topic, changingOwner.toWord]
  data := Contract.encode [.word (.wrap 5), .list [], .list [], .word .zero]

/-- A fee that the other borrower paid. -/
def otherFee : Log where
  address := .wrap 10
  topics := [Contract.borrowingFeePaid.topic, otherBorrower.toWord]
  data := Contract.encode [.word (.wrap 3)]

/-- A log without topics. -/
def bareLog : Log := ⟨.wrap 10, [], []⟩

theorem otherFee_aboutAnother : otherFee.AboutAnother changingOwner Contract.borrowingFeePaid
    FeePaid.ofValues? FeePaid.borrower where
  marked := rfl
  reads := ⟨⟨otherBorrower, .wrap 3⟩, by rfl, by decide⟩

/-- A receipt of a successful transaction with these logs. -/
def receiptOf (logs : List Log) : Receipt := ⟨.zero, 100, true, 21000, logs⟩

set_option maxRecDepth 1000 in
theorem ownerUpdate_parse : (ownerChanges.parse (receiptOf [ownerUpdate])).toOption =
    some ⟨changingOwner, .open, ⟨.empty, ⟨.wrap 5⟩⟩, .zero⟩ := by
  have hupdates : (receiptOf [ownerUpdate]).logsOf ownerChanges.borrowerOperations
      Contract.troveUpdated = [ownerUpdate] := by
    simp [Receipt.logsOf, receiptOf, ownerUpdate, ownerChanges]
  have hfees : (receiptOf [ownerUpdate]).logsOf ownerChanges.borrowerOperations
      Contract.borrowingFeePaid = [] := by
    simp [Receipt.logsOf, receiptOf, ownerUpdate, Contract.topic_troveUpdated_ne]
  rw [TroveChangeParser.parse, TroveChangeParser.lastUpdate, TroveChangeParser.totalFee, hupdates,
    hfees, ownerUpdate]
  -- nothing depends on the topic any more, and it takes long to compute
  generalize Contract.troveUpdated.topic = topic
  rfl

/-- Among a stranger's fee and logs without topics the parser finds the owner's update, and a
receipt that has nothing else tells the other parsers what an empty one does. -/
theorem ownerUpdate_among_others :
    (ownerChanges.parse (receiptOf [bareLog, ownerUpdate, otherFee])).toOption =
        some ⟨changingOwner, .open, ⟨.empty, ⟨.wrap 5⟩⟩, .zero⟩ ∧
      (RedemptionParser.mk (.wrap 11) .empty).parse (receiptOf [otherFee, bareLog]) =
        (RedemptionParser.mk (.wrap 11) .empty).parse (receiptOf []) ∧
      (LiquidationParser.mk (.wrap 10) .empty).parse (receiptOf [bareLog, bareLog]) =
        (LiquidationParser.mk (.wrap 10) .empty).parse (receiptOf []) := by
  refine ⟨?_, ?_, ?_⟩
  · rw [← ownerUpdate_parse]
    refine congrArg Except.toOption ((Receipt.details_of_inserted _ _).1 ownerChanges ?_)
    have hbare : bareLog.Foreign (.wrap 10) [Contract.troveUpdated, Contract.borrowingFeePaid] :=
      .inr fun _ _ => nofun
    exact .insert (.inl hbare) (.keep (.insert (.inr (.inr otherFee_aboutAnother)) .nil))
  · refine (Receipt.details_of_inserted _ _).2.1 _ ?_
    exact .insert (.inl (by decide)) (.insert (.inl (by decide)) .nil)
  · refine (Receipt.details_of_inserted _ _).2.2 _ ?_
    exact .insert (.inr fun _ _ => nofun) (.insert (.inr fun _ _ => nofun) .nil)

end Cdp
