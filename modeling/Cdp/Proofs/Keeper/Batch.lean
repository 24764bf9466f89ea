import Cdp.Proofs.Chain.Faults
import Cdp.Proofs.Contract.RepeatedKinds
import Cdp.Proofs.Decimal.Faults
import Cdp.Proofs.Keeper.Refresh

/-!
# How a batch goes

A batch of owners is one transaction. `BatchRun` lists every way in which it can go, exchange by
exchange: the reads of the whitelist, the estimate of the call that names the owners, the call with
the padded limit, and the wait for what was submitted. Preparing and following a batch is exactly
this (`liquidateBatch_yields_iff`), and what the report of a batch says is read off its end.

A batch that succeeds reports the borrowers of the logs that the Trove manager has emitted for
liquidated Troves (`mem_liquidated_iff`). It breaks off in one case: the summary of its receipt
lists amounts of one kind that are too much together (`parse_breaks`).
-/

set_option autoImplicit false

namespace Cdp

open Procedure

namespace Procedure

variable {I : Interface} {ε α β : Type} {trace : List (Exchange I)}

/-- A result with its refusal as a value. -/
def settled : Except (Failure ε) α → Except Fault (Except ε α)
  | .ok a => .ok (.ok a)
  | .error (.refused e) => .ok (.error e)
  | .error (.broken fault) => .error fault

theorem yields_settle_iff {p : Procedure I (Failure ε) α} {result : Except Fault (Except ε α)} :
    p.settle.Yields trace result ↔ ∃ x, p.Yields trace x ∧ settled x = result :=
  yields_onResult_iff settled (by rintro ((_ | _) | _) <;> rfl)

/-- Behind a procedure that is settled the rest goes on from a value or from a refusal; only a fault
ends the whole. -/
theorem yields_settle_bind_iff {p : Procedure I (Failure ε) α}
    {f : Except ε α → Procedure I Fault β} {result : Except Fault β} :
    (p.settle >>= f).Yields trace result ↔
      (∃ front rest a, trace = front ++ rest ∧ p.Yields front (.ok a) ∧
        (f (.ok a)).Yields rest result) ∨
      (∃ front rest cause, trace = front ++ rest ∧ p.Yields front (.error (.refused cause)) ∧
        (f (.error cause)).Yields rest result) ∨
      ∃ fault, p.Yields trace (.error (.broken fault)) ∧ result = .error fault := by
  rw [yields_bind_iff]
  simp only [yields_settle_iff]
  constructor
  · rintro (⟨front, rest, y, rfl, ⟨x, hp, hx⟩, hf⟩ | ⟨fault, ⟨x, hp, hx⟩, rfl⟩)
    · rcases x with (cause | fault) | a
      · cases hx
        exact Or.inr (Or.inl ⟨front, rest, cause, rfl, hp, hf⟩)
      · cases hx
      · cases hx
        exact Or.inl ⟨front, rest, a, rfl, hp, hf⟩
    · rcases x with (cause | broken) | a
      · cases hx
      · cases hx
        exact Or.inr (Or.inr ⟨fault, hp, rfl⟩)
      · cases hx
  · rintro (⟨front, rest, a, rfl, hp, hf⟩ | ⟨front, rest, cause, rfl, hp, hf⟩ | ⟨fault, hp, rfl⟩)
    · exact Or.inl ⟨front, rest, _, rfl, ⟨_, hp, rfl⟩, hf⟩
    · exact Or.inl ⟨front, rest, _, rfl, ⟨_, hp, rfl⟩, hf⟩
    · exact Or.inr ⟨fault, ⟨_, hp, rfl⟩, rfl⟩

end Procedure

/-! ## What a receipt tells -/

/-- A receipt reports the Trove of an owner as liquidated: the manager has emitted a log of the
event, and the owner is its borrower. -/
def Receipt.Liquidates (receipt : Receipt) (manager owner : Address) : Prop :=
  ∃ log ∈ receipt.logs, log.address = manager ∧ ∃ borrower : Word,
    log.topics = [Contract.troveLiquidated.topic, borrower] ∧ owner = .ofWord borrower

theorem Contract.topic_troveLiquidated_ne :
    Contract.troveLiquidated.topic ≠ Contract.liquidation.topic := by
  decide +kernel

/-- The summary of a liquidation lists amounts of one kind that are too much together: `held` is the
sum of those in front, and `amount` comes next. -/
structure Receipt.Exceeds (receipt : Receipt) (manager : Address) (w : Whitelist)
    (held amount : Decimal) : Prop where
  listed : ∃ log debt compensation tokens amounts front kind units back,
    (receipt.logsOf manager Contract.liquidation).head? = some log ∧
    Contract.liquidation.fields? log =
      some [.word debt, .word compensation, .list tokens, .list amounts] ∧
    (tokens.map Address.ofWord).zip amounts = front ++ (kind, units) :: back ∧
    Decimal.sum (w.amountsOf kind front) = .ok held ∧ w.toDecimal kind units = .ok amount
  finite : held < .infinity ∧ amount < .infinity
  exceeds : Word.size - 1 ≤ held.rawNat + amount.rawNat

namespace Whitelist

variable {w : Whitelist} {fault : Fault}

/-- A step of reading breaks off where the next amount is too much. -/
theorem addReported_eq_broken {m : Collaterals} {e : Address × Word}
    (h : addReported w.decimals m e = .error (.broken fault)) :
    ∃ amount, w.toDecimal e.1 e.2 = .ok amount ∧
      ((m.get? e.1).getD .zero).add amount = .error fault := by
  rcases bind_eq_error_iff.1 h with hplaces | ⟨places, hplaces, h⟩
  · exact absurd hplaces (Attempt.unbroken_ofOption _ _ _)
  rcases bind_eq_error_iff.1 h with hamount | ⟨amount, hamount, h⟩
  · exact absurd hamount (Attempt.unbroken_ofExcept _ _ _)
  have hread : w.toDecimal e.1 e.2 = .ok amount := by
    rw [Attempt.ofOption_eq_ok_iff, decimals, AddressMap.get?_map, Option.map_eq_some_iff]
      at hplaces
    obtain ⟨info, hinfo, rfl⟩ := hplaces
    exact toDecimal_eq_ok_iff.2 ⟨info, hinfo, Attempt.ofExcept_eq_ok_iff.1 hamount⟩
  refine ⟨amount, hread, ?_⟩
  split at h
  · cases h
  · have hadd := Attempt.ofFaulty_eq_broken_iff.1 h
    rw [Trove.addAmount] at hadd
    rcases bind_eq_error_iff.1 hadd with hsum | ⟨total, -, hpure⟩
    · exact hsum
    · cases hpure

/-- Reading the lists of an event breaks off at an amount that is too much for what its kind has
already. -/
theorem collateralsOfArrays_eq_broken {tokens : List Address} {amounts : List Word}
    (h : collateralsOfArrays w.decimals tokens amounts = .error (.broken fault)) :
    ∃ front kind units back held amount,
      tokens.zip amounts = front ++ (kind, units) :: back ∧
      Decimal.sum (w.amountsOf kind front) = .ok held ∧ w.toDecimal kind units = .ok amount ∧
      held.checkedAdd amount = none ∧ fault = .sum held amount := by
  rw [collateralsOfArrays] at h
  split at h
  · cases h
  · obtain ⟨front, e, back, m, hcut, hfront, hstep⟩ := exists_of_foldlM_eq_error h
    obtain ⟨amount, hamount, hadd⟩ := addReported_eq_broken hstep
    obtain ⟨hnone, hfault⟩ := guard_eq_error_iff.1 hadd
    -- the map holds the sums of what is in front
    obtain ⟨-, htotals⟩ := totals_of_foldlM_addReported hfront
    exact ⟨front, e.1, e.2, back, _, amount, hcut, (htotals e.1).sum_eq, hamount, hnone,
      hfault.symm⟩

end Whitelist

namespace LiquidationParser

variable {manager : Address} {w : Whitelist} {receipt : Receipt} {fault : Fault}

/-- A log of the event names its borrower in the second topic. -/
theorem readLog_eq_ok {log : Log} {owner : Address}
    (hmarked : log.topics.head? = some Contract.troveLiquidated.topic)
    (h : Contract.troveLiquidated.readLog (fun
      | [.word borrower, .word _, .word _] => some (Address.ofWord borrower)
      | _ => none) log = .ok owner) :
    ∃ borrower : Word,
      log.topics = [Contract.troveLiquidated.topic, borrower] ∧ owner = .ofWord borrower := by
  rw [Contract.Event.readLog, Attempt.ofOption_eq_ok_iff, Option.bind_eq_some_iff] at h
  obtain ⟨values, hvalues, howner⟩ := h
  rw [Contract.Event.fields?] at hvalues
  split at hvalues
  · rename_i hlength
    obtain ⟨fields, -, rfl⟩ := Option.map_eq_some_iff.1 hvalues
    obtain ⟨first, borrower, htopics⟩ := List.length_eq_two.1 hlength
    rw [htopics] at hmarked howner ⊢
    obtain rfl := Option.some.inj hmarked
    refine ⟨borrower, rfl, ?_⟩
    split at howner
    · rename_i heq
      obtain ⟨hword, -⟩ := List.cons.inj heq
      cases hword
      exact (Option.some.inj howner).symm
    · cases howner
  · cases hvalues

/-- The owners that are read off a receipt are those that it reports. -/
theorem mem_liquidated_iff {details : LiquidationDetails} {owner : Address}
    (h : (LiquidationParser.mk manager w.decimals).parse receipt = .ok details) :
    owner ∈ details.liquidated ↔ receipt.Liquidates manager owner := by
  obtain ⟨owners, howners, h⟩ := bind_eq_ok_iff.1 h
  have hread := mapM_eq_ok_iff.1 howners
  obtain rfl : owners = details.liquidated := by
    obtain ⟨log, -, h⟩ := bind_eq_ok_iff.1 h
    obtain ⟨summary, -, h⟩ := bind_eq_ok_iff.1 h
    obtain ⟨collaterals, -, h⟩ := bind_eq_ok_iff.1 h
    cases h
    rfl
  constructor
  · intro hmem
    obtain ⟨log, hlog, hborrower⟩ := exists_of_mem_right hread hmem
    obtain ⟨hlogs, hkept⟩ := List.mem_filter.1 hlog
    rw [Bool.and_eq_true, decide_eq_true_iff, decide_eq_true_iff] at hkept
    exact ⟨log, hlogs, hkept.1, readLog_eq_ok hkept.2 hborrower⟩
  · rintro ⟨log, hlogs, haddress, borrower, htopics, rfl⟩
    have hlog : log ∈ receipt.logsOf manager Contract.troveLiquidated := by
      refine List.mem_filter.2 ⟨hlogs, ?_⟩
      rw [Bool.and_eq_true, decide_eq_true_iff, decide_eq_true_iff, htopics]
      exact ⟨haddress, rfl⟩
    obtain ⟨owner, hmem, hborrower⟩ := exists_of_mem_right hread.flip hlog
    have hmarked : log.topics.head? = some Contract.troveLiquidated.topic := by
      rw [htopics]
      rfl
    obtain ⟨borrower', htopics', rfl⟩ := readLog_eq_ok hmarked hborrower
    rw [htopics, List.cons.injEq, List.cons.injEq] at htopics'
    rw [htopics'.2.1]
    exact hmem

/-- Reading a receipt breaks off in one case: the summary lists amounts of one kind that are too
much together. -/
theorem parse_breaks
    (h : (LiquidationParser.mk manager w.decimals).parse receipt = .error (.broken fault)) :
    ∃ held amount, fault = .sum held amount ∧ receipt.Exceeds manager w held amount := by
  rcases bind_eq_error_iff.1 h with howners | ⟨owners, -, h⟩
  · exact absurd howners (Attempt.unbroken_mapM (fun log => Attempt.unbroken_ofOption _ _) _ _)
  rcases bind_eq_error_iff.1 h with hhead | ⟨log, hhead, h⟩
  · exact absurd hhead (Attempt.unbroken_ofOption _ _ _)
  rcases bind_eq_error_iff.1 h with hfields | ⟨⟨debt, compensation, tokens, amounts⟩, hfields, h⟩
  · exact absurd hfields (Attempt.unbroken_ofOption _ _ _)
  have hvalues : Contract.liquidation.fields? log =
      some [.word debt, .word compensation, .list tokens, .list amounts] := by
    rw [Contract.Event.readLog, Attempt.ofOption_eq_ok_iff, Option.bind_eq_some_iff] at hfields
    obtain ⟨values, hvalues, hbuild⟩ := hfields
    split at hbuild
    · cases hbuild
      exact hvalues
    · cases hbuild
  rcases bind_eq_error_iff.1 h with hlists | ⟨collaterals, -, hpure⟩
  · obtain ⟨front, kind, units, back, held, amount, hcut, hheld, hamount, hnone, rfl⟩ :=
      Whitelist.collateralsOfArrays_eq_broken hlists
    obtain ⟨hfinite, hfinite', hexceeds⟩ := Decimal.checkedAdd_eq_none_iff.1 hnone
    exact ⟨held, amount, rfl, ⟨log, debt, compensation, tokens, amounts, front, kind, units, back,
      Attempt.ofOption_eq_ok_iff.1 hhead, hvalues, hcut, hheld, hamount⟩, ⟨hfinite, hfinite'⟩,
      hexceeds⟩
  · cases hpure

end LiquidationParser

/-! ## The ways of a batch -/

namespace Keeper

/-- How a batch ends. -/
inductive BatchEnd where
  /-- The whitelist or the estimate was refused, so nothing was sent. -/
  | unprepared (cause : Error)
  | unsent (cause : ChainError)
  /-- What became of the transaction is not known. -/
  | unheard (submitted : Submitted) (cause : ChainError)
  | pending (submitted : Submitted)
  | replaced (submitted : Submitted) (receipt : Receipt) (cancelled : Bool)
  | failed (submitted : Submitted) (receipt : Receipt)
  /-- The transaction succeeded, and its receipt cannot be read. -/
  | unread (submitted : Submitted) (cause : ChainError)
  | succeeded (submitted : Submitted) (receipt : Receipt) (details : LiquidationDetails)

namespace BatchEnd

/-- What is reported of a batch of owners that has ended. -/
def report (owners : List Address) : BatchEnd → BatchReport
  | unprepared cause => ⟨owners, none, .error cause⟩
  | unsent cause => ⟨owners, none, .error (.chain cause)⟩
  | unheard submitted cause => ⟨owners, some submitted.hash, .error (.chain cause)⟩
  | pending submitted => ⟨owners, some submitted.hash, .ok .pending⟩
  | replaced submitted receipt cancelled =>
    ⟨owners, some submitted.hash, .ok (.replaced receipt cancelled)⟩
  | failed submitted receipt => ⟨owners, some submitted.hash, .ok (.failed receipt)⟩
  | unread submitted cause => ⟨owners, some submitted.hash, .error (.chain cause)⟩
  | succeeded submitted receipt details =>
    ⟨owners, some submitted.hash, .ok (.succeeded receipt details)⟩

end BatchEnd

/-- What an outcome makes of a transaction that was submitted; a receipt is read only where the
transaction succeeded. -/
inductive Settles (parser : LiquidationParser) (submitted : Submitted) :
    Outcome → Except Fault BatchEnd → Prop where
  | pending : Settles parser submitted .pending (.ok (.pending submitted))
  | replaced (receipt : Receipt) (cancelled : Bool) : Settles parser submitted
      (.replaced receipt cancelled) (.ok (.replaced submitted receipt cancelled))
  | failed {receipt : Receipt} (hfailed : receipt.succeeded = false) :
      Settles parser submitted (.mined receipt) (.ok (.failed submitted receipt))
  | unread {receipt : Receipt} {cause : ChainError} (hsucceeded : receipt.succeeded = true)
      (hparse : parser.parse receipt = .error (.refused cause)) :
      Settles parser submitted (.mined receipt) (.ok (.unread submitted cause))
  | succeeded {receipt : Receipt} {details : LiquidationDetails}
      (hsucceeded : receipt.succeeded = true) (hparse : parser.parse receipt = .ok details) :
      Settles parser submitted (.mined receipt) (.ok (.succeeded submitted receipt details))
  | broken {receipt : Receipt} {fault : Fault} (hsucceeded : receipt.succeeded = true)
      (hparse : parser.parse receipt = .error (.broken fault)) :
      Settles parser submitted (.mined receipt) (.error fault)

/-- The call of the Trove manager that liquidates a batch, to be estimated. -/
def batchCall (context : Context) (owners : List Address) : ContractCall where
  sender := context.sender
  target := context.addresses.troveManager
  data := Contract.batchLiquidateTroves.call [.addresses owners, .address context.sender]
  value := .zero
  gasLimit := none

/-- The same call with the limit that an estimate gives. -/
def sentCall (context : Context) (owners : List Address) (estimate : UInt64) : ContractCall :=
  { batchCall context owners with
    gasLimit := some
      (GasEstimate.padded context.policy estimate context.policy.listTraversalGas).gasLimit }

/-- The ways in which a batch goes, with all that is asked and answered on the way. -/
inductive BatchRun (context : Context) (timeout : Nat) (owners : List Address) :
    List (Exchange Chain) → Except Fault BatchEnd → Prop where
  | unlisted {reads : List (Exchange Chain)} {cause : Error}
      (hreads : (Chain.readWhitelist .latest).Yields reads (.error (.refused cause))) :
      BatchRun context timeout owners reads (.ok (.unprepared cause))
  | unestimated {reads : List (Exchange Chain)} {w : Whitelist} {cause : ChainError}
      (hreads : (Chain.readWhitelist .latest).Yields reads (.ok w)) :
      BatchRun context timeout owners
        (reads ++ [⟨ChainRequest.estimateGas (batchCall context owners), .error cause⟩])
        (.ok (.unprepared (.chain cause)))
  | unsent {reads : List (Exchange Chain)} {w : Whitelist} {gas : UInt64} {cause : ChainError}
      (hreads : (Chain.readWhitelist .latest).Yields reads (.ok w)) :
      BatchRun context timeout owners
        (reads ++ [⟨ChainRequest.estimateGas (batchCall context owners), .ok gas⟩,
          ⟨ChainRequest.send (sentCall context owners gas), .error cause⟩])
        (.ok (.unsent cause))
  | unheard {reads : List (Exchange Chain)} {w : Whitelist} {gas : UInt64} {submitted : Submitted}
      {cause : ChainError} (hreads : (Chain.readWhitelist .latest).Yields reads (.ok w)) :
      BatchRun context timeout owners
        (reads ++ [⟨ChainRequest.estimateGas (batchCall context owners), .ok gas⟩,
          ⟨ChainRequest.send (sentCall context owners gas), .ok submitted⟩,
          ⟨ChainRequest.waitForReceipt submitted timeout, .error cause⟩])
        (.ok (.unheard submitted cause))
  | settled {reads : List (Exchange Chain)} {w : Whitelist} {gas : UInt64} {submitted : Submitted}
      {outcome : Outcome} {e : Except Fault BatchEnd}
      (hreads : (Chain.readWhitelist .latest).Yields reads (.ok w))
      (hsettles : Settles ⟨context.addresses.troveManager, w.decimals⟩ submitted outcome e) :
      BatchRun context timeout owners
        (reads ++ [⟨ChainRequest.estimateGas (batchCall context owners), .ok gas⟩,
          ⟨ChainRequest.send (sentCall context owners gas), .ok submitted⟩,
          ⟨ChainRequest.waitForReceipt submitted timeout, .ok outcome⟩]) e

variable {context : Context} {timeout : Nat} {owners : List Address}
  {trace : List (Exchange Chain)}

/-! ## Preparing, sending and following -/

/-- A batch of owners is prepared by the reads of the whitelist and one estimate. -/
theorem liquidate_yields_iff (hne : owners ≠ [])
    {result : Attempt Error (Prepared LiquidationParser)} :
    (context.liquidate owners none).Yields trace result ↔
      (∃ reads w gas, trace =
          reads ++ [⟨ChainRequest.estimateGas (batchCall context owners), .ok gas⟩] ∧
        (Chain.readWhitelist .latest).Yields reads (.ok w) ∧
        result = .ok ⟨sentCall context owners gas,
          some (GasEstimate.padded context.policy gas context.policy.listTraversalGas).headroom,
          ⟨context.addresses.troveManager, w.decimals⟩⟩) ∨
      (∃ reads w cause, trace =
          reads ++ [⟨ChainRequest.estimateGas (batchCall context owners), .error cause⟩] ∧
        (Chain.readWhitelist .latest).Yields reads (.ok w) ∧
        result = .error (.refused (.chain cause))) ∨
      ∃ cause, (Chain.readWhitelist .latest).Yields trace (.error (.refused cause)) ∧
        result = .error (.refused cause) := by
  rw [Context.liquidate, if_neg (by simpa using hne)]
  refine yields_bind_iff.trans ?_
  constructor
  · rintro (⟨reads, rest, w, rfl, hreads, hrest⟩ | ⟨failure, hfailed, rfl⟩)
    · rcases yields_bind_iff.1 hrest with ⟨front, _, priced, rfl, hpriced, hrest⟩ | ⟨e, he, rfl⟩
      · obtain ⟨rfl, rfl⟩ := yields_done_iff.1 hrest
        obtain ⟨y, hy, hgas⟩ := yields_map_iff.1 hpriced
        obtain ⟨x, rfl, rfl⟩ := yields_request_iff.1 hy
        cases x with
        | error cause => cases hgas
        | ok gas =>
          cases hgas
          exact Or.inl ⟨reads, w, gas, rfl, hreads, rfl⟩
      · obtain ⟨y, hy, hgas⟩ := yields_map_iff.1 he
        obtain ⟨x, rfl, rfl⟩ := yields_request_iff.1 hy
        cases x with
        | error cause =>
          cases hgas
          exact Or.inr (Or.inl ⟨reads, w, cause, rfl, hreads, rfl⟩)
        | ok gas => cases hgas
    · rcases failure with cause | fault
      · exact Or.inr (Or.inr ⟨cause, hfailed, rfl⟩)
      · exact absurd hfailed (Chain.unbroken_readWhitelist _ _)
  · rintro (⟨reads, w, gas, rfl, hreads, rfl⟩ | ⟨reads, w, cause, rfl, hreads, rfl⟩ |
      ⟨cause, hfailed, rfl⟩)
    · exact Or.inl ⟨reads, _, w, rfl, hreads, .ask (.done _)⟩
    · exact Or.inl ⟨reads, _, w, rfl, hreads, .ask (.done _)⟩
    · exact Or.inr ⟨_, hfailed, rfl⟩

/-- Sending asks one request. -/
theorem send_yields_iff {transaction : Prepared LiquidationParser}
    {result : Attempt Error (Sent LiquidationParser)} :
    (transaction.send fun cause => Failure.refused (Error.chain cause)).Yields trace result ↔
      ∃ x, trace = [⟨ChainRequest.send transaction.call, x⟩] ∧
        result = (x.mapError fun cause => Failure.refused (Error.chain cause)).map fun submitted =>
          ⟨submitted, transaction.parser⟩ := by
  refine Iff.trans yields_map_iff ⟨?_, ?_⟩
  · rintro ⟨y, hy, rfl⟩
    obtain ⟨x, rfl, rfl⟩ := yields_request_iff.1 hy
    exact ⟨x, rfl, rfl⟩
  · rintro ⟨x, rfl, rfl⟩
    exact ⟨_, yields_request_iff.2 ⟨x, rfl, rfl⟩, rfl⟩

section Following

variable {submitted : Submitted} {parser : LiquidationParser} {outcome : Outcome}

theorem exists_settles (parser : LiquidationParser) (submitted : Submitted) (outcome : Outcome) :
    ∃ e, Settles parser submitted outcome e := by
  cases outcome with
  | pending => exact ⟨_, .pending⟩
  | replaced receipt cancelled => exact ⟨_, .replaced receipt cancelled⟩
  | mined receipt =>
    cases hsucceeded : receipt.succeeded with
    | false => exact ⟨_, .failed hsucceeded⟩
    | true =>
      rcases hparse : parser.parse receipt with (cause | fault) | details
      · exact ⟨_, .unread hsucceeded hparse⟩
      · exact ⟨_, .broken hsucceeded hparse⟩
      · exact ⟨_, .succeeded hsucceeded hparse⟩

/-- What is reported of an outcome is what the transaction settles as. -/
theorem Settles.report_eq {e : Except Fault BatchEnd} (h : Settles parser submitted outcome e) :
    (settled (((Sent.mk submitted parser).resolve outcome).mapError (Failure.map Error.chain))).map
        (fun result => BatchReport.mk owners (some submitted.hash) result) =
      e.map (BatchEnd.report owners) := by
  have hresolve : ∀ receipt : Receipt, receipt.succeeded = true →
      (Sent.mk submitted parser).resolve (.mined receipt) =
        (parser.parse receipt).map (TransactionResult.succeeded receipt) := by
    intro receipt hsucceeded
    rw [Sent.resolve, if_pos hsucceeded]
    change (parser.parse receipt >>= fun details => _) = _
    cases parser.parse receipt <;> rfl
  cases h with
  | pending => rfl
  | replaced receipt cancelled => rfl
  | failed hfailed =>
    rw [Sent.resolve, hfailed]
    rfl
  | unread hsucceeded hparse =>
    rw [hresolve _ hsucceeded, hparse]
    rfl
  | succeeded hsucceeded hparse =>
    rw [hresolve _ hsucceeded, hparse]
    rfl
  | broken hsucceeded hparse =>
    rw [hresolve _ hsucceeded, hparse]
    rfl

/-- Waiting asks one request. -/
theorem waitAsError_yields_iff {result : Attempt Error (TransactionResult LiquidationDetails)} :
    (Sent.waitAsError ⟨submitted, parser⟩ timeout).Yields trace result ↔
      (∃ cause, trace = [⟨ChainRequest.waitForReceipt submitted timeout, .error cause⟩] ∧
        result = .error (.refused (.chain cause))) ∨
      ∃ outcome, trace = [⟨ChainRequest.waitForReceipt submitted timeout, .ok outcome⟩] ∧
        result =
          ((Sent.mk submitted parser).resolve outcome).mapError (Failure.map Error.chain) := by
  rw [Sent.waitAsError, yields_onResult_iff (Except.mapError (Failure.map .chain))
    (by rintro (_ | _) <;> rfl)]
  constructor
  · rintro ⟨x, hx, rfl⟩
    rcases yields_bind_iff.1 hx with ⟨front, rest, outcome, rfl, hwait, hrest⟩ | ⟨e, he, rfl⟩
    · obtain rfl := yields_request_ok_iff.1 hwait
      obtain ⟨rfl, rfl⟩ := yields_done_iff.1 hrest
      exact Or.inr ⟨outcome, rfl, rfl⟩
    · obtain ⟨y, rfl, hy⟩ := yields_request_iff.1 he
      cases y with
      | error cause =>
        cases hy
        exact Or.inl ⟨cause, rfl, rfl⟩
      | ok outcome => cases hy
  · rintro (⟨cause, rfl, rfl⟩ | ⟨outcome, rfl, rfl⟩)
    · exact ⟨.error (.refused cause), .ask (.done _), rfl⟩
    · exact ⟨_, .ask (.done _), rfl⟩

theorem followBatch_yields_iff {result : Except Fault BatchReport} :
    (followBatch timeout owners ⟨submitted, parser⟩).Yields trace result ↔
      (∃ cause, trace = [⟨ChainRequest.waitForReceipt submitted timeout, .error cause⟩] ∧
        result = .ok ((BatchEnd.unheard submitted cause).report owners)) ∨
      ∃ outcome e, trace = [⟨ChainRequest.waitForReceipt submitted timeout, .ok outcome⟩] ∧
        Settles parser submitted outcome e ∧ result = e.map (BatchEnd.report owners) := by
  refine Iff.trans yields_map_iff ?_
  simp only [yields_settle_iff, waitAsError_yields_iff]
  constructor
  · rintro ⟨_, ⟨_, ⟨cause, rfl, rfl⟩ | ⟨outcome, rfl, rfl⟩, rfl⟩, rfl⟩
    · exact Or.inl ⟨cause, rfl, rfl⟩
    · obtain ⟨e, he⟩ := exists_settles parser submitted outcome
      exact Or.inr ⟨outcome, e, rfl, he, he.report_eq⟩
  · rintro (⟨cause, rfl, rfl⟩ | ⟨outcome, e, rfl, he, rfl⟩)
    · exact ⟨_, ⟨_, Or.inl ⟨cause, rfl, rfl⟩, rfl⟩, rfl⟩
    · exact ⟨_, ⟨_, Or.inr ⟨outcome, rfl, rfl⟩, rfl⟩, he.report_eq.symm⟩

end Following

theorem sendBatch_yields_iff {transaction : Prepared LiquidationParser}
    {result : Except Fault BatchReport} :
    (sendBatch timeout owners transaction).Yields trace result ↔
      (∃ cause, trace = [⟨ChainRequest.send transaction.call, .error cause⟩] ∧
        result = .ok ((BatchEnd.unsent cause).report owners)) ∨
      ∃ submitted rest, trace = ⟨ChainRequest.send transaction.call, .ok submitted⟩ :: rest ∧
        (followBatch timeout owners ⟨submitted, transaction.parser⟩).Yields rest result := by
  refine Iff.trans yields_settle_bind_iff ?_
  simp only [send_yields_iff]
  constructor
  · rintro (⟨_, rest, sent, rfl, ⟨x, rfl, hx⟩, hrest⟩ | ⟨_, rest, cause, rfl, ⟨x, rfl, hx⟩, hrest⟩ |
      ⟨fault, ⟨x, rfl, hx⟩, -⟩)
    · cases x with
      | error cause => cases hx
      | ok submitted =>
        cases hx
        exact Or.inr ⟨submitted, rest, rfl, hrest⟩
    · cases x with
      | error cause =>
        cases hx
        obtain ⟨rfl, rfl⟩ := yields_done_iff.1 hrest
        exact Or.inl ⟨cause, rfl, rfl⟩
      | ok submitted => cases hx
    · cases x <;> cases hx
  · rintro (⟨cause, rfl, rfl⟩ | ⟨submitted, rest, rfl, hrest⟩)
    · exact Or.inr (Or.inl ⟨_, [], _, rfl, ⟨.error cause, rfl, rfl⟩, .done _⟩)
    · exact Or.inl ⟨_, rest, _, rfl, ⟨.ok submitted, rfl, rfl⟩, hrest⟩

/-- A batch goes in one of the ways that are listed, and its report is that of its end. -/
theorem liquidateBatch_yields_iff (hne : owners ≠ []) {result : Except Fault BatchReport} :
    (liquidateBatch context timeout owners).Yields trace result ↔
      ∃ e, BatchRun context timeout owners trace e ∧ result = e.map (BatchEnd.report owners) := by
  refine Iff.trans yields_settle_bind_iff ?_
  simp only [liquidate_yields_iff hne]
  constructor
  · rintro (⟨_, rest, transaction, rfl, hprepared, hsends⟩ |
      ⟨_, rest, cause, rfl, hprepared, hrest⟩ | ⟨fault, hprepared, -⟩)
    · -- the transaction was prepared, so it goes on with sending it
      obtain ⟨reads, w, gas, rfl, hreads, heq⟩ := hprepared.resolve_right
        (by rintro (⟨_, _, _, -, -, heq⟩ | ⟨_, -, heq⟩) <;> cases heq)
      cases heq
      rw [List.append_assoc]
      rcases sendBatch_yields_iff.1 hsends with ⟨cause, rfl, rfl⟩ | ⟨submitted, rest, rfl, hfollows⟩
      · exact ⟨.ok (.unsent cause), .unsent hreads, rfl⟩
      · rcases followBatch_yields_iff.1 hfollows with ⟨cause, rfl, rfl⟩ | ⟨outcome, e, rfl, he, rfl⟩
        · exact ⟨.ok (.unheard submitted cause), .unheard hreads, rfl⟩
        · exact ⟨e, .settled hreads he, rfl⟩
    · obtain ⟨rfl, rfl⟩ := yields_done_iff.1 hrest
      rw [List.append_nil]
      rcases hprepared with ⟨_, _, _, -, -, heq⟩ | ⟨reads, w, cause, rfl, hreads, heq⟩ |
        ⟨cause, hreads, heq⟩
      · cases heq
      · cases heq
        exact ⟨.ok (.unprepared (.chain cause)), .unestimated hreads, rfl⟩
      · cases heq
        exact ⟨.ok (.unprepared cause), .unlisted hreads, rfl⟩
    · rcases hprepared with ⟨_, _, _, -, -, heq⟩ | ⟨_, _, _, -, -, heq⟩ | ⟨_, -, heq⟩ <;> cases heq
  · rintro ⟨e, hrun, rfl⟩
    cases hrun with
    | unlisted hreads =>
      exact Or.inr (Or.inl ⟨_, [], _, (List.append_nil _).symm, Or.inr (Or.inr ⟨_, hreads, rfl⟩),
        .done _⟩)
    | unestimated hreads =>
      exact Or.inr (Or.inl ⟨_, [], _, (List.append_nil _).symm,
        Or.inr (Or.inl ⟨_, _, _, rfl, hreads, rfl⟩), .done _⟩)
    | @unsent reads w gas cause hreads =>
      refine Or.inl ⟨_, _, _, List.append_cons reads _ _,
        Or.inl ⟨reads, w, gas, rfl, hreads, rfl⟩, ?_⟩
      exact sendBatch_yields_iff.2 (Or.inl ⟨cause, rfl, rfl⟩)
    | @unheard reads w gas submitted cause hreads =>
      refine Or.inl ⟨_, _, _, List.append_cons reads _ _,
        Or.inl ⟨reads, w, gas, rfl, hreads, rfl⟩, ?_⟩
      exact sendBatch_yields_iff.2 (Or.inr ⟨submitted, _, rfl,
        followBatch_yields_iff.2 (Or.inl ⟨cause, rfl, rfl⟩)⟩)
    | @settled reads w gas submitted outcome e hreads hsettles =>
      refine Or.inl ⟨_, _, _, List.append_cons reads _ _,
        Or.inl ⟨reads, w, gas, rfl, hreads, rfl⟩, ?_⟩
      exact sendBatch_yields_iff.2 (Or.inr ⟨submitted, _, rfl,
        followBatch_yields_iff.2 (Or.inr ⟨outcome, e, rfl, hsettles, rfl⟩)⟩)

end Keeper

end Cdp
