import Cdp.Proofs.Node.Replacement

/-!
# Waiting for a transaction

The outcome of a wait is what the node's answers add up to, whatever they are and however they
change between two requests.

`Looked` lists the ways in which a single look may go and `Polled` puts looks together, a further
look after each that found the transaction pending. An outcome is what the last look has seen
(`Polled.saw`), and a look that was told that the sender's nonce has passed is the last one
(`Polled.of_passed`).
-/

set_option autoImplicit false

namespace Cdp.Node

open Procedure

variable {trace : List (Exchange Node)} {e : Exchange Node} {count : UInt64} {tx : Submitted}
  {start : UInt64}

/-! ## A look -/

/-- What a look goes on with once the nonce of the sender has passed. -/
def lookAgain (tx : Submitted) (start : UInt64) : NodeProcedure (Option Outcome) := do
  let again ← readReceipt tx.hash
  match again with
  | some receipt => return some (.mined receipt)
  | none => some <$> findReplacement tx start

/-- The ways in which a look may go. -/
inductive Looked (tx : Submitted) (start : UInt64) :
    List (Exchange Node) → Except ChainError (Option Outcome) → Prop where
  | unanswered {e : Exchange Node} {cause : ChainError} :
      e.request = .receipt tx.hash → Looked tx start [e] (.error cause)
  | mined {e : Exchange Node} {receipt : Receipt} :
      TellsReceipt e tx.hash (some receipt) → Looked tx start [e] (.ok (some (.mined receipt)))
  | uncounted {e₁ e₂ : Exchange Node} {cause : ChainError} :
      TellsReceipt e₁ tx.hash none → (∀ count, ¬TellsCount e₂ tx.sender count) →
        Looked tx start [e₁, e₂] (.error cause)
  | pending {e₁ e₂ : Exchange Node} {count : UInt64} :
      TellsReceipt e₁ tx.hash none → TellsCount e₂ tx.sender count → count ≤ tx.nonce →
        Looked tx start [e₁, e₂] (.ok none)
  | passed {e₁ e₂ : Exchange Node} {count : UInt64} {rest : List (Exchange Node)}
      {x : Except ChainError (Option Outcome)} :
      TellsReceipt e₁ tx.hash none → TellsCount e₂ tx.sender count → tx.nonce < count →
        (lookAgain tx start).Yields rest x → Looked tx start (e₁ :: e₂ :: rest) x

theorem looked_of_yields {x : Except ChainError (Option Outcome)}
    (h : (look tx start).Yields trace x) : Looked tx start trace x := by
  rcases yields_bind_iff.1 h with ⟨front, rest, found, rfl, hfront, hrest⟩ | ⟨cause, he, rfl⟩
  · obtain ⟨e₁, rfl, he₁⟩ := readReceipt_yields_ok_iff.1 hfront
    split at hrest
    · obtain ⟨rfl, rfl⟩ := yields_done_iff.1 hrest
      exact .mined he₁
    · rcases yields_bind_iff.1 hrest with
        ⟨front, rest, count, rfl, hcount, hnext⟩ | ⟨cause, he, rfl⟩
      · obtain ⟨e₂, rfl, he₂⟩ := readCount_yields_ok_iff.1 hcount
        split at hnext
        · rename_i hle
          obtain ⟨rfl, rfl⟩ := yields_done_iff.1 hnext
          exact .pending he₁ he₂ hle
        · rename_i hlt
          exact .passed he₁ he₂ (UInt64.not_le.1 hlt) hnext
      · obtain ⟨e₂, rfl, -⟩ := asksOnce_readCount _ _ he
        refine .uncounted he₁ fun count hcount => ?_
        exact absurd (he.result_unique (readCount_yields_ok_iff.2 ⟨e₂, rfl, hcount⟩)) nofun
  · obtain ⟨e₁, rfl, hrequest⟩ := asksOnce_readReceipt _ _ he
    exact .unanswered hrequest

/-- A look that has found no receipt again goes on to the search. -/
theorem lookAgain_yields_iff {x : Except ChainError (Option Outcome)}
    {eAgain eLatest : Exchange Node} {latest : BlockInfo} {blocks : List (Exchange Node)}
    (hagain : TellsReceipt eAgain tx.hash none) (hlatest : TellsLatest eLatest latest) :
    (lookAgain tx start).Yields (eAgain :: eLatest :: blocks) x ↔
      ∃ result, (searchFrom tx start latest).Yields blocks result ∧ x = result.map some := by
  have hreceipt : (readReceipt tx.hash).Yields [eAgain] (.ok none) :=
    readReceipt_yields_ok_iff.2 ⟨eAgain, rfl, hagain⟩
  have hblock : (readBlock .latest).Yields [eLatest] (.ok latest) :=
    readLatest_yields_ok_iff.2 ⟨eLatest, rfl, hlatest⟩
  have hsearch : (lookAgain tx start).Yields (eAgain :: eLatest :: blocks) x ↔
      (some <$> findReplacement tx start).Yields (eLatest :: blocks) x := hreceipt.bind_iff
  rw [hsearch, yields_map_iff, findReplacement_eq]
  exact exists_congr fun result => and_congr_left fun _ => hblock.bind_iff

/-- What a look that goes on has seen: a receipt after all, or the outcome of the search. -/
theorem lookAgain_yields_ok {x : Option Outcome} (h : (lookAgain tx start).Yields trace (.ok x)) :
    (∃ e receipt, trace = [e] ∧ TellsReceipt e tx.hash (some receipt) ∧
      x = some (.mined receipt)) ∨
      ∃ eAgain eLatest latest blocks outcome, trace = eAgain :: eLatest :: blocks ∧
        TellsReceipt eAgain tx.hash none ∧ TellsLatest eLatest latest ∧
        (searchFrom tx start latest).Yields blocks (.ok outcome) ∧ x = some outcome := by
  obtain ⟨front, rest, found, rfl, hfront, hrest⟩ := yields_bind_ok_iff.1 h
  obtain ⟨e, rfl, he⟩ := readReceipt_yields_ok_iff.1 hfront
  split at hrest
  · rename_i receipt
    obtain ⟨rfl, rfl⟩ := yields_pure_ok_iff.1 hrest
    exact Or.inl ⟨e, receipt, rfl, he, rfl⟩
  · obtain ⟨y, hsearch, hy⟩ := yields_map_iff.1 hrest
    cases y with
    | error cause => cases hy
    | ok outcome =>
      rw [findReplacement_eq] at hsearch
      obtain ⟨front, blocks, latest, rfl, hlatest, hblocks⟩ := yields_bind_ok_iff.1 hsearch
      obtain ⟨eLatest, rfl, heLatest⟩ := readLatest_yields_ok_iff.1 hlatest
      cases hy
      exact Or.inr ⟨e, eLatest, latest, blocks, outcome, rfl, he, heLatest, hblocks, rfl⟩

theorem asks_lookAgain : Asks NoCount (lookAgain tx start) := by
  refine asks_bind (asks_readReceipt _) fun again => ?_
  split
  · exact .done _
  · rw [map_eq_bind]
    have hsearch : Asks NoCount (findReplacement tx start) :=
      asks_bind asks_readLatest fun latest => asks_searchBlocks _ _
    exact asks_bind hsearch fun outcome => .done _

theorem Looked.noCount_head {x : Except ChainError (Option Outcome)} {rest : List (Exchange Node)}
    (h : Looked tx start (e :: rest) x) : NoCount e.request := by
  have hreceipt : e.request = .receipt tx.hash := by
    cases h with
    | unanswered hrequest => exact hrequest
    | mined h => exact h.request_eq
    | uncounted h _ => exact h.request_eq
    | pending h _ _ => exact h.request_eq
    | passed h _ _ _ => exact h.request_eq
  rw [hreceipt]
  exact noCount_receipt

theorem Looked.noCount_later {x : Except ChainError (Option Outcome)} {e₁ e₂ : Exchange Node}
    {later : List (Exchange Node)} (h : Looked tx start (e₁ :: e₂ :: later) x) :
    ∀ e ∈ later, NoCount e.request := by
  cases h with
  | uncounted _ _ => exact nofun
  | pending _ _ _ => exact nofun
  | passed _ _ _ hagain => exact asks_lookAgain.forall_mem hagain

/-- In a look that was told that the sender's nonce has passed, whatever comes after that answer is
what the look went on with. -/
theorem Looked.of_passed {x : Except ChainError (Option Outcome)}
    {front rest : List (Exchange Node)} (h : Looked tx start (front ++ e :: rest) x)
    (hcount : TellsCount e tx.sender count) (hpassed : tx.nonce < count) :
    (lookAgain tx start).Yields rest x := by
  -- a look asks for the number of transactions with its second request, and only then
  rcases front with _ | ⟨e₁, _ | ⟨e₂, front⟩⟩
  · exact absurd h.noCount_head hcount.not_noCount
  · cases h with
    | uncounted _ huncounted => exact absurd hcount (huncounted count)
    | pending _ hpending hle =>
      obtain rfl := hpending.unique hcount
      exact absurd hle (UInt64.not_le.2 hpassed)
    | passed _ _ _ hagain => exact hagain
  · have hmem : e ∈ front ++ e :: rest := List.mem_append_right _ List.mem_cons_self
    exact absurd (h.noCount_later e hmem) hcount.not_noCount

/-- A look that goes on does not find the transaction pending. -/
theorem not_yields_lookAgain_none : ¬(lookAgain tx start).Yields trace (.ok none) := by
  intro h
  rcases lookAgain_yields_ok h with ⟨_, _, _, _, hx⟩ | ⟨_, _, _, _, _, _, _, _, _, hx⟩
  · cases hx
  · cases hx

/-- The ways in which a wait may go on after its first block: a look that finds the transaction
pending may be the last one, and any other look is. -/
inductive Polled (tx : Submitted) (start : UInt64) :
    List (Exchange Node) → Except ChainError Outcome → Prop where
  | failed {trace : List (Exchange Node)} {cause : ChainError} :
      Looked tx start trace (.error cause) → Polled tx start trace (.error cause)
  | found {trace : List (Exchange Node)} {outcome : Outcome} :
      Looked tx start trace (.ok (some outcome)) → Polled tx start trace (.ok outcome)
  | pending {trace : List (Exchange Node)} :
      Looked tx start trace (.ok none) → Polled tx start trace (.ok .pending)
  | again {front rest : List (Exchange Node)} {result : Except ChainError Outcome} :
      Looked tx start front (.ok none) → Polled tx start rest result →
        Polled tx start (front ++ rest) result

theorem polled_of_yields {more : Nat} {result : Except ChainError Outcome}
    (h : (follow tx start more).Yields trace result) : Polled tx start trace result := by
  induction more generalizing trace with
  | zero =>
    rcases yields_bind_iff.1 h with ⟨front, rest, x, rfl, hfront, hrest⟩ | ⟨cause, he, rfl⟩
    · obtain ⟨rfl, rfl⟩ := yields_done_iff.1 hrest
      rw [List.append_nil]
      cases x with
      | none => exact .pending (looked_of_yields hfront)
      | some outcome => exact .found (looked_of_yields hfront)
    · exact .failed (looked_of_yields he)
  | succ more ih =>
    rcases yields_bind_iff.1 h with ⟨front, rest, x, rfl, hfront, hrest⟩ | ⟨cause, he, rfl⟩
    · split at hrest
      · obtain ⟨rfl, rfl⟩ := yields_done_iff.1 hrest
        rw [List.append_nil]
        exact .found (looked_of_yields hfront)
      · exact .again (looked_of_yields hfront) (ih hrest)
    · exact .failed (looked_of_yields he)

/-- A wait that was told that the sender's nonce has passed ends with what the look of that answer
went on with. -/
theorem Polled.of_passed {result : Except ChainError Outcome} {front rest : List (Exchange Node)}
    (h : Polled tx start trace result) (htrace : trace = front ++ e :: rest)
    (hcount : TellsCount e tx.sender count) (hpassed : tx.nonce < count) :
    (lookAgain tx start).Yields rest (result.map some) := by
  induction h generalizing front with
  | failed hlook =>
    subst htrace
    exact hlook.of_passed hcount hpassed
  | found hlook =>
    subst htrace
    exact hlook.of_passed hcount hpassed
  | pending hlook =>
    subst htrace
    exact absurd (hlook.of_passed hcount hpassed) not_yields_lookAgain_none
  | @again before after result hlook _ ih =>
    -- the answer is either of the first look, which would not have been followed by another, or of
    -- a later one
    rcases List.append_eq_append_iff.1 htrace with ⟨middle, rfl, hafter⟩ | ⟨middle, rfl, htail⟩
    · exact ih hafter
    · rcases middle with _ | ⟨e', middle⟩
      · have hafter : after = [] ++ e :: rest := htail.symm
        exact ih hafter
      · obtain ⟨rfl, -⟩ := List.cons.inj htail
        exact absurd (hlook.of_passed hcount hpassed) not_yields_lookAgain_none

/-! ## The outcome of a wait -/

/-- The wait began at the block `start`. It was told that the nonce of the sender has passed, and
then again that there is no receipt, so that it went on to the blocks up to `latest`. -/
def Searched (tx : Submitted) (trace : List (Exchange Node)) (start latest : BlockInfo)
    (blocks : List (Exchange Node)) : Prop :=
  ∃ eStart front eCount eAgain eLatest count,
    trace = eStart :: (front ++ eCount :: eAgain :: eLatest :: blocks) ∧
    TellsLatest eStart start ∧ TellsCount eCount tx.sender count ∧ tx.nonce < count ∧
    TellsReceipt eAgain tx.hash none ∧ TellsLatest eLatest latest

/-- What a wait that reports an outcome has been told. -/
def Saw (tx : Submitted) (trace : List (Exchange Node)) : Outcome → Prop
  -- at last, that there is no receipt, and then that the nonce of the sender has not passed
  | .pending => ∃ front e₁ e₂ count, trace = front ++ [e₁, e₂] ∧
      TellsReceipt e₁ tx.hash none ∧ TellsCount e₂ tx.sender count ∧ count ≤ tx.nonce
  | .mined receipt => ∃ front e, trace = front ++ [e] ∧ TellsReceipt e tx.hash (some receipt)
  -- the blocks down to one with a transaction in place of the submitted one, and its receipt
  | .replaced receipt cancelled => ∃ start latest scanned e number t,
      Searched tx trace start latest (scanned ++ [e]) ∧
      start.number.toNat - 64 ≤ number.toNat ∧ number ≤ latest.number ∧
      FoundAt tx (latest.number.toNat + 1) number t scanned ∧
      TellsReceipt e t.hash (some receipt) ∧ (cancelled = true ↔ Cancels tx t)

theorem Looked.saw {info : BlockInfo} {eStart : Exchange Node} {front last : List (Exchange Node)}
    {x : Option Outcome} (h : Looked tx info.number last (.ok x))
    (hstart : TellsLatest eStart info) :
    Saw tx (eStart :: (front ++ last)) (x.getD .pending) := by
  cases h with
  | @mined e receipt he => exact ⟨eStart :: front, e, rfl, he⟩
  | @pending e₁ e₂ count he₁ he₂ hle => exact ⟨eStart :: front, e₁, e₂, count, rfl, he₁, he₂, hle⟩
  | @passed e₁ e₂ count rest _ he₁ he₂ hlt hagain =>
    rcases lookAgain_yields_ok hagain with ⟨e, receipt, rfl, he, rfl⟩ |
      ⟨eAgain, eLatest, latest, blocks, outcome, rfl, heAgain, hlatest, hsearch, rfl⟩
    · refine ⟨eStart :: (front ++ [e₁, e₂]), e, ?_, he⟩
      simp
    · obtain ⟨scanned, e, number, t, receipt, rfl, hlow, hhigh, hfound, hreceipt, rfl⟩ :=
        searchFrom_yields_ok hsearch
      refine ⟨info, latest, scanned, e, number, t, ?_, hlow, hhigh, hfound, hreceipt,
        isCancellation_iff⟩
      refine ⟨eStart, front ++ [e₁], e₂, eAgain, eLatest, count, ?_, hstart, he₂, hlt, heAgain,
        hlatest⟩
      simp

/-- An outcome is what the last look has seen. -/
theorem Polled.saw {info : BlockInfo} {eStart : Exchange Node} {front rest : List (Exchange Node)}
    {result : Except ChainError Outcome} {outcome : Outcome}
    (h : Polled tx info.number rest result) (hstart : TellsLatest eStart info)
    (hresult : result = .ok outcome) : Saw tx (eStart :: (front ++ rest)) outcome := by
  induction h generalizing front with
  | failed _ => cases hresult
  | found hlook =>
    cases hresult
    exact hlook.saw hstart
  | pending hlook =>
    cases hresult
    exact hlook.saw hstart
  | @again before after _ _ _ ih =>
    rw [← List.append_assoc]
    exact ih hresult

/-- A look that goes on does not end with a pending transaction. -/
theorem not_yields_lookAgain_pending :
    ¬(lookAgain tx start).Yields trace (.ok (some .pending)) := by
  intro h
  rcases lookAgain_yields_ok h with ⟨_, _, _, _, hx⟩ | ⟨_, _, _, _, outcome, _, _, _, hsearch, hx⟩
  · cases hx
  · obtain ⟨_, _, _, _, _, _, _, _, _, _, rfl⟩ := searchFrom_yields_ok hsearch
    cases hx

/-- A wait that searched blocks that were all answered and hold nothing found nothing, and has
looked at all of its range. -/
theorem Polled.of_searched {result : Except ChainError Outcome} {start latest info : BlockInfo}
    {eStart : Exchange Node} {rest blocks : List (Exchange Node)}
    (h : Polled tx info.number rest result) (hstart : TellsLatest eStart info)
    (hsearched : Searched tx (eStart :: rest) start latest blocks)
    (hnone : ∀ e ∈ blocks, ∃ number body, TellsBlock e number body ∧ HoldsNone tx body) :
    result = .error (.notFound (.replacement tx.hash)) ∧
      ∀ n : UInt64, start.number.toNat - 64 ≤ n.toNat → n ≤ latest.number →
        ∃ e ∈ blocks, ∃ body, TellsBlock e n body := by
  obtain ⟨eFirst, front, eCount, eAgain, eLatest, count, htrace, hfirst, hcount, hlt, hagain,
    hlatest⟩ := hsearched
  obtain ⟨rfl, htail⟩ := List.cons.inj htrace
  obtain rfl : info = start := hstart.unique hfirst
  have hlook := h.of_passed htail hcount hlt
  obtain ⟨found, hsearch, hfound⟩ := (lookAgain_yields_iff hagain hlatest).1 hlook
  obtain ⟨rfl, hall⟩ := searchBlocks_yields_of_none searchFrom_size hsearch hnone
  constructor
  · cases result with
    | ok outcome => cases hfound
    | error cause =>
      cases hfound
      rfl
  · intro n hlow hhigh
    have hle : n.toNat ≤ latest.number.toNat := UInt64.le_iff_toNat_le.1 hhigh
    have hdepth : replacementDepth = 64 := rfl
    exact hall n hlow (by omega)

/-- A wait asks for its first block, and then looks. -/
theorem wait_yields {interval timeout : Nat} {result : Except ChainError Outcome}
    (h : (wait interval tx timeout).Yields trace result) :
    (∃ eStart info rest, trace = eStart :: rest ∧ TellsLatest eStart info ∧
      Polled tx info.number rest result) ∨
      ∃ eStart cause, trace = [eStart] ∧ result = .error cause := by
  rcases yields_bind_iff.1 h with ⟨front, rest, info, rfl, hstart, hrest⟩ | ⟨cause, he, rfl⟩
  · obtain ⟨eStart, rfl, heStart⟩ := readLatest_yields_ok_iff.1 hstart
    exact Or.inl ⟨eStart, info, rest, rfl, heStart, polled_of_yields hrest⟩
  · obtain ⟨eStart, rfl, -⟩ := asksOnce_readLatest _ _ he
    exact Or.inr ⟨eStart, cause, rfl, rfl⟩

/-- A wait reports what it was told, however the answers change between two requests and however
often it looks. An outcome is one that the node's last answers bear out (`Saw`). A wait that has
seen a passed nonce does not end with a pending transaction, and one whose search meets nothing in
place of the submitted transaction fails, after it has looked at every block of its range. -/
theorem wait_reports_what_it_saw {interval timeout : Nat} {result : Except ChainError Outcome}
    (h : (wait interval tx timeout).Yields trace result) :
    (∀ outcome, result = .ok outcome → Saw tx trace outcome) ∧
    (∀ e ∈ trace, ∀ count, TellsCount e tx.sender count → tx.nonce < count →
      result ≠ .ok .pending) ∧
    ∀ start latest blocks, Searched tx trace start latest blocks →
      (∀ e ∈ blocks, ∃ number body, TellsBlock e number body ∧ HoldsNone tx body) →
        result = .error (.notFound (.replacement tx.hash)) ∧
          ∀ n : UInt64, start.number.toNat - 64 ≤ n.toNat → n ≤ latest.number →
            ∃ e ∈ blocks, ∃ body, TellsBlock e n body := by
  rcases wait_yields h with ⟨eStart, info, rest, rfl, hstart, hpolled⟩ | ⟨eStart, cause, rfl, rfl⟩
  · refine ⟨fun outcome hresult => ?_, fun e he count hcount hlt hresult => ?_,
      fun start latest blocks hsearched hnone => hpolled.of_searched hstart hsearched hnone⟩
    · have hsaw : Saw tx (eStart :: ([] ++ rest)) outcome := hpolled.saw hstart hresult
      exact hsaw
    · rcases List.mem_cons.1 he with rfl | hmem
      · exact absurd hstart.noCount hcount.not_noCount
      · obtain ⟨front, after, rfl⟩ := List.append_of_mem hmem
        have hlook := hpolled.of_passed rfl hcount hlt
        rw [hresult] at hlook
        exact not_yields_lookAgain_pending hlook
  · refine ⟨fun _ => nofun, fun _ _ _ _ _ => nofun, fun start latest blocks hsearched _ => ?_⟩
    -- a wait that has no first block asks for nothing else
    obtain ⟨_, front, _, _, _, _, htrace, -⟩ := hsearched
    simp at htrace

/-- A node with the latest block `latest` and one mined transaction, which is in the block
`number`. -/
def soleMined (latest number : UInt64) (t : Listed) (r : NodeRequest) : Except ChainError Json :=
  .ok <| match r.method, r.params with
  | "eth_getBlockByNumber", [_, .bool false] => JsonWrite.write (BlockHeader.mk ⟨latest, 0⟩)
  | "eth_getBlockByNumber", [.string n, _] =>
    JsonWrite.write (BlockBody.mk (if n = Hex.ofNat number.toNat then [t] else []))
  | "eth_getTransactionCount", _ => JsonWrite.write (Quantity.mk (t.nonce + 1))
  | "eth_getTransactionReceipt", [.string hash] =>
    if hash = t.hash.toHashText then
      JsonWrite.write (ReceiptRecord.mk ⟨t.hash, number, true, 21000, []⟩)
    else .null
  | _, _ => .null

/-- A transfer of a sender to itself, under the nonce 7. -/
def ownTransfer : Listed := ⟨Word.max, .zero, some .zero, 7, .zero, []⟩

/-- A submitted transaction of that sender. -/
def submittedAt (nonce : UInt64) : Submitted := ⟨.zero, .zero, nonce⟩

/-- The own transfer cancels a transaction under its nonce, and the one after that is pending. -/
theorem ownTransfer_cancels_one :
    (∃ trace receipt, (wait 1000 (submittedAt 7) 0).Yields trace (.ok (.replaced receipt true)) ∧
      Saw (submittedAt 7) trace (.replaced receipt true)) ∧
      ∃ trace, (wait 1000 (submittedAt 8) 0).Yields trace (.ok .pending) ∧
        Saw (submittedAt 8) trace .pending := by
  constructor
  · have hresult : ((wait 1000 (submittedAt 7) 0).walk (soleMined 70 68 ownTransfer)).2 =
        .ok (.replaced ⟨Word.max, 68, true, 21000, []⟩ true) := by decide +kernel
    have hyields := yields_walk (soleMined 70 68 ownTransfer) (wait 1000 (submittedAt 7) 0)
    rw [hresult] at hyields
    exact ⟨_, _, hyields, (wait_reports_what_it_saw hyields).1 _ rfl⟩
  · have hresult : ((wait 1000 (submittedAt 8) 0).walk (soleMined 70 68 ownTransfer)).2 =
        .ok .pending := by decide +kernel
    have hyields := yields_walk (soleMined 70 68 ownTransfer) (wait 1000 (submittedAt 8) 0)
    rw [hresult] at hyields
    exact ⟨_, hyields, (wait_reports_what_it_saw hyields).1 _ rfl⟩

end Cdp.Node
