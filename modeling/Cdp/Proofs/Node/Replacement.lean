import Cdp.Proofs.Node.Answers

/-!
# The search for a replacement

A search goes down block by block, and ends at the first block that holds a transaction in place of
the submitted one. Its recursion gives the blocks that it has left behind, and what each was told to
hold: those above the transaction that was found (`searchBlocks_yields_ok`), or the whole range
(`searchBlocks_yields_of_none`).
-/

set_option autoImplicit false

namespace Cdp.Node

open Procedure

variable {trace : List (Exchange Node)}

/-! ## Replacements -/

/-- A listed transaction has the sender and the nonce of a submitted one, but another hash. -/
def TakesPlace (tx : Submitted) (t : Listed) : Prop :=
  t.sender = tx.sender ∧ t.nonce = tx.nonce ∧ t.hash ≠ tx.hash

/-- A listed transaction is an empty transfer of the sender of a submitted one to itself. -/
def Cancels (tx : Submitted) (t : Listed) : Prop :=
  t.recipient = some tx.sender ∧ t.data = [] ∧ t.value = .zero

theorem takesPlaceOf_iff {tx : Submitted} {t : Listed} :
    takesPlaceOf tx t = true ↔ TakesPlace tx t := by
  simp [takesPlaceOf, TakesPlace, and_assoc]

theorem isCancellation_iff {tx : Submitted} {t : Listed} :
    isCancellation tx t = true ↔ Cancels tx t := by
  have hzero : t.value.isZero = true ↔ t.value = .zero := by
    rw [Word.isZero, beq_iff_eq]
    exact ⟨fun h => Word.ext h, fun h => congrArg Word.toNat h⟩
  simp [isCancellation, Cancels, and_assoc, hzero]

/-- No transaction of a block takes the place of a submitted one; a block that the node does not
know has none. -/
def HoldsNone (tx : Submitted) (body : Option BlockBody) : Prop :=
  ∀ b, body = some b → ∀ t ∈ b.transactions, ¬TakesPlace tx t

/-- A search that went down to a block found a transaction there. No block above it holds one that
takes the place, and in its own block it is the first one that does. -/
structure FoundAt (tx : Submitted) (stop : Nat) (number : UInt64) (t : Listed)
    (scanned : List (Exchange Node)) : Prop where
  takes : TakesPlace tx t
  above : ∀ n : UInt64, number < n → n.toNat < stop →
    ∃ e ∈ scanned, ∃ body, TellsBlock e n body ∧ HoldsNone tx body
  first : ∃ e ∈ scanned, ∃ body before after, TellsBlock e number (some body) ∧
    body.transactions = before ++ t :: after ∧ ∀ s ∈ before, ¬TakesPlace tx s

/-! ## Block by block -/

section Search

variable {tx : Submitted} {lowest : Nat} {body : Option BlockBody} {t : Listed}
  {outcome : Outcome}

theorem holdsNone_of_find?_eq_none
    (h : (body.bind fun b => b.transactions.find? (takesPlaceOf tx)) = none) :
    HoldsNone tx body := by
  rintro b rfl t ht htakes
  have hnone := List.find?_eq_none.1 h t ht
  exact hnone (takesPlaceOf_iff.2 htakes)

theorem exists_of_find?_eq_some
    (h : (body.bind fun b => b.transactions.find? (takesPlaceOf tx)) = some t) :
    TakesPlace tx t ∧ ∃ b before after, body = some b ∧ b.transactions = before ++ t :: after ∧
      ∀ s ∈ before, ¬TakesPlace tx s := by
  obtain ⟨b, rfl, hfind⟩ := Option.bind_eq_some_iff.1 h
  obtain ⟨htakes, before, after, hsplit, hbefore⟩ := List.find?_eq_some_iff_append.1 hfind
  refine ⟨takesPlaceOf_iff.1 htakes, b, before, after, rfl, hsplit, fun s hs hs' => ?_⟩
  have hnot := hbefore s hs
  rw [takesPlaceOf_iff.2 hs'] at hnot
  cases hnot

theorem replacedBy_yields_ok (h : (replacedBy tx t).Yields trace (.ok outcome)) :
    ∃ e receipt, trace = [e] ∧ TellsReceipt e t.hash (some receipt) ∧
      outcome = .replaced receipt (isCancellation tx t) := by
  obtain ⟨front, rest, found, rfl, hfront, hrest⟩ := yields_bind_ok_iff.1 h
  obtain ⟨e, rfl, he⟩ := readReceipt_yields_ok_iff.1 hfront
  split at hrest
  · rename_i receipt
    obtain ⟨rfl, rfl⟩ := yields_pure_ok_iff.1 hrest
    exact ⟨e, receipt, rfl, he, rfl⟩
  · exact absurd (yields_done_iff.1 hrest).2 nofun

/-- A search that finds something went down to the highest block that holds a transaction in place
of the submitted one, and then asked for the receipt of the first one there. -/
theorem searchBlocks_yields_ok {count : Nat} (hsize : lowest + count ≤ UInt64.size)
    (h : (searchBlocks tx lowest count).Yields trace (.ok outcome)) :
    ∃ scanned e number t receipt, trace = scanned ++ [e] ∧ lowest ≤ number.toNat ∧
      number.toNat < lowest + count ∧ FoundAt tx (lowest + count) number t scanned ∧
      TellsReceipt e t.hash (some receipt) ∧
      outcome = .replaced receipt (isCancellation tx t) := by
  induction count generalizing trace with
  | zero => exact absurd (yields_done_iff.1 h).2 nofun
  | succ count ih =>
    have hnumber : (UInt64.ofNat (lowest + count)).toNat = lowest + count :=
      UInt64.toNat_ofNat_of_lt' (by omega)
    obtain ⟨front, rest, body, rfl, hfront, hrest⟩ := yields_bind_ok_iff.1 h
    obtain ⟨e, rfl, he⟩ := ask_yields_ok_iff.1 hfront
    split at hrest
    · rename_i t hfind
      obtain ⟨e', receipt, rfl, hreceipt, rfl⟩ := replacedBy_yields_ok hrest
      obtain ⟨htakes, b, before, after, rfl, hsplit, hbefore⟩ := exists_of_find?_eq_some hfind
      refine ⟨[e], e', UInt64.ofNat (lowest + count), t, receipt, rfl, ?_, ?_, ?_, hreceipt, rfl⟩
      · rw [hnumber]
        exact Nat.le_add_right _ _
      · rw [hnumber]
        exact Nat.lt_succ_self _
      · refine ⟨htakes, fun n habove hstop => ?_, e, List.mem_singleton_self e, b, before, after,
          he, hsplit, hbefore⟩
        -- nothing is between this block and the end of the range
        rw [UInt64.lt_iff_toNat_lt, hnumber] at habove
        omega
    · rename_i hfind
      obtain ⟨scanned, e', number, t, receipt, rfl, hlow, hhigh, hfound, hreceipt, rfl⟩ :=
        ih (by omega) hrest
      refine ⟨e :: scanned, e', number, t, receipt, rfl, hlow, by omega, ?_, hreceipt, rfl⟩
      refine ⟨hfound.takes, fun n habove hstop => ?_, ?_⟩
      · by_cases hlast : n.toNat = lowest + count
        · obtain rfl : n = UInt64.ofNat (lowest + count) := by rw [← hlast, UInt64.ofNat_toNat]
          exact ⟨e, List.mem_cons_self, body, he, holdsNone_of_find?_eq_none hfind⟩
        · obtain ⟨e'', he'', hbody⟩ := hfound.above n habove (by omega)
          exact ⟨e'', List.mem_cons_of_mem _ he'', hbody⟩
      · obtain ⟨e'', he'', hbody⟩ := hfound.first
        exact ⟨e'', List.mem_cons_of_mem _ he'', hbody⟩

/-- A search whose blocks are all answered and hold nothing has looked at the whole range, and ends
with nothing found. -/
theorem searchBlocks_yields_of_none {count : Nat} {result : Except ChainError Outcome}
    (hsize : lowest + count ≤ UInt64.size)
    (h : (searchBlocks tx lowest count).Yields trace result)
    (hnone : ∀ e ∈ trace, ∃ number body, TellsBlock e number body ∧ HoldsNone tx body) :
    result = .error (.notFound (.replacement tx.hash)) ∧
      ∀ n : UInt64, lowest ≤ n.toNat → n.toNat < lowest + count →
        ∃ e ∈ trace, ∃ body, TellsBlock e n body := by
  induction count generalizing trace with
  | zero =>
    obtain ⟨-, rfl⟩ := yields_done_iff.1 h
    exact ⟨rfl, fun n hlow hhigh => absurd hhigh (Nat.not_lt.2 hlow)⟩
  | succ count ih =>
    rcases yields_bind_iff.1 h with ⟨front, rest, body, rfl, hfront, hrest⟩ | ⟨cause, he, -⟩
    · obtain ⟨e, rfl, he⟩ := ask_yields_ok_iff.1 hfront
      obtain ⟨hhead, htail⟩ := List.forall_mem_append.1 hnone
      obtain ⟨number, body', htells, hbody⟩ := hhead e (List.mem_singleton_self e)
      obtain rfl : body = body' := he.unique htells
      split at hrest
      · rename_i t hfind
        obtain ⟨htakes, b, before, after, rfl, hsplit, -⟩ := exists_of_find?_eq_some hfind
        exact absurd htakes (hbody b rfl t (by simp [hsplit]))
      · obtain ⟨hresult, hall⟩ := ih (by omega) hrest htail
        refine ⟨hresult, fun n hlow hhigh => ?_⟩
        by_cases hlast : n.toNat = lowest + count
        · obtain rfl : n = UInt64.ofNat (lowest + count) := by rw [← hlast, UInt64.ofNat_toNat]
          exact ⟨e, List.mem_append_left _ (List.mem_singleton_self e), body, he⟩
        · obtain ⟨e', he', hbody'⟩ := hall n hlow (by omega)
          exact ⟨e', List.mem_append_right _ he', hbody'⟩
    · -- a block that was answered is no failure
      obtain ⟨e, rfl, hrequest⟩ := asksOnce_ask _ _ he
      obtain ⟨number, body', htells, -⟩ := hnone e (List.mem_singleton_self e)
      exact absurd he htells.not_error

theorem asks_searchBlocks (lowest count : Nat) : Asks NoCount (searchBlocks tx lowest count) := by
  induction count with
  | zero => exact .done _
  | succ count ih =>
    refine asks_bind (asks_ask noCount_block) fun body => ?_
    split
    · refine asks_bind (asks_readReceipt _) fun receipt => ?_
      split <;> exact .done _
    · exact ih

end Search

/-! ## From the latest block -/

variable {tx : Submitted} {start : UInt64}

/-- The search of a wait that began at a block, down from the latest one. -/
def searchFrom (tx : Submitted) (start : UInt64) (latest : BlockInfo) : NodeProcedure Outcome :=
  searchBlocks tx (start.toNat - replacementDepth)
    (latest.number.toNat + 1 - (start.toNat - replacementDepth))

/-- The whole search is within the numbers of blocks. -/
theorem searchFrom_size {latest : BlockInfo} :
    start.toNat - replacementDepth +
      (latest.number.toNat + 1 - (start.toNat - replacementDepth)) ≤ UInt64.size := by
  have hstart := start.toNat_lt_size
  have hlatest := latest.number.toNat_lt_size
  omega

theorem searchFrom_yields_ok {latest : BlockInfo} {outcome : Outcome}
    (h : (searchFrom tx start latest).Yields trace (.ok outcome)) :
    ∃ scanned e number t receipt, trace = scanned ++ [e] ∧ start.toNat - 64 ≤ number.toNat ∧
      number ≤ latest.number ∧ FoundAt tx (latest.number.toNat + 1) number t scanned ∧
      TellsReceipt e t.hash (some receipt) ∧
      outcome = .replaced receipt (isCancellation tx t) := by
  obtain ⟨scanned, e, number, t, receipt, rfl, hlow, hhigh, hfound, hreceipt, rfl⟩ :=
    searchBlocks_yields_ok searchFrom_size h
  have hrange : start.toNat - replacementDepth +
      (latest.number.toNat + 1 - (start.toNat - replacementDepth)) = latest.number.toNat + 1 := by
    omega
  rw [hrange] at hhigh hfound
  refine ⟨scanned, e, number, t, receipt, rfl, hlow, ?_, hfound, hreceipt, rfl⟩
  exact UInt64.le_iff_toNat_le.2 (Nat.le_of_lt_succ hhigh)

theorem findReplacement_eq :
    findReplacement tx start = readBlock .latest >>= searchFrom tx start := rfl

end Cdp.Node
