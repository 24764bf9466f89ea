import Cdp.Proofs.Chain.Pinned
import Cdp.Proofs.Chain.Requests
import Cdp.Proofs.Chain.Standing

/-!
# The image of a block

A snapshot keeps what was read of a block and works out the total of the pools, the recovery mode,
the fees and the watched Trove from what it keeps. The same four can be read from the chain, at the
block and with the snapshot's whitelist. The main statement `readSnapshot_faithful` says that both
ways come to the same values and to the same errors, and so do the three ways to the fees.

Nothing is asked of the whitelist, the pools, the stakes or the status of the Trove: a snapshot is
there, so each of its parts has been read (`Parts`), and reading a part again gives it again.
-/

set_option autoImplicit false

namespace Cdp

open Procedure

namespace SystemState

/-- The fees of the block itself: no time passes, so the clock cannot overflow. -/
theorem feesAfter_zero (state : SystemState) :
    state.feesAfter 0 = state.isRecoveryMode >>= fun mode =>
      pure (state.feesFactory.at state.block.timestamp mode) := by
  have htime : Counter.add state.block.timestamp 0 = .ok state.block.timestamp :=
    Counter.ofNat_eq_ok_iff.2 rfl
  rw [feesAfter, htime]
  rfl

end SystemState

variable {answer : (r : Chain.Request) → Except ChainError (Chain.Answer r)}

theorem Chain.resultOn_readAt {q : Query} {tag : BlockTag} {x : q.Answer}
    (h : answer (.read q tag) = .ok x) : resultOn answer (readAt q tag) = .ok x := by
  refine (resultOn_request answer _ _).trans ?_
  rw [h]
  rfl

namespace Snapshot

variable {s : Snapshot} {owner : Address}

/-- Each part of a snapshot is what the read of that part comes to at the snapshot's block. -/
structure Parts (answer : (r : Chain.Request) → Except ChainError (Chain.Answer r))
    (owner : Address) (s : Snapshot) : Prop where
  whitelist : resultOn answer (Chain.readWhitelist (.number s.block.number)) = .ok s.whitelist
  feesFactory : resultOn answer (Chain.readFeesFactory (.number s.block.number)) = .ok s.feesFactory
  pool : ∀ pool, resultOn answer (Chain.readPool pool s.whitelist (.number s.block.number)) =
    .ok (s.pool pool)
  totals : resultOn answer (Chain.readTotals s.whitelist.kinds (.number s.block.number)) =
    .ok s.totals
  ownerTrove : ∃ stored, s.ownerTrove = some stored ∧
    resultOn answer (Chain.readStoredTrove owner s.whitelist (.number s.block.number)) = .ok stored

/-- A snapshot that was read has its parts. -/
theorem parts_of_readSnapshotAt {block : BlockInfo}
    (h : resultOn answer (Chain.readSnapshotAt (some owner) block) = .ok s) :
    s.block = block ∧ Parts answer owner s := by
  rw [Chain.readSnapshotAt] at h
  simp only [resultOn_bind] at h
  obtain ⟨w, hw, h⟩ := bind_eq_ok_iff.1 h
  obtain ⟨factory, hfactory, h⟩ := bind_eq_ok_iff.1 h
  obtain ⟨count, -, h⟩ := bind_eq_ok_iff.1 h
  obtain ⟨active, hactive, h⟩ := bind_eq_ok_iff.1 h
  obtain ⟨default, hdefault, h⟩ := bind_eq_ok_iff.1 h
  obtain ⟨totals, htotals, h⟩ := bind_eq_ok_iff.1 h
  obtain ⟨ownerTrove, hownerTrove, h⟩ := bind_eq_ok_iff.1 h
  rw [Chain.readOwnerTrove, resultOn_bind] at hownerTrove
  obtain ⟨stored, hstored, hsome⟩ := bind_eq_ok_iff.1 hownerTrove
  cases hsome
  cases h
  refine ⟨rfl, ?_⟩
  constructor
  case whitelist => exact hw
  case feesFactory => exact hfactory
  case pool =>
    intro pool
    cases pool with
    | active => exact hactive
    | default => exact hdefault
  case totals => exact htotals
  case ownerTrove => exact ⟨stored, rfl, hstored⟩

namespace Parts

variable (h : Parts answer owner s)
include h

/-- The total that is read anew is the sum of the pools that are kept. -/
theorem readTotal_eq :
    resultOn answer (Chain.readTotal s.whitelist (.number s.block.number)) = liftM s.total := by
  rw [Chain.readTotal, resultOn_bind, h.pool .active]
  change resultOn answer (Chain.readPool .default s.whitelist _ >>= _) = _
  rw [resultOn_bind, h.pool .default]
  rfl

/-- The state that is read anew has the block, the whitelist and the fee state of the snapshot, and
the total of its pools. -/
theorem readState_eq (hblock : answer (.read .block (.number s.block.number)) = .ok s.block) :
    resultOn answer (Chain.readState (.number s.block.number)) =
      (liftM s.total : Attempt Error Trove) >>= fun total =>
        pure ⟨s.block, s.whitelist, total, s.feesFactory⟩ := by
  rw [Chain.readState]
  simp only [resultOn_bind, Chain.resultOn_readAt hblock, h.whitelist, h.feesFactory]
  change resultOn answer (Chain.readTotal s.whitelist _) >>= _ = _
  rw [h.readTotal_eq]
  rfl

/-- The recovery mode of the state is that of the snapshot. -/
theorem recoveryMode_eq (hblock : answer (.read .block (.number s.block.number)) = .ok s.block) :
    resultOn answer (Chain.readState (.number s.block.number) >>= fun state =>
      liftM state.isRecoveryMode) = s.isRecoveryMode := by
  rw [resultOn_bind, h.readState_eq hblock, Snapshot.isRecoveryMode]
  -- either the pools have no sum on both sides, or the same question is put to the same total
  cases (liftM s.total : Attempt Error Trove) <;> rfl

/-- At once, the state charges the fees of the snapshot. -/
theorem feesAfter_eq (hblock : answer (.read .block (.number s.block.number)) = .ok s.block) :
    resultOn answer (Chain.readState (.number s.block.number) >>= fun state =>
      liftM (state.feesAfter 0)) = s.fees := by
  rw [resultOn_bind, h.readState_eq hblock, Snapshot.fees, Snapshot.isRecoveryMode]
  cases (liftM s.total : Attempt Error Trove) with
  | error failure => rfl
  | ok total => exact SystemState.feesAfter_zero _

/-- The fees that are read on their own look at the block last, and come to the same. -/
theorem readFees_eq (hblock : answer (.read .block (.number s.block.number)) = .ok s.block) :
    resultOn answer (Chain.readFees s.whitelist (.number s.block.number)) = s.fees := by
  rw [Chain.readFees, Snapshot.fees, Snapshot.isRecoveryMode]
  simp only [resultOn_bind, Chain.resultOn_readAt hblock, h.feesFactory]
  change resultOn answer (Chain.readTotal s.whitelist _) >>= _ = _
  rw [h.readTotal_eq]
  cases (liftM s.total : Attempt Error Trove) with
  | error failure => rfl
  | ok total => rfl

/-- A watched Trove that is read anew has the rewards that the kept one is due. -/
theorem readTrove_eq :
    ∃ trove, s.trove = some trove ∧
      resultOn answer (Chain.readTrove owner s.whitelist (.number s.block.number)) =
        liftM trove := by
  obtain ⟨stored, hstored, hread⟩ := h.ownerTrove
  refine ⟨stored.applyRedistribution s.totals, ?_, ?_⟩
  · rw [Snapshot.trove, hstored]
    rfl
  · rw [Chain.readTrove, resultOn_bind, hread]
    change resultOn answer (Chain.readTotals s.whitelist.kinds _ >>= _) = _
    rw [resultOn_bind, h.totals]
    rfl

end Parts

section Reader

variable {σ : Type} {handle : (r : Chain.Request) → StateM σ (Except ChainError (Chain.Answer r))}

/-- A reader comes to the values and errors of a snapshot, when it reads at the block of the
snapshot and with its whitelist. -/
structure Faithful (handle : (r : Chain.Request) → StateM σ (Except ChainError (Chain.Answer r)))
    (owner : Address) (s : Snapshot) (w : σ) : Prop where
  total : ((Chain.readTotal s.whitelist (.number s.block.number)).run handle w).1 = liftM s.total
  recoveryMode : ((Chain.readState (.number s.block.number) >>= fun state =>
    liftM state.isRecoveryMode).run handle w).1 = s.isRecoveryMode
  stateFees : ((Chain.readState (.number s.block.number) >>= fun state =>
    liftM (state.feesAfter 0)).run handle w).1 = s.fees
  fees : ((Chain.readFees s.whitelist (.number s.block.number)).run handle w).1 = s.fees
  trove : ∃ trove, s.trove = some trove ∧
    ((Chain.readTrove owner s.whitelist (.number s.block.number)).run handle w).1 = liftM trove

/-- A reader that answers every read at the block alike is faithful to a snapshot with these
parts. -/
theorem Parts.faithful {answer : (r : Chain.Request) → Except ChainError (Chain.Answer r)}
    (h : Parts answer owner s)
    (hblock : answer (.read .block (.number s.block.number)) = .ok s.block)
    (hfixed : ∀ r, ReadsAt (.number s.block.number) r → ∀ w, (handle r w).1 = answer r) (w : σ) :
    Faithful handle owner s w := by
  have hrun {α : Type} {p : ChainProcedure α} (hp : Asks (ReadsAt (.number s.block.number)) p) :
      (p.run handle w).1 = resultOn answer p := hp.run_eq_resultOn hfixed w
  constructor
  case total => exact (hrun (Chain.asks_readTotal _).readsAt).trans h.readTotal_eq
  case recoveryMode =>
    exact (hrun (asks_bind Chain.asks_readState fun _ => .done _)).trans (h.recoveryMode_eq hblock)
  case stateFees =>
    exact (hrun (asks_bind Chain.asks_readState fun _ => .done _)).trans (h.feesAfter_eq hblock)
  case fees => exact (hrun (Chain.asks_readFees _)).trans (h.readFees_eq hblock)
  case trove =>
    obtain ⟨trove, htrove, hread⟩ := h.readTrove_eq
    exact ⟨trove, htrove, (hrun (Chain.asks_readTrove _ _)).trans hread⟩

/-- Let a snapshot with a watched owner be read from a reader whose answers at the block of the
snapshot are fixed, the block being its answer for the block. Then, whatever the reader was asked in
between, it is faithful to the snapshot. -/
theorem readSnapshot_faithful {fixed : Truth} {tag : BlockTag} {w₀ w₁ : σ}
    (hrun : (Chain.readSnapshot (some owner) tag).run handle w₀ = (.ok s, w₁))
    (hfixed : ∀ q w, (handle (.read q (.number s.block.number)) w).1 = fixed q)
    (hblock : fixed .block = .ok s.block) (w : σ) : Faithful handle owner s w := by
  have hanswer : ∀ r, ReadsAt (.number s.block.number) r →
      ∀ w, (handle r w).1 = (handle r w₀).1 := by
    rintro r ⟨q, rfl⟩ w
    exact (hfixed q w).trans (hfixed q w₀).symm
  -- behind the read of the block, the run is that of a snapshot of a resolved block
  obtain ⟨trace, htrace, hw⟩ := run_eq_iff.1 hrun
  obtain ⟨front, rest, block, rfl, -, hrest⟩ := yields_bind_ok_iff.1 htrace
  have hanswers := (List.forall_mem_append.1 hw.answers).2
  obtain rfl : s.block = block := Chain.ensures_readSnapshotAt_block _ _ hrest hanswers
  have hpinned : ∀ e ∈ rest, e.answer = (handle e.request w₀).1 := by
    intro e he
    obtain ⟨v, hv⟩ := hanswers e he
    exact hv.trans (hanswer _ ((Chain.asks_readSnapshotAt _ _).forall_mem hrest e he) v)
  have hresult : resultOn (fun r => (handle r w₀).1) (Chain.readSnapshotAt (some owner) s.block) =
      .ok s := by
    rw [resultOn, hrest.eq_walk hpinned]
  obtain ⟨-, hparts⟩ := parts_of_readSnapshotAt hresult
  exact hparts.faithful ((hfixed .block w₀).trans hblock) hanswer w

end Reader

/-! ## A Trove with rewards -/

/-- A token, and the owner of a Trove that holds some of it. -/
def rewardedKind : Address := .wrap 7

def rewardedOwner : Address := .wrap 8

/-- Ten of the token with a debt of three thousand, and a reward of half as much collateral and a
third of the debt since the last change. -/
def rewardedTables : Tables :=
  { Tables.bare with
    baseRate := (Decimal.thousandths 10).raw
    lastFeeOperationTime := 900000
    whitelist := [(rewardedKind, ⟨18, .ofUInt64 1000, .ofUInt64 1, .ofUInt64 2, false⟩)]
    troves := .ofList [(rewardedOwner,
      { status := 1
        debt := (Decimal.ofUInt64 3000).raw
        units := [(rewardedKind, (Decimal.ofUInt64 10).raw)]
        stakes := .ofList [(rewardedKind, (Decimal.ofUInt64 10).raw)]
        snapshots := .empty })]
    totals := .ofList
      [(rewardedKind, ⟨(Decimal.thousandths 500).raw, (Decimal.ofUInt64 100).raw⟩)]
    activePool := ⟨(Decimal.ofUInt64 3000).raw,
      .ofList [(rewardedKind, (Decimal.ofUInt64 10).raw)]⟩
    defaultPool := ⟨(Decimal.ofUInt64 1000).raw,
      .ofList [(rewardedKind, (Decimal.ofUInt64 5).raw)]⟩ }

theorem rewarded_readSnapshot :
    ((Chain.readSnapshot (some rewardedOwner) .latest).run
        rewardedTables.standing ()).1.toOption.map
        (fun s => (s.block, s.trove.bind fun trove => trove.toOption.map (·.trove.debt))) =
      some (rewardedTables.block, some (.ofUInt64 4000)) := by
  decide +kernel

/-- The snapshot of these tables says of the system and of the rewarded owner what the tables
say. -/
theorem rewarded_faithful :
    ∃ s w₁, (Chain.readSnapshot (some rewardedOwner) .latest).run rewardedTables.standing () =
        (.ok s, w₁) ∧
      rewardedTables.answer .block = .ok s.block ∧
      ∀ w, Faithful rewardedTables.standing rewardedOwner s w := by
  have hread := rewarded_readSnapshot
  rcases hrun : (Chain.readSnapshot (some rewardedOwner) .latest).run rewardedTables.standing ()
    with ⟨result, w₁⟩
  rw [hrun] at hread
  cases result with
  | error e => cases hread
  | ok s =>
    have hblock : rewardedTables.answer .block = .ok s.block :=
      congrArg Except.ok (congrArg Prod.fst (Option.some.inj hread)).symm
    exact ⟨s, w₁, rfl, hblock, readSnapshot_faithful hrun (fun q w => rfl) hblock⟩

end Snapshot

end Cdp
