import Cdp.Proofs.Chain.Pinned
import Cdp.Proofs.Chain.Standing
import Cdp.Proofs.Decimal.Units
import Cdp.Snapshot.Cache

/-!
# The cache refines the chain

A snapshot was read from a chain whose answers at a block never change. Reading the latest block
through the snapshot then gives, for every read there is, the value or the error that the chain
gives at the snapshot's block, whether the snapshot answers itself or sends the read on
(`read_refines`).

Balances of pools are kept as decimals, one for each kind, and given back in units. So the chain
must not list a kind twice, and no balance may turn into infinity on the way (`Cacheable`).
-/

set_option autoImplicit false

namespace Cdp

open Procedure

/-- Answers at a block that a snapshot can give back: no kind is listed twice, and no balance of a
listed kind with eighteen places is the largest word. -/
structure Cacheable (truth : Truth) : Prop where
  nodup : ∀ kinds, truth .validCollateral = .ok kinds → kinds.Nodup
  ne_max : ∀ kinds, truth .validCollateral = .ok kinds → ∀ kind ∈ kinds,
    truth (.decimals kind) = .ok 18 → ∀ pool, truth (.poolCollateral pool kind) ≠ .ok .max

namespace Snapshot

variable {truth : Truth} {s : Snapshot}

/-- A pool's balance comes back in units as the chain gave it. -/
theorem poolUnits_eq_truth (h : SnapshotAt truth s) (hcache : Cacheable truth) {pool : Pool}
    {kind : Address} {info : CollateralInfo} (hinfo : s.whitelist.get? kind = some info) :
    s.poolUnits pool kind info = truth (.poolCollateral pool kind) := by
  obtain ⟨units, hunits, hamount⟩ := (h.pool pool).collateral kind info hinfo
  obtain ⟨hkind, hinfoAt⟩ := h.whitelist.info kind info hinfo
  have hmax : info.decimals.toNat = Decimal.places → units ≠ .max := by
    rintro hplaces rfl
    have hdecimals : info.decimals = 18 := UInt8.toNat_inj.1 hplaces
    have htruth := hinfoAt.decimals
    rw [hdecimals] at htruth
    exact hcache.ne_max _ h.whitelist.kinds kind hkind htruth pool hunits
  rw [poolUnits, Decimal.toUnits_ofUnits hamount hmax, hunits]
  rfl

/-- Whatever a snapshot answers itself is the truth. -/
theorem answer?_eq_truth (h : SnapshotAt truth s) (hblock : truth .block = .ok s.block)
    (hcache : Cacheable truth) {q : Query} {x : Except ChainError q.Answer}
    (hx : s.answer? q = some x) : x = truth q := by
  cases q with
  | block =>
    cases hx
    exact hblock.symm
  | totalRedistributed kind =>
    obtain ⟨total, htotal, rfl⟩ := Option.map_eq_some_iff.1 hx
    exact (h.totals kind total htotal).symm
  | troveOwnersCount =>
    cases hx
    exact h.troveCount.symm
  | baseRate =>
    cases hx
    exact h.feesFactory.baseRate.symm
  | lastFeeOperationTime =>
    cases hx
    exact h.feesFactory.lastFeeOperationTime.symm
  | poolDebt pool =>
    cases hx
    exact (h.pool pool).debt.symm
  | poolCollateral pool kind =>
    obtain ⟨info, hinfo, rfl⟩ := Option.map_eq_some_iff.1 hx
    exact poolUnits_eq_truth h hcache hinfo
  | validCollateral =>
    cases hx
    exact h.whitelist.kinds.symm
  | price kind =>
    obtain ⟨info, hinfo, rfl⟩ := Option.map_eq_some_iff.1 hx
    exact (h.whitelist.info kind info hinfo).2.price.symm
  | decimals kind =>
    obtain ⟨info, hinfo, rfl⟩ := Option.map_eq_some_iff.1 hx
    exact (h.whitelist.info kind info hinfo).2.decimals.symm
  | safetyRatio kind =>
    obtain ⟨info, hinfo, rfl⟩ := Option.map_eq_some_iff.1 hx
    exact (h.whitelist.info kind info hinfo).2.safetyRatio.symm
  | recoveryRatio kind =>
    obtain ⟨info, hinfo, rfl⟩ := Option.map_eq_some_iff.1 hx
    exact (h.whitelist.info kind info hinfo).2.recoveryRatio.symm
  | isWrapped kind =>
    obtain ⟨info, hinfo, rfl⟩ := Option.map_eq_some_iff.1 hx
    exact (h.whitelist.info kind info hinfo).2.wrapped.symm
  | _ =>
    -- a snapshot covers no other read
    cases hx

section Handler

variable {σ : Type} {handle : (r : Chain.Request) → StateM σ (Except ChainError (Chain.Answer r))}
  {pinned : (q : Query) → UInt64 → Except ChainError q.Answer}

theorem run_forward (r : ChainRequest) (w : σ) :
    (forward r).run handle w = handle r w := by
  refine run_eq_iff.2 ⟨[⟨r, (handle r w).1⟩], ?_, .cons (.nil _)⟩
  refine yields_request_iff.2 ⟨_, rfl, ?_⟩
  cases (handle r w).1 <;> rfl

/-- What the handler has part in at a block is the truth of its pinned answers. -/
theorem truthful_of_answers (hpinned : ∀ q n w, (handle (.read q (.number n)) w).1 = pinned q n)
    {n : UInt64} {e : Exchange Chain} (he : Answers handle e) :
    TruthfulAt (fun q => pinned q n) n e := by
  rintro q x rfl
  obtain ⟨w, hw⟩ := he
  exact hw.trans (hpinned q n w)

/-- A snapshot that was read from a chain records the truth about its block. -/
theorem snapshotAt_of_run (hpinned : ∀ q n w, (handle (.read q (.number n)) w).1 = pinned q n)
    {owner : Option Address} {tag : BlockTag} {w w' : σ}
    (hrun : (Chain.readSnapshot owner tag).run handle w = (.ok s, w'))
    (hcache : Cacheable fun q => pinned q s.block.number) :
    SnapshotAt (fun q => pinned q s.block.number) s := by
  obtain ⟨trace, htrace, hw⟩ := run_eq_iff.1 hrun
  obtain ⟨front, rest, block, rfl, -, hrest⟩ := yields_bind_ok_iff.1 htrace
  have hanswers := (List.forall_mem_append.1 hw.answers).2
  obtain rfl := Chain.ensures_readSnapshotAt_block _ _ hrest hanswers
  exact Chain.ensures_readSnapshotAt hcache.nodup _ _ hrest fun e he =>
    truthful_of_answers hpinned (hanswers e he)

/-- Let a snapshot be read from a chain whose answers at a block never change. If the chain stands
by the snapshot's block and its answers there can be given back, then every read of the latest block
through the snapshot ends as the read at the snapshot's block, and every read at a block ends as
it is. -/
theorem read_refines (hpinned : ∀ q n w, (handle (.read q (.number n)) w).1 = pinned q n)
    {owner : Option Address} {tag : BlockTag} {w₀ w₁ : σ}
    (hrun : (Chain.readSnapshot owner tag).run handle w₀ = (.ok s, w₁))
    (hblock : pinned .block s.block.number = .ok s.block)
    (hcache : Cacheable fun q => pinned q s.block.number) (q : Query) :
    (∀ w, ((s.read q .latest).run handle w).1 = pinned q s.block.number) ∧
      ∀ n w, ((s.read q (.number n)).run handle w).1 = pinned q n := by
  have htruth := snapshotAt_of_run hpinned hrun hcache
  constructor
  · intro w
    cases hx : s.answer? q with
    | some x =>
      rw [read, hx]
      exact answer?_eq_truth htruth hblock hcache hx
    | none =>
      rw [read, hx]
      exact (congrArg Prod.fst (run_forward _ w)).trans (hpinned q _ w)
  · intro n w
    exact (congrArg Prod.fst (run_forward _ w)).trans (hpinned q n w)

end Handler

/-! ## A token with six places -/

/-- A token with six places. -/
def sixPlaces : Address := .wrap 6

/-- Tables that list the token and hold some of it in the active pool. -/
def sixPlacesTables : Tables :=
  { Tables.bare with
    whitelist := [(sixPlaces, ⟨6, .one, .ofUInt64 1, .ofUInt64 2, false⟩)]
    activePool := ⟨.ofUInt64 5000, .ofList [(sixPlaces, .ofUInt64 1234567)]⟩ }

theorem sixPlaces_cacheable : Cacheable sixPlacesTables.answer where
  nodup kinds h := by
    cases h
    decide
  ne_max kinds h kind hkind hdecimals := by
    cases h
    obtain rfl : kind = sixPlaces := List.mem_singleton.1 hkind
    exact absurd (Except.ok.inj hdecimals) (by decide)

theorem sixPlaces_readSnapshot :
    ((Chain.readSnapshot none .latest).run sixPlacesTables.standing ()).1.toOption.map (·.block) =
      some sixPlacesTables.block := by
  decide +kernel

/-- A snapshot of these tables is read, and through it every query is answered as the tables answer
it, although the pool was kept in decimals of eighteen places. -/
theorem sixPlaces_refines :
    ∃ s w₁, (Chain.readSnapshot none .latest).run sixPlacesTables.standing () = (.ok s, w₁) ∧
      sixPlacesTables.answer .block = .ok s.block ∧ Cacheable sixPlacesTables.answer ∧
      ∀ q,
        (∀ w, ((s.read q .latest).run sixPlacesTables.standing w).1 = sixPlacesTables.answer q) ∧
        ∀ n w, ((s.read q (.number n)).run sixPlacesTables.standing w).1 =
          sixPlacesTables.answer q := by
  have hblock := sixPlaces_readSnapshot
  rcases hrun : (Chain.readSnapshot none .latest).run sixPlacesTables.standing () with ⟨result, w₁⟩
  rw [hrun] at hblock
  cases result with
  | error e => cases hblock
  | ok s =>
    have hblock : sixPlacesTables.answer .block = .ok s.block :=
      congrArg Except.ok (Option.some.inj hblock).symm
    refine ⟨s, w₁, rfl, hblock, sixPlaces_cacheable, fun q => ?_⟩
    have hpinned : ∀ q n w, (sixPlacesTables.standing (.read q (.number n)) w).1 =
        (fun q (_ : UInt64) => sixPlacesTables.answer q) q n := fun q n w => rfl
    exact read_refines hpinned hrun hblock sixPlaces_cacheable q

end Snapshot

end Cdp
