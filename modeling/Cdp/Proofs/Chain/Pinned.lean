import Cdp.Proofs.Procedure.Trace
import Cdp.Proofs.Whitelist
import Cdp.Snapshot.Basic

/-!
# What pinned reads find

Reads that are pinned to one block find what the chain answers at that block, its truth. The lemmas
say so for each composite read: a whitelist, a pool, the totals and at last a whole snapshot
(`ensures_readSnapshotAt`) record the truth in the form that they keep it.
-/

set_option autoImplicit false

namespace Cdp

open Procedure

/-- What a chain answers to every read at one block. -/
abbrev Truth := (q : Query) → Except ChainError q.Answer

variable {truth : Truth} {n : UInt64}

/-- An exchange tells the truth about a block, if it is a read at that block. -/
def TruthfulAt (truth : Truth) (n : UInt64) (e : Exchange Chain) : Prop :=
  ∀ q x, e = ⟨.read q (.number n), x⟩ → x = truth q

theorem ensures_readAt (q : Query) :
    Ensures (TruthfulAt truth n) (readAt q (.number n)) fun a => truth q = .ok a := by
  refine ensures_request (I := Chain) fun a ha => ?_
  exact (ha q (.ok a) rfl).symm

/-- What is known of a kind is the truth. -/
structure InfoAt (truth : Truth) (kind : Address) (info : CollateralInfo) : Prop where
  price : truth (.price kind) = .ok info.price.raw
  decimals : truth (.decimals kind) = .ok info.decimals
  safetyRatio : truth (.safetyRatio kind) = .ok info.safetyRatio.raw
  recoveryRatio : truth (.recoveryRatio kind) = .ok info.recoveryRatio.raw
  wrapped : truth (.isWrapped kind) = .ok info.wrapped

/-- A whitelist has the kinds of the chain, and what it knows of them is the truth. -/
structure WhitelistAt (truth : Truth) (w : Whitelist) : Prop where
  kinds : truth .validCollateral = .ok w.kinds
  nodup : w.kinds.Nodup
  info : ∀ kind info, w.get? kind = some info → kind ∈ w.kinds ∧ InfoAt truth kind info

/-- A pool has the debt of the chain, and of each listed kind the decimal of its balance. -/
structure PoolAt (truth : Truth) (w : Whitelist) (pool : Pool) (total : Trove) : Prop where
  debt : truth (.poolDebt pool) = .ok total.debt.raw
  collateral : ∀ kind info, w.get? kind = some info → ∃ units,
    truth (.poolCollateral pool kind) = .ok units ∧
      Decimal.ofUnits units info.decimals = .ok ((total.collaterals.get? kind).getD .zero)

/-- The totals that are known are the truth. -/
def TotalsAt (truth : Truth) (totals : RewardTotals) : Prop :=
  ∀ kind total, totals.get? kind = some total →
    truth (.totalRedistributed kind) = .ok ⟨total.collateral.raw, total.debt.raw⟩

/-- The fee state is the truth. -/
structure FactoryAt (truth : Truth) (factory : FeesFactory) : Prop where
  baseRate : truth .baseRate = .ok factory.baseRateWithoutDecay.raw
  lastFeeOperationTime : truth .lastFeeOperationTime = .ok factory.lastFeeOperationTime

/-- What a snapshot keeps, apart from its block and the watched Trove, is the truth. -/
structure SnapshotAt (truth : Truth) (s : Snapshot) : Prop where
  whitelist : WhitelistAt truth s.whitelist
  pool : ∀ pool, PoolAt truth s.whitelist pool (s.pool pool)
  totals : TotalsAt truth s.totals
  feesFactory : FactoryAt truth s.feesFactory
  troveCount : truth .troveOwnersCount = .ok s.troveCount

namespace Chain

/-- A walk that keeps the address of each item with what it found. -/
theorem ensures_mapM_keyed {β : Type} {allowed : Exchange Chain → Prop}
    {f : Address → ChainProcedure (Address × β)} {P : Address → β → Prop} {kinds : List Address}
    (h : ∀ kind, Ensures allowed (f kind) fun e => e.1 = kind ∧ P kind e.2) :
    Ensures allowed (kinds.mapM f) fun es => es.map (·.1) = kinds ∧ ∀ e ∈ es, P e.1 e.2 := by
  intro trace es hes hall
  have hpairs := ensures_mapM h trace es hes hall
  clear hes hall
  induction hpairs with
  | nil => exact ⟨rfl, nofun⟩
  | cons hpair _ ih =>
    obtain ⟨rfl, hP⟩ := hpair
    exact ⟨congrArg _ ih.1, List.forall_mem_cons.2 ⟨hP, ih.2⟩⟩

theorem ensures_readCollateralInfo (kind : Address) :
    Ensures (TruthfulAt truth n) (readCollateralInfo (.number n) kind) (InfoAt truth kind) := by
  refine ensures_bind (ensures_readAt _) ?_
  intro price hprice
  refine ensures_bind (ensures_readAt _) ?_
  intro decimals hdecimals
  refine ensures_bind (ensures_readAt _) ?_
  intro safetyRatio hsafetyRatio
  refine ensures_bind (ensures_readAt _) ?_
  intro recoveryRatio hrecoveryRatio
  refine ensures_bind (ensures_readAt _) ?_
  intro wrapped hwrapped
  exact ensures_pure ⟨hprice, hdecimals, hsafetyRatio, hrecoveryRatio, hwrapped⟩

theorem ensures_readWhitelist
    (hnodup : ∀ kinds, truth .validCollateral = .ok kinds → kinds.Nodup) :
    Ensures (TruthfulAt truth n) (readWhitelist (.number n)) (WhitelistAt truth) := by
  refine ensures_bind (ensures_readAt _) ?_
  intro kinds hkinds
  refine ensures_bind (ensures_mapM_keyed (P := InfoAt truth) ?_) ?_
  · intro kind
    refine ensures_bind (ensures_readCollateralInfo kind) ?_
    intro info hinfo
    exact ensures_pure ⟨rfl, hinfo⟩
  · rintro entries ⟨rfl, hentries⟩
    have hnodup := hnodup _ hkinds
    have hlisted := Whitelist.kinds_ofEntries hnodup
    refine ensures_pure ⟨?_, ?_, ?_⟩
    · rw [hlisted]
      exact hkinds
    · rw [hlisted]
      exact hnodup
    · intro kind info hinfo
      have hmem := Whitelist.mem_of_get?_ofEntries hinfo
      rw [hlisted]
      exact ⟨List.mem_map_of_mem hmem, hentries _ hmem⟩

theorem ensures_readPool {w : Whitelist} (hw : WhitelistAt truth w) (pool : Pool) :
    Ensures (TruthfulAt truth n) (readPool pool w (.number n)) (PoolAt truth w pool) := by
  refine ensures_bind (ensures_readAt _) ?_
  intro debt hdebt
  refine ensures_bind (ensures_mapM_keyed
    (P := fun kind units => truth (.poolCollateral pool kind) = .ok units) ?_) ?_
  · intro kind
    refine ensures_bind (ensures_readAt _) ?_
    intro raw hraw
    exact ensures_pure ⟨rfl, hraw⟩
  · rintro units ⟨hkinds, hunits⟩
    refine ensures_bind (Q := fun collaterals => collateralsOfUnits w units = .ok collaterals)
      (ensures_done fun _ h => h) ?_
    intro collaterals hcollaterals
    refine ensures_pure ⟨hdebt, fun kind info hinfo => ?_⟩
    -- a kind with an info is listed, so its balance is among those that were read
    obtain ⟨e, he, rfl⟩ : ∃ e ∈ units, e.1 = kind := by
      have hmem := (hw.info kind info hinfo).1
      rw [← hkinds] at hmem
      exact List.mem_map.1 hmem
    have hamount := collateralsOfUnits_eq_ok (hkinds ▸ hw.nodup) hcollaterals e he
    obtain ⟨info', hinfo', hamount⟩ := Whitelist.toDecimal_eq_ok_iff.1 hamount
    obtain rfl : info = info' := Option.some.inj (hinfo.symm.trans hinfo')
    exact ⟨e.2, hunits e he, hamount⟩

theorem ensures_readTotals (kinds : List Address) :
    Ensures (TruthfulAt truth n) (readTotals kinds (.number n)) (TotalsAt truth) := by
  refine ensures_bind (ensures_mapM_keyed (P := fun kind total =>
    truth (.totalRedistributed kind) = .ok ⟨total.collateral.raw, total.debt.raw⟩) ?_) ?_
  · intro kind
    refine ensures_bind (ensures_readAt _) ?_
    intro raw hraw
    exact ensures_pure ⟨rfl, hraw⟩
  · rintro totals ⟨-, htotals⟩
    refine ensures_pure ?_
    intro kind total htotal
    exact htotals _ (AddressMap.mem_of_get?_ofList htotal)

theorem ensures_readFeesFactory :
    Ensures (TruthfulAt truth n) (readFeesFactory (.number n)) (FactoryAt truth) := by
  refine ensures_bind (ensures_readAt _) ?_
  intro baseRate hbaseRate
  refine ensures_bind (ensures_readAt _) ?_
  intro time htime
  exact ensures_pure ⟨hbaseRate, htime⟩

theorem ensures_readSnapshotAt_block {allowed : Exchange Chain → Prop} {owner : Option Address}
    {block : BlockInfo} :
    Ensures allowed (readSnapshotAt owner block) fun s => s.block = block := by
  refine ensures_bind ensures_true fun w _ => ensures_bind ensures_true fun factory _ => ?_
  refine ensures_bind ensures_true fun count _ => ensures_bind ensures_true fun active _ => ?_
  refine ensures_bind ensures_true fun default _ => ensures_bind ensures_true fun totals _ => ?_
  exact ensures_bind ensures_true fun ownerTrove _ => ensures_pure rfl

/-- A snapshot that is read at a resolved block records the truth about it. -/
theorem ensures_readSnapshotAt {owner : Option Address} {block : BlockInfo}
    (hnodup : ∀ kinds, truth .validCollateral = .ok kinds → kinds.Nodup) :
    Ensures (TruthfulAt truth block.number) (readSnapshotAt owner block)
      (SnapshotAt truth) := by
  refine ensures_bind (ensures_readWhitelist hnodup) ?_
  intro w hw
  refine ensures_bind ensures_readFeesFactory ?_
  intro factory hfactory
  refine ensures_bind (ensures_readAt _) ?_
  intro count hcount
  refine ensures_bind (ensures_readPool hw _) ?_
  intro active hactive
  refine ensures_bind (ensures_readPool hw _) ?_
  intro default hdefault
  refine ensures_bind (ensures_readTotals _) ?_
  intro totals htotals
  refine ensures_bind ensures_true ?_
  intro ownerTrove _
  refine ensures_pure ⟨hw, ?_, htotals, hfactory, hcount⟩
  rintro (_ | _)
  · exact hactive
  · exact hdefault

end Chain

end Cdp
