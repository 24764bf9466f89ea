import Cdp.Proofs.AddressMap.Sum
import Cdp.Proofs.Decimal.Capped
import Cdp.Proofs.Decimal.Faults
import Cdp.Proofs.Trove.History

/-!
# Redistribution in stages

A Trove can take its rewards up to some totals and later those from there on, or all at once. Each
reward is cut off once for each kind and part, so two stages may lose a raw unit where one does not:
for every kind, and in the debt for every stake (`applyRedistribution_in_stages`). Neither way takes
anything from the Trove, and totals that cover its stakes and have not fallen are never refused.

Nothing is asked of the size of stakes, amounts and totals. Infinity is the largest value there, and
what a reward makes of a position is the sum with it, capped at infinity (`Accrues`).
-/

set_option autoImplicit false

namespace Cdp

open AddressMap

/-- What is spread over each unit of stake in a kind; nothing where the kind is not listed. -/
def RewardTotals.at (totals : RewardTotals) (kind : Address) : RewardPerStake :=
  (totals.get? kind).getD default

theorem RewardTotals.at_of_get? {totals : RewardTotals} {kind : Address} {total : RewardPerStake}
    (h : totals.get? kind = some total) : totals.at kind = total := by
  rw [RewardTotals.at, h]
  rfl

namespace StoredTrove

open Attempt

variable {earlier middle later : RewardTotals} {stakes : AddressMap Decimal}
  {e : Address × Decimal} {part : RewardPerStake → Decimal} {t t' first second : Trove}

/-! ## The reward of one stake -/

/-- The reward of a stake for the growth of one part of the totals, unless an operator leaves its
range. -/
def reward? (part : RewardPerStake → Decimal) (earlier later : RewardTotals)
    (e : Address × Decimal) : Option Decimal :=
  ((part (later.at e.1)).checkedSub (part (earlier.at e.1))).bind e.2.checkedMul

/-- The same as a raw value. -/
def rewardRaw (part : RewardPerStake → Decimal) (earlier later : RewardTotals)
    (e : Address × Decimal) : Nat :=
  ((reward? part earlier later e).map Decimal.rawNat).getD 0

theorem rewardRaw_of_some {reward : Decimal} (h : reward? part earlier later e = some reward) :
    rewardRaw part earlier later e = reward.rawNat := by
  rw [rewardRaw, h]
  rfl

/-- Two rewards in a row come to the whole reward, or to a raw unit less. -/
theorem rewardRaw_in_stages (hfirst : ∃ x, reward? part earlier middle e = some x)
    (hsecond : ∃ y, reward? part middle later e = some y)
    (hwhole : ∃ z, reward? part earlier later e = some z) :
    min (rewardRaw part earlier middle e + rewardRaw part middle later e)
        Decimal.infinity.rawNat ≤ rewardRaw part earlier later e ∧
      rewardRaw part earlier later e ≤
        rewardRaw part earlier middle e + rewardRaw part middle later e + 1 := by
  obtain ⟨x, hx⟩ := hfirst
  obtain ⟨y, hy⟩ := hsecond
  obtain ⟨z, hz⟩ := hwhole
  rw [rewardRaw_of_some hx, rewardRaw_of_some hy, rewardRaw_of_some hz]
  obtain ⟨growth, hgrowth, hx⟩ := Option.bind_eq_some_iff.1 hx
  obtain ⟨growth', hgrowth', hy⟩ := Option.bind_eq_some_iff.1 hy
  obtain ⟨whole, hwhole, hz⟩ := Option.bind_eq_some_iff.1 hz
  exact Decimal.rawNat_checkedMul_checkedAdd
    (Decimal.checkedAdd_checkedSub hgrowth hgrowth' hwhole) hx hy hz

/-- The same for the rewards of several stakes, with a raw unit for each. -/
theorem sum_in_stages {α : Type} {f g h : α → Nat} {cap : Nat} {xs : List α}
    (hstages : ∀ x ∈ xs, min (f x + g x) cap ≤ h x ∧ h x ≤ f x + g x + 1) :
    min ((xs.map f).sum + (xs.map g).sum) cap ≤ (xs.map h).sum ∧
      (xs.map h).sum ≤ (xs.map f).sum + (xs.map g).sum + xs.length := by
  induction xs with
  | nil => simp
  | cons x rest ih =>
    obtain ⟨hx, hrest⟩ := List.forall_mem_cons.1 hstages
    have hsum := ih hrest
    simp only [List.map_cons, List.sum_cons, List.length_cons]
    omega

/-! ## A whole redistribution -/

/-- The rewards of a stake exist, in collateral and in debt. -/
def Rewarded (earlier later : RewardTotals) (e : Address × Decimal) : Prop :=
  (∃ reward, reward? RewardPerStake.collateral earlier later e = some reward) ∧
    ∃ reward, reward? RewardPerStake.debt earlier later e = some reward

/-- The raw collateral that a stake adds to a kind, which is nothing but for its own. -/
def rewardIn (kind : Address) (earlier later : RewardTotals) (e : Address × Decimal) : Nat :=
  if e.1 = kind then rewardRaw RewardPerStake.collateral earlier later (kind, e.2) else 0

/-- The position with the rewards of some stakes, each kind and the debt capped at infinity. -/
structure Accrues (es : List (Address × Decimal)) (earlier later : RewardTotals) (t t' : Trove) :
    Prop where
  rewarded : ∀ e ∈ es, Rewarded earlier later e
  collateral : ∀ kind, t'.collaterals.rawAt kind = min (t.collaterals.rawAt kind +
    (es.map (rewardIn kind earlier later)).sum) Decimal.infinity.rawNat
  debt : t'.debt.rawNat = min (t.debt.rawNat +
    (es.map (rewardRaw RewardPerStake.debt earlier later)).sum) Decimal.infinity.rawNat

theorem accrues_nil (t : Trove) : Accrues [] earlier later t t :=
  ⟨nofun, fun _ => (Nat.min_eq_left (Decimal.rawNat_le_infinity _)).symm,
    (Nat.min_eq_left (Decimal.rawNat_le_infinity _)).symm⟩

theorem Accrues.append {es ds : List (Address × Decimal)} {t'' : Trove}
    (h : Accrues es earlier later t t') (h' : Accrues ds earlier later t' t'') :
    Accrues (es ++ ds) earlier later t t'' := by
  constructor
  case rewarded =>
    intro e he
    exact (List.mem_append.1 he).elim (h.rewarded e) (h'.rewarded e)
  case collateral =>
    intro kind
    rw [h'.collateral kind, h.collateral kind, List.map_append, List.sum_append]
    omega
  case debt =>
    rw [h'.debt, h.debt, List.map_append, List.sum_append]
    omega

/-- What is pending joins its kind, and nothing pending leaves the collateral as it is. -/
theorem rawAt_addPending {m m' : Collaterals} {kind : Address} {pending : Decimal}
    (h : (if pending.isZero then .ok m else Trove.addAmount m kind pending) = .ok m')
    (other : Address) : m'.rawAt other = min (m.rawAt other +
      if kind = other then pending.rawNat else 0) Decimal.infinity.rawNat := by
  have hbound : m.rawAt other ≤ Decimal.infinity.rawNat := Decimal.rawNat_le_infinity _
  split at h
  · rename_i hzero
    cases h
    rw [Decimal.isZero_iff.1 hzero, Decimal.rawNat_zero, ite_self, Nat.add_zero,
      Nat.min_eq_left hbound]
  · obtain ⟨sum, hsum, hinsert⟩ := bind_eq_ok_iff.1 h
    cases hinsert
    rw [rawAt_insert]
    split
    · rename_i heq
      subst heq
      exact Decimal.rawNat_checkedAdd_eq (Decimal.add_eq_ok_iff.1 hsum)
    · rw [Nat.add_zero, Nat.min_eq_left hbound]

/-- One step of a redistribution adds the rewards of its stake. -/
theorem applyReward_accrues (h : applyReward earlier later t e.1 e.2 = .ok t') :
    Accrues [e] earlier later t t' := by
  obtain ⟨total, growth, debtGrowth, pending, owed, htotal, hgrowth, hdebtGrowth, hpending, howed,
    hcollaterals, hdebt⟩ := applyReward_eq_ok h
  have hlater : later.at e.1 = total := RewardTotals.at_of_get? htotal
  have hcollateralReward :
      reward? RewardPerStake.collateral earlier later e = some pending := by
    rw [reward?, hlater]
    exact Option.bind_eq_some_iff.2 ⟨growth, hgrowth, Decimal.mul_eq_ok_iff.1 hpending⟩
  have hdebtReward : reward? RewardPerStake.debt earlier later e = some owed := by
    rw [reward?, hlater]
    exact Option.bind_eq_some_iff.2 ⟨debtGrowth, hdebtGrowth, Decimal.mul_eq_ok_iff.1 howed⟩
  constructor
  case rewarded =>
    intro d hd
    rw [List.mem_singleton.1 hd]
    exact ⟨⟨pending, hcollateralReward⟩, owed, hdebtReward⟩
  case collateral =>
    -- at another kind than its own the stake counts nothing
    intro kind
    rw [rawAt_addPending hcollaterals kind, List.map_singleton, List.sum_singleton, rewardIn]
    split
    · rename_i heq
      subst heq
      rw [rewardRaw_of_some hcollateralReward]
    · rfl
  case debt =>
    rw [List.map_singleton, List.sum_singleton, rewardRaw_of_some hdebtReward]
    exact Decimal.rawNat_checkedAdd_eq hdebt

theorem accrues_of_foldlM (h : stakes.entries.foldlM
    (fun t e => applyReward earlier later t e.1 e.2) t = .ok t') :
    Accrues stakes.entries earlier later t t' :=
  foldlM_eq_ok_induct (P := fun done t' => Accrues done earlier later t t') (accrues_nil t)
    (fun _ _ _ _ _ hdone hstep => hdone.append (applyReward_accrues hstep)) h

/-! ## Two stages -/

/-- The later position holds no less of any kind and owes no less. -/
structure Grown (t t' : Trove) : Prop where
  collateral : ∀ kind, t.collaterals.rawAt kind ≤ t'.collaterals.rawAt kind
  debt : t.debt.rawNat ≤ t'.debt.rawNat

/-- The first position falls short of the second by a raw unit of each kind and by `units` raw units
of debt at most. -/
structure ShortBy (units : Nat) (t t' : Trove) : Prop extends Grown t t' where
  collateral_le : ∀ kind, t'.collaterals.rawAt kind ≤ t.collaterals.rawAt kind + 1
  debt_le : t'.debt.rawNat ≤ t.debt.rawNat + units

theorem Accrues.grown {es : List (Address × Decimal)} (h : Accrues es earlier later t t') :
    Grown t t' := by
  constructor
  case collateral =>
    intro kind
    have hbound : t.collaterals.rawAt kind ≤ Decimal.infinity.rawNat :=
      Decimal.rawNat_le_infinity _
    rw [h.collateral kind]
    omega
  case debt =>
    have hbound := Decimal.rawNat_le_infinity t.debt
    rw [h.debt]
    omega

theorem Grown.trans {t'' : Trove} (h : Grown t t') (h' : Grown t' t'') : Grown t t'' :=
  ⟨fun kind => (h.collateral kind).trans (h'.collateral kind), h.debt.trans h'.debt⟩

/-- Of a kind there is one stake at most, so at most one raw unit is lost. -/
theorem rewardIn_in_stages (hfirst : ∀ e ∈ stakes.entries, Rewarded earlier middle e)
    (hsecond : ∀ e ∈ stakes.entries, Rewarded middle later e)
    (hwhole : ∀ e ∈ stakes.entries, Rewarded earlier later e) (kind : Address) :
    min ((stakes.entries.map (rewardIn kind earlier middle)).sum +
        (stakes.entries.map (rewardIn kind middle later)).sum) Decimal.infinity.rawNat ≤
          (stakes.entries.map (rewardIn kind earlier later)).sum ∧
      (stakes.entries.map (rewardIn kind earlier later)).sum ≤
        (stakes.entries.map (rewardIn kind earlier middle)).sum +
          (stakes.entries.map (rewardIn kind middle later)).sum + 1 := by
  have hsum : ∀ start stop : RewardTotals, (stakes.entries.map (rewardIn kind start stop)).sum =
      stakes.countAt (rewardRaw RewardPerStake.collateral start stop) kind := fun start stop =>
    sum_entries stakes kind fun stake =>
      rewardRaw RewardPerStake.collateral start stop (kind, stake)
  rw [hsum, hsum, hsum]
  cases hget : stakes.get? kind with
  | none =>
    rw [countAt_of_none hget, countAt_of_none hget, countAt_of_none hget]
    omega
  | some stake =>
    have he := stakes.get?_eq_some_iff.1 hget
    rw [countAt_of_get? hget, countAt_of_get? hget, countAt_of_get? hget]
    exact rewardRaw_in_stages (hfirst _ he).1 (hsecond _ he).1 (hwhole _ he).1

theorem Accrues.shortBy (hfirst : Accrues stakes.entries earlier middle t first)
    (hsecond : Accrues stakes.entries middle later first second)
    (hwhole : Accrues stakes.entries earlier later t t') : ShortBy stakes.size second t' := by
  -- sums that are capped at infinity stay in order when they are capped again
  have hcollateral := rewardIn_in_stages hfirst.rewarded hsecond.rewarded hwhole.rewarded
  have hdebt := sum_in_stages (f := rewardRaw RewardPerStake.debt earlier middle)
    (g := rewardRaw RewardPerStake.debt middle later)
    (h := rewardRaw RewardPerStake.debt earlier later) fun e he => rewardRaw_in_stages
      (hfirst.rewarded e he).2 (hsecond.rewarded e he).2 (hwhole.rewarded e he).2
  have hheld : ∀ kind, second.collaterals.rawAt kind ≤ t'.collaterals.rawAt kind ∧
      t'.collaterals.rawAt kind ≤ second.collaterals.rawAt kind + 1 := by
    intro kind
    have hkind := hcollateral kind
    rw [hsecond.collateral kind, hfirst.collateral kind, hwhole.collateral kind]
    omega
  have howed : second.debt.rawNat ≤ t'.debt.rawNat ∧
      t'.debt.rawNat ≤ second.debt.rawNat + stakes.size := by
    rw [hsecond.debt, hfirst.debt, hwhole.debt, size]
    omega
  exact ⟨⟨fun kind => (hheld kind).1, howed.1⟩, fun kind => (hheld kind).2, howed.2⟩

/-! ## Totals that cover the stakes -/

/-- The later totals list every staked kind and have not fallen in any. -/
def GrowsFrom (stakes : AddressMap Decimal) (earlier later : RewardTotals) : Prop :=
  ∀ e ∈ stakes.entries, ∃ total, later.get? e.1 = some total ∧
    (earlier.at e.1).collateral ≤ total.collateral ∧ (earlier.at e.1).debt ≤ total.debt

theorem GrowsFrom.trans (h : GrowsFrom stakes earlier middle) (h' : GrowsFrom stakes middle later) :
    GrowsFrom stakes earlier later := by
  intro e he
  obtain ⟨between, hbetween, hcollateral, hdebt⟩ := h e he
  obtain ⟨total, htotal, hcollateral', hdebt'⟩ := h' e he
  rw [RewardTotals.at_of_get? hbetween] at hcollateral' hdebt'
  exact ⟨total, htotal, Decimal.le_trans hcollateral hcollateral', Decimal.le_trans hdebt hdebt'⟩

theorem unrefused_applyReward (hgrows : GrowsFrom stakes earlier later) (he : e ∈ stakes.entries)
    (t : Trove) : Unrefused (applyReward earlier later t e.1 e.2) := by
  obtain ⟨total, htotal, hcollateral, hdebt⟩ := hgrows e he
  refine unrefused_bind (unrefused_ofOption ⟨total, htotal⟩) fun total' h => ?_
  obtain rfl : total = total' := Option.some.inj (htotal.symm.trans (ofOption_eq_ok_iff.1 h))
  refine unrefused_bind (unrefused_ofOption (Decimal.exists_checkedSub hcollateral))
    fun growth _ => ?_
  refine unrefused_bind (unrefused_ofOption (Decimal.exists_checkedSub hdebt))
    fun debtGrowth _ => ?_
  refine unrefused_bind (unrefused_ofFaulty _) fun pending _ => ?_
  -- what is left, in both branches, are operators
  have hrest : ∀ collaterals : Collaterals, Unrefused (do
      let owed ← (liftM (e.2.mul debtGrowth) : Attempt TroveError Decimal)
      let debt ← (liftM (t.debt.add owed) : Attempt TroveError Decimal)
      return (⟨collaterals, debt⟩ : Trove)) := fun collaterals =>
    unrefused_bind (unrefused_ofFaulty _) fun owed _ =>
      unrefused_bind (unrefused_ofFaulty _) fun debt _ => unrefused_ok _
  dsimp only
  split
  · exact hrest _
  · exact unrefused_bind (unrefused_ofFaulty _) fun collaterals _ => hrest collaterals

/-- At the snapshots themselves there is no reward. -/
theorem applyReward_at_snapshots (h : later.get? e.1 = some (earlier.at e.1)) (t : Trove) :
    applyReward earlier later t e.1 e.2 = .ok t := by
  have hnothing : (liftM (e.2.mul .zero) : Attempt TroveError Decimal) = .ok .zero :=
    liftM_faulty_eq_ok_iff.2 (Decimal.mul_eq_ok_iff.2 (Decimal.checkedMul_zero _))
  have hdebt : (liftM (t.debt.add .zero) : Attempt TroveError Decimal) = .ok t.debt :=
    liftM_faulty_eq_ok_iff.2 (Decimal.add_eq_ok_iff.2 (Decimal.checkedAdd_zero _))
  refine bind_eq_ok_iff.2 ⟨_, ofOption_eq_ok_iff.2 h, ?_⟩
  refine bind_eq_ok_iff.2 ⟨.zero, ofOption_eq_ok_iff.2 (Decimal.checkedSub_self _), ?_⟩
  refine bind_eq_ok_iff.2 ⟨.zero, ofOption_eq_ok_iff.2 (Decimal.checkedSub_self _), ?_⟩
  refine bind_eq_ok_iff.2 ⟨.zero, hnothing, ?_⟩
  -- nothing is pending, so the collateral is that of the Trove, and the debt is left to do
  show (do
    let owed ← (liftM (e.2.mul .zero) : Attempt TroveError Decimal)
    let debt ← (liftM (t.debt.add owed) : Attempt TroveError Decimal)
    return (⟨t.collaterals, debt⟩ : Trove)) = .ok t
  exact bind_eq_ok_iff.2 ⟨.zero, hnothing, bind_eq_ok_iff.2 ⟨t.debt, hdebt, rfl⟩⟩

/-! ## Stages of a stored Trove -/

/-- Takes the rewards up to the totals in the middle, and then, with these as the snapshots, those
up to the later ones. -/
def applyInStages (stored : StoredTrove) (middle totals : RewardTotals) :
    Attempt TroveError UserTrove := do
  let user ← stored.applyRedistribution middle
  applyRedistribution ⟨user, stored.stakes, middle⟩ totals

variable {stored : StoredTrove} {totals : RewardTotals} {user : UserTrove}

/-- The rewards of an open Trove go to its position alone. -/
theorem accrues_of_applyRedistribution (hopen : stored.user.status.isOpen = true)
    (h : stored.applyRedistribution totals = .ok user) :
    ∃ t, user = ⟨stored.user.owner, stored.user.status, t⟩ ∧
      Accrues stored.stakes.entries stored.snapshots totals stored.user.trove t := by
  rw [applyRedistribution, hopen] at h
  obtain ⟨t, hwalk, huser⟩ := bind_eq_ok_iff.1 h
  exact ⟨t, (Except.ok.inj huser).symm, accrues_of_foldlM hwalk⟩

theorem unrefused_applyRedistribution (h : GrowsFrom stored.stakes stored.snapshots totals) :
    Unrefused (stored.applyRedistribution totals) := by
  rw [applyRedistribution]
  split
  · exact unrefused_ok _
  · exact unrefused_bind (unrefused_foldlM (fun t e he => unrefused_applyReward h he t) _)
      fun t _ => unrefused_ok _

theorem applyRedistribution_at_snapshots (h : ∀ e ∈ stored.stakes.entries,
    totals.get? e.1 = some (stored.snapshots.at e.1)) :
    stored.applyRedistribution totals = .ok stored.user := by
  rw [applyRedistribution]
  split
  · rfl
  · refine bind_eq_ok_iff.2 ⟨stored.user.trove, ?_, rfl⟩
    revert h
    induction stored.stakes.entries with
    | nil => exact fun _ => rfl
    | cons e rest ih =>
      intro h
      rw [List.forall_mem_cons] at h
      rw [List.foldlM_cons]
      exact bind_eq_ok_iff.2 ⟨_, applyReward_at_snapshots h.1 _, ih h.2⟩

theorem applyRedistribution_closed (h : stored.user.status ≠ .open) (totals : RewardTotals) :
    stored.applyRedistribution totals = .ok stored.user := by
  rw [applyRedistribution, TroveStatus.isOpen, beq_false_of_ne h]
  rfl

/-- Totals that grow over the snapshots in two steps, and for which no operator leaves its range,
can be applied in two stages or directly. The stages fall short by a raw unit of each kind and by a
raw unit of debt for each stake at most, and neither way takes anything from the stored Trove.
Totals equal to the snapshots change nothing, and a Trove that is not open stays as it is at all
totals. -/
theorem applyRedistribution_in_stages (stored : StoredTrove) :
    (∀ middle totals, stored.user.status = .open →
      GrowsFrom stored.stakes stored.snapshots middle → GrowsFrom stored.stakes middle totals →
      Unbroken (stored.applyInStages middle totals) →
      Unbroken (stored.applyRedistribution totals) →
      ∃ staged direct,
        stored.applyInStages middle totals =
          .ok ⟨stored.user.owner, stored.user.status, staged⟩ ∧
        stored.applyRedistribution totals =
          .ok ⟨stored.user.owner, stored.user.status, direct⟩ ∧
        ShortBy stored.stakes.size staged direct ∧
        Grown stored.user.trove staged ∧ Grown stored.user.trove direct) ∧
    (∀ totals, (∀ e ∈ stored.stakes.entries,
        totals.get? e.1 = some (stored.snapshots.at e.1)) →
      stored.applyRedistribution totals = .ok stored.user) ∧
    (stored.user.status ≠ .open → ∀ totals,
      stored.applyRedistribution totals = .ok stored.user) := by
  refine ⟨?_, fun _ => applyRedistribution_at_snapshots, applyRedistribution_closed⟩
  intro middle totals hopen hfirst hsecond hstaged hdirect
  have hopen : stored.user.status.isOpen = true := by rw [hopen]; rfl
  -- nothing is refused, so every application goes through
  obtain ⟨user, huser⟩ := hdirect.exists_eq_ok
    (unrefused_applyRedistribution (hfirst.trans hsecond))
  obtain ⟨user'', hstages⟩ := hstaged.exists_eq_ok
    (unrefused_bind (unrefused_applyRedistribution hfirst) fun user _ =>
      unrefused_applyRedistribution hsecond)
  obtain ⟨user', hmiddle, hlast⟩ := bind_eq_ok_iff.1 hstages
  -- and each adds up rewards, of which the staged ones are cut off twice
  obtain ⟨direct, rfl, hwhole⟩ := accrues_of_applyRedistribution hopen huser
  obtain ⟨first, rfl, hfirst⟩ := accrues_of_applyRedistribution hopen hmiddle
  obtain ⟨staged, rfl, hsecond⟩ := @accrues_of_applyRedistribution
    ⟨⟨stored.user.owner, stored.user.status, first⟩, stored.stakes, middle⟩ _ _ hopen hlast
  exact ⟨staged, direct, hstages, huser, hfirst.shortBy hsecond hwhole,
    hfirst.grown.trans hsecond.grown, hwhole.grown⟩

/-- A Trove with a stake of one and a half, before any rewards. -/
def stakedTrove (status : TroveStatus) : StoredTrove :=
  ⟨⟨firstKind, status, openedTrove⟩,
    .ofList [(firstKind, ⟨.ofUInt64 1500000000000000000⟩)], .empty⟩

/-- The same raw rewards in collateral and in debt for each unit of stake. -/
def dust (raw : UInt64) : RewardTotals :=
  .ofList [(firstKind, ⟨⟨.ofUInt64 raw⟩, ⟨.ofUInt64 raw⟩⟩)]

/-- The position with the same raw amount added to its first kind and to its debt. -/
def dusted (raw : UInt64) : Trove :=
  ⟨.ofList [(firstKind, ⟨⟨10000000000000000000 + raw.toNat, by
      have := raw.toNat_lt
      simp only [Word.size]
      omega⟩⟩)],
    ⟨⟨3215000000000000000000 + raw.toNat, by
      have := raw.toNat_lt
      simp only [Word.size]
      omega⟩⟩⟩

/-- Two rewards of one and a half raw units are cut off to two, where one of three keeps the
third. -/
theorem stakedTrove_loses_a_unit :
    GrowsFrom (stakedTrove .open).stakes (stakedTrove .open).snapshots (dust 1) ∧
      GrowsFrom (stakedTrove .open).stakes (dust 1) (dust 2) ∧
      (stakedTrove .open).applyInStages (dust 1) (dust 2) = .ok ⟨firstKind, .open, dusted 2⟩ ∧
      (stakedTrove .open).applyRedistribution (dust 2) = .ok ⟨firstKind, .open, dusted 3⟩ ∧
      ShortBy 1 (dusted 2) (dusted 3) ∧ Grown openedTrove (dusted 2) ∧
      (stakedTrove .open).applyRedistribution (dust 0) = .ok (stakedTrove .open).user ∧
      (stakedTrove .closedByOwner).applyRedistribution .empty =
        .ok (stakedTrove .closedByOwner).user := by
  have hstake : ∀ e ∈ (stakedTrove .open).stakes.entries, e.1 = firstKind := by decide
  have hgrows : ∀ {earlier : RewardTotals} {raw : UInt64} {reward : RewardPerStake},
      (dust raw).get? firstKind = some reward →
      (earlier.at firstKind).collateral ≤ reward.collateral →
      (earlier.at firstKind).debt ≤ reward.debt →
      GrowsFrom (stakedTrove .open).stakes earlier (dust raw) := by
    intro earlier raw reward hget hcollateral hdebt e he
    rw [hstake e he]
    exact ⟨reward, hget, hcollateral, hdebt⟩
  have hfirst : GrowsFrom (stakedTrove .open).stakes (stakedTrove .open).snapshots (dust 1) :=
    hgrows rfl (by decide) (by decide)
  have hsecond : GrowsFrom (stakedTrove .open).stakes (dust 1) (dust 2) :=
    hgrows rfl (by decide) (by decide)
  have hstaged : (stakedTrove .open).applyInStages (dust 1) (dust 2) =
      .ok ⟨firstKind, .open, dusted 2⟩ := rfl
  have hdirect : (stakedTrove .open).applyRedistribution (dust 2) =
      .ok ⟨firstKind, .open, dusted 3⟩ := rfl
  obtain ⟨hstages, hsame, -⟩ := applyRedistribution_in_stages (stakedTrove .open)
  obtain ⟨staged, direct, hstaged', hdirect', hshort, hgrown, -⟩ :=
    hstages (dust 1) (dust 2) rfl hfirst hsecond (hstaged ▸ unbroken_ok _)
      (hdirect ▸ unbroken_ok _)
  obtain rfl : dusted 2 = staged :=
    congrArg UserTrove.trove (Except.ok.inj (hstaged.symm.trans hstaged'))
  obtain rfl : dusted 3 = direct :=
    congrArg UserTrove.trove (Except.ok.inj (hdirect.symm.trans hdirect'))
  refine ⟨hfirst, hsecond, hstaged, hdirect, hshort, hgrown, hsame (dust 0) ?_, ?_⟩
  · intro e he
    rw [hstake e he]
    rfl
  · exact (applyRedistribution_in_stages (stakedTrove .closedByOwner)).2.2 (by decide) .empty

end StoredTrove

end Cdp
