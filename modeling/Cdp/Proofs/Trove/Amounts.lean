import Cdp.Proofs.AddressMap
import Cdp.Proofs.Trove.Creation
import Cdp.Trove.Redistribution
import Mathlib.Algebra.Ring.Nat

/-!
# Amounts by kind

What an operation does to the collateral of a Trove is said kind by kind, in raw values and with
nothing for a kind that is not held (`AddressMap.rawAt`). Collateral is sound if every amount that
is kept is neither zero nor infinite. Deposits add exactly what they say, withdrawals take out
exactly what they say, rewards add the stake times the growth, cut off once for each kind, and all
of them keep the collateral sound.

Deposits and withdrawals are walks along a map that look at one kind at a time (`Deposits`,
`Withdraws`). Rewards also change the debt at each step, so they are followed as a sum.
-/

set_option autoImplicit false

namespace Cdp

namespace AddressMap

variable {α : Type}

/-- Walking over all entries, only the one at an address counts. -/
theorem sum_entries (m : AddressMap α) (kind : Address) (f : α → Nat) :
    (m.entries.map fun e => if e.1 = kind then f e.2 else 0).sum =
      ((m.get? kind).map f).getD 0 := by
  have hsum : ∀ es : List (Address × α), Entries.Ascending es →
      (es.map fun e => if e.1 = kind then f e.2 else 0).sum =
        ((Entries.get? kind es).map f).getD 0 := by
    intro es hes
    induction es with
    | nil => rfl
    | cons e rest ih =>
      obtain ⟨key, value⟩ := e
      have hrest := List.pairwise_cons.1 hes
      rw [List.map_cons, List.sum_cons, ih hrest.2, Entries.get?]
      by_cases hkey : key = kind
      · -- the addresses ascend, so the rest has no second entry for this one
        subst hkey
        have hnone : Entries.get? key rest = none :=
          Entries.get?_eq_none fun e he => hrest.1 e he
        simp [hnone]
      · simp [hkey]
  exact hsum m.entries m.ascending

/-- The raw amount of a kind; nothing is held of a kind without an entry. -/
def rawAt (m : AddressMap Decimal) (kind : Address) : Nat :=
  ((m.get? kind).getD .zero).rawNat

/-- Every amount that is kept is neither zero nor infinite. -/
def Sound (m : AddressMap Decimal) : Prop :=
  ∀ kind amount, m.get? kind = some amount → 0 < amount.rawNat ∧ amount < .infinity

/-- Every amount that is kept is finite. -/
def Finite (m : AddressMap Decimal) : Prop :=
  ∀ kind, (m.get? kind).getD .zero < .infinity

variable {m : AddressMap Decimal} {kind other : Address} {amount sum : Decimal}

theorem rawAt_of_get? (h : m.get? kind = some amount) : m.rawAt kind = amount.rawNat := by
  rw [rawAt, h]
  rfl

theorem rawAt_insert (m : AddressMap Decimal) (kind other : Address) (amount : Decimal) :
    (m.insert kind amount).rawAt other =
      if kind = other then amount.rawNat else m.rawAt other := by
  rw [rawAt, rawAt, get?_insert]
  split <;> rfl

theorem sound_of_entries (h : ∀ e ∈ m.entries, 0 < e.2.rawNat ∧ e.2 < .infinity) : m.Sound := by
  intro kind amount hget
  exact h (kind, amount) (m.get?_eq_some_iff.1 hget)

theorem finite_of_entries (h : ∀ e ∈ m.entries, e.2 < .infinity) : m.Finite := by
  intro kind
  cases hget : m.get? kind with
  | none => decide
  | some amount => exact h (kind, amount) (m.get?_eq_some_iff.1 hget)

theorem Sound.finite (hm : m.Sound) : m.Finite :=
  finite_of_entries fun e he => (hm e.1 e.2 (m.get?_eq_some_iff.2 he)).2

theorem Sound.insert (hm : m.Sound) (hpos : 0 < amount.rawNat) (hfinite : amount < .infinity) :
    (m.insert kind amount).Sound := by
  intro other held hget
  rw [get?_insert] at hget
  split at hget
  · cases hget
    exact ⟨hpos, hfinite⟩
  · exact hm other held hget

/-- Adding an amount to one kind. -/
theorem Sound.insert_sum (hm : m.Sound) (hpos : 0 < amount.rawNat) (hfinite : amount < .infinity)
    (h : ((m.get? kind).getD .zero).checkedAdd amount = some sum) :
    (m.insert kind sum).Sound ∧ ∀ other, (m.insert kind sum).rawAt other =
      m.rawAt other + if kind = other then amount.rawNat else 0 := by
  obtain ⟨hsum, hsumFinite⟩ :=
    (Decimal.checkedAdd_eq_some_iff (hm.finite kind) hfinite).1 h
  refine ⟨hm.insert (by omega) hsumFinite, fun other => ?_⟩
  rw [rawAt_insert]
  split
  · rename_i heq
    subst heq
    exact hsum.symm
  · rfl

end AddressMap

namespace Trove

open AddressMap

variable {m m' : Collaterals} {kind : Address} {amount : Decimal}

/-! ## Deposits and withdrawals -/

theorem depositInto_eq_ok_iff : depositInto m kind amount = .ok m' ↔
    ∃ sum, ((m.get? kind).getD .zero).checkedAdd amount = some sum ∧ m.insert kind sum = m' := by
  simp only [depositInto, bind_eq_ok_iff, pure_eq_ok_iff, Attempt.ofOption_eq_ok_iff]

theorem withdrawFrom_eq_ok_iff : withdrawFrom m kind amount = .ok m' ↔
    ∃ remaining, ((m.get? kind).getD .zero).checkedSub amount = some remaining ∧
      (if remaining.isZero then m.erase kind else m.insert kind remaining) = m' := by
  simp only [withdrawFrom, bind_eq_ok_iff, pure_eq_ok_iff, Attempt.ofOption_eq_ok_iff]

/-- What a deposit makes of the amount that is held of its kind. -/
def Deposits (held : Option Decimal) (e : Address × Decimal) (after : Option Decimal) : Prop :=
  ∃ sum, (held.getD .zero).checkedAdd e.2 = some sum ∧ after = some sum

/-- What a withdrawal makes of the amount that is held of its kind. -/
def Withdraws (held : Option Decimal) (e : Address × Decimal) (after : Option Decimal) : Prop :=
  ∃ remaining, (held.getD .zero).checkedSub e.2 = some remaining ∧
    after = if remaining.isZero then none else some remaining

theorem depositInto_stepsAt {e : Address × Decimal} (h : depositInto m e.1 e.2 = .ok m') :
    StepsAt AddressMap.get? Deposits e m m' := by
  obtain ⟨sum, hsum, rfl⟩ := depositInto_eq_ok_iff.1 h
  constructor
  case done => exact ⟨sum, hsum, by rw [get?_insert, if_pos rfl]⟩
  case kept =>
    intro k hk
    rw [get?_insert, if_neg (Ne.symm hk)]

theorem withdrawFrom_stepsAt {e : Address × Decimal} (h : withdrawFrom m e.1 e.2 = .ok m') :
    StepsAt AddressMap.get? Withdraws e m m' := by
  obtain ⟨remaining, hsub, rfl⟩ := withdrawFrom_eq_ok_iff.1 h
  constructor
  case done =>
    refine ⟨remaining, hsub, ?_⟩
    split
    · rw [get?_erase, if_pos rfl]
    · rw [get?_insert, if_pos rfl]
  case kept =>
    intro k hk
    split
    · rw [get?_erase, if_neg (Ne.symm hk)]
    · rw [get?_insert, if_neg (Ne.symm hk)]

theorem Deposits.rawNat_eq {held after : Option Decimal} {e : Address × Decimal}
    (h : Deposits held e after) (hheld : held.getD .zero < .infinity) (hfinite : e.2 < .infinity) :
    ∃ sum, after = some sum ∧ sum < .infinity ∧
      sum.rawNat = (held.getD .zero).rawNat + e.2.rawNat := by
  obtain ⟨sum, hsum, rfl⟩ := h
  obtain ⟨hraw, hlt⟩ := (Decimal.checkedAdd_eq_some_iff hheld hfinite).1 hsum
  exact ⟨sum, rfl, hlt, hraw.symm⟩

theorem Withdraws.rawNat_eq {held after : Option Decimal} {e : Address × Decimal}
    (h : Withdraws held e after) (hheld : held.getD .zero < .infinity) :
    (after.getD .zero).rawNat + e.2.rawNat = (held.getD .zero).rawNat ∧
      (after = none ↔ (held.getD .zero).rawNat = e.2.rawNat) := by
  obtain ⟨remaining, hsub, rfl⟩ := h
  obtain ⟨hle, hraw⟩ := (Decimal.checkedSub_eq_some_iff hheld).1 hsub
  rw [Decimal.le_def] at hle
  cases hzero : remaining.isZero with
  | true =>
    rw [Decimal.isZero_iff] at hzero
    subst hzero
    rw [Decimal.rawNat_zero] at hraw
    simp
    omega
  | false =>
    rw [Decimal.isZero_eq_false_iff] at hzero
    simp
    omega

/-- Of a kind that is kept, something is left. -/
theorem Withdraws.sound {held after : Option Decimal} {e : Address × Decimal} {rest : Decimal}
    (h : Withdraws held e after) (hheld : held.getD .zero < .infinity)
    (hafter : after = some rest) :
    0 < rest.rawNat ∧ rest < .infinity := by
  obtain ⟨remaining, hsub, rfl⟩ := h
  obtain ⟨-, hraw⟩ := (Decimal.checkedSub_eq_some_iff hheld).1 hsub
  split at hafter
  · cases hafter
  · rename_i hzero
    cases hafter
    refine ⟨Decimal.isZero_eq_false_iff.1 (Bool.eq_false_iff.2 hzero), ?_⟩
    rw [Decimal.lt_def] at hheld ⊢
    omega

/-- All deposits together add the deposited amount to each kind. -/
theorem foldlM_depositInto_adds {deposit : Collaterals} (hm : m.Sound)
    (hdeposit : ∀ e ∈ deposit.entries, 0 < e.2.rawNat ∧ e.2 < .infinity)
    (h : deposit.entries.foldlM (fun m e => depositInto m e.1 e.2) m = .ok m') :
    m'.Sound ∧ ∀ other, m'.rawAt other = m.rawAt other + deposit.rawAt other := by
  have hwalked := walked_of_foldlM (fun _ _ _ => depositInto_stepsAt) h
  rw [Sound, ← forall_and]
  intro other
  cases hget : deposit.get? other with
  | none =>
    rw [rawAt, rawAt, rawAt, hwalked.kept other (ne_of_get?_eq_none hget), hget]
    exact ⟨hm other, rfl⟩
  | some amount =>
    have he := deposit.get?_eq_some_iff.1 hget
    obtain ⟨hpos, hfinite⟩ := hdeposit _ he
    obtain ⟨sum, hsum, hsumFinite, hraw⟩ :=
      (hwalked.done _ he).rawNat_eq (hm.finite other) hfinite
    rw [rawAt_of_get? hsum, rawAt_of_get? hget, hraw]
    refine ⟨fun held hheld => ?_, rfl⟩
    obtain rfl : sum = held := Option.some.inj (hsum.symm.trans hheld)
    exact ⟨by omega, hsumFinite⟩

/-- All withdrawals together take the withdrawn amount out of each kind. -/
theorem foldlM_withdrawFrom_takes {withdraw : Collaterals} (hm : m.Sound)
    (h : withdraw.entries.foldlM (fun m e => withdrawFrom m e.1 e.2) m = .ok m') :
    m'.Sound ∧ ∀ other, m'.rawAt other + withdraw.rawAt other = m.rawAt other := by
  have hwalked := walked_of_foldlM (fun _ _ _ => withdrawFrom_stepsAt) h
  rw [Sound, ← forall_and]
  intro other
  cases hget : withdraw.get? other with
  | none =>
    rw [rawAt, rawAt, rawAt, hwalked.kept other (ne_of_get?_eq_none hget), hget]
    exact ⟨hm other, rfl⟩
  | some amount =>
    have htaken := hwalked.done _ (withdraw.get?_eq_some_iff.1 hget)
    rw [rawAt_of_get? hget]
    exact ⟨fun held => htaken.sound (hm.finite other), (htaken.rawNat_eq (hm.finite other)).1⟩

end Trove

/-! ## Rewards -/

namespace StoredTrove

variable {snapshots totals : RewardTotals} {stakes : AddressMap Decimal}

/-- The raw collateral that a stake in a kind is owed. -/
def owedCollateral (snapshots totals : RewardTotals) (kind : Address) (stake : Decimal) : Nat :=
  stake.rawNat * (((totals.get? kind).getD default).collateral.rawNat -
    ((snapshots.get? kind).getD default).collateral.rawNat) / Decimal.scale

/-- The raw debt that a stake in a kind owes. -/
def owedDebt (snapshots totals : RewardTotals) (kind : Address) (stake : Decimal) : Nat :=
  stake.rawNat * (((totals.get? kind).getD default).debt.rawNat -
    ((snapshots.get? kind).getD default).debt.rawNat) / Decimal.scale

/-- Stakes and totals are finite. Snapshots that finite totals have passed are finite too. -/
structure FiniteRewards (stakes : AddressMap Decimal) (totals : RewardTotals) : Prop where
  stake : ∀ e ∈ stakes.entries, e.2 < .infinity
  collateral : ∀ kind total, totals.get? kind = some total → total.collateral < .infinity
  debt : ∀ kind total, totals.get? kind = some total → total.debt < .infinity

/-- A stake times a growth. -/
theorem mul_growth_eq_ok {stake total snapshot growth pending : Decimal}
    (hstake : stake < .infinity) (htotal : total < .infinity)
    (hgrowth : total.checkedSub snapshot = some growth)
    (hpending : stake.mul growth = .ok pending) :
    pending < .infinity ∧
      pending.rawNat = stake.rawNat * (total.rawNat - snapshot.rawNat) / Decimal.scale := by
  obtain ⟨-, hraw⟩ := (Decimal.checkedSub_eq_some_iff htotal).1 hgrowth
  have hfinite : growth < .infinity := by
    rw [Decimal.lt_def] at htotal ⊢
    omega
  have hmul := Decimal.mul_eq_ok_iff.1 hpending
  refine ⟨Decimal.checkedMul_lt_infinity hstake hfinite hmul, ?_⟩
  rw [((Decimal.checkedMul_eq_some_iff hstake hfinite).1 hmul).2, hraw]

/-- What is pending joins the collateral, unless it is nothing. -/
theorem addPending_adds {m m' : Collaterals} {kind : Address} {pending : Decimal} (hm : m.Sound)
    (hfinite : pending < .infinity)
    (h : (if pending.isZero then .ok m else Trove.addAmount m kind pending) = .ok m') :
    m'.Sound ∧ ∀ other, m'.rawAt other =
      m.rawAt other + if kind = other then pending.rawNat else 0 := by
  split at h
  · rename_i hzero
    rw [Decimal.isZero_iff] at hzero
    subst hzero
    cases h
    exact ⟨hm, fun other => by simp⟩
  · rename_i hzero
    have hpos := Decimal.isZero_eq_false_iff.1 (Bool.eq_false_iff.2 hzero)
    obtain ⟨sum, hsum, hinsert⟩ := bind_eq_ok_iff.1 h
    cases hinsert
    exact hm.insert_sum hpos hfinite (Decimal.add_eq_ok_iff.1 hsum)

theorem applyReward_eq_ok {t t' : Trove} {kind : Address} {stake : Decimal}
    (h : applyReward snapshots totals t kind stake = .ok t') :
    ∃ total growth debtGrowth pending owed, totals.get? kind = some total ∧
      total.collateral.checkedSub ((snapshots.get? kind).getD default).collateral = some growth ∧
      total.debt.checkedSub ((snapshots.get? kind).getD default).debt = some debtGrowth ∧
      stake.mul growth = .ok pending ∧ stake.mul debtGrowth = .ok owed ∧
      (if pending.isZero then .ok t.collaterals
        else Trove.addAmount t.collaterals kind pending) = .ok t'.collaterals ∧
      t.debt.checkedAdd owed = some t'.debt := by
  obtain ⟨total, htotal, h⟩ := bind_eq_ok_iff.1 h
  obtain ⟨growth, hgrowth, h⟩ := bind_eq_ok_iff.1 h
  obtain ⟨debtGrowth, hdebtGrowth, h⟩ := bind_eq_ok_iff.1 h
  obtain ⟨pending, hpending, h⟩ := bind_eq_ok_iff.1 h
  rw [Attempt.ofOption_eq_ok_iff] at htotal hgrowth hdebtGrowth
  rw [liftM_faulty_eq_ok_iff] at hpending
  refine ⟨total, growth, debtGrowth, pending, ?_⟩
  -- both branches go on with the debt in the same way
  have hrest : ∀ {collaterals : Collaterals}, (do
      let owed ← (liftM (stake.mul debtGrowth) : Attempt TroveError Decimal)
      let debt ← (liftM (t.debt.add owed) : Attempt TroveError Decimal)
      return (⟨collaterals, debt⟩ : Trove)) = .ok t' →
      ∃ owed, stake.mul debtGrowth = .ok owed ∧ t'.collaterals = collaterals ∧
        t.debt.checkedAdd owed = some t'.debt := by
    intro collaterals hrest
    obtain ⟨owed, howed, hrest⟩ := bind_eq_ok_iff.1 hrest
    obtain ⟨debt, hdebt, hrest⟩ := bind_eq_ok_iff.1 hrest
    cases hrest
    rw [liftM_faulty_eq_ok_iff] at howed hdebt
    exact ⟨owed, howed, rfl, Decimal.add_eq_ok_iff.1 hdebt⟩
  dsimp only at h
  split at h
  · rename_i hzero
    obtain ⟨owed, howed, hcollaterals, hdebt⟩ := hrest h
    refine ⟨owed, htotal, hgrowth, hdebtGrowth, hpending, howed, ?_, hdebt⟩
    rw [if_pos hzero, hcollaterals]
  · rename_i hzero
    obtain ⟨collaterals, hadd, h⟩ := bind_eq_ok_iff.1 h
    obtain ⟨owed, howed, hcollaterals, hdebt⟩ := hrest h
    refine ⟨owed, htotal, hgrowth, hdebtGrowth, hpending, howed, ?_, hdebt⟩
    rw [if_neg hzero, hcollaterals]
    exact liftM_faulty_eq_ok_iff.1 hadd

/-- The reward of one kind goes to its collateral and to the debt. -/
theorem applyReward_adds {t t' : Trove} {kind : Address} {stake : Decimal}
    (ht : t.collaterals.Sound) (hdebt : t.debt < .infinity)
    (hrewards : FiniteRewards stakes totals) (hstake : (kind, stake) ∈ stakes.entries)
    (h : applyReward snapshots totals t kind stake = .ok t') :
    t'.collaterals.Sound ∧ t'.debt < .infinity ∧
      (∀ other, t'.collaterals.rawAt other = t.collaterals.rawAt other +
        if kind = other then owedCollateral snapshots totals kind stake else 0) ∧
      t'.debt.rawNat = t.debt.rawNat + owedDebt snapshots totals kind stake := by
  obtain ⟨total, growth, debtGrowth, pending, owed, htotal, hgrowth, hdebtGrowth, hpending, howed,
    hcollaterals, hadd⟩ := applyReward_eq_ok h
  have hfinite := hrewards.stake _ hstake
  obtain ⟨hpendingFinite, hpendingRaw⟩ :=
    mul_growth_eq_ok hfinite (hrewards.collateral kind total htotal) hgrowth hpending
  obtain ⟨howedFinite, howedRaw⟩ :=
    mul_growth_eq_ok hfinite (hrewards.debt kind total htotal) hdebtGrowth howed
  obtain ⟨hsound, hraw⟩ := addPending_adds ht hpendingFinite hcollaterals
  obtain ⟨hsum, hsumFinite⟩ := (Decimal.checkedAdd_eq_some_iff hdebt howedFinite).1 hadd
  refine ⟨hsound, hsumFinite, fun other => ?_, ?_⟩
  · rw [hraw other, hpendingRaw, owedCollateral, htotal]
    rfl
  · rw [← hsum, howedRaw, owedDebt, htotal]
    rfl

/-- All rewards together. -/
theorem applyRedistribution_adds {t : Trove} {owner : Address} {user : UserTrove}
    (ht : t.collaterals.Sound) (hdebt : t.debt < .infinity)
    (hrewards : FiniteRewards stakes totals)
    (h : applyRedistribution ⟨⟨owner, .open, t⟩, stakes, snapshots⟩ totals = .ok user) :
    user.trove.collaterals.Sound ∧ user.trove.debt < .infinity ∧
      (∀ other, user.trove.collaterals.rawAt other = t.collaterals.rawAt other +
        ((stakes.get? other).map (owedCollateral snapshots totals other)).getD 0) ∧
      user.trove.debt.rawNat = t.debt.rawNat +
        (stakes.entries.map fun e => owedDebt snapshots totals e.1 e.2).sum := by
  have hopen : (do
      let trove ← stakes.entries.foldlM
        (fun t (e : Address × Decimal) => applyReward snapshots totals t e.1 e.2) t
      return (⟨owner, .open, trove⟩ : UserTrove)) = .ok user := h
  obtain ⟨trove, hwalk, huser⟩ := bind_eq_ok_iff.1 hopen
  cases huser
  have hwalk : trove.collaterals.Sound ∧ trove.debt < .infinity ∧
      (∀ other, trove.collaterals.rawAt other = t.collaterals.rawAt other +
        (stakes.entries.map fun e =>
          if e.1 = other then owedCollateral snapshots totals other e.2 else 0).sum) ∧
      trove.debt.rawNat = t.debt.rawNat +
        (stakes.entries.map fun e => owedDebt snapshots totals e.1 e.2).sum := by
    refine foldlM_eq_ok_induct (P := fun done x => x.collaterals.Sound ∧ x.debt < .infinity ∧
      (∀ other, x.collaterals.rawAt other = t.collaterals.rawAt other +
        (done.map fun e =>
          if e.1 = other then owedCollateral snapshots totals other e.2 else 0).sum) ∧
      x.debt.rawNat = t.debt.rawNat +
        (done.map fun e => owedDebt snapshots totals e.1 e.2).sum) ?_ ?_ hwalk
    · exact ⟨ht, hdebt, fun other => rfl, rfl⟩
    · rintro done e x x' he ⟨hx, hxdebt, hraw, hdebtRaw⟩ hstep
      obtain ⟨hx', hxdebt', hraw', hdebtRaw'⟩ := applyReward_adds hx hxdebt hrewards he hstep
      refine ⟨hx', hxdebt', fun other => ?_, ?_⟩
      · rw [hraw' other, hraw other]
        by_cases hkind : e.1 = other
        · subst hkind
          simp [Nat.add_assoc]
        · simp [hkind]
      · rw [hdebtRaw', hdebtRaw]
        simp [Nat.add_assoc]
  refine ⟨hwalk.1, hwalk.2.1, fun other => ?_, hwalk.2.2.2⟩
  rw [hwalk.2.2.1 other, AddressMap.sum_entries stakes other]

end StoredTrove

end Cdp
