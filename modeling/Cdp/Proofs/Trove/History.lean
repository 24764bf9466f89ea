import Cdp.Proofs.Trove.Change

/-!
# The history of a Trove

A Trove is opened once and then adjusted and given rewards any number of times. `Movement` is one
successful operation, and `Reaches` says that a history of movements ends with a Trove. What every
movement deposits, withdraws, rewards, borrows and repays is read off its parameters alone, rounding
included.

One movement keeps the books (`Accounted.adjust`, `Accounted.redistribute`), so they are kept over
every history (`reaches_accounted`): the debt stays finite and not below the minimum, no amount that
is kept is zero or infinite, and each amount and the debt are exactly the sums of what the movements
added less what they took out.
-/

set_option autoImplicit false

namespace Cdp

/-! ## Movements -/

/-- A successful operation on a Trove. -/
inductive Movement where
  | opened (params : CreationParams) (rate : Decimal)
  | adjusted (params : AdjustmentParams) (rate : Decimal)
  | redistributed (stakes : AddressMap Decimal) (snapshots totals : RewardTotals)

namespace Movement

variable (kind : Address)

/-- The raw amount of a kind that is put in. -/
def deposited : Movement → Nat
  | opened params _ => params.deposit.rawAt kind
  | adjusted params _ => params.deposit.rawAt kind
  | redistributed _ _ _ => 0

/-- The raw amount of a kind that is taken out. -/
def withdrawn : Movement → Nat
  | adjusted params _ => params.withdraw.rawAt kind
  | _ => 0

/-- The raw amount of a kind that a redistribution adds: the stake times the growth of the total,
cut off. -/
def rewarded : Movement → Nat
  | redistributed stakes snapshots totals =>
    ((stakes.get? kind).map (StoredTrove.owedCollateral snapshots totals kind)).getD 0
  | _ => 0

/-- The raw debt that is borrowed: the amount and its fee, cut off. -/
def borrowed : Movement → Nat
  | opened params rate => withFee params.borrow rate
  | adjusted params rate => DebtChange.borrowed rate params.debt
  | redistributed _ _ _ => 0

/-- The raw debt that is repaid. -/
def repaid : Movement → Nat
  | adjusted params _ => DebtChange.repaid params.debt
  | _ => 0

/-- The raw debt that a redistribution adds, kind by kind. -/
def charged : Movement → Nat
  | redistributed stakes snapshots totals =>
    (stakes.entries.map fun e => StoredTrove.owedDebt snapshots totals e.1 e.2).sum
  | _ => 0

/-- The sum of a quantity over a history. -/
def total (quantity : Movement → Nat) (history : List Movement) : Nat :=
  (history.map quantity).sum

theorem total_cons (quantity : Movement → Nat) (movement : Movement) (history : List Movement) :
    total quantity (movement :: history) = quantity movement + total quantity history := by
  simp [total]

end Movement

open Movement

/-- A history of movements, the latest one first, ends with a Trove. Rates, stakes and totals are
finite; parameters are whatever the operations accept. -/
inductive Reaches : List Movement → Trove → Prop where
  | opened {params : CreationParams} {rate : Decimal} {t : Trove} (hrate : rate < .infinity)
      (h : Trove.create params rate = .ok t) : Reaches [.opened params rate] t
  | adjusted {history : List Movement} {t t' : Trove} {params : AdjustmentParams} {rate : Decimal}
      (ht : Reaches history t) (hrate : rate < .infinity) (h : t.adjust params rate = .ok t') :
      Reaches (.adjusted params rate :: history) t'
  | redistributed {history : List Movement} {t : Trove} {owner : Address} {user : UserTrove}
      {stakes : AddressMap Decimal} {snapshots totals : RewardTotals} (ht : Reaches history t)
      (hfinite : StoredTrove.FiniteRewards stakes totals)
      (h : StoredTrove.applyRedistribution ⟨⟨owner, .open, t⟩, stakes, snapshots⟩ totals =
        .ok user) :
      Reaches (.redistributed stakes snapshots totals :: history) user.trove

/-! ## The books -/

/-- The books of a history agree with a Trove. -/
structure Accounted (history : List Movement) (t : Trove) : Prop where
  debt_finite : t.debt < .infinity
  debt_minimum : Protocol.minimumDebt ≤ t.debt
  /-- Every amount that is kept is neither zero nor infinite. -/
  sound : t.collaterals.Sound
  collateral : ∀ kind, (t.collaterals.rawAt kind : Int) =
    total (deposited kind) history + total (rewarded kind) history -
      total (withdrawn kind) history
  debt : (t.debt.rawNat : Int) = Protocol.gasCompensation.rawNat + total borrowed history +
    total charged history - total repaid history

variable {history : List Movement} {t t' : Trove}

theorem accounted_of_create {params : CreationParams} {rate : Decimal} (hrate : rate < .infinity)
    (h : Trove.create params rate = .ok t) : Accounted [.opened params rate] t := by
  obtain ⟨hcollaterals, hsound, hfinite, hmin, hraw⟩ := Trove.opened_of_create hrate h
  refine ⟨hfinite, hmin, hsound, fun kind => ?_, ?_⟩
  · simp [total, deposited, rewarded, withdrawn, hcollaterals]
  · simp only [total, borrowed, charged, repaid, List.map_cons, List.map_nil, List.sum_cons,
      List.sum_nil]
    omega

/-- An adjustment keeps the books. -/
theorem Accounted.adjust {params : AdjustmentParams} {rate : Decimal} (ht : Accounted history t)
    (hrate : rate < .infinity) (h : t.adjust params rate = .ok t') :
    Accounted (.adjusted params rate :: history) t' := by
  obtain ⟨hsound, hcollateral⟩ := Trove.adjust_collaterals ht.sound h
  obtain ⟨hfinite, hmin, hdebt⟩ := Trove.adjust_debt ht.debt_finite ht.debt_minimum hrate h
  refine ⟨hfinite, hmin, hsound, fun kind => ?_, ?_⟩
  · have hbefore := ht.collateral kind
    have hmoved := hcollateral kind
    simp only [total_cons, deposited, rewarded, withdrawn]
    omega
  · have hbefore := ht.debt
    simp only [total_cons, borrowed, charged, repaid]
    omega

/-- A redistribution keeps the books. -/
theorem Accounted.redistribute {owner : Address} {user : UserTrove} {stakes : AddressMap Decimal}
    {snapshots totals : RewardTotals} (ht : Accounted history t)
    (hfinite : StoredTrove.FiniteRewards stakes totals)
    (h : StoredTrove.applyRedistribution ⟨⟨owner, .open, t⟩, stakes, snapshots⟩ totals =
      .ok user) : Accounted (.redistributed stakes snapshots totals :: history) user.trove := by
  obtain ⟨hsound, hdebtFinite, hcollateral, hdebt⟩ :=
    StoredTrove.applyRedistribution_adds ht.sound ht.debt_finite hfinite h
  refine ⟨hdebtFinite, ?_, hsound, fun kind => ?_, ?_⟩
  · have hmin := ht.debt_minimum
    rw [Decimal.le_def] at hmin ⊢
    omega
  · have hbefore := ht.collateral kind
    have hmoved := hcollateral kind
    simp only [total_cons, deposited, rewarded, withdrawn]
    omega
  · have hbefore := ht.debt
    simp only [total_cons, borrowed, charged, repaid]
    omega

/-- After every history the debt is finite and at least the minimum, every amount that is kept is
neither zero nor infinite, the amount of each kind is what was deposited and redistributed less what
was withdrawn, and the debt is the gas compensation with what was borrowed and redistributed less
what was repaid. -/
theorem reaches_accounted (h : Reaches history t) : Accounted history t := by
  induction h with
  | opened hrate h => exact accounted_of_create hrate h
  | adjusted _ hrate h ih => exact ih.adjust hrate h
  | redistributed _ hfinite h ih => exact ih.redistribute hfinite h

/-! ## A life in three movements -/

/-- Two kinds of collateral. -/
def firstKind : Address := ⟨1, by decide⟩
def secondKind : Address := ⟨2, by decide⟩

/-- Prices of both kinds. -/
def Trove.pricesAt (first : UInt64) : Prices :=
  .ofList [(firstKind, .ofUInt64 first), (secondKind, .ofUInt64 3)]

/-- Ten of the first kind and three thousand borrowed. -/
def tenOfFirst : CreationParams := ⟨.ofList [(firstKind, .ofUInt64 10)], .ofUInt64 3000⟩

/-- What liquidations have spread over each unit of stake: a thousandth of the first kind with a
thousandth of debt, and two thousandths of the second kind. -/
def spread : RewardTotals :=
  .ofList [(firstKind, ⟨.thousandths 1, .thousandths 1⟩), (secondKind, ⟨.thousandths 2, .zero⟩)]

/-- The stakes of the Trove in both kinds. -/
def tenStakes : AddressMap Decimal :=
  .ofList [(firstKind, .ofUInt64 10), (secondKind, .ofUInt64 5)]

/-- Takes the whole reward in the second kind out and repays five hundred. -/
def cashOut : AdjustmentParams :=
  ⟨.empty, .ofList [(secondKind, .thousandths 10)], some (.repay (.ofUInt64 500))⟩

def openedTrove : Trove := ⟨.ofList [(firstKind, .ofUInt64 10)], .ofUInt64 3215⟩

def rewardedTrove : Trove :=
  ⟨.ofList [(firstKind, ⟨⟨10010000000000000000, by decide⟩⟩), (secondKind, .thousandths 10)],
    ⟨⟨3215010000000000000000, by decide⟩⟩⟩

def cashedTrove : Trove :=
  ⟨.ofList [(firstKind, ⟨⟨10010000000000000000, by decide⟩⟩)],
    ⟨⟨2715010000000000000000, by decide⟩⟩⟩

theorem tenStakes_finite : StoredTrove.FiniteRewards tenStakes spread := by
  have hspread : ∀ e ∈ spread.entries, e.2.collateral < .infinity ∧ e.2.debt < .infinity := by
    decide
  refine ⟨by decide, fun kind total h => ?_, fun kind total h => ?_⟩
  · exact (hspread _ (spread.get?_eq_some_iff.1 h)).1
  · exact (hspread _ (spread.get?_eq_some_iff.1 h)).2

/-- The history of the Trove, the books of which therefore agree with it. -/
theorem cashedTrove_accounted :
    Reaches [.adjusted cashOut .zero, .redistributed tenStakes .empty spread,
      .opened tenOfFirst (.thousandths 5)] cashedTrove ∧
    Accounted [.adjusted cashOut .zero, .redistributed tenStakes .empty spread,
      .opened tenOfFirst (.thousandths 5)] cashedTrove := by
  have hopened : Reaches [.opened tenOfFirst (.thousandths 5)] openedTrove :=
    .opened (by decide) rfl
  have hreward : StoredTrove.applyRedistribution
      ⟨⟨firstKind, .open, openedTrove⟩, tenStakes, .empty⟩ spread =
        .ok ⟨firstKind, .open, rewardedTrove⟩ := rfl
  have hrewarded : Reaches [.redistributed tenStakes .empty spread,
      .opened tenOfFirst (.thousandths 5)] rewardedTrove :=
    .redistributed hopened tenStakes_finite hreward
  have hcashed : Reaches [.adjusted cashOut .zero, .redistributed tenStakes .empty spread,
      .opened tenOfFirst (.thousandths 5)] cashedTrove :=
    .adjusted hrewarded (by decide) rfl
  exact ⟨hcashed, reaches_accounted hcashed⟩

end Cdp
