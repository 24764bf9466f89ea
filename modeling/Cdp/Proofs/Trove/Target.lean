import Cdp.Proofs.Trove.Adjustment

/-!
# Reaching a wanted Trove

`adjustTo` compares two Troves kind by kind and enters what is missing as a deposit and what is too
much as a withdrawal (`adjustTo_eq_ok`). Adjusting by it gives the wanted collateral, whichever
kinds the two Troves hold (`Trove.adjust_adjustTo`).

The debt is reached exactly where it falls or stays, and up to two raw units below where it rises,
since the borrow is found by a division and its fee by a product, both cut off. One case is left
out: a rise by a single raw unit at a positive rate gives a borrow of zero, which is refused.
-/

set_option autoImplicit false

namespace Cdp

open AddressMap

/-! ## Collateral -/

/-- Sound maps that hold the same raw amounts are equal. -/
theorem AddressMap.Sound.ext_rawAt {m n : AddressMap Decimal} (hm : m.Sound) (hn : n.Sound)
    (h : ∀ kind, m.rawAt kind = n.rawAt kind) : m = n := by
  apply ext_get?
  intro kind
  have hraw := h kind
  cases hgetm : m.get? kind with
  | none =>
    cases hgetn : n.get? kind with
    | none => rfl
    | some amount =>
      have hpos := (hn kind amount hgetn).1
      rw [rawAt_of_get? hgetn, rawAt, hgetm] at hraw
      exact absurd hpos (hraw ▸ Nat.lt_irrefl 0)
  | some amount =>
    have hpos := (hm kind amount hgetm).1
    rw [rawAt_of_get? hgetm] at hraw
    cases hgetn : n.get? kind with
    | none =>
      rw [rawAt, hgetn] at hraw
      exact absurd hpos (hraw ▸ Nat.lt_irrefl 0)
    | some other =>
      rw [rawAt_of_get? hgetn] at hraw
      rw [Decimal.ext hraw]

/-- A raw amount is entered as it is, and nothing is entered for zero. -/
structure Enters (raw : Nat) (entry : Option Decimal) : Prop where
  raw_eq : (entry.getD .zero).rawNat = raw
  sound : ∀ amount, entry = some amount → 0 < amount.rawNat ∧ amount < .infinity

theorem enters_zero : Enters 0 none := ⟨rfl, nofun⟩

theorem enters_some {amount : Decimal} (hpos : 0 < amount.rawNat) (hfinite : amount < .infinity) :
    Enters amount.rawNat (some amount) := by
  constructor
  case raw_eq => rfl
  case sound =>
    intro other h
    cases h
    exact ⟨hpos, hfinite⟩

theorem Enters.raw_of_some {raw : Nat} {amount : Decimal} (h : Enters raw (some amount)) :
    amount.rawNat = raw := h.raw_eq

theorem Enters.eq_none {entry : Option Decimal} (h : Enters 0 entry) : entry = none := by
  cases entry with
  | none => rfl
  | some amount =>
    have hpos := (h.sound amount rfl).1
    rw [h.raw_of_some] at hpos
    exact absurd hpos (Nat.lt_irrefl 0)

namespace Trove

variable {t target t' : Trove} {params : AdjustmentParams} {rate : Decimal}

/-- The deposit and the withdrawal that are entered for a kind. -/
def entered (change : Collaterals × Collaterals) (kind : Address) :
    Option Decimal × Option Decimal :=
  (change.1.get? kind, change.2.get? kind)

/-- For a kind without an entry, the amount that is missing is entered on one side and the amount
that is too much on the other. -/
def EntersMove (held : Collaterals) (before : Option Decimal × Option Decimal)
    (e : Address × Decimal) (after : Option Decimal × Option Decimal) : Prop :=
  before = (none, none) → e.2 < .infinity →
    Enters (e.2.rawNat - held.rawAt e.1) after.1 ∧ Enters (held.rawAt e.1 - e.2.rawNat) after.2

/-- The difference of a larger finite amount and a smaller one. -/
theorem enters_sub {more less difference : Decimal} (hfinite : more < .infinity) (hlt : less < more)
    (h : more.sub less = .ok difference) :
    Enters (more.rawNat - less.rawNat) (some difference) := by
  obtain ⟨-, hraw⟩ := (Decimal.checkedSub_eq_some_iff hfinite).1 (Decimal.sub_eq_ok_iff.1 h)
  rw [Decimal.lt_def] at hlt
  rw [← hraw]
  apply enters_some
  · omega
  · rw [Decimal.lt_def] at hfinite ⊢
    omega

theorem reachAmount_stepsAt {held : Collaterals} {change change' : Collaterals × Collaterals}
    {e : Address × Decimal} (hheld : held.Finite)
    (h : reachAmount held change e.1 e.2 = .ok change') :
    StepsAt entered (EntersMove held) e change change' := by
  have hraw : held.rawAt e.1 = ((held.get? e.1).getD .zero).rawNat := rfl
  have hamount := hheld e.1
  rw [reachAmount] at h
  generalize (held.get? e.1).getD .zero = amount at h hraw hamount
  split at h
  · -- less is held than is wanted
    rename_i hlt
    obtain ⟨missing, hmissing, h⟩ := bind_eq_ok_iff.1 h
    cases h
    constructor
    case done =>
      intro hbefore hfinite
      rw [entered, Prod.mk.injEq] at hbefore
      rw [Decimal.lt_def] at hlt
      have hnone : held.rawAt e.1 - e.2.rawNat = 0 := by omega
      rw [hnone, hraw, entered, get?_insert, if_pos rfl, hbefore.2]
      exact ⟨enters_sub hfinite hlt hmissing, enters_zero⟩
    case kept =>
      intro kind hkind
      rw [entered, entered, get?_insert, if_neg (Ne.symm hkind)]
  · rename_i hge
    split at h
    · -- more is held than is wanted
      rename_i hlt
      obtain ⟨surplus, hsurplus, h⟩ := bind_eq_ok_iff.1 h
      cases h
      constructor
      case done =>
        intro hbefore _
        rw [entered, Prod.mk.injEq] at hbefore
        rw [Decimal.lt_def] at hlt
        have hnone : e.2.rawNat - held.rawAt e.1 = 0 := by omega
        rw [hnone, hraw, entered, get?_insert, if_pos rfl, hbefore.1]
        exact ⟨enters_zero, enters_sub hamount hlt hsurplus⟩
      case kept =>
        intro kind hkind
        rw [entered, entered, get?_insert, if_neg (Ne.symm hkind)]
    · -- the wanted amount is held already
      rename_i hle
      cases h
      constructor
      case done =>
        intro hbefore _
        rw [Decimal.lt_def] at hge hle
        have hnone : e.2.rawNat - held.rawAt e.1 = 0 := by omega
        have hnone' : held.rawAt e.1 - e.2.rawNat = 0 := by omega
        rw [hnone, hnone', hbefore]
        exact ⟨enters_zero, enters_zero⟩
      case kept => exact fun _ _ => rfl

/-- What is held of a kind that is not wanted is entered in full; other kinds keep their entry. -/
def EntersRest (wanted : Collaterals) (before : Option Decimal) (e : Address × Decimal)
    (after : Option Decimal) : Prop :=
  after = if !wanted.contains e.1 && !e.2.isZero then some e.2 else before

theorem enterRest_stepsAt (wanted m : Collaterals) (e : Address × Decimal) :
    StepsAt AddressMap.get? (EntersRest wanted) e m
      (if !wanted.contains e.1 && !e.2.isZero then m.insert e.1 e.2 else m) := by
  constructor
  case done =>
    rw [EntersRest]
    split
    · rw [get?_insert, if_pos rfl]
    · rfl
  case kept =>
    intro kind hkind
    split
    · rw [get?_insert, if_neg (Ne.symm hkind)]
    · rfl

/-- The parameters move the collateral of a Trove to that of another, kind by kind. -/
structure Moves (t target : Trove) (params : AdjustmentParams) : Prop where
  deposit : ∀ kind, Enters (target.collaterals.rawAt kind - t.collaterals.rawAt kind)
    (params.deposit.get? kind)
  withdraw : ∀ kind, Enters (t.collaterals.rawAt kind - target.collaterals.rawAt kind)
    (params.withdraw.get? kind)

section Walks

variable {deposit reduced withdraw : Collaterals} {kind : Address}
  (hmoved : Walked entered (EntersMove t.collaterals) target.collaterals.entries (.empty, .empty)
    (deposit, reduced))
  (hrest : Walked AddressMap.get? (EntersRest target.collaterals) t.collaterals.entries reduced
    withdraw)
include hmoved hrest

/-- A wanted kind is entered by the first walk, and the second one passes it over. -/
theorem enters_wanted {wanted : Decimal} (htarget : target.collaterals.Sound)
    (hwanted : target.collaterals.get? kind = some wanted) :
    Enters (wanted.rawNat - t.collaterals.rawAt kind) (deposit.get? kind) ∧
      Enters (t.collaterals.rawAt kind - wanted.rawNat) (withdraw.get? kind) := by
  have hsame : withdraw.get? kind = reduced.get? kind := by
    cases hheld : t.collaterals.get? kind with
    | some held =>
      have hdone := hrest.done (kind, held) (t.collaterals.get?_eq_some_iff.1 hheld)
      rw [EntersRest, contains_of_get? hwanted] at hdone
      exact hdone
    | none => exact hrest.kept kind (ne_of_get?_eq_none hheld)
  rw [hsame]
  exact hmoved.done (kind, wanted) (target.collaterals.get?_eq_some_iff.1 hwanted) rfl
    (htarget kind wanted hwanted).2

/-- Nothing is deposited of a kind that is not wanted, and all that is held of it is withdrawn. -/
theorem enters_unwanted (ht : t.collaterals.Sound)
    (hwanted : target.collaterals.get? kind = none) :
    Enters 0 (deposit.get? kind) ∧ Enters (t.collaterals.rawAt kind) (withdraw.get? kind) := by
  have hentered := hmoved.kept kind (ne_of_get?_eq_none hwanted)
  rw [entered, entered, get?_empty, Prod.mk.injEq] at hentered
  rw [hentered.1]
  refine ⟨enters_zero, ?_⟩
  cases hheld : t.collaterals.get? kind with
  | some held =>
    obtain ⟨hpos, hfinite⟩ := ht kind held hheld
    have hdone := hrest.done (kind, held) (t.collaterals.get?_eq_some_iff.1 hheld)
    have hunwanted : target.collaterals.contains kind = false := by
      rw [contains, hwanted]
      rfl
    rw [EntersRest, hunwanted, Decimal.isZero_eq_false_iff.2 hpos] at hdone
    rw [hdone, rawAt_of_get? hheld]
    exact enters_some hpos hfinite
  | none =>
    rw [hrest.kept kind (ne_of_get?_eq_none hheld), hentered.2, rawAt, hheld]
    exact enters_zero

/-- Both walks together enter what is missing and what is too much of every kind. -/
theorem enters_of_walks (ht : t.collaterals.Sound) (htarget : target.collaterals.Sound)
    (kind : Address) :
    Enters (target.collaterals.rawAt kind - t.collaterals.rawAt kind) (deposit.get? kind) ∧
      Enters (t.collaterals.rawAt kind - target.collaterals.rawAt kind) (withdraw.get? kind) := by
  cases hwanted : target.collaterals.get? kind with
  | some wanted =>
    rw [rawAt_of_get? hwanted]
    exact enters_wanted hmoved hrest htarget hwanted
  | none =>
    have hzero : target.collaterals.rawAt kind = 0 := by
      rw [rawAt, hwanted]
      rfl
    rw [hzero, Nat.zero_sub, Nat.sub_zero]
    exact enters_unwanted hmoved hrest ht hwanted

end Walks

theorem adjustTo_eq_ok (ht : t.collaterals.Sound) (htarget : target.collaterals.Sound)
    (h : t.adjustTo target rate = .ok params) :
    t.Moves target params ∧ reachDebt t.debt target.debt rate = .ok params.debt := by
  obtain ⟨⟨deposit, reduced⟩, hfold, h⟩ := bind_eq_ok_iff.1 h
  obtain ⟨debt, hdebt, h⟩ := bind_eq_ok_iff.1 h
  cases h
  have hmoved := walked_of_foldlM (fun _ _ _ => reachAmount_stepsAt ht.finite) hfold
  have hrest := walked_foldl (enterRest_stepsAt target.collaterals) t.collaterals reduced
  have hkind := enters_of_walks hmoved hrest ht htarget
  exact ⟨⟨fun kind => (hkind kind).1, fun kind => (hkind kind).2⟩, hdebt⟩

/-! ## Debt -/

/-- The change that is found for a wanted debt. -/
inductive LeadsTo (debt wanted rate : Decimal) : Option DebtChange → Prop where
  | rises {amount : Decimal} (hrises : debt < wanted)
      (hraw : amount.rawNat = withoutFee (wanted.rawNat - debt.rawNat) rate) :
      LeadsTo debt wanted rate (some (.borrow amount))
  | falls {amount : Decimal} (hfalls : wanted < debt)
      (hraw : amount.rawNat = debt.rawNat - wanted.rawNat) :
      LeadsTo debt wanted rate (some (.repay amount))
  | stays (hsame : debt = wanted) : LeadsTo debt wanted rate none

/-- A borrow that was found does not exceed the rise with its fee. -/
theorem LeadsTo.of_borrow {debt wanted amount : Decimal}
    (h : LeadsTo debt wanted rate (some (.borrow amount))) :
    debt < wanted ∧ amount.rawNat = withoutFee (wanted.rawNat - debt.rawNat) rate ∧
      withFee amount rate ≤ wanted.rawNat - debt.rawNat := by
  cases h with
  | rises hrises hraw =>
    refine ⟨hrises, hraw, ?_⟩
    rw [withFee, hraw]
    exact add_fee_withoutFee_le _ _

theorem LeadsTo.of_repay {debt wanted amount : Decimal}
    (h : LeadsTo debt wanted rate (some (.repay amount))) :
    wanted < debt ∧ amount.rawNat = debt.rawNat - wanted.rawNat := by
  cases h with
  | falls hfalls hraw => exact ⟨hfalls, hraw⟩

/-- At a rate of at most one, a change of debt is found wherever the rise can be scaled. -/
theorem exists_reachDebt {debt wanted : Decimal} (hdebt : debt < .infinity)
    (hwanted : wanted < .infinity) (hone : rate ≤ .one)
    (hsize : (wanted.rawNat - debt.rawNat) * Decimal.scale < Word.size) :
    ∃ change, reachDebt debt wanted rate = .ok change ∧ LeadsTo debt wanted rate change := by
  have hrate : rate < .infinity := Decimal.lt_infinity_of_le hone (by decide)
  rcases Nat.lt_trichotomy debt.rawNat wanted.rawNat with hrises | hsame | hfalls
  · have hfits : Decimal.scale + rate.rawNat < Word.size - 1 :=
      Nat.lt_of_le_of_lt (Nat.add_le_add_left hone _) (by decide)
    have hlt : withoutFee (wanted.rawNat - debt.rawNat) rate < Word.size :=
      Nat.lt_of_le_of_lt (Nat.div_le_self _ _) hsize
    refine ⟨some (.borrow ⟨⟨_, hlt⟩⟩), ?_, .rises hrises rfl⟩
    exact (reachDebt_rise_eq_ok_iff hwanted hrate hrises).2 ⟨hfits, hsize, _, rfl, rfl⟩
  · obtain rfl : debt = wanted := Decimal.ext hsame
    have hnot : ¬debt < debt := Nat.lt_irrefl _
    refine ⟨none, ?_, .stays rfl⟩
    rw [reachDebt, if_neg hnot, if_neg hnot]
    rfl
  · have hnot : ¬debt < wanted := Nat.lt_asymm hfalls
    obtain ⟨fall, hfall⟩ := Decimal.exists_sub_eq_ok (Nat.le_of_lt hfalls)
    obtain ⟨-, hraw⟩ := (Decimal.checkedSub_eq_some_iff hdebt).1 (Decimal.sub_eq_ok_iff.1 hfall)
    refine ⟨some (.repay fall), ?_, .falls hfalls hraw⟩
    rw [reachDebt, if_neg hnot, if_pos (Decimal.lt_def.2 hfalls), hfall]
    rfl

theorem withoutFee_zero (total : Nat) : withoutFee total .zero = total :=
  Nat.mul_div_cancel _ (by decide)

/-- Only a rise by a single raw unit leaves nothing to borrow, and only at a positive rate. -/
theorem withoutFee_eq_zero_iff {total : Nat} (hone : rate ≤ .one) (hpos : 0 < total) :
    withoutFee total rate = 0 ↔ total = 1 ∧ 0 < rate.rawNat := by
  rw [Decimal.le_def, Decimal.rawNat_one] at hone
  rw [withoutFee, Nat.div_eq_zero_iff_lt (Nat.add_pos_left (by decide) _)]
  constructor
  · intro hlt
    have hone' : total = 1 := by
      by_contra hne
      have htwo : 2 * Decimal.scale ≤ total * Decimal.scale :=
        Nat.mul_le_mul_right _ (by omega)
      omega
    rw [hone'] at hlt ⊢
    omega
  · rintro ⟨rfl, hrate⟩
    omega

/-- Where a change that was found has taken the debt. -/
theorem LeadsTo.reaches {debt wanted after : Decimal} {change : Option DebtChange}
    (h : LeadsTo debt wanted rate change) (hone : rate ≤ .one)
    (hmoved : after.rawNat + DebtChange.repaid change =
      debt.rawNat + DebtChange.borrowed rate change) :
    (wanted ≤ debt ∨ rate = .zero → after = wanted) ∧ after ≤ wanted ∧
      wanted.rawNat - 2 ≤ after.rawNat := by
  cases h with
  | @rises amount hrises hraw =>
    have hborrowed : after.rawNat = debt.rawNat + withFee amount rate := hmoved
    have hle := add_fee_withoutFee_le (wanted.rawNat - debt.rawNat) rate
    have hnear := le_add_fee_withoutFee (wanted.rawNat - debt.rawNat) hone
    rw [← hraw] at hle hnear
    rw [withFee] at hborrowed
    rw [Decimal.lt_def] at hrises
    refine ⟨?_, by rw [Decimal.le_def]; omega, by omega⟩
    rintro (hfalls | rfl)
    · rw [Decimal.le_def] at hfalls
      omega
    · -- without a fee, the rise is borrowed as it is
      rw [withoutFee_zero] at hraw
      apply Decimal.ext
      simp at hborrowed
      omega
  | @falls amount hfalls hraw =>
    have hrepaid : after.rawNat + amount.rawNat = debt.rawNat := hmoved
    rw [Decimal.lt_def] at hfalls
    have hsame : after = wanted := Decimal.ext (by omega)
    exact ⟨fun _ => hsame, hsame ▸ Decimal.le_refl _, hsame ▸ Nat.sub_le _ _⟩
  | stays hdebt =>
    have hsame : after = wanted := Decimal.ext (hdebt ▸ hmoved)
    exact ⟨fun _ => hsame, hsame ▸ Decimal.le_refl _, hsame ▸ Nat.sub_le _ _⟩

/-! ## Both together -/

/-- What is entered in a map, entry by entry. -/
theorem Enters.of_mem {m : Collaterals} {raw : Address → Nat} {e : Address × Decimal}
    (h : ∀ kind, Enters (raw kind) (m.get? kind)) (he : e ∈ m.entries) :
    e.2.rawNat = raw e.1 ∧ 0 < e.2.rawNat ∧ e.2 < .infinity := by
  have hentry := h e.1
  rw [m.get?_eq_some_iff.2 he] at hentry
  exact ⟨hentry.raw_of_some, hentry.sound e.2 rfl⟩

theorem Moves.one_side (h : t.Moves target params) :
    ∀ kind ∈ params.deposit.keys, params.withdraw.contains kind = false := by
  intro kind hkind
  obtain ⟨e, he, rfl⟩ := List.mem_map.1 hkind
  obtain ⟨hraw, hpos, -⟩ := Enters.of_mem h.deposit he
  -- what is missing of a kind is not too much of it
  have hentry := h.withdraw e.1
  have hzero : t.collaterals.rawAt e.1 - target.collaterals.rawAt e.1 = 0 := by omega
  rw [hzero] at hentry
  rw [contains, hentry.eq_none]
  rfl

/-- Parameters without any change lead from a Trove to itself. -/
theorem Moves.eq_of_isEmpty (ht : t.collaterals.Sound) (htarget : target.collaterals.Sound)
    (h : t.Moves target params) (hdebt : LeadsTo t.debt target.debt rate params.debt)
    (hempty : params.isEmpty = true) : t = target := by
  have hnone {m : Collaterals} (hm : m.isEmpty = true) (kind : Address) : m.get? kind = none := by
    rw [get?, List.isEmpty_iff.1 hm]
    rfl
  rw [AdjustmentParams.isEmpty, Bool.and_eq_true, Bool.and_eq_true, Option.isNone_iff_eq_none]
    at hempty
  obtain ⟨⟨hdeposit, hwithdraw⟩, hstays⟩ := hempty
  have hcollaterals : t.collaterals = target.collaterals := by
    refine ht.ext_rawAt htarget fun kind => ?_
    have hmissing := (h.deposit kind).raw_eq
    have hsurplus := (h.withdraw kind).raw_eq
    rw [hnone hdeposit, Option.getD_none, Decimal.rawNat_zero] at hmissing
    rw [hnone hwithdraw, Option.getD_none, Decimal.rawNat_zero] at hsurplus
    omega
  rw [hstays] at hdebt
  cases hdebt with
  | stays hsame =>
    cases t
    cases target
    congr

/-- What leads to another Trove is admitted, unless nothing is left of a borrow. -/
theorem Moves.admits (hne : t ≠ target) (ht : t.collaterals.Sound)
    (htarget : target.collaterals.Sound) (hdebt : t.debt < .infinity)
    (hwanted : target.debt < .infinity) (hone : rate ≤ .one)
    (hmin : Protocol.minimumDebt ≤ target.debt ∨ t.debt ≤ target.debt)
    (hsize : (target.debt.rawNat - t.debt.rawNat) * Decimal.scale < Word.size)
    (h : t.Moves target params) (hchange : LeadsTo t.debt target.debt rate params.debt)
    (hborrow : params.debt ≠ some (.borrow .zero)) : t.Admits params rate := by
  rw [Decimal.lt_def, Decimal.rawNat_infinity] at hdebt hwanted
  constructor
  case changes =>
    rw [Bool.eq_false_iff]
    exact fun hempty => hne (h.eq_of_isEmpty ht htarget hchange hempty)
  case deposit_amount => exact fun e he => (Enters.of_mem h.deposit he).2
  case withdraw_amount => exact fun e he => (Enters.of_mem h.withdraw he).2
  case one_side => exact h.one_side
  case deposit_fits =>
    intro e he
    obtain ⟨hraw, hpos, -⟩ := Enters.of_mem h.deposit he
    have hfits := htarget.finite e.1
    rw [Decimal.lt_def, Decimal.rawNat_infinity] at hfits
    have hsum : t.collaterals.rawAt e.1 + e.2.rawNat = target.collaterals.rawAt e.1 := by omega
    rw [hsum]
    exact hfits
  case withdraw_held =>
    intro e he
    rw [(Enters.of_mem h.withdraw he).1]
    exact Nat.sub_le _ _
  case debt_amount =>
    rintro amount (hamount | hamount)
    · rw [hamount] at hchange hborrow
      obtain ⟨-, -, hle⟩ := hchange.of_borrow
      refine ⟨Nat.pos_of_ne_zero fun hzero => hborrow ?_, ?_⟩
      · rw [show amount = .zero from Decimal.ext hzero]
      · have hamountLe : amount.rawNat ≤ withFee amount rate := Nat.le_add_right _ _
        rw [Decimal.lt_def, Decimal.rawNat_infinity]
        omega
    · rw [hamount] at hchange
      obtain ⟨hfalls, hraw⟩ := hchange.of_repay
      rw [Decimal.lt_def] at hfalls
      rw [Decimal.lt_def, Decimal.rawNat_infinity]
      omega
  case borrow_fits =>
    intro amount hamount
    rw [hamount] at hchange
    obtain ⟨hrises, -, hle⟩ := hchange.of_borrow
    rw [Decimal.lt_def] at hrises
    constructor
    · calc amount.rawNat * rate.rawNat
          ≤ (target.debt.rawNat - t.debt.rawNat) * Decimal.scale :=
            Nat.mul_le_mul (Nat.le_trans (Nat.le_add_right _ _) hle) hone
        _ < Word.size := hsize
    · omega
  case repay_leaves =>
    intro amount hamount
    rw [hamount] at hchange
    obtain ⟨hfalls, hraw⟩ := hchange.of_repay
    rw [Decimal.lt_def] at hfalls
    -- the debt falls, so it is the wanted debt that is large enough
    have hwantedMin : Protocol.minimumDebt.rawNat ≤ target.debt.rawNat :=
      hmin.resolve_right (Nat.not_le.2 hfalls)
    have hsplit := Protocol.minimumDebt_eq
    omega

/-- A borrow of nothing is refused, after both sides have been found in order. -/
theorem adjust_of_borrow_zero (h : t.Moves target params)
    (hdebt : params.debt = some (.borrow .zero)) :
    t.adjust params rate = Attempt.refuse (.invalidAmount .borrow) := by
  have hdeposit : requireAmounts params.deposit .deposit = .ok () :=
    (requireAmounts_eq_ok_iff _).2 fun e he => (Enters.of_mem h.deposit he).2
  have hwithdraw : requireAmounts params.withdraw .withdrawal = .ok () :=
    (requireAmounts_eq_ok_iff _).2 fun e he => (Enters.of_mem h.withdraw he).2
  have hside : params.deposit.keys.find? params.withdraw.contains = none := by
    rw [List.find?_eq_none]
    intro kind hkind
    rw [h.one_side kind hkind]
    exact Bool.false_ne_true
  have hempty : params.isEmpty = false := by
    rw [AdjustmentParams.isEmpty, hdebt, Option.isNone_some, Bool.and_false]
  have hvalid : params.validate = Attempt.refuse (.invalidAmount .borrow) := by
    rw [AdjustmentParams.validate, hempty, hdeposit, hwithdraw, hside, hdebt]
    rfl
  rw [adjust, hvalid]
  rfl

theorem exists_adjustTo {change : Option DebtChange}
    (h : reachDebt t.debt target.debt rate = .ok change) :
    ∃ params, t.adjustTo target rate = .ok params ∧ params.debt = change := by
  obtain ⟨reached, hreached⟩ := exists_foldlM_eq_ok
    (fun change (e : Address × Decimal) => exists_reachAmount t.collaterals change e.1 e.2)
    target.collaterals.entries (.empty, .empty)
  exact ⟨_, bind_eq_ok_iff.2 ⟨reached, hreached, bind_eq_ok_iff.2 ⟨change, h, rfl⟩⟩, rfl⟩

/-- The debt must rise by a single raw unit, and borrowing costs something. -/
def RisesByUnit (t target : Trove) (rate : Decimal) : Prop :=
  target.debt.rawNat = t.debt.rawNat + 1 ∧ 0 < rate.rawNat

/-- For a rise by a raw unit at a positive rate, and for nothing else, nothing is left to borrow. -/
theorem LeadsTo.borrow_zero_iff {change : Option DebtChange} (hone : rate ≤ .one)
    (h : LeadsTo t.debt target.debt rate change) :
    change = some (.borrow .zero) ↔ RisesByUnit t target rate := by
  rw [RisesByUnit]
  cases h with
  | @rises amount hrises hraw =>
    rw [Decimal.lt_def] at hrises
    have hzero := withoutFee_eq_zero_iff hone (Nat.sub_pos_of_lt hrises)
    rw [← hraw] at hzero
    have hamount : some (DebtChange.borrow amount) = some (.borrow .zero) ↔ amount.rawNat = 0 := by
      rw [Option.some_inj, DebtChange.borrow.injEq]
      exact ⟨fun heq => heq ▸ rfl, fun heq => Decimal.ext heq⟩
    rw [hamount, hzero]
    omega
  | falls hfalls hraw =>
    rw [Decimal.lt_def] at hfalls
    constructor
    · exact nofun
    · omega
  | stays hsame =>
    rw [hsame]
    constructor
    · exact nofun
    · omega

/-- Between two different Troves with sound collateral and finite debts, at a rate of at most one,
where the debt that is wanted is at least the minimum or does not fall and its rise can be scaled:
the parameters are found, and adjusting by them succeeds, unless the debt must rise by a single raw
unit at a positive rate. It gives the wanted collateral, the wanted debt where the debt does not
rise or borrowing is free, and at most two raw units less otherwise. -/
theorem adjust_adjustTo (hne : t ≠ target) (ht : t.collaterals.Sound)
    (htarget : target.collaterals.Sound) (hdebt : t.debt < .infinity)
    (hwanted : target.debt < .infinity) (hone : rate ≤ .one)
    (hmin : Protocol.minimumDebt ≤ target.debt ∨ t.debt ≤ target.debt)
    (hsize : (target.debt.rawNat - t.debt.rawNat) * Decimal.scale < Word.size) :
    ∃ params, t.adjustTo target rate = .ok params ∧
      (RisesByUnit t target rate → params.debt = some (.borrow .zero) ∧
        t.adjust params rate = Attempt.refuse (.invalidAmount .borrow)) ∧
      (¬RisesByUnit t target rate → ∃ t', t.adjust params rate = .ok t' ∧
        t'.collaterals = target.collaterals ∧
        (target.debt ≤ t.debt ∨ rate = .zero → t'.debt = target.debt) ∧
        t'.debt ≤ target.debt ∧ target.debt.rawNat - 2 ≤ t'.debt.rawNat) := by
  obtain ⟨change, hreach, hchange⟩ := exists_reachDebt hdebt hwanted hone hsize
  obtain ⟨params, hparams, rfl⟩ := exists_adjustTo hreach
  obtain ⟨hmoves, -⟩ := adjustTo_eq_ok ht htarget hparams
  refine ⟨params, hparams, fun hunit => ?_, fun hunit => ?_⟩
  · have hborrow := (hchange.borrow_zero_iff hone).2 hunit
    exact ⟨hborrow, adjust_of_borrow_zero hmoves hborrow⟩
  · rw [← hchange.borrow_zero_iff hone] at hunit
    have hrate : rate < .infinity := Decimal.lt_infinity_of_le hone (by decide)
    have hadmits := hmoves.admits hne ht htarget hdebt hwanted hone hmin hsize hchange hunit
    obtain ⟨t', hadjust⟩ := hadmits.exists_adjust ht.finite hdebt hrate
    obtain ⟨-, hadjusted⟩ := adjusted_of_adjust ht.finite hdebt hrate hadjust
    obtain ⟨hsound, hraw⟩ := adjust_collaterals ht hadjust
    refine ⟨t', hadjust, hsound.ext_rawAt htarget fun kind => ?_,
      hchange.reaches hone hadjusted.debt⟩
    have hdeposit : params.deposit.rawAt kind = _ := (hmoves.deposit kind).raw_eq
    have hwithdraw : params.withdraw.rawAt kind = _ := (hmoves.withdraw kind).raw_eq
    have hkind := hraw kind
    omega

/-! ## A move between kinds -/

/-- A kind that the rewarded Trove does not hold. -/
def thirdKind : Address := ⟨3, by decide⟩

/-- Less of the first kind, none of the second, some of the third, and more debt. -/
def wantedTrove : Trove :=
  ⟨.ofList [(firstKind, .ofUInt64 9), (thirdKind, .ofUInt64 1)], .ofUInt64 3300⟩

/-- A raw unit more debt and nothing else. -/
def unitMoreTrove : Trove := ⟨rewardedTrove.collaterals, ⟨⟨3215010000000000000001, by decide⟩⟩⟩

/-- The wanted Trove is reached, in debt within two raw units. A raw unit of debt alone asks for a
borrow of nothing, which is refused. -/
theorem wantedTrove_reached :
    rewardedTrove ≠ wantedTrove ∧ rewardedTrove.collaterals.Sound ∧ wantedTrove.collaterals.Sound ∧
      (∃ params t', rewardedTrove.adjustTo wantedTrove (.thousandths 5) = .ok params ∧
        rewardedTrove.adjust params (.thousandths 5) = .ok t' ∧
        t'.collaterals = wantedTrove.collaterals ∧
        3300000000000000000000 - 2 ≤ t'.debt.rawNat) ∧
      ∃ params, rewardedTrove.adjustTo unitMoreTrove (.thousandths 5) = .ok params ∧
        rewardedTrove.adjust params (.thousandths 5) = Attempt.refuse (.invalidAmount .borrow) := by
  have hne : rewardedTrove ≠ wantedTrove := by decide
  have hheld : rewardedTrove.collaterals.Sound := sound_of_entries (by decide)
  have hwanted : wantedTrove.collaterals.Sound := sound_of_entries (by decide)
  obtain ⟨params, hparams, -, hreaches⟩ :=
    @adjust_adjustTo rewardedTrove wantedTrove (.thousandths 5) hne hheld hwanted (by decide)
      (by decide) (by decide) (Or.inl (by decide)) (by decide)
  obtain ⟨t', hadjust, hcollaterals, -, -, hdebt⟩ := hreaches fun h => absurd h.1 (by decide)
  obtain ⟨unit, hunit, hrefused, -⟩ :=
    @adjust_adjustTo rewardedTrove unitMoreTrove (.thousandths 5) (by decide) hheld hheld
      (by decide) (by decide) (by decide) (Or.inl (by decide)) (by decide)
  exact ⟨hne, hheld, hwanted, ⟨params, t', hparams, hadjust, hcollaterals, hdebt⟩, unit, hunit,
    (hrefused ⟨rfl, by decide⟩).2⟩

end Trove

end Cdp
