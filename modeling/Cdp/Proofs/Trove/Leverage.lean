import Cdp.Proofs.Trove.Faults
import Cdp.Proofs.Trove.History
import Cdp.Proofs.Trove.Value
import Mathlib.Algebra.BigOperators.Group.List.Basic

/-!
# What leverage makes of a deposit

Leverage multiplies the amount of each of its kinds, cut off once, and leaves every other kind as it
is (`Multiplied`). What it adds to a kind is bought, and the cost is the additional debt. Cost and
values are cut off separately, and always down, so the value that is gained covers the additional
debt and exceeds it by at most a raw unit for each kind that is levered (`leverUp_exact`).

Prices may be infinite there as long as the levered collateral has a finite value.
-/

set_option autoImplicit false

namespace Cdp

open AddressMap

variable {deposit : Collaterals} {leverage : AddressMap LeverUp} {prices : Prices}
  {acc acc' levered : LeveredDeposit} {kind : Address} {lever : LeverUp} {e : Address × LeverUp}

/-! ## One kind -/

/-- The leverage of a kind buys something: the extra amount and its price, the cost, which is added
to the debt, and the amount that is held afterwards. -/
structure Bought (prices : Prices) (acc : LeveredDeposit) (kind : Address) (amount extra : Decimal)
    (acc' : LeveredDeposit) : Prop where
  pos : 0 < extra.rawNat
  cost : ∃ price cost, prices.get? kind = some price ∧ extra.checkedMul price = some cost ∧
    acc.additionalDebt.checkedAdd cost = some acc'.additionalDebt
  held : ∃ total, amount.checkedAdd extra = some total ∧
    acc'.collaterals = acc.collaterals.insert kind total

theorem lever_eq_ok (hfinite : ∀ e ∈ deposit.entries, e.2 < .infinity)
    (h : acc.lever deposit prices kind lever = .ok acc') :
    ∃ amount extra, deposit.get? kind = some amount ∧ amount < .infinity ∧
      .one ≤ lever.leverage ∧ extra < .infinity ∧ extra.rawNat = bought deposit (kind, lever) ∧
      (extra = .zero ∧ acc' = acc ∨ Bought prices acc kind amount extra acc') := by
  obtain ⟨amount, hget, h⟩ := bind_eq_ok_iff.1 h
  obtain ⟨⟨⟩, hvalid, h⟩ := bind_eq_ok_iff.1 h
  obtain ⟨factor, hfactor, h⟩ := bind_eq_ok_iff.1 h
  obtain ⟨extra, hextra, h⟩ := bind_eq_ok_iff.1 h
  have hget := Attempt.ofOption_eq_ok_iff.1 hget
  have hamount : amount < .infinity := hfinite _ (deposit.get?_eq_some_iff.1 hget)
  -- what is accepted is finite and at least one, so the extra amount is the one that is bought
  obtain ⟨hone, -⟩ := LeverUp.validate_eq_ok hvalid
  obtain ⟨hfactorFinite, hfactorRaw⟩ :=
    (LeverUp.ends_factor (P := False) hvalid).ok factor hfactor
  have hends : Attempt.Ends (¬LeverInRange deposit prices (kind, lever)) _ _ :=
    ends_bought hget hamount hfactorFinite hfactorRaw
  obtain ⟨hextraFinite, hextraRaw, -⟩ := hends.ok extra hextra
  refine ⟨amount, extra, hget, hamount, hone, hextraFinite, hextraRaw, ?_⟩
  split at h
  · rename_i hzero
    exact Or.inl ⟨Decimal.isZero_iff.1 hzero, (Except.ok.inj h).symm⟩
  · rename_i hsome
    obtain ⟨price, hprice, h⟩ := bind_eq_ok_iff.1 h
    obtain ⟨cost, hcost, h⟩ := bind_eq_ok_iff.1 h
    obtain ⟨debt, hdebt, h⟩ := bind_eq_ok_iff.1 h
    obtain ⟨total, htotal, h⟩ := bind_eq_ok_iff.1 h
    cases h
    rw [liftM_faulty_eq_ok_iff] at hcost hdebt htotal
    refine Or.inr ⟨Decimal.isZero_eq_false_iff.1 (Bool.eq_false_iff.2 hsome), ?_, ?_⟩
    · exact ⟨price, cost, Attempt.ofOption_eq_ok_iff.1 hprice, Decimal.mul_eq_ok_iff.1 hcost,
        Decimal.add_eq_ok_iff.1 hdebt⟩
    · exact ⟨total, Decimal.add_eq_ok_iff.1 htotal, rfl⟩

/-- What the leverage of a kind makes of the amount that is held of it. -/
def Levers (deposit : Collaterals) (held : Option Decimal) (e : Address × LeverUp)
    (after : Option Decimal) : Prop :=
  ∃ amount, deposit.get? e.1 = some amount ∧ .one ≤ e.2.leverage ∧
    (bought deposit e = 0 ∧ after = held ∨
      ∃ total, after = some total ∧ total < .infinity ∧
        total.rawNat = amount.rawNat + bought deposit e)

theorem lever_stepsAt (hfinite : ∀ e ∈ deposit.entries, e.2 < .infinity)
    (h : acc.lever deposit prices e.1 e.2 = .ok acc') :
    StepsAt (fun acc kind => acc.collaterals.get? kind) (Levers deposit) e acc acc' := by
  obtain ⟨amount, extra, hget, hamount, hone, hextra, hraw, ⟨rfl, rfl⟩ | hbought⟩ :=
    lever_eq_ok hfinite h
  · exact ⟨⟨amount, hget, hone, Or.inl ⟨hraw.symm, rfl⟩⟩, fun _ _ => rfl⟩
  · obtain ⟨total, htotal, hinsert⟩ := hbought.held
    constructor
    case done =>
      obtain ⟨hsum, hlt⟩ := (Decimal.checkedAdd_eq_some_iff hamount hextra).1 htotal
      refine ⟨amount, hget, hone, Or.inr ⟨total, ?_, hlt, ?_⟩⟩
      · rw [hinsert, get?_insert, if_pos rfl]
      · rw [← hsum, hraw]
    case kept =>
      intro k hk
      rw [hinsert, get?_insert, if_neg (Ne.symm hk)]

/-- A cut-off multiple is the amount and the cut-off rest of the multiple. -/
theorem add_bought_eq {amount : Decimal} (hget : deposit.get? e.1 = some amount)
    (hone : .one ≤ e.2.leverage) : amount.rawNat + bought deposit e =
      amount.rawNat * e.2.leverage.rawNat / Decimal.scale := by
  rw [Decimal.le_def, Decimal.rawNat_one] at hone
  rw [bought, rawAt_of_get? hget, Nat.mul_sub]
  have hmul : amount.rawNat * Decimal.scale ≤ amount.rawNat * e.2.leverage.rawNat :=
    Nat.mul_le_mul_left _ hone
  simp only [Decimal.scale] at hmul ⊢
  omega

/-! ## All kinds -/

/-- Each kind with leverage holds its multiple, and every other kind what was deposited. -/
structure Multiplied (deposit : Collaterals) (leverage : AddressMap LeverUp)
    (collaterals : Collaterals) : Prop where
  kinds : ∀ kind, collaterals.contains kind = deposit.contains kind
  levered : ∀ e ∈ leverage.entries, ∃ amount total, deposit.get? e.1 = some amount ∧
    collaterals.get? e.1 = some total ∧
    total.rawNat = amount.rawNat * e.2.leverage.rawNat / Decimal.scale
  kept : ∀ kind, leverage.contains kind = false → collaterals.get? kind = deposit.get? kind

/-- Each kind with leverage gains what is bought of it, and the other kinds gain nothing. -/
structure Gains (deposit : Collaterals) (leverage : AddressMap LeverUp)
    (collaterals : Collaterals) : Prop where
  levered : ∀ e ∈ leverage.entries, ∃ amount total, deposit.get? e.1 = some amount ∧
    .one ≤ e.2.leverage ∧ collaterals.get? e.1 = some total ∧
    total.rawNat = amount.rawNat + bought deposit e
  kept : ∀ kind, leverage.get? kind = none → collaterals.get? kind = deposit.get? kind

theorem gains_of_leverUp (hfinite : ∀ e ∈ deposit.entries, e.2 < .infinity)
    (h : leverUp deposit leverage prices = .ok levered) :
    Gains deposit leverage levered.collaterals := by
  have hwalked := walked_of_foldlM (fun _ _ _ => lever_stepsAt hfinite) h
  constructor
  case levered =>
    intro e he
    obtain ⟨amount, hget, hone, ⟨hzero, hsame⟩ | ⟨total, htotal, -, hraw⟩⟩ := hwalked.done e he
    · exact ⟨amount, amount, hget, hone, hsame.trans hget, by rw [hzero, Nat.add_zero]⟩
    · exact ⟨amount, total, hget, hone, htotal, hraw⟩
  case kept =>
    exact fun kind hkind => hwalked.kept kind (ne_of_get?_eq_none hkind)

theorem Gains.multiplied {m : Collaterals} (h : Gains deposit leverage m) :
    Multiplied deposit leverage m := by
  constructor
  case kinds =>
    intro kind
    cases hkind : leverage.get? kind with
    | none => rw [contains, contains, h.kept kind hkind]
    | some lever =>
      obtain ⟨amount, total, hget, -, htotal, -⟩ :=
        h.levered (kind, lever) (leverage.get?_eq_some_iff.1 hkind)
      rw [contains_of_get? hget, contains_of_get? htotal]
  case levered =>
    intro e he
    obtain ⟨amount, total, hget, hone, htotal, hraw⟩ := h.levered e he
    exact ⟨amount, total, hget, htotal, hraw.trans (add_bought_eq hget hone)⟩
  case kept =>
    intro kind hkind
    rw [contains, Option.isSome_eq_false_iff, Option.isNone_iff_eq_none] at hkind
    exact h.kept kind hkind

theorem finite_of_leverUp (hfinite : ∀ e ∈ deposit.entries, e.2 < .infinity)
    (h : leverUp deposit leverage prices = .ok levered) : levered.collaterals.Finite := by
  intro kind
  refine (walked_of_foldlM (fun _ _ _ => lever_stepsAt hfinite) h).rel
    (r := fun held after => held.getD .zero < .infinity → after.getD .zero < .infinity)
    (fun _ => id) ?_ kind (finite_of_entries hfinite kind)
  rintro held e after ⟨amount, -, -, ⟨-, rfl⟩ | ⟨total, rfl, htotal, -⟩⟩ hheld
  · exact hheld
  · exact htotal

/-! ## Debt and value -/

/-- Where everything that is bought has a finite price, the debt is finite. -/
theorem additionalDebt_lt_infinity (hfinite : ∀ e ∈ deposit.entries, e.2 < .infinity)
    (hprices : ∀ e ∈ leverage.entries, 0 < bought deposit e → ∀ price,
      prices.get? e.1 = some price → price < .infinity)
    (h : leverUp deposit leverage prices = .ok levered) : levered.additionalDebt < .infinity := by
  refine foldlM_eq_ok_induct (P := fun _ acc => acc.additionalDebt < .infinity) ?_ ?_ h
  · exact Decimal.isInfinite_eq_false_iff.1 rfl
  · intro done e acc acc' he hacc hstep
    obtain ⟨amount, extra, -, -, -, hextra, hraw, ⟨-, rfl⟩ | hbought⟩ := lever_eq_ok hfinite hstep
    · exact hacc
    · obtain ⟨price, cost, hprice, hcost, hadd⟩ := hbought.cost
      have hcostFinite := Decimal.checkedMul_lt_infinity hextra
        (hprices e he (hraw ▸ hbought.pos) price hprice) hcost
      exact ((Decimal.checkedAdd_eq_some_iff hacc hcostFinite).1 hadd).2

/-- A kind gains the value of what is bought of it, up to a raw unit. -/
theorem Gains.countAt_worth {m : Collaterals} (h : Gains deposit leverage m) (kind : Address) :
    deposit.countAt (Trove.worth prices) kind +
        leverage.countAt (boughtValue deposit prices) kind ≤ m.countAt (Trove.worth prices) kind ∧
      m.countAt (Trove.worth prices) kind ≤ deposit.countAt (Trove.worth prices) kind +
        leverage.countAt (fun e => boughtValue deposit prices e + 1) kind := by
  cases hkind : leverage.get? kind with
  | none =>
    have hsame : m.countAt (Trove.worth prices) kind =
        deposit.countAt (Trove.worth prices) kind := by
      rw [countAt, countAt, h.kept kind hkind]
    rw [countAt_of_none hkind, countAt_of_none hkind, hsame]
    exact ⟨Nat.le_refl _, Nat.le_refl _⟩
  | some lever =>
    obtain ⟨amount, total, hget, -, htotal, hraw⟩ :=
      h.levered (kind, lever) (leverage.get?_eq_some_iff.1 hkind)
    -- the value afterwards is that of the sum, and the other two are those of its parts
    rw [countAt_of_get? hkind, countAt_of_get? hkind, countAt_of_get? hget,
      countAt_of_get? htotal, Trove.worth, Trove.worth, boughtValue, hraw, Nat.add_mul]
    simp only [Decimal.scale]
    omega

/-- Nothing that was deposited is given up. -/
theorem Gains.rawAt_le {m : Collaterals} (h : Gains deposit leverage m) (kind : Address) :
    deposit.rawAt kind ≤ m.rawAt kind := by
  cases hkind : leverage.get? kind with
  | none => rw [rawAt, rawAt, h.kept kind hkind]
  | some lever =>
    obtain ⟨amount, total, hget, -, htotal, hraw⟩ :=
      h.levered (kind, lever) (leverage.get?_eq_some_iff.1 hkind)
    rw [rawAt_of_get? hget, rawAt_of_get? htotal, hraw]
    exact Nat.le_add_right _ _

variable (prices) in
/-- Together, the kinds gain what is borrowed for them, up to a raw unit for each. -/
theorem Gains.totalWorth {m : Collaterals} (h : Gains deposit leverage m) :
    Trove.totalWorth prices deposit.entries + leverageDebt deposit leverage prices ≤
        Trove.totalWorth prices m.entries ∧
      Trove.totalWorth prices m.entries ≤ Trove.totalWorth prices deposit.entries +
        leverageDebt deposit leverage prices + leverage.size := by
  have hunits : (leverage.entries.map fun e => boughtValue deposit prices e + 1).sum =
      leverageDebt deposit leverage prices + leverage.size := by
    rw [List.sum_map_add, List.map_const', List.sum_replicate_nat, Nat.mul_one]
    rfl
  constructor
  · exact sum_entries_add_le fun kind => (h.countAt_worth kind).1
  · rw [Nat.add_assoc, ← hunits]
    exact sum_entries_le_add fun kind => (h.countAt_worth kind).2

/-- A finite value of the levered collateral vouches for the prices of all that is bought. -/
theorem Gains.price_lt_infinity {m : Collaterals} {debt value : Decimal}
    (h : Gains deposit leverage m) (hvalue : Trove.collateralValue ⟨m, debt⟩ prices = .ok value)
    (hfinite : value < .infinity) :
    ∀ e ∈ leverage.entries, 0 < bought deposit e → ∀ price, prices.get? e.1 = some price →
      price < .infinity := by
  intro e he hpos price hprice
  obtain ⟨amount, total, -, -, htotal, hraw⟩ := h.levered e he
  obtain ⟨part, hpart, hle⟩ :=
    (Trove.collateralValue_eq_ok hvalue).1 (e.1, total) (m.get?_eq_some_iff.1 htotal)
  obtain ⟨price', hprice', hmul⟩ := Trove.valueOf_eq_ok hpart
  obtain rfl : price = price' := Option.some.inj (hprice.symm.trans hprice')
  rcases Decimal.lt_infinity_or_eq price with hp | rfl
  · exact hp
  · obtain ⟨hzero, -⟩ := Decimal.eq_zero_of_checkedMul_infinity hmul
      (Decimal.lt_infinity_of_le hle hfinite)
    obtain rfl : total = .zero := hzero
    rw [Decimal.rawNat_zero] at hraw
    omega

/-- Of a finite deposit, leverage holds the exact multiples. At finite prices the levered collateral
has a finite value if it has one, and whenever it has a finite value, this covers the value of the
deposit and the additional debt, and exceeds them by at most a raw unit for each levered kind. -/
theorem leverUp_exact (hfinite : ∀ e ∈ deposit.entries, e.2 < .infinity)
    (h : leverUp deposit leverage prices = .ok levered) :
    Multiplied deposit leverage levered.collaterals ∧
      ∀ own owed before after, Trove.collateralValue ⟨deposit, own⟩ prices = .ok before →
        Trove.collateralValue ⟨levered.collaterals, owed⟩ prices = .ok after →
        (prices.Finite → after < .infinity) ∧
        (after < .infinity →
          before.rawNat + levered.additionalDebt.rawNat ≤ after.rawNat ∧
          after.rawNat ≤ before.rawNat + levered.additionalDebt.rawNat + leverage.size) := by
  have hgains := gains_of_leverUp hfinite h
  refine ⟨hgains.multiplied, fun own owed before after hbefore hafter => ⟨fun hprices => ?_, ?_⟩⟩
  · refine Trove.collateralValue_lt_infinity (fun e he part hpart => ?_) hafter
    obtain ⟨price, hprice, hmul⟩ := Trove.valueOf_eq_ok hpart
    have hheld := finite_of_leverUp hfinite h e.1
    have hpriceFinite := hprices e.1
    rw [levered.collaterals.get?_eq_some_iff.2 he, Option.getD_some] at hheld
    rw [hprice, Option.getD_some] at hpriceFinite
    exact Decimal.checkedMul_lt_infinity hheld hpriceFinite hmul
  · -- a finite value vouches for the prices, and these for the debt, so every sum is exact
    intro hafterFinite
    have hdebt := additionalDebt_lt_infinity hfinite
      (hgains.price_lt_infinity hafter hafterFinite) h
    obtain ⟨-, hdebtRaw⟩ := (ends_leverUp 0 hfinite).ok levered h hdebt
    have hafterRaw := Trove.collateralValue_eq_totalWorth hafter hafterFinite
    obtain ⟨hlow, hhigh⟩ := hgains.totalWorth prices
    have hbeforeFinite := Decimal.lt_infinity_of_le
      (Trove.collateralValue_le hgains.rawAt_le hbefore hafter) hafterFinite
    have hbeforeRaw := Trove.collateralValue_eq_totalWorth hbefore hbeforeFinite
    rw [hafterRaw, hbeforeRaw, hdebtRaw]
    exact ⟨hlow, hhigh⟩

/-- Three raw units of the first kind, beside some of the second. -/
def dustDeposit : Collaterals :=
  .ofList [(firstKind, ⟨.ofUInt64 3⟩), (secondKind, .thousandths 10)]

/-- Half as much again of the first kind. -/
def halfMore : AddressMap LeverUp :=
  .ofList [(firstKind, ⟨⟨.ofUInt64 1500000000000000000⟩, .zero⟩)]

def dustPrices : Prices :=
  .ofList [(firstKind, ⟨.ofUInt64 1500000000000000000⟩), (secondKind, .ofUInt64 3)]

/-- One raw unit is bought, for one raw unit of debt. -/
def dustLevered : LeveredDeposit :=
  ⟨.ofList [(firstKind, ⟨.ofUInt64 4⟩), (secondKind, .thousandths 10)], ⟨.ofUInt64 1⟩⟩

/-- Three cut-off values of one kind can differ by the whole raw unit. -/
theorem dustLevered_gains_a_unit :
    (∀ e ∈ dustDeposit.entries, e.2 < .infinity) ∧
      leverUp dustDeposit halfMore dustPrices = .ok dustLevered ∧
      Multiplied dustDeposit halfMore dustLevered.collaterals ∧
      ∃ before after, Trove.collateralValue ⟨dustDeposit, .zero⟩ dustPrices = .ok before ∧
        Trove.collateralValue ⟨dustLevered.collaterals, .zero⟩ dustPrices = .ok after ∧
        after < .infinity ∧ before.rawNat + dustLevered.additionalDebt.rawNat ≤ after.rawNat ∧
        after.rawNat = before.rawNat + dustLevered.additionalDebt.rawNat + halfMore.size := by
  have hfinite : ∀ e ∈ dustDeposit.entries, e.2 < .infinity := by decide
  have hlever : leverUp dustDeposit halfMore dustPrices = .ok dustLevered := rfl
  obtain ⟨hmultiplied, hvalues⟩ := leverUp_exact hfinite hlever
  obtain ⟨hafter, hbounds⟩ := hvalues .zero .zero _ _ rfl rfl
  have hafter := hafter (finite_of_entries (by decide))
  exact ⟨hfinite, hlever, hmultiplied, _, _, rfl, rfl, hafter, (hbounds hafter).1, rfl⟩

end Cdp
