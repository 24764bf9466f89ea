import Cdp.Proofs.Decimal.Faults
import Cdp.Proofs.Trove.Decay
import Cdp.Trove.Leverage

/-!
# Where changes of a Trove break off

Opening and adjusting refuse amounts that leave the range of decimals (`Trove.unbroken_create`,
`Trove.unbroken_adjust`). What is worked out around them does not: applying leverage, adding up the
collateral for the nominal ratio, and going back from a wanted debt to a borrow use operators that
break off. The lemmas say for each of them in which raw values it does so and what its value says
about them.
-/

set_option autoImplicit false

namespace Cdp

open Attempt

/-! ## Opening and adjusting -/

theorem unbroken_requireAmount (amount : Decimal) (role : AmountRole) :
    Unbroken (requireAmount amount role) := by
  rw [requireAmount]
  split
  · exact unbroken_refuse _
  · exact unbroken_ok _

theorem unbroken_requireAmounts (amounts : Collaterals) (role : Address → AmountRole) :
    Unbroken (requireAmounts amounts role) := by
  rw [requireAmounts]
  exact unbroken_forM (fun e => unbroken_requireAmount e.2 (role e.1)) amounts.entries

theorem unbroken_requireNetDebt (netDebt : Decimal) : Unbroken (requireNetDebt netDebt) := by
  rw [requireNetDebt]
  split
  · exact unbroken_refuse _
  · exact unbroken_ok _

theorem CreationParams.unbroken_validate (params : CreationParams) : Unbroken params.validate := by
  rw [validate]
  split
  · exact unbroken_refuse _
  · refine unbroken_bind (unbroken_requireAmounts _ _) fun _ => ?_
    exact unbroken_requireAmount _ _

theorem AdjustmentParams.unbroken_validate (params : AdjustmentParams) :
    Unbroken params.validate := by
  rw [validate]
  split
  · exact unbroken_refuse _
  · refine unbroken_bind (unbroken_requireAmounts _ _) fun _ => ?_
    refine unbroken_bind (unbroken_requireAmounts _ _) fun _ => ?_
    split
    · exact unbroken_refuse _
    · split
      · exact unbroken_requireAmount _ _
      · exact unbroken_requireAmount _ _
      · exact unbroken_ok _

theorem UserTrove.unbroken_openTrove (user : UserTrove) : Unbroken user.openTrove := by
  rw [openTrove]
  split
  · exact unbroken_ok _
  · exact unbroken_refuse _

namespace Trove

variable {t : Trove} {rate : Decimal}

/-- A borrow whose fee or whose debt is out of range is refused. -/
theorem unbroken_create (params : CreationParams) : Unbroken (create params rate) := by
  refine unbroken_bind params.unbroken_validate fun _ => ?_
  refine unbroken_bind (unbroken_ofOption _ _) fun netDebt => ?_
  refine unbroken_bind (unbroken_requireNetDebt netDebt) fun _ => ?_
  exact unbroken_bind (unbroken_ofOption _ _) fun debt => unbroken_ok _

/-- What may be repaid is no more than the debt, so the difference exists. -/
theorem unbroken_changeDebt (change : Option DebtChange) : Unbroken (t.changeDebt rate change) := by
  rcases change with _ | (amount | amount)
  · exact unbroken_ok _
  · exact unbroken_bind (unbroken_ofOption _ _) fun added => unbroken_ofOption _ _
  · rw [changeDebt]
    split
    · exact unbroken_refuse _
    · rename_i hle
      refine unbroken_bind ?_ fun debt =>
        unbroken_bind (unbroken_requireNetDebt _) fun _ => unbroken_ok debt
      intro fault h
      obtain ⟨hnone, -⟩ := guard_eq_error_iff.1 (ofFaulty_eq_broken_iff.1 h)
      have hlt := Decimal.checkedSub_eq_none_iff.1 hnone
      have hnet : t.netDebt ≤ t.debt := Decimal.saturatingSub_le _ _
      exact absurd (Nat.lt_of_le_of_lt hnet hlt) hle

theorem unbroken_adjust (params : AdjustmentParams) : Unbroken (t.adjust params rate) := by
  refine unbroken_bind params.unbroken_validate fun _ => ?_
  refine unbroken_bind (unbroken_foldlM (fun m e => ?_) _ _) fun deposited => ?_
  · exact unbroken_bind (unbroken_ofOption _ _) fun sum => unbroken_ok _
  · refine unbroken_bind (unbroken_foldlM (fun m e => ?_) _ _) fun collaterals => ?_
    · exact unbroken_bind (unbroken_ofOption _ _) fun remaining => unbroken_ok _
    · exact unbroken_bind (unbroken_changeDebt _) fun debt => unbroken_ok _

end Trove

/-! ## Leverage -/

/-- The raw amount that the leverage of a kind buys on top of its deposit. -/
def bought (deposit : Collaterals) (e : Address × LeverUp) : Nat :=
  deposit.rawAt e.1 * (e.2.leverage.rawNat - Decimal.scale) / Decimal.scale

/-- The raw value of what is bought, which is borrowed. -/
def boughtValue (deposit : Collaterals) (prices : Prices) (e : Address × LeverUp) : Nat :=
  bought deposit e * prices.rawAt e.1 / Decimal.scale

/-- The raw debt of all leverage. -/
def leverageDebt (deposit : Collaterals) (leverage : AddressMap LeverUp) (prices : Prices) : Nat :=
  (leverage.entries.map (boughtValue deposit prices)).sum

/-- The leverage of one kind stays in range: the products of raw values behind the amount that is
bought and behind its value, and the amount that is held after it. -/
structure LeverInRange (deposit : Collaterals) (prices : Prices) (e : Address × LeverUp) :
    Prop where
  amount : deposit.rawAt e.1 * (e.2.leverage.rawNat - Decimal.scale) < Word.size
  value : bought deposit e * prices.rawAt e.1 < Word.size
  held : deposit.rawAt e.1 + bought deposit e < Word.size - 1

/-- The leverage of all kinds stays in range, and so does its debt on top of what the owner borrows
on their own account. -/
structure LeverageInRange (deposit : Collaterals) (leverage : AddressMap LeverUp) (prices : Prices)
    (own : Nat) : Prop where
  lever : ∀ e ∈ leverage.entries, LeverInRange deposit prices e
  debt : own + leverageDebt deposit leverage prices < Word.size - 1

/-- A finite debt of leverage is the exact one, and every kind has stayed in range. -/
def LeverageExact (deposit : Collaterals) (leverage : AddressMap LeverUp) (prices : Prices)
    (additional : Decimal) : Prop :=
  additional < .infinity → (∀ e ∈ leverage.entries, LeverInRange deposit prices e) ∧
    additional.rawNat = leverageDebt deposit leverage prices

section Leverage

variable {deposit : Collaterals} {leverage : AddressMap LeverUp} {prices : Prices}

theorem LeverUp.unbroken_validate (lever : LeverUp) (kind : Address) :
    Unbroken (lever.validate kind) := by
  rw [validate]
  split
  · exact unbroken_refuse _
  · split
    · exact unbroken_refuse _
    · exact unbroken_ok _

theorem LeverUp.validate_eq_ok {lever : LeverUp} {kind : Address}
    (h : lever.validate kind = .ok ()) : .one ≤ lever.leverage ∧ lever.leverage < .infinity := by
  rw [validate] at h
  split at h
  · cases h
  · rename_i hvalid
    rw [Bool.or_eq_true, not_or, decide_eq_true_eq, Bool.not_eq_true,
      Decimal.isInfinite_eq_false_iff] at hvalid
    exact ⟨Nat.not_lt.1 hvalid.1, hvalid.2⟩

/-- Leverage that is accepted is more than one by a finite factor. -/
theorem LeverUp.ends_factor {lever : LeverUp} {kind : Address} {P : Prop}
    (h : lever.validate kind = .ok ()) :
    Ends P (fun factor => factor < .infinity ∧
        factor.rawNat = lever.leverage.rawNat - Decimal.scale)
      (ofFaulty (lever.leverage.sub .one) : Attempt TroveError Decimal) := by
  obtain ⟨hone, hfinite⟩ := validate_eq_ok h
  refine Decimal.ends_sub.mono (fun hlt => absurd hlt (Nat.not_lt.2 hone)) ?_
  intro factor _ hfactor
  obtain ⟨-, hraw⟩ := (Decimal.checkedSub_eq_some_iff hfinite).1 hfactor
  rw [Decimal.rawNat_one] at hraw
  refine ⟨?_, hraw⟩
  rw [Decimal.lt_def, hraw]
  exact Nat.lt_of_le_of_lt (Nat.sub_le _ _) hfinite

/-- The amount that the leverage of a kind buys. -/
theorem ends_bought {kind : Address} {lever : LeverUp} {amount factor : Decimal}
    (hget : deposit.get? kind = some amount) (hamount : amount < .infinity)
    (hfinite : factor < .infinity)
    (hfactor : factor.rawNat = lever.leverage.rawNat - Decimal.scale) :
    Ends (¬LeverInRange deposit prices (kind, lever))
      (fun extra => extra < .infinity ∧ extra.rawNat = bought deposit (kind, lever) ∧
        deposit.rawAt kind * (lever.leverage.rawNat - Decimal.scale) < Word.size)
      (ofFaulty (amount.mul factor) : Attempt TroveError Decimal) := by
  have hproduct : amount.rawNat * factor.rawNat =
      deposit.rawAt kind * (lever.leverage.rawNat - Decimal.scale) := by
    rw [AddressMap.rawAt_of_get? hget, hfactor]
  refine Decimal.ends_mul.mono ?_ ?_
  · rintro ⟨-, -, hsize⟩ hin
    rw [hproduct] at hsize
    exact absurd hin.amount (Nat.not_lt.2 hsize)
  · intro extra _ hextra
    obtain ⟨hlt, hraw⟩ := (Decimal.checkedMul_eq_some_iff hamount hfinite).1 hextra
    rw [hproduct] at hlt hraw
    exact ⟨Decimal.checkedMul_lt_infinity hamount hfinite hextra, hraw, hlt⟩

/-- The value of what is bought. If it comes out finite, so was the price. -/
theorem ends_cost {kind : Address} {lever : LeverUp} {extra price : Decimal}
    (hextra : extra.rawNat = bought deposit (kind, lever)) (hfinite : extra < .infinity)
    (hsome : ¬extra.isZero) (hprice : prices.get? kind = some price) :
    Ends (¬LeverInRange deposit prices (kind, lever))
      (fun cost => cost < .infinity →
        bought deposit (kind, lever) * prices.rawAt kind < Word.size ∧
          cost.rawNat = boughtValue deposit prices (kind, lever))
      (ofFaulty (extra.mul price) : Attempt TroveError Decimal) := by
  have hproduct : extra.rawNat * price.rawNat =
      bought deposit (kind, lever) * prices.rawAt kind := by
    rw [AddressMap.rawAt_of_get? hprice, hextra]
  refine Decimal.ends_mul.mono ?_ ?_
  · rintro ⟨-, -, hsize⟩ hin
    rw [hproduct] at hsize
    exact absurd hin.value (Nat.not_lt.2 hsize)
  · intro cost _ hcost hcostFinite
    rcases Decimal.lt_infinity_or_eq price with hp | rfl
    · obtain ⟨hlt, hraw⟩ := (Decimal.checkedMul_eq_some_iff hfinite hp).1 hcost
      rw [hproduct] at hlt hraw
      exact ⟨hlt, hraw⟩
    · rw [Decimal.checkedMul_infinity, if_neg hsome] at hcost
      cases hcost
      exact absurd hcostFinite (Nat.lt_irrefl _)

/-- Leverage that buys nothing stays in range. -/
theorem leverInRange_of_bought_eq_zero {kind : Address} {lever : LeverUp}
    (hzero : bought deposit (kind, lever) = 0)
    (hamount : deposit.rawAt kind * (lever.leverage.rawNat - Decimal.scale) < Word.size)
    (hheld : deposit.rawAt kind < Word.size - 1) :
    LeverInRange deposit prices (kind, lever) ∧ boughtValue deposit prices (kind, lever) = 0 := by
  refine ⟨⟨hamount, ?_, ?_⟩, ?_⟩
  · rw [hzero, Nat.zero_mul]
    decide
  · rw [hzero]
    exact hheld
  · rw [boughtValue, hzero, Nat.zero_mul, Nat.zero_div]

/-- What the leverage of one kind does to a debt that has been summed up so far. -/
theorem ends_lever {acc : LeveredDeposit} {kind : Address} {lever : LeverUp}
    (hfinite : ∀ e ∈ deposit.entries, e.2 < .infinity) :
    Ends (¬LeverInRange deposit prices (kind, lever) ∨ acc.additionalDebt < .infinity ∧
        Word.size - 1 ≤ acc.additionalDebt.rawNat + boughtValue deposit prices (kind, lever))
      (fun acc' : LeveredDeposit => acc'.additionalDebt < .infinity →
        acc.additionalDebt < .infinity ∧ LeverInRange deposit prices (kind, lever) ∧
          acc'.additionalDebt.rawNat =
            acc.additionalDebt.rawNat + boughtValue deposit prices (kind, lever))
      (acc.lever deposit prices kind lever) := by
  refine (unbroken_ofOption _ _).ends.bind fun amount hget => ?_
  have hget : deposit.get? kind = some amount := ofOption_eq_ok_iff.1 hget
  have hamount : amount < .infinity := hfinite _ (deposit.get?_eq_some_iff.1 hget)
  have hraw := AddressMap.rawAt_of_get? hget
  refine (lever.unbroken_validate kind).ends.bind fun _ hvalid => ?_
  refine (LeverUp.ends_factor hvalid).bind fun factor hfactor => ?_
  refine Ends.bind ((ends_bought hget hamount hfactor.1 hfactor.2).imp Or.inl) ?_
  rintro extra ⟨hextra, hbought, hproduct⟩
  split
  · -- nothing is bought, and neither a price nor a sum is needed
    rename_i hzero
    have hnone : bought deposit (kind, lever) = 0 := by
      rw [← hbought, Decimal.isZero_iff.1 hzero]
      rfl
    obtain ⟨hin, hworth⟩ : LeverInRange deposit prices (kind, lever) ∧
        boughtValue deposit prices (kind, lever) = 0 :=
      leverInRange_of_bought_eq_zero hnone hproduct (hraw ▸ hamount)
    apply ends_ok
    intro hacc
    exact ⟨hacc, hin, by rw [hworth, Nat.add_zero]⟩
  · rename_i hsome
    refine (unbroken_ofOption _ _).ends.bind fun price hprice => ?_
    have hprice : prices.get? kind = some price := ofOption_eq_ok_iff.1 hprice
    refine Ends.bind ((ends_cost hbought hextra hsome hprice).imp Or.inl) fun cost hvalue => ?_
    -- the debt so far and that value
    refine Ends.bind (Decimal.ends_add.imp ?_) fun debt hdebt => ?_
    · rintro ⟨hacc, hcost, hsize⟩
      rw [(hvalue hcost).2] at hsize
      exact Or.inr ⟨hacc, hsize⟩
    -- the amount that is held afterwards
    refine Ends.bind (Decimal.ends_add.imp ?_) fun total htotal => ?_
    · rintro ⟨-, -, hsize⟩
      rw [← hraw, hbought] at hsize
      exact Or.inl fun hin => absurd hin.held (Nat.not_lt.2 hsize)
    -- an infinite price would show in the debt, so a finite debt vouches for every step
    apply ends_ok
    intro (hdebtFinite : debt < .infinity)
    have hsum := Decimal.rawNat_checkedAdd hdebt hdebtFinite
    have hcost : cost < .infinity := by
      rw [Decimal.lt_def] at hdebtFinite ⊢
      omega
    obtain ⟨hlt, hcostRaw⟩ := hvalue hcost
    obtain ⟨htotalRaw, htotalFinite⟩ :=
      (Decimal.checkedAdd_eq_some_iff hamount hextra).1 htotal
    refine ⟨Decimal.lt_infinity_of_le (Decimal.le_of_checkedAdd hdebt) hdebtFinite,
      ⟨hproduct, hlt, ?_⟩, ?_⟩
    · rw [hraw, ← hbought, htotalRaw]
      exact htotalFinite
    · rw [← hcostRaw]
      exact hsum.symm

/-- Applying leverage breaks off only out of range. -/
theorem ends_leverUp (own : Nat) (hfinite : ∀ e ∈ deposit.entries, e.2 < .infinity) :
    Ends (¬LeverageInRange deposit leverage prices own)
      (fun levered => LeverageExact deposit leverage prices levered.additionalDebt)
      (leverUp deposit leverage prices) := by
  -- the debt of the kinds that are done is exact as long as it is finite
  refine ends_foldlM (I := fun done (acc : LeveredDeposit) => acc.additionalDebt < .infinity →
    (∀ e ∈ done, LeverInRange deposit prices e) ∧
      acc.additionalDebt.rawNat = (done.map (boughtValue deposit prices)).sum) ?_ ?_
  · exact fun _ => ⟨nofun, rfl⟩
  · rintro front ⟨kind, lever⟩ back acc hsplit hacc
    refine (ends_lever hfinite).mono ?_ ?_
    · rintro (hout | ⟨haccFinite, hsize⟩) hin
      · refine hout (hin.lever _ ?_)
        rw [hsplit]
        exact List.mem_append_right _ List.mem_cons_self
      · -- the debt up to this kind is part of the whole debt
        have hdebt := hin.debt
        rw [leverageDebt, hsplit, List.map_append, List.sum_append, List.map_cons,
          List.sum_cons] at hdebt
        rw [(hacc haccFinite).2] at hsize
        dsimp only at hsize
        omega
    · intro acc' _ hstep hfinite'
      obtain ⟨haccFinite, hlever, hraw⟩ := hstep hfinite'
      obtain ⟨hall, hsum⟩ := hacc haccFinite
      constructor
      · intro e he
        rcases List.mem_append.1 he with he | he
        · exact hall e he
        · rw [List.mem_singleton.1 he]
          exact hlever
      · rw [hraw, hsum, List.map_append, List.sum_append, List.map_singleton, List.sum_singleton]

/-- Adding a finite debt of leverage to what the owner borrows. -/
theorem ends_add_leverage {ε : Type} {own additional : Decimal}
    (hexact : LeverageExact deposit leverage prices additional) :
    Ends (¬LeverageInRange deposit leverage prices own.rawNat)
      (fun whole => whole < .infinity → LeverageInRange deposit leverage prices own.rawNat ∧
        whole.rawNat = own.rawNat + leverageDebt deposit leverage prices)
      (ofFaulty (own.add additional) : Attempt ε Decimal) := by
  refine Decimal.ends_add.mono ?_ ?_
  · rintro ⟨-, hadditional, hsize⟩ hin
    rw [(hexact hadditional).2] at hsize
    exact absurd hin.debt (Nat.not_lt.2 hsize)
  · intro whole _ hwhole hfinite
    have hraw := Decimal.rawNat_checkedAdd hwhole hfinite
    have hadditional : additional < .infinity := by
      rw [Decimal.lt_def] at hfinite ⊢
      omega
    obtain ⟨hlever, hdebt⟩ := hexact hadditional
    rw [hdebt] at hraw
    exact ⟨⟨hlever, hraw ▸ hfinite⟩, hraw.symm⟩

end Leverage

/-! ## The fee -/

/-- A raw amount has a fee at a rate, and with it it is a finite decimal. -/
structure FeeInRange (amount rate : Nat) : Prop where
  fee : amount * rate < Word.size
  total : amount + amount * rate / Decimal.scale < Word.size - 1

theorem feeInRange_of_feeInclusive? {amount rate total : Decimal} (hamount : amount < .infinity)
    (hrate : rate < .infinity) (h : feeInclusive? amount rate = some total) :
    FeeInRange amount.rawNat rate.rawNat := by
  obtain ⟨hfits, hraw, hfinite⟩ := (feeInclusive?_eq_some_iff_withFee hamount hrate).1 h
  rw [Decimal.lt_def, hraw] at hfinite
  exact ⟨hfits, hfinite⟩

/-- Opening succeeds only where the borrow is finite and its fee is in range. -/
theorem Trove.feeInRange_of_create {params : CreationParams} {rate : Decimal} {trove : Trove}
    (hrate : rate < .infinity) (h : create params rate = .ok trove) :
    params.borrow < .infinity ∧ FeeInRange params.borrow.rawNat rate.rawNat := by
  obtain ⟨hvalid, netDebt, -, hnet, -⟩ := create_eq_ok_iff.1 h
  have hborrow := (CreationParams.validate_eq_ok_iff.1 hvalid).2.2.2
  exact ⟨hborrow, feeInRange_of_feeInclusive? hborrow hrate hnet⟩

/-! ## The nominal ratio -/

namespace Trove

/-- Where there is debt, the collateral can be added up for the nominal ratio. -/
def TotalInRange (t : Trove) : Prop :=
  t.debt.isZero = false → Decimal.sumToInfinity t.collaterals.values < Word.size - 1

variable {ε : Type} {t : Trove}

theorem ends_nominalRatio :
    Ends (¬t.TotalInRange) (fun _ => t.TotalInRange)
      (ofFaulty t.nominalRatio : Attempt ε Decimal) := by
  rw [nominalRatio]
  cases hzero : t.debt.isZero with
  | true =>
    apply ends_ok
    intro hdebt
    rw [hzero] at hdebt
    cases hdebt
  | false =>
    rw [if_neg Bool.false_ne_true, ofFaulty_bind]
    have hsum : Ends (¬t.TotalInRange) (fun _ => t.TotalInRange)
        (ofFaulty t.totalCollateral : Attempt ε Decimal) := by
      constructor
      case broken =>
        intro fault hbroken hin
        have hsize := Decimal.sum_breaks_iff.1 ⟨fault, ofFaulty_eq_broken_iff.1 hbroken⟩
        exact absurd (hin hzero) (Nat.not_lt.2 hsize)
      case ok =>
        intro total htotal _
        apply Nat.lt_of_not_le
        intro hsize
        obtain ⟨fault, hfault⟩ := Decimal.sum_breaks_iff.2 hsize
        have hok : Decimal.sum t.collaterals.values = .ok total := ofFaulty_eq_ok_iff.1 htotal
        rw [hok] at hfault
        cases hfault
    exact hsum.bind fun total hin => ends_ok hin

end Trove

/-! ## Back to a borrow -/

/-- The debt that an amount gives at a rate fits a word after it is scaled for a division. -/
def RescaledInRange (amount rate : Nat) : Prop :=
  (amount + amount * rate / Decimal.scale) * Decimal.scale < Word.size

section Rescaled

variable {ε : Type} {rate amount divisor : Decimal}

/-- One and a rate is a divisor, whatever the rate. -/
theorem ends_growth {P : Prop} (hone : rate ≤ .one) :
    Ends P (fun divisor => 0 < divisor.rawNat ∧ divisor < .infinity)
      (ofFaulty (Decimal.one.add rate) : Attempt ε Decimal) := by
  have hrate : rate < .infinity := Decimal.lt_infinity_of_le hone (by decide)
  refine Decimal.ends_add.mono ?_ ?_
  · rintro ⟨-, -, hsize⟩
    have hlt : Decimal.one.rawNat + rate.rawNat < Word.size - 1 :=
      Nat.lt_of_le_of_lt (Nat.add_le_add_left hone _) (by decide)
    exact absurd hsize (Nat.not_le.2 hlt)
  · intro divisor _ hdivisor
    constructor
    · exact Nat.lt_of_lt_of_le (by decide) (Decimal.le_of_checkedAdd hdivisor)
    · exact ((Decimal.checkedAdd_eq_some_iff (by decide) hrate).1 hdivisor).2

/-- Dividing a finite amount breaks off where the amount does not fit a word after it is scaled. -/
theorem ends_rescale (hamount : amount < .infinity) (hpos : 0 < divisor.rawNat)
    (hfinite : divisor < .infinity) :
    Ends (Word.size ≤ amount.rawNat * Decimal.scale)
      (fun _ => amount.rawNat * Decimal.scale < Word.size)
      (ofFaulty (amount.div divisor) : Attempt ε Decimal) := by
  refine (Decimal.ends_div hpos).mono ?_ ?_
  · exact fun h => h.2.2
  · intro quotient _ hquotient
    exact ((Decimal.checkedDiv_eq_some_iff hamount hfinite hpos).1 hquotient).1

namespace Trove

variable {t : Trove} {later : Decimal}

/-- Recreating a Trove that was opened at a later rate. -/
theorem ends_recreate {params : CreationParams} (hone : rate ≤ .one) (hlater : later < .infinity)
    (h : create params later = .ok t) :
    Ends (¬RescaledInRange params.borrow.rawNat later.rawNat)
      (fun _ => RescaledInRange params.borrow.rawNat later.rawNat)
      (ofFaulty (t.recreate rate) : Attempt ε CreationParams) := by
  obtain ⟨hfinite, hnet⟩ := netDebt_create hlater h
  rw [RescaledInRange, ← withFee, ← hnet, Nat.not_lt, recreate, ofFaulty_bind]
  refine (ends_growth hone).bind ?_
  rintro divisor ⟨hpos, hdivisor⟩
  rw [ofFaulty_bind]
  exact (ends_rescale hfinite hpos hdivisor).bind fun amount hsize => ends_ok hsize

/-- A change of collateral takes the smaller amount off the larger one. -/
theorem exists_reachAmount (held : Collaterals) (change : Collaterals × Collaterals)
    (kind : Address) (wanted : Decimal) :
    ∃ change', reachAmount held change kind wanted = .ok change' := by
  rw [reachAmount]
  split
  · rename_i hlt
    obtain ⟨missing, hmissing⟩ := Decimal.exists_sub_eq_ok (Nat.le_of_lt hlt)
    exact ⟨_, bind_eq_ok_iff.2 ⟨missing, hmissing, rfl⟩⟩
  · split
    · rename_i hlt
      obtain ⟨surplus, hsurplus⟩ := Decimal.exists_sub_eq_ok (Nat.le_of_lt hlt)
      exact ⟨_, bind_eq_ok_iff.2 ⟨surplus, hsurplus, rfl⟩⟩
    · exact ⟨change, rfl⟩

/-- Reaching the debt that a borrow at a later rate gives. An infinite debt stays as it is. -/
theorem ends_reachDebt {borrow debt : Decimal} (hone : rate ≤ .one) (hlater : later < .infinity)
    (hpos : 0 < borrow.rawNat) (hborrow : borrow < .infinity)
    (h : t.changeDebt later (some (.borrow borrow)) = .ok debt) :
    Ends (t.debt < .infinity ∧ ¬RescaledInRange borrow.rawNat later.rawNat)
      (fun _ => t.debt < .infinity → RescaledInRange borrow.rawNat later.rawNat)
      (ofFaulty (reachDebt t.debt debt rate) : Attempt ε (Option DebtChange)) := by
  obtain ⟨hstays, hmoves⟩ := changeDebt_borrow hlater hborrow h
  rcases Decimal.lt_infinity_or_eq t.debt with hfinite | hinfinite
  · -- the rise of the debt is the borrow with its later fee, and that is what is divided
    obtain ⟨hdebtFinite, hraw⟩ := hmoves hfinite
    have hrises : t.debt < debt := by
      rw [Decimal.lt_def, hraw, withFee]
      exact Nat.lt_add_of_pos_right (Nat.add_pos_left hpos _)
    rw [reachDebt, if_pos hrises, ofFaulty_bind]
    refine Ends.bind (Decimal.ends_sub.imp ?_) fun rise hrise => ?_
    · intro hlt
      exact absurd hlt (Nat.lt_asymm hrises)
    obtain ⟨-, hriseRaw⟩ := (Decimal.checkedSub_eq_some_iff hdebtFinite).1 hrise
    rw [hraw, Nat.add_sub_cancel_left] at hriseRaw
    have hriseFinite : rise < .infinity := by
      rw [Decimal.lt_def] at hdebtFinite ⊢
      omega
    rw [ofFaulty_bind]
    refine (ends_growth hone).bind ?_
    rintro divisor ⟨hdivisorPos, hdivisor⟩
    rw [ofFaulty_bind]
    have hsize := ends_rescale (ε := ε) hriseFinite hdivisorPos hdivisor
    rw [hriseRaw] at hsize
    refine Ends.bind (hsize.imp ?_) fun amount hlt => ends_ok fun _ => hlt
    intro hle
    exact ⟨hfinite, Nat.not_lt.2 hle⟩
  · have hsame : ¬(Decimal.infinity < Decimal.infinity) := Nat.lt_irrefl _
    rw [hinfinite, hstays hinfinite, reachDebt, if_neg hsame, if_neg hsame]
    exact ends_ok fun hlt => absurd hlt hsame

/-- Going from a Trove to what a borrow at a later rate makes of it. -/
theorem ends_adjustTo {t' : Trove} {params : AdjustmentParams} {borrow : Decimal}
    (hone : rate ≤ .one) (hlater : later < .infinity) (hdebt : params.debt = some (.borrow borrow))
    (h : t.adjust params later = .ok t') :
    Ends (t.debt < .infinity ∧ ¬RescaledInRange borrow.rawNat later.rawNat)
      (fun _ => t.debt < .infinity → RescaledInRange borrow.rawNat later.rawNat)
      (ofFaulty (t.adjustTo t' rate) : Attempt ε AdjustmentParams) := by
  obtain ⟨hvalid, _, -, -, hchange⟩ := adjust_eq_ok_iff.1 h
  obtain ⟨-, -, -, -, hamount⟩ := AdjustmentParams.validate_eq_ok_iff.1 hvalid
  obtain ⟨hpos, hborrow⟩ := hamount borrow (Or.inl hdebt)
  rw [hdebt] at hchange
  obtain ⟨reached, hreached⟩ := exists_foldlM_eq_ok
    (fun change (e : Address × Decimal) => exists_reachAmount t.collaterals change e.1 e.2)
    t'.collaterals.entries (.empty, .empty)
  rw [adjustTo, ofFaulty_bind, hreached]
  show Ends _ _ (ofFaulty (_ >>= _))
  rw [ofFaulty_bind]
  exact (ends_reachDebt hone hlater hpos hborrow hchange).bind fun _ hlt => ends_ok hlt

end Trove

end Rescaled

end Cdp
