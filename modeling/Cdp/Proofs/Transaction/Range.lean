import Cdp.Proofs.Chain.Faults
import Cdp.Proofs.Contract.CollateralArrays
import Cdp.Proofs.Transaction.DecaySimulation
import Cdp.Proofs.Trove.Faults

/-!
# Amounts that leave the range of decimals

Preparing an opening or an adjustment works on amounts that the owner chose. A fee that is out of
range is refused. Leverage, the collateral of the Trove that comes out, and the debt that is divided
to imitate the decay of the fee are worked out with operators that break off instead.

`InRange` names these quantities, and `changes_end_in_range` says what they decide: a preparation
that is not refused breaks off exactly where one of them is out of range or the chain's own values
break off, and comes to a call exactly where all of them and the fee are in range.
-/

set_option autoImplicit false

namespace Cdp

open Procedure

/-! ## Levered parameters -/

section Levered

variable {leverage : AddressMap LeverUp} {prices : Prices} {levered : LeveredDeposit}

theorem CreationParams.ends_levered {ε : Type} {params : CreationParams}
    (hexact : LeverageExact params.deposit leverage prices levered.additionalDebt) :
    Attempt.Ends (¬LeverageInRange params.deposit leverage prices params.borrow.rawNat)
      (fun effective => effective.borrow < .infinity →
        LeverageInRange params.deposit leverage prices params.borrow.rawNat ∧
          effective.borrow.rawNat =
            params.borrow.rawNat + leverageDebt params.deposit leverage prices)
      (Attempt.ofFaulty (params.levered levered) : Attempt ε CreationParams) := by
  rw [CreationParams.levered, Attempt.ofFaulty_bind]
  exact (ends_add_leverage hexact).bind fun borrow hborrow => Attempt.ends_ok hborrow

/-- Where nothing is borrowed, no leverage has any debt either. -/
theorem ends_leveredDebt {deposit : Collaterals} {debt : Option DebtChange} {additional : Decimal}
    (hexact : LeverageExact deposit leverage prices additional) :
    Attempt.Ends (¬LeverageInRange deposit leverage prices (DebtChange.own debt).rawNat)
      (fun whole => DebtChange.own whole < .infinity →
        LeverageInRange deposit leverage prices (DebtChange.own debt).rawNat ∧
          (DebtChange.own whole).rawNat =
            (DebtChange.own debt).rawNat + leverageDebt deposit leverage prices)
      (leveredDebt debt additional) := by
  unfold leveredDebt
  cases hzero : additional.isZero with
  | true =>
    obtain rfl := Decimal.isZero_iff.1 hzero
    rw [if_pos rfl]
    apply Attempt.ends_ok
    intro hfinite
    obtain ⟨hlever, hdebt⟩ := hexact (by decide)
    have hsame : (DebtChange.own debt).rawNat + leverageDebt deposit leverage prices =
        (DebtChange.own debt).rawNat := by
      rw [← hdebt]
      rfl
    exact ⟨⟨hlever, lt_of_eq_of_lt hsame hfinite⟩, hsame.symm⟩
  | false =>
    rw [if_neg Bool.false_ne_true]
    rcases debt with _ | (amount | amount)
    · -- the debt of the leverage is all that is borrowed
      apply Attempt.ends_ok
      intro hfinite
      obtain ⟨hlever, hdebt⟩ := hexact hfinite
      have hsum : (DebtChange.own none).rawNat + leverageDebt deposit leverage prices =
          additional.rawNat := by
        rw [← hdebt]
        exact Nat.zero_add _
      exact ⟨⟨hlever, lt_of_eq_of_lt hsum hfinite⟩, hsum.symm⟩
    · exact (ends_add_leverage hexact).mapCause.bind fun total htotal => Attempt.ends_ok htotal
    · -- nobody repays while levering
      exact Attempt.ends_refuse

theorem AdjustmentParams.ends_levered {params : AdjustmentParams}
    (hexact : LeverageExact params.deposit leverage prices levered.additionalDebt) :
    Attempt.Ends
      (¬LeverageInRange params.deposit leverage prices (DebtChange.own params.debt).rawNat)
      (fun effective => DebtChange.own effective.debt < .infinity →
        LeverageInRange params.deposit leverage prices (DebtChange.own params.debt).rawNat ∧
          (DebtChange.own effective.debt).rawNat =
            (DebtChange.own params.debt).rawNat + leverageDebt params.deposit leverage prices)
      (params.levered levered) :=
  (ends_leveredDebt hexact).bind fun _ hdebt => Attempt.ends_ok hdebt

end Levered

theorem AdjustmentParams.own_eq_zero {params : AdjustmentParams} (h : params.isBorrowing = false) :
    DebtChange.own params.debt = .zero := by
  rw [isBorrowing] at h
  rcases hdebt : params.debt with _ | (amount | amount)
  · rfl
  · rw [hdebt] at h
    cases h
  · rfl

theorem Trove.borrow_pos_of_adjust {t t' : Trove} {params : AdjustmentParams}
    {rate borrow : Decimal} (hdebt : params.debt = some (.borrow borrow))
    (h : t.adjust params rate = .ok t') : 0 < borrow.rawNat := by
  obtain ⟨hvalid, -⟩ := adjust_eq_ok_iff.1 h
  obtain ⟨-, -, -, -, hamount⟩ := AdjustmentParams.validate_eq_ok_iff.1 hvalid
  exact (hamount borrow (Or.inl hdebt)).1

/-- Adjusting succeeds only where the borrow, if there is one, is finite and its fee is in range. -/
theorem Trove.feeInRange_of_adjust {t t' : Trove} {params : AdjustmentParams} {rate : Decimal}
    (hrate : rate < .infinity) (h : t.adjust params rate = .ok t') :
    DebtChange.own params.debt < .infinity ∧
      FeeInRange (DebtChange.own params.debt).rawNat rate.rawNat := by
  obtain ⟨hvalid, -, -, -, hchange⟩ := adjust_eq_ok_iff.1 h
  obtain ⟨-, -, -, -, hamount⟩ := AdjustmentParams.validate_eq_ok_iff.1 hvalid
  have hzero : FeeInRange 0 rate.rawNat := by
    constructor <;> rw [Nat.zero_mul] <;> decide
  rcases hdebt : params.debt with _ | (amount | amount)
  · exact ⟨by decide, hzero⟩
  · have hfinite : amount < .infinity := (hamount amount (Or.inl hdebt)).2
    rw [hdebt] at hchange
    obtain ⟨added, hadded, -⟩ := bind_eq_ok_iff.1 hchange
    rw [feeInclusive, Attempt.ofOption_eq_ok_iff] at hadded
    exact ⟨hfinite, feeInRange_of_feeInclusive? hfinite hrate hadded⟩
  · have hnone : Decimal.zero < .infinity := by decide
    exact ⟨hnone, hzero⟩

/-! ## What a preparation works out -/

/-- What leverage and fees are worked out from. -/
structure Borrowing where
  deposit : Collaterals
  leverage : AddressMap LeverUp
  /-- What the owner borrows on their own account. -/
  own : Decimal

/-- The raw amount that is borrowed, with the debt of leverage. -/
def Borrowing.whole (b : Borrowing) (prices : Prices) : Nat :=
  b.own.rawNat + leverageDebt b.deposit b.leverage prices

/-- The gas of the change is estimated twice: no limit is pinned, and something is borrowed. -/
def Borrowing.EstimatedTwice (b : Borrowing) (prices : Prices) (gasLimit : Option UInt64) : Prop :=
  gasLimit = none ∧ 0 < b.whole prices

def OpenParams.borrowing (params : OpenParams) : Borrowing :=
  ⟨params.trove.deposit, params.leverage, params.trove.borrow⟩

def AdjustParams.borrowing (params : AdjustParams) : Borrowing :=
  ⟨params.adjustment.deposit, params.leverage, DebtChange.own params.adjustment.debt⟩

/-- The Trove that an opening gives at the current rate. -/
def OpenParams.opened (params : OpenParams) (state : SystemState) : Attempt Error Trove := do
  let fees ← state.feesAfter 0
  let rate ← fees.borrowingRate
  let levered ← leverUp params.trove.deposit params.leverage state.whitelist.prices
  let effective ← params.trove.levered levered
  Trove.create effective rate

/-- The Trove that an adjustment gives at the current rate. -/
def AdjustParams.adjusted (params : AdjustParams) (state : SystemState) (t : Trove) :
    Attempt Error Trove := do
  let fees ← state.feesAfter 0
  let rate ← fees.borrowingRate
  let levered ← leverUp params.adjustment.deposit params.leverage state.whitelist.prices
  let effective ← params.adjustment.levered levered
  t.adjust effective rate

namespace Context

/-- The state has no fees, or they have no borrowing rate now, or none at the end of the wait where
that is asked for. The owner's amounts have no part in it. -/
def RatesBreak (context : Context) (state : SystemState) (twice : Prop) : Prop :=
  (∃ fault, state.feesAfter 0 = .error (.broken fault)) ∨
    ∃ fees, state.feesAfter 0 = .ok fees ∧
      ((∃ fault, fees.borrowingRate = .error fault) ∨
        twice ∧ ∃ fault, context.decayedRate fees = .error fault)

/-- The debt of a whole borrow at the end of the wait can be divided. -/
def DecayInRange (context : Context) (fees : Fees) (whole : Nat) : Prop :=
  ∀ decayed, context.decayedRate fees = .ok decayed → RescaledInRange whole decayed.rawNat

section InRange

variable (context : Context) (state : SystemState) (b : Borrowing) (gasLimit : Option UInt64)
  (held : Decimal) (changed : Attempt Error Trove)

/-- What is worked out besides the fee for the change of a Trove that owes `held` stays in range:
its leverage, the collateral of the Trove that comes out, and, where the decay of the fee is
imitated, the debt after the decay. On top of an infinite debt nothing is divided. -/
structure InRange : Prop where
  leverage : LeverageInRange b.deposit b.leverage state.whitelist.prices b.own.rawNat
  collateral : ∀ trove, changed = .ok trove → trove.TotalInRange
  rescaled : b.EstimatedTwice state.whitelist.prices gasLimit → held < .infinity →
    ∀ fees, state.feesAfter 0 = .ok fees →
      context.DecayInRange fees (b.whole state.whitelist.prices)

/-- The change breaks off: the state has no rates for it, or an amount is out of range. -/
def Breaks : Prop :=
  context.RatesBreak state (b.EstimatedTwice state.whitelist.prices gasLimit) ∨
    ¬context.InRange state b gasLimit held changed

/-- The state has rates for the change, and every amount and the fee at the current rate are in
range. -/
structure Fits : Prop where
  rates : ¬context.RatesBreak state (b.EstimatedTwice state.whitelist.prices gasLimit)
  amounts : context.InRange state b gasLimit held changed
  fee : ∀ fees rate, state.feesAfter 0 = .ok fees → fees.borrowingRate = .ok rate →
    FeeInRange (b.whole state.whitelist.prices) rate.rawNat

end InRange

theorem Fits.not_breaks {context : Context} {state : SystemState} {b : Borrowing}
    {gasLimit : Option UInt64} {held : Decimal} {changed : Attempt Error Trove}
    (h : context.Fits state b gasLimit held changed) :
    ¬context.Breaks state b gasLimit held changed := by
  rintro (hrates | hout)
  · exact h.rates hrates
  · exact hout h.amounts

/-! ## Steps without amounts -/

variable {context : Context}

theorem unbroken_withGas {call : ContractCall} {pinned : Option UInt64} {padding : UInt64} :
    Procedure.Unbroken (context.withGas call pinned padding) := by
  cases pinned with
  | some limit => exact unbroken_done nofun
  | none => exact unbroken_bind unbroken_request fun now => unbroken_done nofun

theorem unbroken_withDualGas {call later : ContractCall} {updateGas : UInt64} :
    Procedure.Unbroken (context.withDualGas call later updateGas) :=
  unbroken_bind unbroken_request fun _ => unbroken_bind unbroken_request fun _ =>
    unbroken_done nofun

theorem unbroken_encodeOpen {w : Whitelist} {params : OpenParams} {borrow maxRate : Decimal}
    {hints : HintPair} :
    Attempt.Unbroken (Contract.encodeOpen w params borrow hints maxRate) := by
  apply Attempt.unbroken_bind w.unbroken_encode
  rintro ⟨kinds, amounts⟩
  dsimp only
  split
  · exact Attempt.unbroken_ok _
  · exact Attempt.unbroken_ok _

theorem unbroken_encodeAdjust {w : Whitelist} {params : AdjustParams} {debt : Option DebtChange}
    {maxRate : Decimal} {hints : HintPair} :
    Attempt.Unbroken (Contract.encodeAdjust w params debt hints maxRate) := by
  apply Attempt.unbroken_bind w.unbroken_encode
  rintro ⟨kindsIn, amountsIn⟩
  apply Attempt.unbroken_bind w.unbroken_encode
  rintro ⟨kindsOut, amountsOut⟩
  dsimp only
  split
  · exact Attempt.unbroken_ok _
  · exact Attempt.unbroken_ok _

theorem unbroken_decayedOpening {effective : CreationParams} {rate : Decimal} :
    Attempt.Unbroken (context.decayedOpening effective rate) := by
  rw [decayedOpening]
  split
  · exact Attempt.unbroken_refuse _
  · rename_i failure _ hcreate
    intro fault h
    rcases failure with cause | other
    · cases h
    · exact Trove.unbroken_create effective other hcreate
  · split
    · exact Attempt.unbroken_refuse _
    · exact Attempt.unbroken_ok _

/-- The standard padding for the update of the base rate is a counter. -/
theorem exists_updateGas (hpolicy : context.policy = .standard) (fees : Fees) :
    ∃ gas, context.updateGas fees = .ok gas := by
  rw [updateGas, hpolicy]
  split
  · exact ⟨0, rfl⟩
  · exact exists_eq_ok_of_isOk (by decide)

/-- The standard slippage comes on top of every borrowing rate. -/
theorem exists_add_slippage (hpolicy : context.policy = .standard) {rate : Decimal}
    (hrate : rate ≤ Protocol.maxBorrowingFee) :
    ∃ maxRate, rate.add context.policy.borrowingRateSlippage = .ok maxRate := by
  cases hadd : rate.checkedAdd context.policy.borrowingRateSlippage with
  | none =>
    obtain ⟨-, -, hsize⟩ := Decimal.checkedAdd_eq_none_iff.1 hadd
    rw [hpolicy] at hsize
    have hlt : rate.rawNat + Policy.standard.borrowingRateSlippage.rawNat < Word.size - 1 :=
      Nat.lt_of_le_of_lt (Nat.add_le_add_right hrate _) (by decide)
    exact absurd hsize (Nat.not_le.2 hlt)
  | some maxRate => exact ⟨maxRate, Decimal.add_eq_ok_iff.2 hadd⟩

/-! ## From a Trove to its call -/

section Steps

variable {state : SystemState} {b : Borrowing} {gasLimit : Option UInt64} {held : Decimal}
  {changed : Attempt Error Trove} {twice : Prop}

/-- The fees and the rates of a state that has them. -/
theorem ends_feesAfter :
    Attempt.Ends (context.RatesBreak state twice) (fun fees => state.feesAfter 0 = .ok fees)
      (state.feesAfter 0) := by
  constructor
  case broken => exact fun fault h => Or.inl ⟨fault, h⟩
  case ok => exact fun _ => id

theorem ends_borrowingRate {fees : Fees} (hfees : state.feesAfter 0 = .ok fees) :
    Attempt.Ends (context.RatesBreak state twice) (fun rate => fees.borrowingRate = .ok rate)
      (Attempt.ofFaulty fees.borrowingRate : Attempt TroveError Decimal) :=
  Attempt.ends_faulty fun fault h => Or.inr ⟨fees, hfees, Or.inl ⟨fault, h⟩⟩

theorem ends_decayedRate {fees : Fees} (hfees : state.feesAfter 0 = .ok fees) (htwice : twice) :
    Attempt.Ends (context.RatesBreak state twice)
      (fun rate => context.decayedRate fees = .ok rate)
      (Attempt.ofFaulty (context.decayedRate fees) : Attempt TroveError Decimal) :=
  Attempt.ends_faulty fun fault h => Or.inr ⟨fees, hfees, Or.inr ⟨htwice, fault, h⟩⟩

/-- Finding the place of a Trove needs its nominal ratio, and nothing else of it. -/
theorem ends_findForTrove {finder : HintFinder} {trove : Trove} {owner : Option Address}
    {seed : Word} :
    Procedure.Ends (¬trove.TotalInRange) (fun _ => trove.TotalInRange)
      (finder.findForTrove trove owner seed) := by
  refine ends_bind (ends_done Trove.ends_nominalRatio.mapCause) fun ratio htotal => ?_
  intro trace result h
  exact (HintFinder.unbroken_findWithSeed.ends trace result h).mono id fun _ _ _ => htotal

theorem decayedRate_le_one {fees : Fees} {rate : Decimal}
    (h : context.decayedRate fees = .ok rate) : rate ≤ .one := by
  obtain ⟨wait, -, h⟩ := bind_eq_ok_iff.1 h
  obtain ⟨time, -, h⟩ := bind_eq_ok_iff.1 h
  exact Decimal.le_trans (Fees.borrowingRateAt_le_max h) (by decide)

theorem ends_simulatedBorrow {ε : Type} {params : CreationParams} {trove : Trove}
    {rate later additional : Decimal} (hone : rate ≤ .one) (hlater : later < .infinity)
    (h : Trove.create params later = .ok trove) :
    Attempt.Ends (¬RescaledInRange params.borrow.rawNat later.rawNat)
      (fun _ => RescaledInRange params.borrow.rawNat later.rawNat)
      (Attempt.ofFaulty (simulatedBorrow trove rate additional) : Attempt ε Decimal) := by
  rw [simulatedBorrow, Attempt.ofFaulty_bind]
  exact (Trove.ends_recreate hone hlater h).bind fun recreated hin => Attempt.ends_ok hin

theorem ends_simulatedChange {ε : Type} {params : AdjustmentParams} {t trove : Trove}
    {borrow rate later additional : Decimal} (hone : rate ≤ .one) (hlater : later < .infinity)
    (hdebt : params.debt = some (.borrow borrow)) (h : t.adjust params later = .ok trove) :
    Attempt.Ends (t.debt < .infinity ∧ ¬RescaledInRange borrow.rawNat later.rawNat)
      (fun _ => t.debt < .infinity → RescaledInRange borrow.rawNat later.rawNat)
      (Attempt.ofFaulty (simulatedChange t trove rate additional) :
        Attempt ε (Option DebtChange)) := by
  rw [simulatedChange, Attempt.ofFaulty_bind]
  refine (Trove.ends_adjustTo hone hlater hdebt h).bind fun change hin => ?_
  split <;> exact Attempt.ends_ok hin

theorem decayInRange_iff {fees : Fees} {decayed : Decimal} {whole : Nat}
    (h : context.decayedRate fees = .ok decayed) :
    context.DecayInRange fees whole ↔ RescaledInRange whole decayed.rawNat := by
  constructor
  · exact fun hall => hall decayed h
  · intro hin other hother
    obtain rfl : decayed = other := Except.ok.inj (h.symm.trans hother)
    exact hin

/-- What both preparations work out first: the fees of the state, the borrowing rate and the levered
deposit. -/
structure CurrentValues (state : SystemState) (b : Borrowing) (fees : Fees) (rate : Decimal)
    (levered : LeveredDeposit) : Prop where
  fees_eq : state.feesAfter 0 = .ok fees
  rate_eq : fees.borrowingRate = .ok rate
  levered_eq : leverUp b.deposit b.leverage state.whitelist.prices = .ok levered
  exact : LeverageExact b.deposit b.leverage state.whitelist.prices levered.additionalDebt

namespace CurrentValues

variable {fees : Fees} {rate : Decimal} {levered : LeveredDeposit}

theorem rate_le_max (values : CurrentValues state b fees rate levered) :
    rate ≤ Protocol.maxBorrowingFee :=
  Fees.borrowingRateAt_le_max values.rate_eq

theorem rate_le_one (values : CurrentValues state b fees rate levered) : rate ≤ .one :=
  Decimal.le_trans values.rate_le_max (by decide)

theorem rate_lt_infinity (values : CurrentValues state b fees rate levered) : rate < .infinity :=
  Decimal.lt_infinity_of_le values.rate_le_one (by decide)

/-- A state has one value of each kind, so the values of a run say of all of them that they fit. -/
theorem fits (values : CurrentValues state b fees rate levered) {trove : Trove}
    (hchanged : changed = .ok trove)
    (hleverage : LeverageInRange b.deposit b.leverage state.whitelist.prices b.own.rawNat)
    (htotal : trove.TotalInRange)
    (hfee : FeeInRange (b.whole state.whitelist.prices) rate.rawNat)
    (hdecay : b.EstimatedTwice state.whitelist.prices gasLimit →
      (∃ decayed, context.decayedRate fees = .ok decayed) ∧
        (held < .infinity → context.DecayInRange fees (b.whole state.whitelist.prices))) :
    context.Fits state b gasLimit held changed := by
  constructor
  case rates =>
    rintro (⟨fault, hfault⟩ | ⟨other, hother, ⟨fault, hfault⟩ | ⟨htwice, fault, hfault⟩⟩)
    · rw [values.fees_eq] at hfault
      cases hfault
    · obtain rfl : fees = other := Except.ok.inj (values.fees_eq.symm.trans hother)
      rw [values.rate_eq] at hfault
      cases hfault
    · obtain rfl : fees = other := Except.ok.inj (values.fees_eq.symm.trans hother)
      obtain ⟨decayed, hdecayed⟩ := (hdecay htwice).1
      rw [hdecayed] at hfault
      cases hfault
  case amounts =>
    refine ⟨hleverage, ?_, ?_⟩
    · intro other hother
      obtain rfl : trove = other := Except.ok.inj (hchanged.symm.trans hother)
      exact htotal
    · intro htwice hfinite other hother
      obtain rfl : fees = other := Except.ok.inj (values.fees_eq.symm.trans hother)
      exact (hdecay htwice).2 hfinite
  case fee =>
    intro other otherRate hother hotherRate
    obtain rfl : fees = other := Except.ok.inj (values.fees_eq.symm.trans hother)
    obtain rfl : rate = otherRate := Except.ok.inj (values.rate_eq.symm.trans hotherRate)
    exact hfee

end CurrentValues

theorem ends_currentValues {α : Type} {P : Prop} {Q : α → Prop}
    {next : Fees → Decimal → LeveredDeposit → ChainProcedure α}
    (hfinite : ∀ e ∈ b.deposit.entries, e.2 < .infinity)
    (hrates : context.RatesBreak state twice → P)
    (hleverage : ¬LeverageInRange b.deposit b.leverage state.whitelist.prices b.own.rawNat → P)
    (hnext : ∀ fees rate levered, CurrentValues state b fees rate levered →
      Procedure.Ends P Q (next fees rate levered)) :
    Procedure.Ends P Q
      ((do
        let fees ← state.feesAfter 0
        let rate ← fees.borrowingRate
        let levered ← leverUp b.deposit b.leverage state.whitelist.prices
        next fees rate levered) : ChainProcedure α) := by
  refine ends_bind (ends_done (ends_feesAfter.imp hrates)) fun fees hfees => ?_
  refine ends_bind (ends_done ((ends_borrowingRate hfees).mapCause.imp hrates)) fun rate hrate => ?_
  refine ends_bind (ends_done ((ends_leverUp _ hfinite).with_eq.mapCause.imp hleverage)) ?_
  rintro levered ⟨hlevered, hexact⟩
  exact hnext fees rate levered ⟨hfees, hrate, hlevered, hexact⟩

/-- The call that imitates the decay for an opening. -/
theorem ends_laterOpening {w : Whitelist} {params : OpenParams} {fees : Fees}
    {rate maxRate : Decimal} {levered : LeveredDeposit} {effective : CreationParams}
    {hints : HintPair} {whole : Nat} (hfees : state.feesAfter 0 = .ok fees) (htwice : twice)
    (hone : rate ≤ .one) (hwhole : effective.borrow.rawNat = whole) :
    Attempt.Ends (context.RatesBreak state twice ∨ ¬context.DecayInRange fees whole)
      (fun _ => (∃ decayed, context.decayedRate fees = .ok decayed) ∧
        context.DecayInRange fees whole)
      (context.laterOpening w params fees rate levered effective hints maxRate) := by
  refine Attempt.Ends.bind ((ends_decayedRate hfees htwice).mapCause.imp Or.inl) ?_
  intro later hlater
  have hfinite : later < .infinity :=
    Decimal.lt_infinity_of_le (decayedRate_le_one hlater) (by decide)
  rw [decayInRange_iff hlater, ← hwhole]
  refine unbroken_decayedOpening.ends.bind fun trove htrove => ?_
  obtain ⟨hcreate, -⟩ := decayedOpening_eq_ok htrove
  refine Attempt.Ends.bind ((ends_simulatedBorrow hone hfinite hcreate).mapCause.imp Or.inr) ?_
  intro borrow hin
  exact unbroken_encodeOpen.ends.mono id fun _ _ _ => ⟨⟨later, hlater⟩, hin⟩

/-- The call that imitates the decay for an adjustment that borrows. -/
theorem ends_laterAdjustment {w : Whitelist} {params : AdjustParams} {fees : Fees} {t : Trove}
    {borrow rate maxRate : Decimal} {levered : LeveredDeposit} {effective : AdjustmentParams}
    {hints : HintPair} {whole : Nat} (hfees : state.feesAfter 0 = .ok fees) (htwice : twice)
    (hone : rate ≤ .one) (hdebt : effective.debt = some (.borrow borrow))
    (hwhole : borrow.rawNat = whole) :
    Attempt.Ends
      (context.RatesBreak state twice ∨ t.debt < .infinity ∧ ¬context.DecayInRange fees whole)
      (fun _ => (∃ decayed, context.decayedRate fees = .ok decayed) ∧
        (t.debt < .infinity → context.DecayInRange fees whole))
      (context.laterAdjustment w params fees rate t levered effective hints maxRate) := by
  refine Attempt.Ends.bind ((ends_decayedRate hfees htwice).mapCause.imp Or.inl) ?_
  intro later hlater
  have hfinite : later < .infinity :=
    Decimal.lt_infinity_of_le (decayedRate_le_one hlater) (by decide)
  rw [decayInRange_iff hlater, ← hwhole]
  refine Attempt.Ends.bind (Trove.unbroken_adjust _).ends.mapCause fun trove htrove => ?_
  refine Attempt.Ends.bind
    ((ends_simulatedChange hone hfinite hdebt htrove).mapCause.imp Or.inr) ?_
  intro change hin
  exact unbroken_encodeAdjust.ends.mono id fun _ _ _ => ⟨⟨later, hlater⟩, hin⟩

end Steps

/-! ## The two preparations -/

section Preparations

variable {maxRate : Option Decimal} {gasLimit : Option UInt64} {seed : Word}
  {trace : List (Exchange Chain)} {result : Except (Failure Error) (Prepared TroveChangeParser)}

/-- Preparing an opening breaks off while the state is read, or it breaks off with the state that
was read. A new Trove owes nothing before it is opened. -/
def OpeningBreaks (context : Context) (params : OpenParams) (gasLimit : Option UInt64)
    (trace : List (Exchange Chain)) : Prop :=
  (∃ fault, (Chain.readState .latest).Yields trace (.error (.broken fault))) ∨
    ∃ state rest, After (Chain.readState .latest) trace state rest ∧
      context.Breaks state params.borrowing gasLimit .zero (params.opened state)

/-- The state was read, and the opening fits it. -/
def OpeningFits (context : Context) (params : OpenParams) (gasLimit : Option UInt64)
    (trace : List (Exchange Chain)) : Prop :=
  ∃ state rest, After (Chain.readState .latest) trace state rest ∧
    context.Fits state params.borrowing gasLimit .zero (params.opened state)

/-- Preparing an adjustment breaks off while the state or the sender's Trove is read, or it breaks
off with what was read. -/
def AdjustmentBreaks (context : Context) (params : AdjustParams) (gasLimit : Option UInt64)
    (trace : List (Exchange Chain)) : Prop :=
  (∃ fault, (Chain.readState .latest).Yields trace (.error (.broken fault))) ∨
    ∃ state rest, After (Chain.readState .latest) trace state rest ∧
      ((∃ fault, (Chain.readTrove context.sender state.whitelist .latest).Yields rest
          (.error (.broken fault))) ∨
        ∃ user rest',
          After (Chain.readTrove context.sender state.whitelist .latest) rest user rest' ∧
            ∃ t, user.openTrove = .ok t ∧
              context.Breaks state params.borrowing gasLimit t.debt (params.adjusted state t))

/-- The state and the sender's Trove were read, and the adjustment fits both. -/
def AdjustmentFits (context : Context) (params : AdjustParams) (gasLimit : Option UInt64)
    (trace : List (Exchange Chain)) : Prop :=
  ∃ state rest, After (Chain.readState .latest) trace state rest ∧
    ∃ user rest',
      After (Chain.readTrove context.sender state.whitelist .latest) rest user rest' ∧
        ∃ t, user.openTrove = .ok t ∧
          context.Fits state params.borrowing gasLimit t.debt (params.adjusted state t)

/-- A trace shows one state. -/
theorem OpeningFits.not_breaks {params : OpenParams}
    (h : context.OpeningFits params gasLimit trace) :
    ¬context.OpeningBreaks params gasLimit trace := by
  obtain ⟨state, rest, hafter, hfits⟩ := h
  rintro (⟨fault, hfault⟩ | ⟨other, rest', hafter', hbreaks⟩)
  · exact hafter.not_yields_error hfault
  · obtain ⟨rfl, rfl⟩ := hafter.unique hafter'
    exact hfits.not_breaks hbreaks

/-- A trace shows one state and one Trove of the sender. -/
theorem AdjustmentFits.not_breaks {params : AdjustParams}
    (h : context.AdjustmentFits params gasLimit trace) :
    ¬context.AdjustmentBreaks params gasLimit trace := by
  obtain ⟨state, rest, hafter, user, rest', huser, t, ht, hfits⟩ := h
  rintro (⟨fault, hfault⟩ | ⟨other, others, hafter', hrest⟩)
  · exact hafter.not_yields_error hfault
  · obtain ⟨rfl, rfl⟩ := hafter.unique hafter'
    rcases hrest with ⟨fault, hfault⟩ | ⟨user', others', huser', t', ht', hbreaks⟩
    · exact huser.not_yields_error hfault
    · obtain ⟨rfl, rfl⟩ := huser.unique huser'
      obtain rfl : t = t' := Except.ok.inj (ht.symm.trans ht')
      exact hfits.not_breaks hbreaks

theorem openTrove_ends {params : OpenParams} (hpolicy : context.policy = .standard)
    (h : (context.openTrove params maxRate gasLimit seed).Yields trace result) :
    Attempt.Ends (context.OpeningBreaks params gasLimit trace)
      (fun _ => context.OpeningFits params gasLimit trace) result := by
  rw [openTrove] at h
  refine ends_compute h params.trove.unbroken_validate.ends.mapCause fun _ hvalid h => ?_
  obtain ⟨-, hdeposit, hpos, -⟩ := CreationParams.validate_eq_ok_iff.1 hvalid
  refine ends_after h fun state rest h => ?_
  refine (?_ : Procedure.Ends _ _ _) rest result h
  refine ends_bind (ends_done (state.whitelist.unbroken_require _).ends) fun _ _ => ?_
  have hout : ¬LeverageInRange params.trove.deposit params.leverage state.whitelist.prices
      params.trove.borrow.rawNat →
      context.Breaks state params.borrowing gasLimit .zero (params.opened state) :=
    fun hout => Or.inr fun hin => hout hin.leverage
  refine ends_currentValues (b := params.borrowing) (fun e he => (hdeposit e he).2) Or.inl hout ?_
  intro fees rate levered values
  -- the whole borrow and the Trove
  have hlevered := (CreationParams.ends_levered (ε := TroveError) values.exact).with_eq
  refine ends_bind (ends_done (hlevered.mapCause.imp hout)) ?_
  rintro effective ⟨heffective, hwhole⟩
  refine ends_bind (ends_done (Trove.unbroken_create effective).ends.mapCause) ?_
  intro trove htrove
  obtain ⟨hborrow, hfee⟩ := Trove.feeInRange_of_create values.rate_lt_infinity htrove
  obtain ⟨hleverage, hraw⟩ := hwhole hborrow
  rw [hraw] at hfee
  have hopened : params.opened state = .ok trove := by
    refine bind_eq_ok_iff.2 ⟨fees, values.fees_eq, bind_eq_ok_iff.2 ⟨rate, ?_, bind_eq_ok_iff.2
      ⟨levered, ?_, bind_eq_ok_iff.2 ⟨effective, ?_, ?_⟩⟩⟩⟩
    · exact liftM_faulty_error_eq_ok_iff.2 values.rate_eq
    · exact Attempt.mapCause_eq_ok_iff.2 values.levered_eq
    · exact liftM_faulty_error_eq_ok_iff.2 (Attempt.ofFaulty_eq_ok_iff.1 heffective)
    · exact Attempt.mapCause_eq_ok_iff.2 htrove
  refine ends_bind (ends_findForTrove.imp ?_) fun hints htotal => ?_
  · exact fun hout => Or.inr fun hin => hout (hin.collateral trove hopened)
  -- the counters and the slippage of the standard policy stay in range at every rate
  have hslippage := exists_add_slippage hpolicy values.rate_le_max
  refine ends_bind (ends_done (Attempt.unbroken_ofFaulty hslippage).ends.mapCause) fun _ _ => ?_
  refine ends_bind (ends_done unbroken_encodeOpen.ends) fun data _ => ?_
  -- only the imitation of the decay is left
  cases gasLimit with
  | some limit =>
    refine ends_bind unbroken_withGas.ends fun _ _ => ends_done (Attempt.ends_ok ?_)
    exact values.fits hopened hleverage htotal hfee fun htwice =>
      absurd htwice.1 (Option.some_ne_none limit)
  | none =>
    have htwice : params.borrowing.EstimatedTwice state.whitelist.prices none :=
      ⟨rfl, Nat.add_pos_left hpos _⟩
    refine ends_bind (ends_done ((ends_laterOpening values.fees_eq htwice values.rate_le_one
      hraw).imp ?_)) fun later hdecay => ?_
    · rintro (hrates | hout)
      · exact Or.inl hrates
      · exact Or.inr fun hin => hout (hin.rescaled htwice (by decide) fees values.fees_eq)
    have hgas := exists_updateGas hpolicy fees
    refine ends_bind (ends_done (Attempt.unbroken_ofFaulty hgas).ends.mapCause) fun gas _ => ?_
    refine ends_bind unbroken_withDualGas.ends fun _ _ => ends_done (Attempt.ends_ok ?_)
    exact values.fits hopened hleverage htotal hfee fun _ => ⟨hdecay.1, fun _ => hdecay.2⟩

theorem adjustTrove_ends {params : AdjustParams} (hpolicy : context.policy = .standard)
    (h : (context.adjustTrove params maxRate gasLimit seed).Yields trace result) :
    Attempt.Ends (context.AdjustmentBreaks params gasLimit trace)
      (fun _ => context.AdjustmentFits params gasLimit trace) result := by
  rw [adjustTrove] at h
  refine ends_compute h params.adjustment.unbroken_validate.ends.mapCause fun _ hvalid h => ?_
  obtain ⟨-, hdeposit, -⟩ := AdjustmentParams.validate_eq_ok_iff.1 hvalid
  split at h
  · obtain ⟨-, rfl⟩ := yields_done_iff.1 h
    exact Attempt.ends_refuse
  refine ends_after h fun state rest h => ?_
  refine ends_compute h (state.whitelist.unbroken_require _).ends fun _ _ h => ?_
  refine ends_after h fun user rest' h => ?_
  refine (?_ : Procedure.Ends _ _ _) rest' result h
  refine ends_bind (ends_done user.unbroken_openTrove.ends.mapCause) fun t ht => ?_
  have hout : ¬LeverageInRange params.adjustment.deposit params.leverage state.whitelist.prices
      (DebtChange.own params.adjustment.debt).rawNat →
      ∃ t, user.openTrove = .ok t ∧
        context.Breaks state params.borrowing gasLimit t.debt (params.adjusted state t) :=
    fun hout => ⟨t, ht, Or.inr fun hin => hout hin.leverage⟩
  refine ends_currentValues (b := params.borrowing) (fun e he => (hdeposit e he).2)
    (fun hrates => ⟨t, ht, Or.inl hrates⟩) hout ?_
  intro fees rate levered values
  -- the whole borrow and the Trove
  refine ends_bind (ends_done ((AdjustmentParams.ends_levered values.exact).with_eq.imp hout)) ?_
  rintro effective ⟨heffective, hwhole⟩
  refine ends_bind (ends_done (Trove.unbroken_adjust effective).ends.mapCause) ?_
  intro trove htrove
  obtain ⟨hborrow, hfee⟩ := Trove.feeInRange_of_adjust values.rate_lt_infinity htrove
  obtain ⟨hleverage, hraw⟩ := hwhole hborrow
  rw [hraw] at hfee
  have hadjusted : params.adjusted state t = .ok trove := by
    refine bind_eq_ok_iff.2 ⟨fees, values.fees_eq, bind_eq_ok_iff.2 ⟨rate, ?_, bind_eq_ok_iff.2
      ⟨levered, ?_, bind_eq_ok_iff.2 ⟨effective, heffective, ?_⟩⟩⟩⟩
    · exact liftM_faulty_error_eq_ok_iff.2 values.rate_eq
    · exact Attempt.mapCause_eq_ok_iff.2 values.levered_eq
    · exact Attempt.mapCause_eq_ok_iff.2 htrove
  refine ends_bind (ends_findForTrove.imp ?_) fun hints htotal => ?_
  · exact fun hout => ⟨t, ht, Or.inr fun hin => hout (hin.collateral trove hadjusted)⟩
  -- the counters and the slippage of the standard policy stay in range at every rate
  have hslippage := exists_add_slippage hpolicy values.rate_le_max
  refine ends_branch (unbroken_done (Attempt.unbroken_ofFaulty hslippage).mapCause).ends
    (unbroken_done (Attempt.unbroken_ofFaulty ⟨Decimal.zero, rfl⟩).mapCause).ends fun _ _ => ?_
  refine ends_bind (ends_done unbroken_encodeAdjust.ends) fun data _ => ?_
  -- only the imitation of the decay is left
  cases gasLimit with
  | some limit =>
    refine ends_bind unbroken_withGas.ends fun _ _ => ends_done (Attempt.ends_ok ⟨t, ht, ?_⟩)
    exact values.fits hadjusted hleverage htotal hfee fun htwice =>
      absurd htwice.1 (Option.some_ne_none limit)
  | none =>
    cases hborrowing : effective.isBorrowing with
    | false =>
      -- nothing is borrowed on the whole
      rw [AdjustmentParams.own_eq_zero hborrowing] at hraw
      have hzero : params.borrowing.whole state.whitelist.prices = 0 := hraw.symm
      refine ends_bind unbroken_withGas.ends fun _ _ => ends_done (Attempt.ends_ok ⟨t, ht, ?_⟩)
      exact values.fits hadjusted hleverage htotal hfee fun htwice =>
        absurd hzero (Nat.ne_of_gt htwice.2)
    | true =>
      obtain ⟨borrow, hdebt⟩ := AdjustmentParams.isBorrowing_iff.1 hborrowing
      rw [hdebt] at hraw
      have htwice : params.borrowing.EstimatedTwice state.whitelist.prices none :=
        ⟨rfl, lt_of_lt_of_eq (Trove.borrow_pos_of_adjust hdebt htrove) hraw⟩
      refine ends_bind (ends_done ((ends_laterAdjustment values.fees_eq htwice
        values.rate_le_one hdebt hraw).imp ?_)) fun later hdecay => ?_
      · rintro (hrates | ⟨hfinite, hout⟩)
        · exact ⟨t, ht, Or.inl hrates⟩
        · exact ⟨t, ht, Or.inr fun hin =>
            hout (hin.rescaled htwice hfinite fees values.fees_eq)⟩
      have hgas := exists_updateGas hpolicy fees
      refine ends_bind (ends_done (Attempt.unbroken_ofFaulty hgas).ends.mapCause) fun gas _ => ?_
      refine ends_bind unbroken_withDualGas.ends fun _ _ =>
        ends_done (Attempt.ends_ok ⟨t, ht, ?_⟩)
      exact values.fits hadjusted hleverage htotal hfee fun _ => hdecay

/-- What the owner's amounts decide, under the standard policy and on every run. A preparation that
is not refused breaks off exactly where the leverage, the collateral of the Trove or the debt that
is divided is out of range, or where the chain's own values break off; and it comes to a call
exactly where all of them and the fee are in range. So an amount whose fee alone is out of range is
always refused, and the other amounts are never accepted out of range. -/
theorem changes_end_in_range (hpolicy : context.policy = .standard) :
    (∀ params : OpenParams, (context.openTrove params maxRate gasLimit seed).Yields trace result →
      (∃ cause, result = Attempt.refuse cause) ∨
        ((∃ fault, result = .error (.broken fault)) ↔
          context.OpeningBreaks params gasLimit trace) ∧
        ((∃ prepared, result = .ok prepared) ↔ context.OpeningFits params gasLimit trace)) ∧
      ∀ params : AdjustParams,
        (context.adjustTrove params maxRate gasLimit seed).Yields trace result →
        (∃ cause, result = Attempt.refuse cause) ∨
          ((∃ fault, result = .error (.broken fault)) ↔
            context.AdjustmentBreaks params gasLimit trace) ∧
          ((∃ prepared, result = .ok prepared) ↔
            context.AdjustmentFits params gasLimit trace) := by
  constructor
  · intro params h
    exact (openTrove_ends hpolicy h).settles OpeningFits.not_breaks
  · intro params h
    exact (adjustTrove_ends hpolicy h).settles AdjustmentFits.not_breaks

end Preparations

/-! ## Amounts that are too large -/

/-- The run of an opening on the tables with one kind. -/
def openingRun (params : OpenParams) :
    List (Exchange Chain) × Except (Failure Error) (Prepared TroveChangeParser) :=
  (soleSender.openTrove params none none .zero).walk soleKindTables.reply

/-- The run of an adjustment of a Trove that owes five thousand. -/
def adjustmentRun (params : AdjustParams) :
    List (Exchange Chain) × Except (Failure Error) (Prepared TroveChangeParser) :=
  (soleSender.adjustTrove params none none .zero).walk
    (indebtedTables (Decimal.ofUInt64 5000).raw).reply

theorem openingRun_yields (params : OpenParams) :
    (soleSender.openTrove params none none .zero).Yields (openingRun params).1
      (openingRun params).2 :=
  yields_walk _ _

theorem adjustmentRun_yields (params : AdjustParams) :
    (soleSender.adjustTrove params none none .zero).Yields (adjustmentRun params).1
      (adjustmentRun params).2 :=
  yields_walk _ _

/-- A decimal that can be added to any debt, but whose raw value cannot be scaled any more. -/
def hugeBorrow : Decimal := ⟨⟨Nat.pow 10 60, by decide⟩⟩

def hugeOpening : OpenParams := ⟨⟨.ofList [(soleKind, .ofUInt64 10)], hugeBorrow⟩, .empty⟩

def hugeAdjustment : AdjustParams := ⟨⟨.empty, .empty, some (.borrow hugeBorrow)⟩, .empty⟩

/-- Ten units of the kind, with a leverage that no product of them can reach. -/
def hugeLeverage : OpenParams :=
  ⟨⟨.ofList [(soleKind, .ofUInt64 10)], .ofUInt64 3000⟩,
    .ofList [(soleKind, ⟨⟨⟨Nat.pow 10 76, by decide⟩⟩, .zero⟩)]⟩

theorem runs_break :
    Attempt.breaks (openingRun hugeOpening).2 = true ∧
      Attempt.breaks (openingRun hugeLeverage).2 = true ∧
      Attempt.breaks (adjustmentRun hugeAdjustment).2 = true := by
  decide +kernel

/-- The tables answer every request, and the state and the sender's Trove are read from them. Still
a borrow that cannot be scaled makes an opening and an adjustment break off, and so does a leverage
that no product can reach. -/
theorem hugeAmounts_break :
    soleSender.policy = .standard ∧
      (openingRun hugeOpening).1.all (fun e => e.answer.isOk) = true ∧
      (openingRun hugeLeverage).1.all (fun e => e.answer.isOk) = true ∧
      (adjustmentRun hugeAdjustment).1.all (fun e => e.answer.isOk) = true ∧
      (readOwn soleKindTables).isOk = true ∧
      (readOwn (indebtedTables (Decimal.ofUInt64 5000).raw)).isOk = true ∧
      (∃ fault, (openingRun hugeOpening).2 = .error (.broken fault)) ∧
      (∃ fault, (openingRun hugeLeverage).2 = .error (.broken fault)) ∧
      ∃ fault, (adjustmentRun hugeAdjustment).2 = .error (.broken fault) := by
  obtain ⟨hopening, hleverage, hadjustment⟩ := runs_break
  refine ⟨rfl, by decide +kernel, by decide +kernel, by decide +kernel, by decide +kernel,
    by decide +kernel, ?_, ?_, ?_⟩
  · exact Attempt.exists_fault_of_breaks hopening
  · exact Attempt.exists_fault_of_breaks hleverage
  · exact Attempt.exists_fault_of_breaks hadjustment

theorem runs_succeed :
    (openingRun doubledOpening).2.isOk = true ∧ (adjustmentRun thousandMore).2.isOk = true := by
  decide +kernel

/-- The doubled opening and a thousand more fit, and they come to their calls; the huge opening and
the huge adjustment break off. -/
theorem doubledOpening_thousandMore_fit :
    ((∃ prepared, (openingRun doubledOpening).2 = .ok prepared) ∧
        soleSender.OpeningFits doubledOpening none (openingRun doubledOpening).1) ∧
      ((∃ fault, (openingRun hugeOpening).2 = .error (.broken fault)) ∧
        soleSender.OpeningBreaks hugeOpening none (openingRun hugeOpening).1) ∧
      ((∃ prepared, (adjustmentRun thousandMore).2 = .ok prepared) ∧
        soleSender.AdjustmentFits thousandMore none (adjustmentRun thousandMore).1) ∧
      (∃ fault, (adjustmentRun hugeAdjustment).2 = .error (.broken fault)) ∧
        soleSender.AdjustmentBreaks hugeAdjustment none (adjustmentRun hugeAdjustment).1 := by
  obtain ⟨hdoubled, hmore⟩ := runs_succeed
  obtain ⟨hopening, -, hadjustment⟩ := runs_break
  obtain ⟨prepared, hprepared⟩ := exists_eq_ok_of_isOk hdoubled
  obtain ⟨adjusted, hadjusted⟩ := exists_eq_ok_of_isOk hmore
  obtain ⟨fault, hfault⟩ := Attempt.exists_fault_of_breaks hopening
  obtain ⟨other, hother⟩ := Attempt.exists_fault_of_breaks hadjustment
  have hpolicy : soleSender.policy = .standard := rfl
  refine ⟨⟨⟨prepared, hprepared⟩, ?_⟩, ⟨⟨fault, hfault⟩, ?_⟩, ⟨⟨adjusted, hadjusted⟩, ?_⟩,
    ⟨other, hother⟩, ?_⟩
  · obtain ⟨cause, hrefused⟩ | ⟨-, hfits⟩ :=
      (changes_end_in_range hpolicy).1 doubledOpening (openingRun_yields doubledOpening)
    · cases hprepared.symm.trans hrefused
    · exact hfits.1 ⟨prepared, hprepared⟩
  · obtain ⟨cause, hrefused⟩ | ⟨hbreaks, -⟩ :=
      (changes_end_in_range hpolicy).1 hugeOpening (openingRun_yields hugeOpening)
    · cases hfault.symm.trans hrefused
    · exact hbreaks.1 ⟨fault, hfault⟩
  · obtain ⟨cause, hrefused⟩ | ⟨-, hfits⟩ :=
      (changes_end_in_range hpolicy).2 thousandMore (adjustmentRun_yields thousandMore)
    · cases hadjusted.symm.trans hrefused
    · exact hfits.1 ⟨adjusted, hadjusted⟩
  · obtain ⟨cause, hrefused⟩ | ⟨hbreaks, -⟩ :=
      (changes_end_in_range hpolicy).2 hugeAdjustment (adjustmentRun_yields hugeAdjustment)
    · cases hother.symm.trans hrefused
    · exact hbreaks.1 ⟨other, hother⟩

end Context

end Cdp
