import Cdp.Proofs.Transaction.Estimates
import Cdp.Proofs.Transaction.OpeningWindow
import Cdp.Proofs.Trove.Decay

/-!
# The call that imitates a decay

Where a call borrows and its gas limit is not pinned, its gas is estimated twice: for the call as it
is, and for a call that borrows less, as much less as makes the debt now what it will be once the
fee has decayed.

What a preparation works out before its two estimates is read off its trace (`openTrove_estimates`,
`adjustTrove_estimates`). The debt that both scenarios share fixes what the second call borrows
(`rawNat_simulatedBorrow`, `simulatedChange_eq_ok`), and the encoding shows where in the call that
stands, and that nothing else of it changes (`encodeOpen_eq_call`, `encodeAdjust_eq_call`). An
adjustment looks at the difference of two debts, and an infinite debt hides it.
-/

set_option autoImplicit false

namespace Cdp

open Procedure

/-- What an owner borrows on their own account. -/
def DebtChange.own : Option DebtChange → Decimal
  | some (.borrow amount) => amount
  | _ => .zero

/-- A borrow under leverage is the owner's own borrow and the debt of the leverage. -/
theorem rawNat_leveredDebt {debt : Option DebtChange} {additional borrow : Decimal}
    (hfinite : borrow < .infinity)
    (h : leveredDebt debt additional = .ok (some (.borrow borrow))) :
    borrow.rawNat = (DebtChange.own debt).rawNat + additional.rawNat ∧
      Contract.encodeDebtChange debt = ((DebtChange.own debt).raw, debt.isSome) := by
  unfold leveredDebt at h
  cases hzero : additional.isZero with
  | true =>
    rw [hzero, if_pos rfl] at h
    cases h
    rw [Decimal.isZero_iff.1 hzero]
    exact ⟨rfl, rfl⟩
  | false =>
    rw [hzero, if_neg Bool.false_ne_true] at h
    rcases debt with _ | (amount | amount)
    · cases h
      exact ⟨(Nat.zero_add _).symm, rfl⟩
    · obtain ⟨total, htotal, hpure⟩ := bind_eq_ok_iff.1 h
      cases hpure
      have hadd := Decimal.add_eq_ok_iff.1 (liftM_faulty_error_eq_ok_iff.1 htotal)
      exact ⟨(Decimal.rawNat_checkedAdd hadd hfinite).symm, rfl⟩
    · cases h

namespace Contract

variable {whitelist : Whitelist} {hints : HintPair} {maxFee : Decimal} {data : Bytes}

/-- The function that opens with the leverage of some parameters. -/
def openFunction (params : OpenParams) : Function :=
  if params.leverage.isEmpty then openTrove else openTroveLeverUp

/-- The function that adjusts with the leverage of some parameters. -/
def adjustFunction (params : AdjustParams) : Function :=
  if params.leverage.isEmpty then adjustTrove else adjustTroveLeverUp

/-- What is borrowed stands in one place of an opening, and nothing else depends on it. -/
theorem encodeOpen_eq_call {params : OpenParams} {borrow : Decimal}
    (h : encodeOpen whitelist params borrow hints maxFee = .ok data) :
    ∃ collateral : List Value, collateral.length + 4 = (openFunction params).parameters.length ∧
      ∀ other : Decimal, encodeOpen whitelist params other hints maxFee =
        .ok ((openFunction params).call (.word maxFee.raw :: .word other.raw ::
          .address hints.prev :: .address hints.next :: collateral)) := by
  obtain ⟨⟨kinds, amounts⟩, hkinds, -⟩ := bind_eq_ok_iff.1 h
  rw [openFunction]
  cases hleverage : params.leverage.isEmpty with
  | true =>
    refine ⟨[.addresses kinds, .list amounts], rfl, fun other => ?_⟩
    rw [encodeOpen, hkinds, hleverage]
    rfl
  | false =>
    refine ⟨[.addresses kinds, .list amounts, .list (encodeLeverage kinds params.leverage).1,
      .list (encodeLeverage kinds params.leverage).2], rfl, fun other => ?_⟩
    rw [encodeOpen, hkinds, hleverage]
    rfl

/-- The change of debt stands in two places of an adjustment, behind the collateral and before the
hints and the highest fee, and nothing else depends on it. -/
theorem encodeAdjust_eq_call {params : AdjustParams} {debt : Option DebtChange}
    (h : encodeAdjust whitelist params debt hints maxFee = .ok data) :
    ∃ collateral : List Value, collateral.length + 5 = (adjustFunction params).parameters.length ∧
      ∀ other : Option DebtChange, encodeAdjust whitelist params other hints maxFee =
        .ok ((adjustFunction params).call (collateral ++ .word (encodeDebtChange other).1 ::
          .flag (encodeDebtChange other).2 ::
          [.address hints.prev, .address hints.next, .word maxFee.raw])) := by
  obtain ⟨⟨kindsIn, amountsIn⟩, hin, h⟩ := bind_eq_ok_iff.1 h
  obtain ⟨⟨kindsOut, amountsOut⟩, hout, -⟩ := bind_eq_ok_iff.1 h
  rw [adjustFunction]
  cases hleverage : params.leverage.isEmpty with
  | true =>
    refine ⟨[.addresses kindsIn, .list amountsIn, .addresses kindsOut, .list amountsOut], rfl,
      fun other => ?_⟩
    rw [encodeAdjust, hin, hout, hleverage]
    rfl
  | false =>
    refine ⟨[.addresses kindsIn, .list amountsIn, .list (encodeLeverage kindsIn params.leverage).1,
        .list (encodeLeverage kindsIn params.leverage).2, .addresses kindsOut, .list amountsOut],
      rfl, fun other => ?_⟩
    rw [encodeAdjust, hin, hout, hleverage]
    rfl

end Contract

/-- What a preparation has worked out from the state when it estimates its call twice. -/
structure DecayScenario (context : Context) (state : SystemState) (deposit : Collaterals)
    (leverage : AddressMap LeverUp) (levered : LeveredDeposit) (rate decayed : Decimal) : Prop where
  levered_eq : leverUp deposit leverage state.whitelist.prices = .ok levered
  rates_eq : ∃ fees, state.feesAfter 0 = .ok fees ∧ fees.borrowingRate = .ok rate ∧
    context.decayedRate fees = .ok decayed

/-- The rate falls while the call waits, and it is at most one to begin with. -/
theorem DecayScenario.falls {context : Context} {state : SystemState} {deposit : Collaterals}
    {leverage : AddressMap LeverUp} {levered : LeveredDeposit} {rate decayed : Decimal}
    (scenario : DecayScenario context state deposit leverage levered rate decayed) :
    decayed ≤ rate ∧ rate ≤ .one := by
  obtain ⟨fees, hfees, hrate, hdecayed⟩ := scenario.rates_eq
  obtain ⟨wait, -, hdecayed⟩ := bind_eq_ok_iff.1 hdecayed
  obtain ⟨time, htime, hdecayed⟩ := bind_eq_ok_iff.1 hdecayed
  obtain ⟨recoveryMode, rfl⟩ := SystemState.feesAfter_zero_eq_ok hfees
  rw [Counter.add, Counter.ofNat_eq_ok_iff] at htime
  have hwait : state.block.timestamp ≤ time := by
    rw [UInt64.le_iff_toNat_le, ← htime]
    exact Nat.le_add_right _ _
  obtain ⟨later, hlater, hle⟩ := Fees.borrowingRateAt_fall hwait hrate
  obtain rfl : later = decayed := Except.ok.inj (hlater.symm.trans hdecayed)
  exact ⟨hle, Decimal.le_trans (Fees.borrowingRateAt_le_max hrate) (by decide)⟩

/-! ## The smaller borrow -/

section Smaller

variable {context : Context} {rate decayed additional : Decimal}

/-- What the second call of an opening borrows. -/
theorem rawNat_simulatedBorrow {effective : CreationParams} {trove : Trove} {later : Decimal}
    (hfall : decayed ≤ rate) (hone : rate ≤ .one)
    (htrove : context.decayedOpening effective decayed = .ok trove)
    (h : Context.simulatedBorrow trove rate additional = .ok later) :
    effective.borrow < .infinity ∧
      later.rawNat = imitatedTotal effective.borrow rate decayed - additional.rawNat := by
  obtain ⟨hcreate, -⟩ := Context.decayedOpening_eq_ok htrove
  obtain ⟨hvalid, -⟩ := Trove.create_eq_ok_iff.1 hcreate
  have hborrow := (CreationParams.validate_eq_ok_iff.1 hvalid).2.2.2
  obtain ⟨recreated, hrecreated, hpure⟩ := bind_eq_ok_iff.1 h
  obtain rfl := pure_eq_ok_iff.1 hpure
  have hraw := Trove.recreate_create hfall hone hcreate hrecreated
  have hfinite : recreated.borrow < .infinity := by
    rw [Decimal.lt_def, hraw]
    exact Nat.lt_of_le_of_lt (imitatedTotal_le_borrow hfall) hborrow
  exact ⟨hborrow, by rw [Decimal.rawNat_saturatingSub hfinite, hraw]⟩

/-- What the second call of an adjustment borrows. An infinite debt is left as it is, so nothing is
borrowed on top of it. -/
theorem simulatedChange_eq_ok {effective : AdjustmentParams} {t trove : Trove} {borrow : Decimal}
    {change : Option DebtChange} (hfall : decayed ≤ rate) (hone : rate ≤ .one)
    (hdebt : effective.debt = some (.borrow borrow))
    (htrove : t.adjust effective decayed = .ok trove)
    (h : Context.simulatedChange t trove rate additional = .ok change) :
    borrow < .infinity ∧ ∃ later : Decimal,
      Contract.encodeDebtChange change = (later.raw, !later.isZero) ∧
      (t.debt = .infinity → later = .zero) ∧
      (t.debt < .infinity →
        later.rawNat = imitatedTotal borrow rate decayed - additional.rawNat) := by
  obtain ⟨hvalid, _, -, -, hchange⟩ := Trove.adjust_eq_ok_iff.1 htrove
  obtain ⟨-, -, -, -, hamount⟩ := AdjustmentParams.validate_eq_ok_iff.1 hvalid
  obtain ⟨hpos, hborrow⟩ := hamount borrow (Or.inl hdebt)
  rw [hdebt] at hchange
  obtain ⟨reached, hreached, h⟩ := bind_eq_ok_iff.1 h
  obtain ⟨⟨deposit, reduced⟩, -, hreached⟩ := bind_eq_ok_iff.1 hreached
  obtain ⟨debt, hreach, hpure⟩ := bind_eq_ok_iff.1 hreached
  obtain rfl := pure_eq_ok_iff.1 hpure
  obtain ⟨hinfinite, hfinite⟩ :=
    Trove.reachDebt_changeDebt hfall hone hpos hborrow hchange hreach
  refine ⟨hborrow, ?_⟩
  rcases Decimal.lt_infinity_or_eq t.debt with ht | ht
  · obtain ⟨amount, rfl, hraw⟩ := hfinite ht
    have hamountFinite : amount < .infinity := by
      rw [Decimal.lt_def, hraw]
      exact Nat.lt_of_le_of_lt (imitatedTotal_le_borrow hfall) hborrow
    have hlater := Decimal.rawNat_saturatingSub hamountFinite additional
    rw [hraw] at hlater
    refine ⟨amount.saturatingSub additional, ?_, fun h => ?_, fun _ => hlater⟩
    · dsimp only at h
      cases hzero : (amount.saturatingSub additional).isZero with
      | true =>
        rw [hzero, if_pos rfl] at h
        cases h
        rw [Decimal.isZero_iff.1 hzero]
        rfl
      | false =>
        rw [hzero, if_neg Bool.false_ne_true] at h
        cases h
        rfl
    · rw [h] at ht
      exact absurd ht (Nat.lt_irrefl _)
  · obtain rfl := hinfinite ht
    cases h
    refine ⟨.zero, rfl, fun _ => rfl, fun h => ?_⟩
    rw [ht] at h
    exact absurd h (Nat.lt_irrefl _)

end Smaller

namespace Context

variable {context : Context} {seed : Word} {maxRate : Option Decimal}
  {trace : List (Exchange Chain)} {result : Except (Failure Error) (Prepared TroveChangeParser)}
  {first second : ContractCall} {others : List ContractCall}

theorem openTrove_estimates {params : OpenParams}
    (h : (context.openTrove params maxRate none seed).Yields trace result)
    (hcalls : estimatedCalls trace = first :: second :: others) :
    ∃ front rest state levered effective rate decayed trove hints maxFee later,
      trace = front ++ rest ∧ (Chain.readState .latest).Yields front (.ok state) ∧
      DecayScenario context state params.trove.deposit params.leverage levered rate decayed ∧
      params.trove.levered levered = .ok effective ∧
      context.decayedOpening effective decayed = .ok trove ∧
      simulatedBorrow trove rate levered.additionalDebt = .ok later ∧
      Contract.encodeOpen state.whitelist params params.trove.borrow hints maxFee =
        .ok first.data ∧
      Contract.encodeOpen state.whitelist params later hints maxFee = .ok second.data ∧
      second = { first with data := second.data } := by
  rw [openTrove] at h
  -- an estimate follows, so every part before it ended with a value
  obtain ⟨_, -, h⟩ := goes_on_done h hcalls
  obtain ⟨front, rest, state, rfl, hstate, h, hcalls⟩ := goes_on Chain.asks_readState h hcalls
  dsimp only at h
  obtain ⟨_, -, h⟩ := goes_on_done h hcalls
  obtain ⟨fees, hfees, h⟩ := goes_on_done h hcalls
  obtain ⟨rate, hrate, h⟩ := goes_on_done h hcalls
  obtain ⟨levered, hlevered, h⟩ := goes_on_done h hcalls
  obtain ⟨effective, heffective, h⟩ := goes_on_done h hcalls
  obtain ⟨_, -, h⟩ := goes_on_done h hcalls
  obtain ⟨_, _, hints, rfl, -, h, hcalls⟩ := goes_on HintFinder.asks_findForTrove h hcalls
  obtain ⟨_, -, h⟩ := goes_on_done h hcalls
  obtain ⟨data, hdata, h⟩ := goes_on_done h hcalls
  obtain ⟨later, hlater, h⟩ := goes_on_done h hcalls
  obtain ⟨updateGas, -, h⟩ := goes_on_done h hcalls
  -- what comes after the estimates asks nothing
  obtain ⟨dual, _, hdual, hsame⟩ := estimatedCalls_bind (fun _ => .done _) h
  rw [← hsame] at hcalls
  obtain ⟨rfl, rfl⟩ := withDualGas_estimates hdual hcalls
  -- the second call comes from the Trove as it is after the decay
  obtain ⟨decayed, hdecayed, hlater⟩ := bind_eq_ok_iff.1 hlater
  obtain ⟨trove, htrove, hlater⟩ := bind_eq_ok_iff.1 hlater
  obtain ⟨borrow, hborrow, hlater⟩ := bind_eq_ok_iff.1 hlater
  refine ⟨front, _, state, levered, effective, rate, decayed, trove, hints, _, borrow, rfl, hstate,
    ⟨Attempt.mapCause_eq_ok_iff.1 hlevered, fees, hfees, ?_, ?_⟩, ?_, htrove, ?_, hdata, hlater,
    rfl⟩
  · exact liftM_faulty_error_eq_ok_iff.1 hrate
  · exact liftM_faulty_error_eq_ok_iff.1 hdecayed
  · exact liftM_faulty_error_eq_ok_iff.1 heffective
  · exact liftM_faulty_error_eq_ok_iff.1 hborrow

theorem adjustTrove_estimates {params : AdjustParams}
    (h : (context.adjustTrove params maxRate none seed).Yields trace result)
    (hcalls : estimatedCalls trace = first :: second :: others) :
    ∃ front mid rest state user t levered effective rate decayed trove hints maxFee change,
      trace = front ++ (mid ++ rest) ∧ (Chain.readState .latest).Yields front (.ok state) ∧
      (Chain.readTrove context.sender state.whitelist .latest).Yields mid (.ok user) ∧
      user.openTrove = .ok t ∧
      DecayScenario context state params.adjustment.deposit params.leverage levered rate decayed ∧
      params.adjustment.levered levered = .ok effective ∧ effective.isBorrowing = true ∧
      t.adjust effective decayed = .ok trove ∧
      simulatedChange t trove rate levered.additionalDebt = .ok change ∧
      Contract.encodeAdjust state.whitelist params params.adjustment.debt hints maxFee =
        .ok first.data ∧
      Contract.encodeAdjust state.whitelist params change hints maxFee = .ok second.data ∧
      second = { first with data := second.data } := by
  rw [adjustTrove] at h
  obtain ⟨_, -, h⟩ := goes_on_done h hcalls
  split at h
  · obtain ⟨_, hfail, -⟩ := goes_on_done h hcalls
    cases hfail
  · obtain ⟨front, rest, state, rfl, hstate, h, hcalls⟩ := goes_on Chain.asks_readState h hcalls
    dsimp only at h
    obtain ⟨_, -, h⟩ := goes_on_done h hcalls
    obtain ⟨mid, rest, user, rfl, huser, h, hcalls⟩ := goes_on (Chain.asks_readTrove _ _) h hcalls
    obtain ⟨t, ht, h⟩ := goes_on_done h hcalls
    obtain ⟨fees, hfees, h⟩ := goes_on_done h hcalls
    obtain ⟨rate, hrate, h⟩ := goes_on_done h hcalls
    obtain ⟨levered, hlevered, h⟩ := goes_on_done h hcalls
    obtain ⟨effective, heffective, h⟩ := goes_on_done h hcalls
    obtain ⟨_, -, h⟩ := goes_on_done h hcalls
    obtain ⟨_, _, hints, rfl, -, h, hcalls⟩ := goes_on HintFinder.asks_findForTrove h hcalls
    cases hborrowing : effective.isBorrowing with
    | false =>
      -- a call that does not borrow is estimated once
      rw [hborrowing, if_neg Bool.false_ne_true] at h
      obtain ⟨_, -, h⟩ := goes_on_done h hcalls
      obtain ⟨_, -, h⟩ := goes_on_done h hcalls
      obtain ⟨single, _, hsingle, hsame⟩ := estimatedCalls_bind (fun _ => .done _) h
      have hlength := withGas_estimates hsingle
      rw [hsame, hcalls, List.length_cons, List.length_cons] at hlength
      omega
    | true =>
      rw [hborrowing, if_pos rfl] at h
      obtain ⟨_, -, h⟩ := goes_on_done h hcalls
      obtain ⟨data, hdata, h⟩ := goes_on_done h hcalls
      obtain ⟨later, hlater, h⟩ := goes_on_done h hcalls
      obtain ⟨updateGas, -, h⟩ := goes_on_done h hcalls
      obtain ⟨dual, _, hdual, hsame⟩ := estimatedCalls_bind (fun _ => .done _) h
      rw [← hsame] at hcalls
      obtain ⟨rfl, rfl⟩ := withDualGas_estimates hdual hcalls
      obtain ⟨decayed, hdecayed, hlater⟩ := bind_eq_ok_iff.1 hlater
      obtain ⟨trove, htrove, hlater⟩ := bind_eq_ok_iff.1 hlater
      obtain ⟨change, hchange, hlater⟩ := bind_eq_ok_iff.1 hlater
      refine ⟨front, mid, _, state, user, t, levered, effective, rate, decayed, trove, hints,
        _, change, rfl, hstate, huser, Attempt.mapCause_eq_ok_iff.1 ht,
        ⟨Attempt.mapCause_eq_ok_iff.1 hlevered, fees, hfees, ?_, ?_⟩, heffective, hborrowing,
        Attempt.mapCause_eq_ok_iff.1 htrove, ?_, hdata, hlater, rfl⟩
      · exact liftM_faulty_error_eq_ok_iff.1 hrate
      · exact liftM_faulty_error_eq_ok_iff.1 hdecayed
      · exact liftM_faulty_error_eq_ok_iff.1 hchange

/-! ## The two calls -/

/-- The calls that an opening estimates are one call but for what they borrow: the first borrows
what the owner asks for, the second borrows `later`. -/
structure OpeningCalls (whitelist : Whitelist) (params : OpenParams) (later : Decimal)
    (first second : ContractCall) : Prop where
  same_target : second = { first with data := second.data }
  same_params : ∃ hints maxFee,
    Contract.encodeOpen whitelist params params.trove.borrow hints maxFee = .ok first.data ∧
      Contract.encodeOpen whitelist params later hints maxFee = .ok second.data
  same_arguments : ∃ maxFee, ∃ hints : HintPair, ∃ collateral : List Contract.Value,
    collateral.length + 4 = (Contract.openFunction params).parameters.length ∧
    first.data = (Contract.openFunction params).call (.word maxFee ::
      .word params.trove.borrow.raw :: .address hints.prev :: .address hints.next :: collateral) ∧
    second.data = (Contract.openFunction params).call (.word maxFee ::
      .word later.raw :: .address hints.prev :: .address hints.next :: collateral)

/-- The calls that an adjustment estimates are one call but for the change of debt: the first
borrows what the owner asks for, if anything, and the second borrows `later`, if that is not
zero. -/
structure AdjustmentCalls (whitelist : Whitelist) (params : AdjustParams) (later : Decimal)
    (first second : ContractCall) : Prop where
  same_target : second = { first with data := second.data }
  same_params : ∃ change hints maxFee,
    Contract.encodeAdjust whitelist params params.adjustment.debt hints maxFee = .ok first.data ∧
      Contract.encodeAdjust whitelist params change hints maxFee = .ok second.data
  same_arguments : ∃ collateral : List Contract.Value, ∃ hints : HintPair, ∃ maxFee,
    collateral.length + 5 = (Contract.adjustFunction params).parameters.length ∧
    first.data = (Contract.adjustFunction params).call (collateral ++
      .word (DebtChange.own params.adjustment.debt).raw ::
      .flag params.adjustment.debt.isSome ::
      [.address hints.prev, .address hints.next, .word maxFee]) ∧
    second.data = (Contract.adjustFunction params).call (collateral ++
      .word later.raw :: .flag (!later.isZero) ::
      [.address hints.prev, .address hints.next, .word maxFee])

/-- Whenever the gas of an opening or of an adjustment is estimated twice, the second estimate
imitates the decay of the fee. With the debt of the leverage on top of the owner's own borrow, the
imitated total is no larger than the whole borrow, and at the current rate it gives the debt that
the whole borrow gives at the decayed rate, up to two raw units. The second call borrows that total
without the debt of the leverage, never more than the owner's own borrow, and is otherwise the first
call. An adjustment of an infinite debt is the exception: its second call borrows nothing. -/
theorem secondEstimate_imitates_decay
    (hcalls : estimatedCalls trace = first :: second :: others) :
    (∀ params : OpenParams, (context.openTrove params maxRate none seed).Yields trace result →
      ∃ front rest state levered effective rate decayed later, trace = front ++ rest ∧
        (Chain.readState .latest).Yields front (.ok state) ∧
        DecayScenario context state params.trove.deposit params.leverage levered rate decayed ∧
        params.trove.levered levered = .ok effective ∧
        effective.borrow.rawNat = params.trove.borrow.rawNat + levered.additionalDebt.rawNat ∧
        Imitates effective.borrow rate decayed (imitatedTotal effective.borrow rate decayed) ∧
        later.rawNat =
          imitatedTotal effective.borrow rate decayed - levered.additionalDebt.rawNat ∧
        later ≤ params.trove.borrow ∧ OpeningCalls state.whitelist params later first second) ∧
      ∀ params : AdjustParams, (context.adjustTrove params maxRate none seed).Yields trace result →
        ∃ front mid rest state user t levered effective borrow rate decayed later,
          trace = front ++ (mid ++ rest) ∧ (Chain.readState .latest).Yields front (.ok state) ∧
          (Chain.readTrove context.sender state.whitelist .latest).Yields mid (.ok user) ∧
          user.openTrove = .ok t ∧
          DecayScenario context state params.adjustment.deposit params.leverage levered rate
            decayed ∧
          params.adjustment.levered levered = .ok effective ∧
          effective.debt = some (.borrow borrow) ∧
          borrow.rawNat =
            (DebtChange.own params.adjustment.debt).rawNat + levered.additionalDebt.rawNat ∧
          Imitates borrow rate decayed (imitatedTotal borrow rate decayed) ∧
          (t.debt < .infinity →
            later.rawNat = imitatedTotal borrow rate decayed - levered.additionalDebt.rawNat) ∧
          (t.debt = .infinity → later = .zero) ∧
          later ≤ DebtChange.own params.adjustment.debt ∧
          AdjustmentCalls state.whitelist params later first second := by
  constructor
  · intro params h
    obtain ⟨front, rest, state, levered, effective, rate, decayed, trove, hints, maxFee, later, rfl,
      hstate, scenario, heffective, htrove, hlater, hfirst, hsecond, hsame⟩ :=
      openTrove_estimates h hcalls
    obtain ⟨hfall, hone⟩ := scenario.falls
    obtain ⟨hfinite, hraw⟩ := rawNat_simulatedBorrow hfall hone htrove hlater
    -- the whole borrow is the owner's own and the debt of the leverage
    have heffective' := heffective
    obtain ⟨total, htotal, hpure⟩ := bind_eq_ok_iff.1 heffective'
    obtain rfl := pure_eq_ok_iff.1 hpure
    have hsum := Decimal.rawNat_checkedAdd (Decimal.add_eq_ok_iff.1 htotal) hfinite
    obtain ⟨collateral, hlength, hcall⟩ := Contract.encodeOpen_eq_call hfirst
    refine ⟨front, rest, state, levered, _, rate, decayed, later, rfl, hstate, scenario, heffective,
      hsum.symm, imitates hfall hone, hraw, ?_, hsame, ⟨hints, maxFee, hfirst, hsecond⟩,
      maxFee.raw, hints, collateral, hlength, ?_, ?_⟩
    · -- what is taken off is what the whole borrow has on top of the owner's own
      rw [Decimal.le_def, hraw, Nat.sub_le_iff_le_add, hsum]
      exact imitatedTotal_le_borrow hfall
    · exact Except.ok.inj (hfirst.symm.trans (hcall _))
    · exact Except.ok.inj (hsecond.symm.trans (hcall _))
  · intro params h
    obtain ⟨front, mid, rest, state, user, t, levered, effective, rate, decayed, trove, hints,
      maxFee, change, rfl, hstate, huser, ht, scenario, heffective, hborrowing, htrove, hchange,
      hfirst, hsecond, hsame⟩ := adjustTrove_estimates h hcalls
    obtain ⟨hfall, hone⟩ := scenario.falls
    obtain ⟨borrow, hdebt⟩ := AdjustmentParams.isBorrowing_iff.1 hborrowing
    obtain ⟨hfinite, later, hencode, hinfinite, hraw⟩ :=
      simulatedChange_eq_ok hfall hone hdebt htrove hchange
    have heffective' := heffective
    obtain ⟨debt, hlevered, hpure⟩ := bind_eq_ok_iff.1 heffective'
    obtain rfl := pure_eq_ok_iff.1 hpure
    obtain rfl : debt = some (.borrow borrow) := hdebt
    obtain ⟨hsum, hown⟩ := rawNat_leveredDebt hfinite hlevered
    obtain ⟨collateral, hlength, hcall⟩ := Contract.encodeAdjust_eq_call hfirst
    refine ⟨front, mid, rest, state, user, t, levered, _, borrow, rate, decayed, later, rfl, hstate,
      huser, ht, scenario, heffective, rfl, hsum, imitates hfall hone, hraw, hinfinite, ?_, hsame,
      ⟨change, hints, maxFee, hfirst, hsecond⟩, collateral, hints, maxFee.raw, hlength, ?_, ?_⟩
    · rcases Decimal.lt_infinity_or_eq t.debt with hlt | heq
      · rw [Decimal.le_def, hraw hlt, Nat.sub_le_iff_le_add, ← hsum]
        exact imitatedTotal_le_borrow hfall
      · rw [hinfinite heq]
        exact Decimal.zero_le _
    · rw [Except.ok.inj (hfirst.symm.trans (hcall _)), hown]
    · rw [Except.ok.inj (hsecond.symm.trans (hcall _)), hencode]

/-! ## A debt that hides what is borrowed -/

/-- The protocol with a Trove of the sender that owes a word. -/
def indebtedTables (debt : Word) : Tables :=
  { soleKindTables with
    troves := .ofList
      [(.zero, ⟨1, debt, [(soleKind, ⟨Nat.pow 10 19, by decide⟩)], .empty, .empty⟩)] }

/-- A borrow of a thousand, and nothing else. -/
def thousandMore : AdjustParams :=
  ⟨⟨.empty, .empty, some (.borrow (.ofUInt64 1000))⟩, .empty⟩

/-- The trace of that adjustment. -/
def thousandMoreTrace (debt : Word) : List (Exchange Chain) :=
  ((soleSender.adjustTrove thousandMore none none .zero).walk (indebtedTables debt).reply).1

theorem thousandMore_estimatesTwice :
    (estimatedCalls (thousandMoreTrace Word.max)).length = 2 ∧
      (estimatedCalls (thousandMoreTrace (Decimal.ofUInt64 5000).raw)).length = 2 := by
  decide +kernel

/-- The sender's Trove, as a preparation reads it from tables. -/
def readOwn (tables : Tables) : Except (Failure Error) UserTrove :=
  ((Chain.readState .latest >>= fun state =>
    Chain.readTrove soleSender.sender state.whitelist .latest).walk tables.reply).2

theorem readOwn_infinite :
    (readOwn (indebtedTables Word.max)).map (fun user => user.trove.debt) = .ok .infinity := by
  decide +kernel

/-- The first reads of a trace of fixed answers show the Trove that the tables hold. -/
theorem readOwn_eq_ok {tables : Tables} {front mid rest : List (Exchange Chain)}
    {state : SystemState} {user : UserTrove}
    (hanswers : ∀ e ∈ front ++ (mid ++ rest), e.answer = tables.reply e.request)
    (hstate : (Chain.readState .latest).Yields front (.ok state))
    (huser : (Chain.readTrove soleSender.sender state.whitelist .latest).Yields mid (.ok user)) :
    readOwn tables = .ok user := by
  have hboth : (Chain.readState .latest >>= fun state =>
      Chain.readTrove soleSender.sender state.whitelist .latest).Yields (front ++ mid)
        (.ok user) :=
    yields_bind_iff.2 (Or.inl ⟨front, mid, state, rfl, hstate, huser⟩)
  rw [← List.append_assoc, List.forall_mem_append] at hanswers
  rw [readOwn, hboth.eq_walk hanswers.1]

/-- A sender who owes an infinite debt borrows a thousand more. The decay of the fee would leave a
part of that to borrow, but the second call borrows nothing. -/
theorem thousandMore_borrowsNothing :
    ∃ result first second front mid rest state user t levered effective borrow rate decayed,
      (soleSender.adjustTrove thousandMore none none .zero).Yields (thousandMoreTrace Word.max)
        result ∧
      estimatedCalls (thousandMoreTrace Word.max) = [first, second] ∧
      thousandMoreTrace Word.max = front ++ (mid ++ rest) ∧
      (Chain.readState .latest).Yields front (.ok state) ∧
      (Chain.readTrove soleSender.sender state.whitelist .latest).Yields mid (.ok user) ∧
      user.openTrove = .ok t ∧ t.debt = .infinity ∧
      DecayScenario soleSender state thousandMore.adjustment.deposit thousandMore.leverage levered
        rate decayed ∧
      thousandMore.adjustment.levered levered = .ok effective ∧
      effective.debt = some (.borrow borrow) ∧
      withFee borrow decayed * Decimal.scale < Word.size ∧
      Contract.argument? 4 first.data = some borrow.raw ∧
      ∀ later : Decimal, later.rawNat =
          imitatedTotal borrow rate decayed - levered.additionalDebt.rawNat →
        Contract.argument? 4 second.data ≠ some later.raw := by
  obtain ⟨first, second, hcalls⟩ := List.length_eq_two.1 thousandMore_estimatesTwice.1
  have hyields := yields_walk (indebtedTables Word.max).reply
    (soleSender.adjustTrove thousandMore none none .zero)
  have hanswers := answer_of_mem_walk (indebtedTables Word.max).reply
    (soleSender.adjustTrove thousandMore none none .zero)
  obtain ⟨front, mid, rest, state, user, t, levered, effective, rate, decayed, trove, hints, maxFee,
    change, htrace, hstate, huser, ht, scenario, heffective, -, htrove, hchange, hfirst, hsecond,
    -⟩ := adjustTrove_estimates hyields hcalls
  obtain ⟨hfall, hone⟩ := scenario.falls
  -- without leverage the whole borrow is the owner's own
  obtain rfl : LeveredDeposit.mk .empty .zero = levered := Except.ok.inj scenario.levered_eq
  obtain rfl : thousandMore.adjustment = effective := Except.ok.inj heffective
  -- the debt that was read is the word of the tables
  rw [htrace] at hanswers
  have huserRead := readOwn_eq_ok hanswers hstate huser
  have hinfinite : t.debt = .infinity := by
    have hread := readOwn_infinite
    rw [huserRead] at hread
    rw [UserTrove.openTrove] at ht
    split at ht
    · cases ht
      exact Except.ok.inj hread
    · cases ht
  obtain ⟨-, later, hencode, hzero, -⟩ := simulatedChange_eq_ok hfall hone rfl htrove hchange
  obtain ⟨collateral, hlength, hcall⟩ := Contract.encodeAdjust_eq_call hfirst
  have hplace : collateral.length = 4 := Nat.add_right_cancel hlength
  have hfirstData := Except.ok.inj (hfirst.symm.trans (hcall _))
  have hsecondData := Except.ok.inj (hsecond.symm.trans (hcall _))
  refine ⟨_, first, second, front, mid, rest, state, user, t, _, _, _, rate, decayed, hyields,
    hcalls, htrace, hstate, huser, ht, hinfinite, scenario, heffective, rfl, ?_, ?_, ?_⟩
  · have hfee : withFee (.ofUInt64 1000) decayed ≤ 2 * (Decimal.ofUInt64 1000).rawNat :=
      withFee_le (Decimal.le_trans hfall hone)
    have hraw : (Decimal.ofUInt64 1000).rawNat = 1000 * Decimal.scale := by decide
    have hroom : 2 * (1000 * Decimal.scale) * Decimal.scale < Word.size := by decide
    rw [hraw] at hfee
    exact Nat.lt_of_le_of_lt (Nat.mul_le_mul_right _ hfee) hroom
  · rw [hfirstData, ← hplace]
    exact Contract.argument?_call _ _ _ _
  · intro total htotal hargument
    have hpos : 0 < total.rawNat := by
      rw [htotal]
      exact imitatedTotal_pos hone (by decide)
    rw [hsecondData, hencode, hzero hinfinite, ← hplace, Contract.argument?_call] at hargument
    have hraw : total.rawNat = 0 := congrArg Word.toNat (Option.some.inj hargument).symm
    omega

/-- The second estimate of the doubled opening, and that of the adjustment where the debt before it
is finite. -/
theorem doubledOpening_thousandMore_imitate :
    (∃ trace result first second, (soleSender.openTrove doubledOpening none none .zero).Yields trace
        result ∧ estimatedCalls trace = [first, second] ∧
      ∃ (state : SystemState) (levered : LeveredDeposit) (borrow rate decayed later : Decimal),
        borrow.rawNat = doubledOpening.trove.borrow.rawNat + levered.additionalDebt.rawNat ∧
        Imitates borrow rate decayed (imitatedTotal borrow rate decayed) ∧
        later.rawNat = imitatedTotal borrow rate decayed - levered.additionalDebt.rawNat ∧
        OpeningCalls state.whitelist doubledOpening later first second) ∧
      ∃ trace result first second,
        (soleSender.adjustTrove thousandMore none none .zero).Yields trace result ∧
        estimatedCalls trace = [first, second] ∧
        ∃ (state : SystemState) (borrow rate decayed later : Decimal),
          Imitates borrow rate decayed (imitatedTotal borrow rate decayed) ∧
          later ≤ .ofUInt64 1000 ∧
          AdjustmentCalls state.whitelist thousandMore later first second := by
  constructor
  · have hyields := yields_walk soleKindTables.reply
      (soleSender.openTrove doubledOpening none none .zero)
    have htwice : (estimatedCalls ((soleSender.openTrove doubledOpening none none .zero).walk
        soleKindTables.reply).1).length = 2 := by decide +kernel
    obtain ⟨first, second, hcalls⟩ := List.length_eq_two.1 htwice
    obtain ⟨_, _, state, levered, effective, rate, decayed, later, -, -, -, -, hborrow, himitates,
      hlater, -, hsame⟩ := (secondEstimate_imitates_decay hcalls).1 doubledOpening hyields
    exact ⟨_, _, first, second, hyields, hcalls, state, levered, effective.borrow, rate, decayed,
      later, hborrow, himitates, hlater, hsame⟩
  · have hyields := yields_walk (indebtedTables (Decimal.ofUInt64 5000).raw).reply
      (soleSender.adjustTrove thousandMore none none .zero)
    obtain ⟨first, second, hcalls⟩ := List.length_eq_two.1 thousandMore_estimatesTwice.2
    obtain ⟨_, _, _, state, _, _, _, _, borrow, rate, decayed, later, -, -, -, -, -, -, -, -,
      himitates, -, -, hle, hsame⟩ := (secondEstimate_imitates_decay hcalls).2 thousandMore hyields
    exact ⟨_, _, first, second, hyields, hcalls, state, borrow, rate, decayed, later, himitates,
      hle, hsame⟩

end Context

end Cdp
