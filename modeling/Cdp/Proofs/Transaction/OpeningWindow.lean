import Cdp.Proofs.Chain.Standing
import Cdp.Proofs.Contract.Argument
import Cdp.Proofs.Fees
import Cdp.Proofs.Procedure.Trace
import Cdp.Proofs.Trove.Creation
import Cdp.Transaction.Opening

/-!
# The window of an opening

A prepared opening may wait for some minutes before it is mined, and the borrowing fee decays while
it waits. Preparing it looks at two moments only, the block that was read and the end of the wait.
The main statement `openTrove_staysOpen` says that this is enough: at every time between the two,
opening succeeds with a debt between the debts at the two ends and not below the minimum, and from
the block on the fee never passes the highest fee that the call accepts.
-/

set_option autoImplicit false

namespace Cdp

/-- Opening with effective parameters at a time gives a Trove. -/
def OpensAt (fees : Fees) (effective : CreationParams) (time : UInt64) (trove : Trove) : Prop :=
  ∃ rate, fees.borrowingRateAt time = .ok rate ∧ Trove.create effective rate = .ok trove

/-- At every time of a window opening succeeds, with a debt that is framed by the debts at the two
ends and not below the minimum. -/
def StaysOpen (fees : Fees) (effective : CreationParams) (start stop : UInt64) : Prop :=
  ∃ first last, OpensAt fees effective start first ∧ OpensAt fees effective stop last ∧
    ∀ time, start ≤ time → time ≤ stop → ∃ trove, OpensAt fees effective time trove ∧
      last.debt ≤ trove.debt ∧ trove.debt ≤ first.debt ∧ Protocol.minimumDebt ≤ trove.debt

/-- From a time on there is a borrowing rate, and it never passes the highest one accepted. -/
def FeeAccepted (fees : Fees) (start : UInt64) (maxFee : Word) : Prop :=
  ∀ time, start ≤ time → ∃ rate, fees.borrowingRateAt time = .ok rate ∧ rate.raw ≤ maxFee

theorem staysOpen_of_ends {factory : FeesFactory} {timestamp start stop : UInt64}
    {recoveryMode : Bool} {effective : CreationParams} {first last : Trove}
    (hfirst : OpensAt (factory.at timestamp recoveryMode) effective start first)
    (hlast : OpensAt (factory.at timestamp recoveryMode) effective stop last)
    (hmin : Protocol.minimumDebt ≤ last.debt) :
    StaysOpen (factory.at timestamp recoveryMode) effective start stop := by
  refine ⟨first, last, hfirst, hlast, fun time hstart hstop => ?_⟩
  obtain ⟨high, hhigh, hfirst⟩ := hfirst
  obtain ⟨low, hlow, hlast⟩ := hlast
  obtain ⟨rate, hrate, hle⟩ := Fees.borrowingRateAt_fall hstart hhigh
  obtain ⟨low', hlow', hge⟩ := Fees.borrowingRateAt_fall hstop hrate
  obtain rfl : low = low' := Except.ok.inj (hlow.symm.trans hlow')
  have hfinite : high < .infinity :=
    Decimal.lt_infinity_of_le (Fees.borrowingRateAt_le_max hhigh) (by decide)
  obtain ⟨trove, htrove, hdebt, hdebt'⟩ := Trove.create_between hlast hfirst hge hle hfinite
  exact ⟨trove, ⟨rate, hrate, htrove⟩, hdebt, hdebt', Decimal.le_trans hmin hdebt⟩

theorem feeAccepted_of_checkedAdd {factory : FeesFactory} {timestamp start : UInt64}
    {recoveryMode : Bool} {rate slippage maxRate : Decimal}
    (hrate : (factory.at timestamp recoveryMode).borrowingRateAt start = .ok rate)
    (hmax : rate.checkedAdd slippage = some maxRate) :
    FeeAccepted (factory.at timestamp recoveryMode) start maxRate.raw := by
  intro time hstart
  obtain ⟨later, hlater, hle⟩ := Fees.borrowingRateAt_fall hstart hrate
  exact ⟨later, hlater, Decimal.le_trans hle (Decimal.le_of_checkedAdd hmax)⟩

namespace SystemState

theorem feesAfter_zero_eq_ok {state : SystemState} {fees : Fees}
    (h : state.feesAfter 0 = .ok fees) :
    ∃ recoveryMode, fees = state.feesFactory.at state.block.timestamp recoveryMode := by
  simp only [feesAfter, bind_eq_ok_iff, liftM_faulty_error_eq_ok_iff, pure_eq_ok_iff,
    Counter.add, Counter.ofNat_eq_ok_iff] at h
  obtain ⟨time, htime, recoveryMode, -, rfl⟩ := h
  obtain rfl : state.block.timestamp = time := UInt64.toNat_inj.1 htime
  exact ⟨recoveryMode, rfl⟩

end SystemState

namespace Contract

/-- The highest fee stands first in the data of an opening, with or without leverage. -/
theorem firstArgument?_encodeOpen {whitelist : Whitelist} {params : OpenParams}
    {borrow maxRate : Decimal} {hints : HintPair} {data : Bytes}
    (h : encodeOpen whitelist params borrow hints maxRate = .ok data) :
    firstArgument? data = some maxRate.raw := by
  obtain ⟨⟨kinds, amounts⟩, -, hrest⟩ := bind_eq_ok_iff.1 h
  dsimp only at hrest
  split at hrest
  · cases hrest
    exact firstArgument?_call _ _ _
  · cases hrest
    exact firstArgument?_call _ _ _

end Contract

/-- The values that a preparation without pinned limits passes on its way from the state of the
system to a call with its data. -/
structure OpeningPath (context : Context) (params : OpenParams) (state : SystemState)
    (levered : LeveredDeposit) (effective : CreationParams) (fees : Fees) (rate maxRate : Decimal)
    (data : Bytes) : Prop where
  fees_eq : state.feesAfter 0 = .ok fees
  rate_eq : fees.borrowingRate = .ok rate
  levered_eq : leverUp params.trove.deposit params.leverage state.whitelist.prices = .ok levered
  effective_eq : params.trove.levered levered = .ok effective
  create_eq : ∃ trove, Trove.create effective rate = .ok trove
  maxRate_eq : rate.add context.policy.borrowingRateSlippage = .ok maxRate
  data_eq : ∃ hints, Contract.encodeOpen state.whitelist params params.trove.borrow hints maxRate =
    .ok data
  later_eq : ∃ hints later, context.laterOpening state.whitelist params fees rate levered effective
    hints maxRate = .ok later

namespace Context

open Procedure

variable {context : Context} {params : OpenParams} {seed : Word}

theorem decayedOpening_eq_ok {effective : CreationParams} {rate : Decimal} {decayed : Trove}
    (h : context.decayedOpening effective rate = .ok decayed) :
    Trove.create effective rate = .ok decayed ∧ Protocol.minimumDebt ≤ decayed.debt := by
  rw [decayedOpening] at h
  split at h
  · cases h
  · cases h
  · rename_i created hcreated
    split at h
    · cases h
    · rename_i hmin
      cases h
      exact ⟨hcreated, Nat.not_lt.1 hmin⟩

/-- Where the later call could be encoded, the end of the wait is a time at which opening gives no
less than the minimum debt. -/
theorem laterOpening_eq_ok {whitelist : Whitelist} {fees : Fees} {rate maxRate : Decimal}
    {levered : LeveredDeposit} {effective : CreationParams} {hints : HintPair} {data : Bytes}
    (h : context.laterOpening whitelist params fees rate levered effective hints maxRate =
      .ok data) :
    ∃ wait stop last, context.policy.decayToleranceSeconds = .ok wait ∧
      Counter.add fees.timestamp wait = .ok stop ∧ OpensAt fees effective stop last ∧
      Protocol.minimumDebt ≤ last.debt := by
  obtain ⟨decayedRate, hrate, h⟩ := bind_eq_ok_iff.1 h
  obtain ⟨last, hlast, -⟩ := bind_eq_ok_iff.1 h
  obtain ⟨wait, hwait, hrate⟩ := bind_eq_ok_iff.1 (liftM_faulty_error_eq_ok_iff.1 hrate)
  obtain ⟨stop, hstop, hrate⟩ := bind_eq_ok_iff.1 hrate
  obtain ⟨hcreate, hmin⟩ := decayedOpening_eq_ok hlast
  exact ⟨wait, stop, last, hwait, hstop, ⟨decayedRate, hrate, hcreate⟩, hmin⟩

/-- There is a limited call where both estimates were answered, and nowhere else. -/
theorem withDualGas_yields_ok_iff {call later : ContractCall} {updateGas : UInt64}
    {trace : List (Exchange Chain)} {priced : ContractCall × Option UInt64} :
    (context.withDualGas call later updateGas).Yields trace (.ok priced) ↔
      ∃ now soon : UInt64,
        trace = [⟨ChainRequest.estimateGas call, .ok now⟩,
          ⟨ChainRequest.estimateGas later, .ok soon⟩] ∧
        priced = limited call (.dual context.policy now soon updateGas) := by
  rw [withDualGas, yields_bind_ok_iff]
  constructor
  · rintro ⟨front, rest, now, rfl, hnow, hrest⟩
    obtain ⟨front', rest', soon, rfl, hsoon, hlast⟩ := yields_bind_ok_iff.1 hrest
    obtain rfl := yields_request_ok_iff.1 hnow
    obtain rfl := yields_request_ok_iff.1 hsoon
    obtain ⟨rfl, hpriced⟩ := yields_pure_ok_iff.1 hlast
    exact ⟨now, soon, rfl, hpriced.symm⟩
  · rintro ⟨now, soon, rfl, rfl⟩
    refine ⟨_, _, now, rfl, yields_request_ok_iff.2 rfl, yields_bind_ok_iff.2 ?_⟩
    exact ⟨_, _, soon, rfl, yields_request_ok_iff.2 rfl, yields_pure_ok_iff.2 ⟨rfl, rfl⟩⟩

/-- A prepared opening starts with the read of the state, and its path leads from there to the data
of its call. -/
theorem openTrove_yields_ok {trace : List (Exchange Chain)} {prepared : Prepared TroveChangeParser}
    (h : (context.openTrove params none none seed).Yields trace (.ok prepared)) :
    ∃ front rest state levered effective fees rate maxRate, trace = front ++ rest ∧
      (Chain.readState .latest).Yields front (.ok state) ∧
      OpeningPath context params state levered effective fees rate maxRate prepared.call.data := by
  rw [openTrove] at h
  obtain ⟨_, _, _, rfl, hvalid, h⟩ := yields_bind_ok_iff.1 h
  obtain ⟨front, rest, state, rfl, hstate, h⟩ := yields_bind_ok_iff.1 h
  dsimp only at h
  obtain ⟨_, _, _, rfl, -, h⟩ := yields_bind_ok_iff.1 h
  obtain ⟨_, _, fees, rfl, hfees, h⟩ := yields_bind_ok_iff.1 h
  obtain ⟨_, _, rate, rfl, hrate, h⟩ := yields_bind_ok_iff.1 h
  obtain ⟨_, _, levered, rfl, hlevered, h⟩ := yields_bind_ok_iff.1 h
  obtain ⟨_, _, effective, rfl, heffective, h⟩ := yields_bind_ok_iff.1 h
  obtain ⟨_, _, trove, rfl, htrove, h⟩ := yields_bind_ok_iff.1 h
  obtain ⟨_, _, hints, rfl, -, h⟩ := yields_bind_ok_iff.1 h
  obtain ⟨_, _, maxRate, rfl, hmaxRate, h⟩ := yields_bind_ok_iff.1 h
  obtain ⟨_, _, data, rfl, hdata, h⟩ := yields_bind_ok_iff.1 h
  obtain ⟨_, _, later, rfl, hlater, h⟩ := yields_bind_ok_iff.1 h
  obtain ⟨_, _, updateGas, rfl, -, h⟩ := yields_bind_ok_iff.1 h
  obtain ⟨_, _, priced, rfl, hpriced, h⟩ := yields_bind_ok_iff.1 h
  obtain ⟨rfl, rfl⟩ := yields_pure_ok_iff.1 h
  obtain ⟨rfl, -⟩ := yields_liftM_trove_ok_iff.1 hvalid
  refine ⟨front, _, state, levered, effective, fees, rate, maxRate, rfl, hstate, ?_⟩
  obtain ⟨now, soon, -, rfl⟩ := withDualGas_yields_ok_iff.1 hpriced
  exact {
    fees_eq := (yields_liftM_ok_iff.1 hfees).2
    rate_eq := (yields_liftM_faulty_ok_iff.1 hrate).2
    levered_eq := (yields_liftM_trove_ok_iff.1 hlevered).2
    effective_eq := (yields_liftM_faulty_ok_iff.1 heffective).2
    create_eq := ⟨trove, (yields_liftM_trove_ok_iff.1 htrove).2⟩
    maxRate_eq := (yields_liftM_faulty_ok_iff.1 hmaxRate).2
    data_eq := ⟨hints, (yields_liftM_ok_iff.1 hdata).2⟩
    later_eq := ⟨hints, later, (yields_liftM_ok_iff.1 hlater).2⟩ }

/-- When an opening without pinned limits is prepared, it may be mined at any time of the wait: from
the block that was read up to the end of the decay tolerance opening succeeds, with a debt between
the debts at the two ends and not below the minimum, and at no time from that block on is the fee
above the highest one in the data of the call. -/
theorem openTrove_staysOpen {trace : List (Exchange Chain)} {prepared : Prepared TroveChangeParser}
    (h : (context.openTrove params none none seed).Yields trace (.ok prepared)) :
    ∃ front rest state levered effective fees wait stop maxFee, trace = front ++ rest ∧
      (Chain.readState .latest).Yields front (.ok state) ∧
      leverUp params.trove.deposit params.leverage state.whitelist.prices = .ok levered ∧
      params.trove.levered levered = .ok effective ∧
      state.feesAfter 0 = .ok fees ∧
      context.policy.decayToleranceSeconds = .ok wait ∧
      Counter.add state.block.timestamp wait = .ok stop ∧
      StaysOpen fees effective state.block.timestamp stop ∧
      Contract.firstArgument? prepared.call.data = some maxFee ∧
      FeeAccepted fees state.block.timestamp maxFee := by
  obtain ⟨front, rest, state, levered, effective, fees, rate, maxRate, rfl, hstate, path⟩ :=
    openTrove_yields_ok h
  obtain ⟨_, later, hlater⟩ := path.later_eq
  obtain ⟨wait, stop, last, hwait, hstop, hlast, hmin⟩ := laterOpening_eq_ok hlater
  obtain ⟨first, hfirst⟩ := path.create_eq
  obtain ⟨_, hdata⟩ := path.data_eq
  have hrate := path.rate_eq
  obtain ⟨recoveryMode, rfl⟩ := SystemState.feesAfter_zero_eq_ok path.fees_eq
  refine ⟨front, rest, state, levered, effective, _, wait, stop, maxRate.raw, rfl, hstate,
    path.levered_eq, path.effective_eq, path.fees_eq, hwait, hstop, ?_, ?_, ?_⟩
  · exact staysOpen_of_ends ⟨rate, hrate, hfirst⟩ hlast hmin
  · exact Contract.firstArgument?_encodeOpen hdata
  · exact feeAccepted_of_checkedAdd hrate (Decimal.add_eq_ok_iff.1 path.maxRate_eq)

/-! ## A levered opening -/

/-- A kind of collateral for a system with this kind only. -/
def soleKind : Address := ⟨7, by decide⟩

/-- A protocol before its first Trove, seconds after the base rate was raised to one percent. -/
def soleKindTables : Tables :=
  { Tables.bare with
    baseRate := (Decimal.thousandths 10).raw
    lastFeeOperationTime := 999990
    whitelist := [(soleKind, ⟨18, .ofUInt64 1000, .ofUInt64 1, .ofUInt64 2, false⟩)] }

/-- A sender with the standard policy. -/
def soleSender : Context :=
  ⟨⟨.zero, .zero, .zero, .zero, .zero, .zero, .zero⟩, .zero, .standard⟩

/-- Ten units of the kind, doubled, and a borrow of three thousand. -/
def doubledOpening : OpenParams :=
  ⟨⟨.ofList [(soleKind, .ofUInt64 10)], .ofUInt64 3000⟩,
    .ofList [(soleKind, ⟨.ofUInt64 2, .zero⟩)]⟩

theorem doubledOpening_succeeds :
    (((soleSender.openTrove doubledOpening none none .zero).run soleKindTables.standing
      ()).1).isOk = true := by
  decide +kernel

/-- The doubled opening is prepared, so the contract accepts its Trove and its fee while its window
lasts. -/
theorem doubledOpening_staysOpen :
    ∃ trace prepared, (soleSender.openTrove doubledOpening none none .zero).Yields trace
        (.ok prepared) ∧
      ∃ (state : SystemState) (effective : CreationParams) (fees : Fees) (wait stop : UInt64)
          (maxFee : Word), state.feesAfter 0 = .ok fees ∧
        soleSender.policy.decayToleranceSeconds = .ok wait ∧
        Counter.add state.block.timestamp wait = .ok stop ∧
        StaysOpen fees effective state.block.timestamp stop ∧
        Contract.firstArgument? prepared.call.data = some maxFee ∧
        FeeAccepted fees state.block.timestamp maxFee := by
  have hok := doubledOpening_succeeds
  rcases hrun : (soleSender.openTrove doubledOpening none none .zero).run
      soleKindTables.standing () with ⟨result, w⟩
  rw [hrun] at hok
  cases result with
  | error e => cases hok
  | ok prepared =>
    obtain ⟨trace, htrace, -⟩ := run_eq_iff.1 hrun
    obtain ⟨_, _, state, _, effective, fees, wait, stop, maxFee, -, -, -, -, hrest⟩ :=
      openTrove_staysOpen htrace
    exact ⟨trace, prepared, htrace, state, effective, fees, wait, stop, maxFee, hrest⟩

end Context

end Cdp
