import Cdp.Proofs.Transaction.OpeningWindow
import Cdp.Transaction.Redemption
import Mathlib.Data.List.Chain

/-!
# Chains of redemptions

A redemption that was cut short can be continued, and its continuation may be cut short again. Each
run reads the chain anew, so that the state may change between two runs. What the caller asked for
in the first place is kept along the chain: a rate that was pinned stands in every call, and where
none was pinned each run works out a rate from the state that it read (`continuations_keep_rate`).

Such a rate is worked out for one moment and one fraction of the debt, and it holds for others. It
is no lower than the rate at any later time, because the base rate only falls, and no lower than the
rate for the exact fraction, because a quotient that leaves the range of words counts as one.
-/

set_option autoImplicit false

namespace Cdp

open Procedure

/-! ## The default rate -/

/-- The redeemed fraction of the total debt, cut off toward zero and at most one. Of no debt at all
anything is the whole, and of an infinite debt a finite amount is nothing. -/
def redeemedFraction (redeemable totalDebt : Decimal) : Decimal :=
  if totalDebt.isZero then (if redeemable.isZero then .zero else .one)
  else if redeemable.isInfinite then .one
  else if totalDebt.isInfinite then .zero
  else ⟨⟨min (redeemable.rawNat * Decimal.scale / totalDebt.rawNat) Decimal.scale,
    Nat.lt_of_le_of_lt (Nat.min_le_right _ _) (by decide)⟩⟩

theorem redeemedFraction_le_one (redeemable totalDebt : Decimal) :
    redeemedFraction redeemable totalDebt ≤ .one := by
  rw [redeemedFraction]
  split_ifs
  · exact Decimal.zero_le _
  · exact Decimal.le_refl _
  · exact Decimal.le_refl _
  · exact Decimal.zero_le _
  · rw [Decimal.le_def, Decimal.rawNat_mk, Decimal.rawNat_one]
    exact Nat.min_le_right _ _

/-- The checked quotient, where there is one, is no smaller than the fraction. -/
theorem redeemedFraction_le_of_checkedDiv {redeemable totalDebt quotient : Decimal}
    (h : redeemable.checkedDiv totalDebt = some quotient) :
    redeemedFraction redeemable totalDebt ≤ quotient := by
  rw [redeemedFraction]
  -- the cases are those of the checked quotient, and only the last one divides
  split_ifs with hdebt hnone hwhole hnothing
  · exact Decimal.zero_le _
  · rw [Decimal.checkedDiv, if_pos hdebt, if_neg hnone] at h
    cases h
    decide
  · rw [Decimal.checkedDiv, if_neg hdebt, if_pos hwhole] at h
    cases h
    decide
  · exact Decimal.zero_le _
  · have hpos := Decimal.isZero_eq_false_iff.1 (Bool.eq_false_iff.2 hdebt)
    have hr := Decimal.isInfinite_eq_false_iff.1 (Bool.eq_false_iff.2 hwhole)
    have ht := Decimal.isInfinite_eq_false_iff.1 (Bool.eq_false_iff.2 hnothing)
    obtain ⟨-, hraw⟩ := (Decimal.checkedDiv_eq_some_iff hr ht hpos).1 h
    rw [Decimal.le_def, Decimal.rawNat_mk, hraw]
    exact Nat.min_le_left _ _

/-- Counting a quotient out of range as one takes the fraction for no smaller than it is. -/
theorem redeemedFraction_le_checkedDiv (redeemable totalDebt : Decimal) :
    redeemedFraction redeemable totalDebt ≤
      min ((redeemable.checkedDiv totalDebt).getD .one) .one := by
  refine Decimal.le_min ?_ (redeemedFraction_le_one _ _)
  cases hquotient : redeemable.checkedDiv totalDebt with
  | none => exact redeemedFraction_le_one _ _
  | some quotient => exact redeemedFraction_le_of_checkedDiv hquotient

namespace Context

variable {context : Context} {fees : Fees} {redeemable totalDebt maxRate : Decimal}

theorem defaultRedemptionRate_eq_ok
    (h : context.defaultRedemptionRate fees redeemable totalDebt = .ok maxRate) :
    ∃ rate, fees.redemptionRate (min ((redeemable.checkedDiv totalDebt).getD .one) .one) =
      .ok rate ∧ rate ≤ maxRate ∧ maxRate ≤ .one := by
  obtain ⟨rate, hrate, h⟩ := bind_eq_ok_iff.1 h
  obtain ⟨sum, hsum, h⟩ := bind_eq_ok_iff.1 h
  cases h
  refine ⟨rate, hrate, Decimal.le_min ?_ ?_, Decimal.min_le_right _ _⟩
  · exact Decimal.le_of_checkedAdd (Decimal.add_eq_ok_iff.1 hsum)
  · exact (Fees.redemptionRateAt_bounds hrate).2

/-- From the time of the fees on there is a redemption rate for the exact fraction, and it never
passes the default one. -/
theorem redemptionRateAt_le_default {factory : FeesFactory} {timestamp time : UInt64}
    {recoveryMode : Bool}
    (h : context.defaultRedemptionRate (factory.at timestamp recoveryMode) redeemable totalDebt =
      .ok maxRate)
    (htime : timestamp ≤ time) :
    ∃ rate, (factory.at timestamp recoveryMode).redemptionRateAt
      (redeemedFraction redeemable totalDebt) time = .ok rate ∧ rate ≤ maxRate := by
  obtain ⟨now, hnow, hle, -⟩ := defaultRedemptionRate_eq_ok h
  -- first on in time for the fraction that the default is for, and then down to the exact fraction
  obtain ⟨later, hlater, hlaterLe⟩ := Fees.redemptionRateAt_fall htime hnow
  have hfinite : min ((redeemable.checkedDiv totalDebt).getD .one) .one < Decimal.infinity :=
    Decimal.lt_infinity_of_le (Decimal.min_le_right _ _) (by decide)
  obtain ⟨rate, hrate, hrateLe⟩ :=
    Fees.redemptionRateAt_mono (redeemedFraction_le_checkedDiv redeemable totalDebt) hfinite hlater
  exact ⟨rate, hrate, Decimal.le_trans hrateLe (Decimal.le_trans hlaterLe hle)⟩

end Context

/-! ## One run -/

/-- A prepared redemption, with who prepared it and what was asked on the way. -/
structure RedemptionRun where
  context : Context
  seed : Word
  trace : List (Exchange Chain)
  redemption : PreparedRedemption

namespace RedemptionRun

/-- The highest rate that the call of a run accepts. -/
def maxFee? (run : RedemptionRun) : Option Word :=
  Contract.argument? 1 run.redemption.transaction.call.data

/-- A run prepares what a caller asked for under a pinned rate or none, whatever the amount and the
gas limit are. -/
def PreparedUnder (pinned : Option Decimal) (run : RedemptionRun) : Prop :=
  ∃ amount gasLimit,
    (run.context.redeem amount pinned gasLimit run.seed).Yields run.trace (.ok run.redemption)

/-- A run continues an earlier one, without a rate of its own. -/
def Continues (earlier later : RedemptionRun) : Prop :=
  (earlier.redemption.topUp later.context none later.seed).Yields later.trace (.ok later.redemption)

/-- What a run read from the chain: the state, and then how much of its amount can be redeemed. -/
def Read (run : RedemptionRun) (state : SystemState) : Prop :=
  ∃ front found rest,
    run.trace = front ++ ⟨.read (.redemptionHints run.redemption.attempted.raw
      run.context.policy.redeemMaxIterations) .latest, .ok found⟩ :: rest ∧
    (Chain.readState .latest).Yields front (.ok state) ∧
    run.redemption.redeemable = ⟨found.truncatedAmount⟩

/-- The call of a run without a pinned rate carries a rate up to one that was worked out from what
the run read, and from the time of that state on no redemption rate for the fraction is above
it. -/
structure OwnRate (run : RedemptionRun) (state : SystemState) (fees : Fees) (maxRate : Decimal) :
    Prop where
  read : run.Read state
  fees_eq : state.feesAfter 0 = .ok fees
  maxRate_eq : run.context.defaultRedemptionRate fees run.redemption.redeemable state.total.debt =
    .ok maxRate
  maxFee_eq : run.maxFee? = some maxRate.raw
  le_one : maxRate ≤ .one
  covers : ∀ time, state.block.timestamp ≤ time →
    ∃ rate, fees.redemptionRateAt
      (redeemedFraction run.redemption.redeemable state.total.debt) time = .ok rate ∧
      rate ≤ maxRate

/-- The call of a run carries exactly the pinned rate, or else a rate of its own. -/
def KeepsRate (pinned : Option Decimal) (run : RedemptionRun) : Prop :=
  match pinned with
  | some rate => run.maxFee? = some rate.raw
  | none => ∃ state fees maxRate, run.OwnRate state fees maxRate

/-- A run takes up where an earlier one was cut short. -/
structure Resumes (earlier later : RedemptionRun) : Prop where
  truncated : earlier.redemption.isTruncated = true
  redeemable_lt : earlier.redemption.redeemable < earlier.redemption.attempted
  attempted_eq : later.redemption.attempted.rawNat =
    earlier.redemption.redeemable.rawNat + Protocol.minimumNetDebt.rawNat

/-- The values that a run passes on its way to its call and its result. -/
structure Path (amount : Decimal) (pinned : Option Decimal) (run : RedemptionRun)
    (state : SystemState) (fees : Fees) (maxRate : Decimal) : Prop where
  attempted_eq : run.redemption.attempted = amount
  isTruncated_eq : run.redemption.isTruncated = decide (run.redemption.redeemable < amount)
  pinnedRate_eq : run.redemption.pinnedRate = pinned
  read : run.Read state
  fees_eq : state.feesAfter 0 = .ok fees
  /-- The rate is the pinned one, or else the default for what was read. -/
  maxRate_eq : pinned.elim
    (run.context.defaultRedemptionRate fees run.redemption.redeemable state.total.debt) .ok =
      .ok maxRate
  maxFee_eq : run.maxFee? = some maxRate.raw

end RedemptionRun

namespace Context

theorem withGas_yields_ok {context : Context} {call : ContractCall} {gasLimit : Option UInt64}
    {padding : UInt64} {trace : List (Exchange Chain)} {priced : ContractCall × Option UInt64}
    (h : (context.withGas call gasLimit padding).Yields trace (.ok priced)) :
    priced.1.data = call.data := by
  cases gasLimit with
  | some limit =>
    obtain ⟨-, rfl⟩ := yields_pure_ok_iff.1 h
    rfl
  | none =>
    obtain ⟨_, _, now, -, -, hpriced⟩ := yields_bind_ok_iff.1 h
    obtain ⟨-, rfl⟩ := yields_pure_ok_iff.1 hpriced
    rfl

end Context

namespace RedemptionRun

variable {amount : Decimal} {pinned : Option Decimal} {gasLimit : Option UInt64}
  {run : RedemptionRun}

/-- A redemption reads the state first and what can be redeemed after it, and its path leads from
there to its call. -/
theorem redeem_yields_ok
    (h : (run.context.redeem amount pinned gasLimit run.seed).Yields run.trace
      (.ok run.redemption)) :
    ∃ state fees maxRate, Path amount pinned run state fees maxRate := by
  obtain ⟨context, seed, trace, redemption⟩ := run
  dsimp only at h
  rw [Context.redeem] at h
  obtain ⟨_, _, _, rfl, hvalid, h⟩ := yields_bind_ok_iff.1 h
  obtain ⟨front, _, state, rfl, hstate, h⟩ := yields_bind_ok_iff.1 h
  obtain ⟨_, _, found, rfl, hfound, h⟩ := yields_bind_ok_iff.1 h
  rw [Context.redeemFound] at h
  dsimp only at h
  split at h
  · exact absurd (yields_done_iff.1 h).2 nofun
  · obtain ⟨_, _, hints, rfl, hrest⟩ := yields_branch_ok h
    obtain ⟨_, _, fees, rfl, hfees, hrest⟩ := yields_bind_ok_iff.1 hrest
    -- with a pinned rate and without one, the steps from the rate on are the same
    cases pinned
    all_goals
      obtain ⟨_, _, maxRate, rfl, hrate, hrest⟩ := yields_bind_ok_iff.1 hrest
      obtain ⟨_, _, padding, rfl, -, hrest⟩ := yields_bind_ok_iff.1 hrest
      obtain ⟨_, _, priced, rfl, hpriced, hrest⟩ := yields_bind_ok_iff.1 hrest
      obtain ⟨rfl, rfl⟩ := yields_pure_ok_iff.1 hrest
      obtain ⟨rfl, -⟩ := yields_liftM_trove_ok_iff.1 hvalid
      obtain rfl := yields_readAt_ok_iff.1 hfound
      have hdata := Context.withGas_yields_ok hpriced
      refine ⟨state, fees, maxRate, ?_⟩
      constructor
      case attempted_eq => rfl
      case isTruncated_eq => rfl
      case pinnedRate_eq => rfl
      case read => exact ⟨front, found, _, rfl, hstate, rfl⟩
      case fees_eq => exact (yields_liftM_ok_iff.1 hfees).2
      case maxRate_eq => exact (yields_liftM_faulty_ok_iff.1 hrate).2
      case maxFee_eq =>
        rw [maxFee?, hdata]
        exact Contract.argument?_call _ [_] _ _

theorem PreparedUnder.keepsRate (h : PreparedUnder pinned run) : run.KeepsRate pinned := by
  obtain ⟨amount, gasLimit, h⟩ := h
  obtain ⟨state, fees, maxRate, path⟩ := redeem_yields_ok h
  have hmaxRate := path.maxRate_eq
  cases pinned with
  | some rate =>
    cases hmaxRate
    exact path.maxFee_eq
  | none =>
    obtain ⟨_, -, -, hone⟩ := Context.defaultRedemptionRate_eq_ok hmaxRate
    refine ⟨state, fees, maxRate, ?_⟩
    constructor
    case read => exact path.read
    case fees_eq => exact path.fees_eq
    case maxRate_eq => exact hmaxRate
    case maxFee_eq => exact path.maxFee_eq
    case le_one => exact hone
    case covers =>
      intro time htime
      obtain ⟨recoveryMode, rfl⟩ := SystemState.feesAfter_zero_eq_ok path.fees_eq
      exact Context.redemptionRateAt_le_default hmaxRate htime

end RedemptionRun

/-! ## Continuations -/

namespace PreparedRedemption

variable {redemption next : PreparedRedemption}

theorem continuationAmount_eq_ok {amount : Decimal}
    (h : redemption.continuationAmount = .ok (some amount)) :
    redemption.isTruncated = true ∧
      redemption.redeemable.checkedAdd Protocol.minimumNetDebt = some amount := by
  rw [continuationAmount] at h
  split at h
  · rename_i htruncated
    obtain ⟨sum, hsum, h⟩ := bind_eq_ok_iff.1 h
    cases h
    exact ⟨htruncated, Decimal.add_eq_ok_iff.1 hsum⟩
  · cases h

theorem topUp_yields_ok {context : Context} {maxRate : Option Decimal} {seed : Word}
    {trace : List (Exchange Chain)}
    (h : (redemption.topUp context maxRate seed).Yields trace (.ok next)) :
    ∃ amount, redemption.continuationAmount = .ok (some amount) ∧
      (context.redeem amount (maxRate.or redemption.pinnedRate) none seed).Yields trace
        (.ok next) := by
  rw [topUp] at h
  obtain ⟨_, _, amount?, rfl, hamount?, h⟩ := yields_bind_ok_iff.1 h
  obtain ⟨_, _, amount, rfl, hamount, h⟩ := yields_bind_ok_iff.1 h
  obtain ⟨rfl, hcontinuation⟩ := yields_liftM_faulty_ok_iff.1 hamount?
  obtain ⟨rfl, hsome⟩ := yields_liftM_ok_iff.1 hamount
  obtain rfl := Attempt.ofOption_eq_ok_iff.1 hsome
  exact ⟨amount, hcontinuation, h⟩

end PreparedRedemption

namespace RedemptionRun

variable {pinned : Option Decimal} {earlier later first : RedemptionRun}

/-- A continuation is prepared under what its caller had pinned, and it takes up where the earlier
run was cut short. -/
theorem Continues.step (h : Continues earlier later) (hearlier : PreparedUnder pinned earlier) :
    PreparedUnder pinned later ∧ Resumes earlier later := by
  obtain ⟨asked, gasLimit, hearlier⟩ := hearlier
  obtain ⟨_, _, _, before⟩ := redeem_yields_ok hearlier
  obtain ⟨amount, hamount, hlater⟩ := PreparedRedemption.topUp_yields_ok h
  -- what is handed on is the rate that was pinned or none, not the rate that the call carries
  rw [Option.none_or, before.pinnedRate_eq] at hlater
  obtain ⟨_, _, _, after⟩ := redeem_yields_ok hlater
  obtain ⟨htruncated, hsum⟩ := PreparedRedemption.continuationAmount_eq_ok hamount
  have hlt : earlier.redemption.redeemable < earlier.redemption.attempted := by
    rw [before.isTruncated_eq, decide_eq_true_iff] at htruncated
    rw [before.attempted_eq]
    exact htruncated
  have hfinite : earlier.redemption.redeemable < .infinity :=
    Nat.lt_of_lt_of_le hlt (Decimal.le_infinity _)
  refine ⟨⟨amount, none, hlater⟩, ?_⟩
  constructor
  case truncated => exact htruncated
  case redeemable_lt => exact hlt
  case attempted_eq =>
    rw [after.attempted_eq]
    exact ((Decimal.checkedAdd_eq_some_iff hfinite (by decide)).1 hsum).1.symm

theorem preparedUnder_of_chain {others : List RedemptionRun} (hfirst : PreparedUnder pinned first)
    (hchain : (first :: others).IsChain Continues) :
    ∀ run ∈ first :: others, PreparedUnder pinned run := by
  apply hchain.induction (PreparedUnder pinned)
  · intro earlier later h hearlier
    exact (h.step hearlier).1
  · exact fun _ => hfirst

/-- Along a chain of continuations without rates of their own, on states of the chain that may
change from run to run, every run attempts the minimum net debt above what the run before it could
redeem, which was less than that one had attempted. Where the first call pinned a rate, all calls
carry it; and where it pinned none, every call carries a rate up to one that was worked out from the
state that its own run read, and no redemption rate from the time of that state on is above it. -/
theorem continuations_keep_rate {amount : Decimal} {gasLimit : Option UInt64}
    {others : List RedemptionRun}
    (hfirst : (first.context.redeem amount pinned gasLimit first.seed).Yields first.trace
      (.ok first.redemption))
    (hchain : (first :: others).IsChain Continues) :
    first.redemption.attempted = amount ∧ (first :: others).IsChain Resumes ∧
      ∀ run ∈ first :: others, run.KeepsRate pinned := by
  have hprepared := preparedUnder_of_chain ⟨amount, gasLimit, hfirst⟩ hchain
  obtain ⟨_, _, _, path⟩ := redeem_yields_ok hfirst
  refine ⟨path.attempted_eq, ?_, fun run hrun => (hprepared run hrun).keepsRate⟩
  exact hchain.imp_of_mem_imp fun _ _ hearlier _ h => (h.step (hprepared _ hearlier)).2

/-! ## A chain of two -/

/-- A debt of ten thousand, of which a part can be redeemed, seconds after the base rate was set. -/
def redeemableTables (baseRate : UInt8) (redeemable : UInt64) : Tables :=
  { Context.soleKindTables with
    baseRate := (Decimal.thousandths baseRate).raw
    activePool := ⟨(Decimal.ofUInt64 10000).raw, .empty⟩
    redemption := ⟨.zero, .zero, (Decimal.ofUInt64 redeemable).raw⟩ }

/-- A redemption of five thousand that covers four thousand, and its continuation after the base
rate has doubled. -/
def twoRuns (pinned : Option Decimal) :
    Except (Failure Error) (RedemptionRun × RedemptionRun) := do
  let asked := (Context.soleSender.redeem (.ofUInt64 5000) pinned none .zero).walk
    (redeemableTables 10 4000).reply
  let redemption ← asked.2
  let continued := (redemption.topUp Context.soleSender none .zero).walk
    (redeemableTables 20 3000).reply
  let continuation ← continued.2
  return (⟨Context.soleSender, .zero, asked.1, redemption⟩,
    ⟨Context.soleSender, .zero, continued.1, continuation⟩)

theorem twoRuns_eq_ok {first second : RedemptionRun} (h : twoRuns pinned = .ok (first, second)) :
    (first.context.redeem (.ofUInt64 5000) pinned none first.seed).Yields first.trace
        (.ok first.redemption) ∧
      [first, second].IsChain Continues := by
  obtain ⟨redemption, hasked, h⟩ := bind_eq_ok_iff.1 h
  obtain ⟨continuation, hcontinued, h⟩ := bind_eq_ok_iff.1 h
  cases h
  refine ⟨?_, List.isChain_pair.2 ?_⟩
  · rw [← hasked]
    exact yields_walk _ _
  · rw [Continues, ← hcontinued]
    exact yields_walk _ _

theorem twoRuns_fees :
    (twoRuns none).map (fun runs => (runs.1.maxFee?, runs.2.maxFee?)) =
        .ok (some (Decimal.thousandths 216).raw, some (Decimal.thousandths 176).raw) ∧
      (twoRuns (some (.thousandths 20))).map (fun runs => (runs.1.maxFee?, runs.2.maxFee?)) =
        .ok (some (Decimal.thousandths 20).raw, some (Decimal.thousandths 20).raw) := by
  decide +kernel

/-- Without a pinned rate the two calls carry two rates, and with one they carry it both. -/
theorem twoRuns_keep_rate :
    ∃ own ownNext held heldNext : RedemptionRun,
      twoRuns none = .ok (own, ownNext) ∧
      twoRuns (some (.thousandths 20)) = .ok (held, heldNext) ∧
      own.maxFee? = some (Decimal.thousandths 216).raw ∧
      ownNext.maxFee? = some (Decimal.thousandths 176).raw ∧
      own.redemption.attempted = .ofUInt64 5000 ∧ [own, ownNext].IsChain Resumes ∧
      (∀ run ∈ [own, ownNext], run.KeepsRate none) ∧
      held.redemption.attempted = .ofUInt64 5000 ∧ [held, heldNext].IsChain Resumes ∧
      ∀ run ∈ [held, heldNext], run.KeepsRate (some (.thousandths 20)) := by
  obtain ⟨hown, hheld⟩ := twoRuns_fees
  rcases hnone : twoRuns none with _ | ⟨own, ownNext⟩
  · rw [hnone] at hown
    cases hown
  · rcases hsome : twoRuns (some (.thousandths 20)) with _ | ⟨held, heldNext⟩
    · rw [hsome] at hheld
      cases hheld
    · rw [hnone, Except.map, Except.ok.injEq, Prod.mk.injEq] at hown
      obtain ⟨hfirst, hchain⟩ := twoRuns_eq_ok hnone
      obtain ⟨hfirst', hchain'⟩ := twoRuns_eq_ok hsome
      obtain ⟨hamount, hresumes, hkeeps⟩ := continuations_keep_rate hfirst hchain
      obtain ⟨hamount', hresumes', hkeeps'⟩ := continuations_keep_rate hfirst' hchain'
      exact ⟨own, ownNext, held, heldNext, rfl, rfl, hown.1, hown.2, hamount, hresumes, hkeeps,
        hamount', hresumes', hkeeps'⟩

end RedemptionRun

end Cdp
