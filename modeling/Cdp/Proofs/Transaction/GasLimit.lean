import Cdp.Proofs.Transaction.Estimates
import Cdp.Proofs.Transaction.OpeningWindow
import Cdp.Transaction.Closing
import Cdp.Transaction.Redemption

/-!
# Gas limits of prepared transactions

A gas limit has to cover every estimate that was made for it, and should fit a block where the
estimates do. `GasEstimate.Covers` says so of a limit and its headroom, and both ways to pad an
estimate give a limit that covers (`padded_covers`, `dual_covers`), also where their sums stop at
the largest counter.

A preparation sets the limit of its call in its last steps, after steps that only read and compute.
`Limits` says of a procedure, on all of its runs, what the limit of its call has to do with the
estimates of the run. It has one rule for each way that the preparations are built, and
`prepare_carries` puts them together for the six transactions that can be prepared.
-/

set_option autoImplicit false

namespace Cdp

open Procedure

/-! ## One limit -/

namespace GasEstimate

/-- A limit with its headroom over `now`, the estimate of the call as it is, where `largest` is the
largest estimate and `blockLimit` the gas limit of a block. -/
structure Covers (gas : GasEstimate) (blockLimit now largest : UInt64) : Prop where
  largest_le : largest ≤ gas.gasLimit
  /-- The headroom is what the limit leaves over the estimate: the difference does not wrap. -/
  now_add_headroom : now.toNat + gas.headroom.toNat = gas.gasLimit.toNat
  within_block : largest ≤ blockLimit → gas.gasLimit ≤ blockLimit
  beyond_block : blockLimit < largest → gas.gasLimit = largest

variable {policy : Policy} {now floor later limit padding updateGas : UInt64}

/-- The cap never undercuts the floor, so the floor decides where a block is too small for it,
whatever the padding came to. -/
theorem capped_covers (h : now ≤ floor) :
    (capped policy now floor limit).Covers policy.blockGasLimit now floor := by
  have hlimit : (capped policy now floor limit).gasLimit.toNat =
      max (min limit.toNat policy.blockGasLimit.toNat) floor.toNat := by
    rw [← UInt64.toNat_min, ← UInt64.toNat_max]
    rfl
  have hfloor : floor ≤ (capped policy now floor limit).gasLimit := by
    rw [UInt64.le_iff_toNat_le, hlimit]
    exact Nat.le_max_right _ _
  have hnow : now ≤ (capped policy now floor limit).gasLimit := UInt64.le_trans h hfloor
  constructor
  case largest_le => exact hfloor
  case now_add_headroom =>
    have hheadroom : (capped policy now floor limit).headroom.toNat =
        (capped policy now floor limit).gasLimit.toNat - now.toNat :=
      UInt64.toNat_sub_of_le _ _ hnow
    rw [hheadroom, Nat.add_sub_cancel' (UInt64.le_iff_toNat_le.1 hnow)]
  case within_block =>
    intro hblock
    rw [UInt64.le_iff_toNat_le] at hblock ⊢
    rw [hlimit]
    exact Nat.max_le.2 ⟨Nat.min_le_right _ _, hblock⟩
  case beyond_block =>
    intro hblock
    have hmin : min limit.toNat policy.blockGasLimit.toNat ≤ floor.toNat :=
      Nat.le_trans (Nat.min_le_right _ _) (Nat.le_of_lt (UInt64.lt_iff_toNat_lt.1 hblock))
    apply UInt64.toNat_inj.1
    rw [hlimit, Nat.max_eq_right hmin]

theorem padded_covers : (padded policy now padding).Covers policy.blockGasLimit now now :=
  capped_covers (UInt64.le_refl now)

theorem dual_covers :
    (dual policy now later updateGas).Covers policy.blockGasLimit now (max now later) := by
  apply capped_covers
  rw [UInt64.le_iff_toNat_le, UInt64.toNat_max]
  exact Nat.le_max_left _ _

end GasEstimate

/-! ## The estimates of a run -/

/-- A call whose gas was asked for, and the answer. -/
abbrev AskedEstimate := ContractCall × Except ChainError UInt64

/-- The estimate that an exchange asks for. -/
def askedEstimate? : Exchange Chain → Option AskedEstimate
  | ⟨ChainRequest.estimateGas call, answer⟩ => some (call, answer)
  | _ => none

/-- The estimates that were asked along a trace, in their order. -/
def askedEstimates (trace : List (Exchange Chain)) : List AskedEstimate :=
  trace.filterMap askedEstimate?

/-- Every estimate was answered, and `largest` is the largest answer. -/
structure Largest (largest : UInt64) (asked : List AskedEstimate) : Prop where
  answered : ∃ call, (call, .ok largest) ∈ asked
  bounds : ∀ call answer, (call, answer) ∈ asked → ∃ gas, answer = .ok gas ∧ gas ≤ largest

/-- The call and headroom of a preparation whose limit is pinned: there is no estimate, and the call
carries the limit as it was given. -/
def CarriesPinned (limit : UInt64) (asked : List AskedEstimate)
    (result : Except (Failure Error) (ContractCall × Option UInt64)) : Prop :=
  asked = [] ∧
    ∀ call headroom, result = .ok (call, headroom) → call.gasLimit = some limit ∧ headroom = none

/-- The call and headroom of a preparation that estimates. The first estimate is of the call as it
stands without its limit. There is no call where no estimate was asked or one failed, and nowhere
else. -/
def CarriesCovering (blockLimit : UInt64) (asked : List AskedEstimate) :
    Except (Failure Error) (ContractCall × Option UInt64) → Prop
  | .ok (call, headroom) => ∃ now others largest gas,
      asked = ({ call with gasLimit := none }, .ok now) :: others ∧ Largest largest asked ∧
      GasEstimate.Covers gas blockLimit now largest ∧
      call.gasLimit = some gas.gasLimit ∧ headroom = some gas.headroom
  | .error _ => asked = [] ∨ ∃ call e, (call, .error e) ∈ asked

/-- What a preparation gives, with a pinned limit or without one. -/
def Carries (blockLimit : UInt64) (pinned : Option UInt64) (asked : List AskedEstimate)
    (result : Except (Failure Error) (ContractCall × Option UInt64)) : Prop :=
  match pinned with
  | some limit => CarriesPinned limit asked result
  | none => CarriesCovering blockLimit asked result

theorem askedEstimates_append (front rest : List (Exchange Chain)) :
    askedEstimates (front ++ rest) = askedEstimates front ++ askedEstimates rest :=
  List.filterMap_append

theorem map_fst_askedEstimates (trace : List (Exchange Chain)) :
    (askedEstimates trace).map Prod.fst = estimatedCalls trace := by
  rw [askedEstimates, List.map_filterMap, estimatedCalls]
  congr 1
  funext e
  obtain ⟨request, answer⟩ := e
  cases request <;> rfl

theorem askedEstimates_of_reads {tag : BlockTag} {trace : List (Exchange Chain)}
    (h : ∀ e ∈ trace, ReadsAt tag e.request) : askedEstimates trace = [] := by
  apply List.map_eq_nil_iff.1
  rw [map_fst_askedEstimates]
  exact estimatedCalls_of_reads h

/-! ## Rules -/

/-- On every run the call and headroom in the result are what they should be. -/
def Limits {α : Type} (blockLimit : UInt64) (pinned : Option UInt64)
    (view : α → ContractCall × Option UInt64) (p : ChainProcedure α) : Prop :=
  ∀ trace result, p.Yields trace result →
    Carries blockLimit pinned (askedEstimates trace) (result.map view)

section Rules

variable {α β : Type} {blockLimit : UInt64} {pinned : Option UInt64}
  {view : β → ContractCall × Option UInt64}

theorem carries_nil_error {e : Failure Error} : Carries blockLimit pinned [] (.error e) := by
  cases pinned with
  | some limit => exact ⟨rfl, nofun⟩
  | none => exact Or.inl rfl

theorem limits_fail {e : Failure Error} : Limits blockLimit pinned view (.fail e) := by
  intro trace result h
  obtain ⟨rfl, rfl⟩ := yields_done_iff.1 h
  exact carries_nil_error

/-- What only reads and computes comes before the estimates. -/
theorem limits_bind {p : ChainProcedure α} {f : α → ChainProcedure β}
    (hp : Asks (ReadsAt .latest) p) (hf : ∀ a, Limits blockLimit pinned view (f a)) :
    Limits blockLimit pinned view (p >>= f) := by
  intro trace result h
  rcases yields_bind_iff.1 h with ⟨front, rest, a, rfl, hfront, hrest⟩ | ⟨e, he, rfl⟩
  · have hnone := askedEstimates_of_reads (hp.forall_mem hfront)
    rw [askedEstimates_append, hnone, List.nil_append]
    exact hf a rest result hrest
  · rw [askedEstimates_of_reads (hp.forall_mem he)]
    exact carries_nil_error

theorem limits_compute {x : Except (Failure Error) α} {f : α → ChainProcedure β}
    (hf : ∀ a, Limits blockLimit pinned view (f a)) :
    Limits blockLimit pinned view ((done x : ChainProcedure α) >>= f) :=
  limits_bind (.done x) hf

/-- A refusal before the estimates. -/
theorem limits_guard {c : Prop} [Decidable c] {e : Failure Error} {f : Unit → ChainProcedure β}
    (hf : Limits blockLimit pinned view (f ())) :
    Limits blockLimit pinned view (if c then (.fail e : ChainProcedure Unit) >>= f else f ()) := by
  split
  · exact limits_fail
  · exact hf

/-- Two ways to the same estimates. -/
theorem limits_branch {c : Prop} [Decidable c] {p q : ChainProcedure α} {f : α → ChainProcedure β}
    (hp : Asks (ReadsAt .latest) p) (hq : Asks (ReadsAt .latest) q)
    (hf : ∀ a, Limits blockLimit pinned view (f a)) :
    Limits blockLimit pinned view (if c then p >>= f else q >>= f) := by
  split
  · exact limits_bind hp hf
  · exact limits_bind hq hf

/-- The call and headroom go into the result as they are. -/
theorem limits_last {p : ChainProcedure (ContractCall × Option UInt64)}
    {f : ContractCall × Option UInt64 → β} (hp : Limits blockLimit pinned id p)
    (hview : ∀ priced, view (f priced) = priced) :
    Limits blockLimit pinned view (p >>= fun priced => pure (f priced)) := by
  intro trace result h
  obtain ⟨x, hx, rfl⟩ := yields_map_iff.1 h
  have hsame : (x.map f).map view = x.map id := by
    cases x with
    | error e => rfl
    | ok priced => exact congrArg Except.ok (hview priced)
  rw [hsame]
  exact hp trace x hx

theorem Limits.carries {p : ChainProcedure β} {trace : List (Exchange Chain)}
    {result : Except (Failure Error) (ContractCall × Option UInt64)}
    (hp : Limits blockLimit pinned view p) (h : (view <$> p).Yields trace result) :
    Carries blockLimit pinned (askedEstimates trace) result := by
  obtain ⟨x, hx, rfl⟩ := yields_map_iff.1 h
  exact hp trace x hx

end Rules

theorem largest_singleton {call : ContractCall} {gas : UInt64} :
    Largest gas [(call, .ok gas)] := by
  constructor
  case answered => exact ⟨call, List.mem_singleton_self _⟩
  case bounds =>
    intro other answer hmem
    cases List.mem_singleton.1 hmem
    exact ⟨gas, rfl, UInt64.le_refl gas⟩

theorem largest_pair {call later : ContractCall} {now soon : UInt64} :
    Largest (max now soon) [(call, .ok now), (later, .ok soon)] := by
  have hmax : (max now soon).toNat = max now.toNat soon.toNat := UInt64.toNat_max ..
  constructor
  case answered =>
    rcases Nat.le_total now.toNat soon.toNat with hle | hle
    · obtain hsoon : max now soon = soon := UInt64.toNat_inj.1 (hmax.trans (Nat.max_eq_right hle))
      rw [hsoon]
      exact ⟨later, List.mem_cons_of_mem _ (List.mem_singleton_self _)⟩
    · obtain hnow : max now soon = now := UInt64.toNat_inj.1 (hmax.trans (Nat.max_eq_left hle))
      rw [hnow]
      exact ⟨call, List.mem_cons_self⟩
  case bounds =>
    intro other answer hmem
    rcases List.mem_cons.1 hmem with heq | hmem
    · cases heq
      refine ⟨now, rfl, ?_⟩
      rw [UInt64.le_iff_toNat_le, hmax]
      exact Nat.le_max_left _ _
    · cases List.mem_singleton.1 hmem
      refine ⟨soon, rfl, ?_⟩
      rw [UInt64.le_iff_toNat_le, hmax]
      exact Nat.le_max_right _ _

namespace Context

variable {context : Context} {call later : ContractCall}

/-- An estimate either gives a number to go on with or ends the whole. -/
theorem estimate_bind_yields {α : Type} {f : UInt64 → ChainProcedure α}
    {trace : List (Exchange Chain)} {result : Except (Failure Error) α}
    (h : (estimate call >>= f).Yields trace result) :
    (∃ now rest, askedEstimates trace = (call, .ok now) :: askedEstimates rest ∧
        (f now).Yields rest result) ∨
      ∃ e, askedEstimates trace = [(call, .error e)] ∧ result = .error (.refused (.chain e)) := by
  rcases yields_bind_iff.1 h with ⟨front, rest, now, rfl, hnow, hrest⟩ | ⟨e, he, rfl⟩
  · obtain rfl := yields_request_ok_iff.1 hnow
    exact Or.inl ⟨now, rest, rfl, hrest⟩
  · obtain ⟨answer, rfl, hanswer⟩ := yields_request_iff.1 he
    cases answer with
    | ok now => cases hanswer
    | error cause =>
      cases hanswer
      exact Or.inr ⟨cause, rfl, rfl⟩

theorem limits_withGas {pinned : Option UInt64} {padding : UInt64} (hcall : call.gasLimit = none) :
    Limits context.policy.blockGasLimit pinned id (context.withGas call pinned padding) := by
  intro trace result h
  cases pinned with
  | some limit =>
    obtain ⟨rfl, rfl⟩ := yields_done_iff.1 h
    refine ⟨rfl, ?_⟩
    intro priced headroom heq
    cases heq
    exact ⟨rfl, rfl⟩
  | none =>
    rcases estimate_bind_yields h with ⟨now, rest, hasked, hrest⟩ | ⟨e, hasked, rfl⟩
    · obtain ⟨rfl, rfl⟩ := yields_done_iff.1 hrest
      rw [hasked]
      refine ⟨now, [], now, _, ?_, largest_singleton, GasEstimate.padded_covers, rfl, rfl⟩
      rw [← hcall]
      rfl
    · rw [hasked]
      exact Or.inr ⟨call, e, List.mem_singleton_self _⟩

theorem limits_withDualGas {updateGas : UInt64} (hcall : call.gasLimit = none) :
    Limits context.policy.blockGasLimit none id (context.withDualGas call later updateGas) := by
  intro trace result h
  rcases estimate_bind_yields h with ⟨now, rest, hasked, hrest⟩ | ⟨e, hasked, rfl⟩
  · rw [hasked]
    rcases estimate_bind_yields hrest with ⟨soon, rest', hasked', hrest'⟩ | ⟨e, hasked', rfl⟩
    · obtain ⟨rfl, rfl⟩ := yields_done_iff.1 hrest'
      rw [hasked']
      refine ⟨now, [(later, .ok soon)], max now soon, _, ?_, largest_pair,
        GasEstimate.dual_covers, rfl, rfl⟩
      rw [← hcall]
      rfl
    · rw [hasked']
      exact Or.inr ⟨later, e, List.mem_cons_of_mem _ (List.mem_singleton_self _)⟩
  · rw [hasked]
    exact Or.inr ⟨call, e, List.mem_singleton_self _⟩

end Context

/-! ## The six preparations -/

/-- The call and headroom of a prepared transaction. -/
def Prepared.priced {P : Type} (prepared : Prepared P) : ContractCall × Option UInt64 :=
  (prepared.call, prepared.gasHeadroom)

/-- The transactions that can be prepared, with what the caller asks for in each. -/
inductive Operation where
  | openTrove (params : OpenParams) (maxRate : Option Decimal) (seed : Word)
  | adjustTrove (params : AdjustParams) (maxRate : Option Decimal) (seed : Word)
  | closeTrove (unlever : AddressMap Unlever)
  | redeem (amount : Decimal) (maxRate : Option Decimal) (seed : Word)
  | liquidate (owners : List Address)
  | liquidateUpTo (count : UInt64)

/-- The call and headroom that preparing a transaction gives. -/
def Operation.prepare (context : Context) (gasLimit : Option UInt64) :
    Operation → ChainProcedure (ContractCall × Option UInt64)
  | .openTrove params maxRate seed =>
    Prepared.priced <$> context.openTrove params maxRate gasLimit seed
  | .adjustTrove params maxRate seed =>
    Prepared.priced <$> context.adjustTrove params maxRate gasLimit seed
  | .closeTrove unlever => Prepared.priced <$> context.closeTrove unlever gasLimit
  | .redeem amount maxRate seed =>
    (fun redemption => redemption.transaction.priced) <$>
      context.redeem amount maxRate gasLimit seed
  | .liquidate owners => Prepared.priced <$> context.liquidate owners gasLimit
  | .liquidateUpTo count => Prepared.priced <$> context.liquidateUpTo count gasLimit

namespace Context

variable {context : Context} {gasLimit : Option UInt64} {maxRate : Option Decimal} {seed : Word}

theorem limits_openTrove {params : OpenParams} :
    Limits context.policy.blockGasLimit gasLimit Prepared.priced
      (context.openTrove params maxRate gasLimit seed) := by
  refine limits_compute fun _ => limits_bind Chain.asks_readState fun state => ?_
  refine limits_compute fun _ => limits_compute fun fees => limits_compute fun rate => ?_
  refine limits_compute fun levered => limits_compute fun effective => ?_
  refine limits_compute fun trove => limits_bind HintFinder.asks_findForTrove fun hints => ?_
  refine limits_compute fun defaultRate => limits_compute fun data => ?_
  cases gasLimit with
  | some limit => exact limits_last (limits_withGas rfl) fun _ => rfl
  | none =>
    refine limits_compute fun later => limits_compute fun updateGas => ?_
    exact limits_last (limits_withDualGas rfl) fun _ => rfl

theorem limits_adjustTrove {params : AdjustParams} :
    Limits context.policy.blockGasLimit gasLimit Prepared.priced
      (context.adjustTrove params maxRate gasLimit seed) := by
  refine limits_compute fun _ => limits_guard ?_
  refine limits_bind Chain.asks_readState fun state => limits_compute fun _ => ?_
  refine limits_bind (Chain.asks_readTrove _ _) fun user => limits_compute fun trove => ?_
  refine limits_compute fun fees => limits_compute fun rate => limits_compute fun levered => ?_
  refine limits_compute fun effective => limits_compute fun adjusted => ?_
  refine limits_bind HintFinder.asks_findForTrove fun hints => ?_
  refine limits_branch (.done _) (.done _) fun defaultRate => limits_compute fun data => ?_
  cases gasLimit with
  | some limit => exact limits_last (limits_withGas rfl) fun _ => rfl
  | none =>
    cases effective.isBorrowing with
    | false => exact limits_last (limits_withGas rfl) fun _ => rfl
    | true =>
      refine limits_compute fun later => limits_compute fun updateGas => ?_
      exact limits_last (limits_withDualGas rfl) fun _ => rfl

theorem limits_closeTrove {unlever : AddressMap Unlever} :
    Limits context.policy.blockGasLimit gasLimit Prepared.priced
      (context.closeTrove unlever gasLimit) := by
  refine limits_bind (asks_forM (fun _ => .done _) _) fun _ => ?_
  refine limits_bind Chain.asks_readWhitelist.readsAt fun whitelist => ?_
  refine limits_compute fun _ => limits_bind (Chain.asks_readTrove _ _) fun user => ?_
  refine limits_compute fun trove => limits_compute fun data => ?_
  exact limits_last (limits_withGas rfl) fun _ => rfl

theorem limits_redeemFound {amount : Decimal} (state : SystemState) (found : RedemptionHints) :
    Limits context.policy.blockGasLimit gasLimit (fun redemption => redemption.transaction.priced)
      (context.redeemFound amount maxRate gasLimit seed state found) := by
  rw [redeemFound]
  refine limits_guard (limits_branch (.done _) HintFinder.asks_findWithSeed fun hints => ?_)
  refine limits_compute fun fees => ?_
  cases maxRate <;>
    refine limits_compute fun rate => limits_compute fun padding => ?_ <;>
    exact limits_last (limits_withGas rfl) fun _ => rfl

theorem limits_redeem {amount : Decimal} :
    Limits context.policy.blockGasLimit gasLimit (fun redemption => redemption.transaction.priced)
      (context.redeem amount maxRate gasLimit seed) := by
  refine limits_compute fun _ => limits_bind Chain.asks_readState fun state => ?_
  exact limits_bind (asks_readAt _) fun found => limits_redeemFound state found

theorem limits_prepareLiquidation {data : Bytes} :
    Limits context.policy.blockGasLimit gasLimit Prepared.priced
      (context.prepareLiquidation data gasLimit) := by
  refine limits_bind Chain.asks_readWhitelist.readsAt fun whitelist => ?_
  exact limits_last (limits_withGas rfl) fun _ => rfl

theorem limits_liquidate {owners : List Address} :
    Limits context.policy.blockGasLimit gasLimit Prepared.priced
      (context.liquidate owners gasLimit) := by
  rw [liquidate]
  split
  · exact limits_fail
  · exact limits_prepareLiquidation

theorem limits_liquidateUpTo {count : UInt64} :
    Limits context.policy.blockGasLimit gasLimit Prepared.priced
      (context.liquidateUpTo count gasLimit) := by
  rw [liquidateUpTo]
  split
  · exact limits_fail
  · exact limits_prepareLiquidation

end Context

namespace Operation

/-- What a preparation does with gas, whatever the transaction and on every run. With a pinned limit
it asks for no estimate, and the call carries that limit and has no headroom. Without one, the call
carries a limit that covers the largest estimate of the run, with the headroom over the estimate of
the call itself; and it comes to a call wherever estimates were asked and all were answered. -/
theorem prepare_carries {context : Context} {gasLimit : Option UInt64} {operation : Operation}
    {trace : List (Exchange Chain)}
    {result : Except (Failure Error) (ContractCall × Option UInt64)}
    (h : (operation.prepare context gasLimit).Yields trace result) :
    Carries context.policy.blockGasLimit gasLimit (askedEstimates trace) result := by
  cases operation with
  | openTrove params maxRate seed => exact Context.limits_openTrove.carries h
  | adjustTrove params maxRate seed => exact Context.limits_adjustTrove.carries h
  | closeTrove unlever => exact Context.limits_closeTrove.carries h
  | redeem amount maxRate seed => exact Context.limits_redeem.carries h
  | liquidate owners => exact Context.limits_liquidate.carries h
  | liquidateUpTo count => exact Context.limits_liquidateUpTo.carries h

/-- The run of the doubled opening on its tables. -/
def doubledRun (gasLimit : Option UInt64) :
    List (Exchange Chain) × Except (Failure Error) (ContractCall × Option UInt64) :=
  ((openTrove Context.doubledOpening none .zero).prepare Context.soleSender gasLimit).walk
    Context.soleKindTables.reply

theorem doubledRun_limits :
    (doubledRun none).2.map (fun priced => (priced.1.gasLimit, priced.2)) =
        .ok (some 340656, some 40656) ∧
      (doubledRun (some 7)).2.map (fun priced => (priced.1.gasLimit, priced.2)) =
        .ok (some 7, none) := by
  decide +kernel

/-- The doubled opening, with two estimates and with a pinned limit. -/
theorem doubledRun_carries :
    (askedEstimates (doubledRun none).1).length = 2 ∧
      (doubledRun none).2.map (fun priced => (priced.1.gasLimit, priced.2)) =
        .ok (some 340656, some 40656) ∧
      Carries Context.soleSender.policy.blockGasLimit none (askedEstimates (doubledRun none).1)
        (doubledRun none).2 ∧
      (doubledRun (some 7)).2.map (fun priced => (priced.1.gasLimit, priced.2)) =
        .ok (some 7, none) ∧
      Carries Context.soleSender.policy.blockGasLimit (some 7)
        (askedEstimates (doubledRun (some 7)).1) (doubledRun (some 7)).2 := by
  obtain ⟨hestimated, hpinned⟩ := doubledRun_limits
  refine ⟨by decide +kernel, hestimated, ?_, hpinned, ?_⟩
  · exact prepare_carries (yields_walk Context.soleKindTables.reply _)
  · exact prepare_carries (yields_walk Context.soleKindTables.reply _)

end Operation

end Cdp
