import Cdp.Proofs.Transaction.GasLimit

/-!
# Flawed requests

A request to prepare a transaction can break a rule that its parameters alone decide: an amount is
zero or infinite, a kind is on both sides, leverage or slippage is out of bounds. `FlawedAtOnce` and
`LeverageFlawed` list these flaws with the error that names each.

Most flaws are found before anything is asked, so every run is refused with the same error. Those of
leverage are found where leverage is applied, behind the read of the system's state: such a request
never succeeds, but a chain that fails first is what the caller is told. The main statement
`refusedAlike_iff` says that all runs of a request are refused with one error exactly when it has a
flaw of the first kind.
-/

set_option autoImplicit false

namespace Cdp

open Procedure

/-! ## Checks -/

/-- A check is refused with a flaw, or it passes and there is none. -/
def Checks {ε : Type} (x : Attempt ε Unit) (Flaw : ε → Prop) : Prop :=
  (∃ e, x = .error (.refused e) ∧ Flaw e) ∨ x = .ok () ∧ ∀ e, ¬Flaw e

namespace Checks

variable {α ε δ : Type} {x y : Attempt ε Unit} {F G : ε → Prop}

theorem not_flaw (h : Checks x F) (hok : x = .ok ()) {e : ε} : ¬F e := by
  rcases h with ⟨e', herror, -⟩ | ⟨-, hnone⟩
  · cases hok.symm.trans herror
  · exact hnone e

theorem congr (h : Checks x F) (hiff : ∀ e, F e ↔ G e) : Checks x G := by
  obtain rfl : F = G := funext fun e => propext (hiff e)
  exact h

theorem pass : Checks (.ok () : Attempt ε Unit) fun _ => False := .inr ⟨rfl, fun _ => id⟩

/-- A rule that is broken is refused, else the next check decides. -/
theorem guard (c : Prop) [Decidable c] {cause : ε} (hx : x = .error (.refused cause))
    (hy : Checks y G) : Checks (if c then x else y) fun e => c ∧ e = cause ∨ G e := by
  split
  case isTrue h => exact .inl ⟨cause, hx, .inl ⟨h, rfl⟩⟩
  case isFalse h => exact hy.congr fun e => by simp [h]

theorem refuseIf (c : Prop) [Decidable c] (cause : ε) :
    Checks (if c then Attempt.refuse cause else pure ()) fun e => c ∧ e = cause :=
  (guard c rfl pass).congr fun _ => or_iff_left id

theorem bind (hx : Checks x F) (hy : Checks y G) :
    Checks (x >>= fun _ => y) fun e => F e ∨ G e := by
  rcases hx with ⟨e, rfl, hflaw⟩ | ⟨rfl, hnone⟩
  · exact .inl ⟨e, rfl, .inl hflaw⟩
  · exact hy.congr fun e => by simp [hnone e]

theorem forM {f : α → Attempt ε Unit} {F : α → ε → Prop} (h : ∀ a, Checks (f a) (F a))
    (as : List α) : Checks (as.forM f) fun e => ∃ a ∈ as, F a e := by
  induction as with
  | nil => exact pass.congr fun e => by simp
  | cons a rest ih => exact ((h a).bind ih).congr fun e => by simp

theorem mapCause (h : Checks x F) (f : ε → δ) :
    Checks (x.mapCause f) fun e => ∃ cause, F cause ∧ e = f cause := by
  rcases h with ⟨e, rfl, hflaw⟩ | ⟨rfl, hnone⟩
  · exact .inl ⟨f e, rfl, e, hflaw, rfl⟩
  · refine .inr ⟨rfl, ?_⟩
    rintro _ ⟨cause, hflaw, -⟩
    exact hnone cause hflaw

end Checks

/-! ## Flaws of parameters -/

/-- An amount that no transaction can move. -/
def Decimal.Unusable (amount : Decimal) : Prop :=
  amount.isZero = true ∨ amount.isInfinite = true

theorem checks_requireAmount (amount : Decimal) (role : AmountRole) :
    Checks (requireAmount amount role) fun e => amount.Unusable ∧ e = .invalidAmount role := by
  refine (Checks.refuseIf _ _).congr fun e => ?_
  rw [Bool.or_eq_true, Decimal.Unusable]

theorem checks_requireAmounts (amounts : Collaterals) (role : Address → AmountRole) :
    Checks (requireAmounts amounts role) fun e => ∃ kind amount,
      amounts.get? kind = some amount ∧ amount.Unusable ∧ e = .invalidAmount (role kind) := by
  have hentries := Checks.forM
    (fun entry : Address × Decimal => checks_requireAmount entry.2 (role entry.1)) amounts.entries
  refine hentries.congr fun e => ?_
  constructor
  · rintro ⟨⟨kind, amount⟩, hmem, hflaw⟩
    exact ⟨kind, amount, amounts.get?_eq_some_iff.2 hmem, hflaw⟩
  · rintro ⟨kind, amount, hget, hflaw⟩
    exact ⟨(kind, amount), amounts.get?_eq_some_iff.1 hget, hflaw⟩

/-- The flaws of creation parameters. -/
inductive CreationParams.Flaw (params : CreationParams) : TroveError → Prop where
  | noDeposit (h : params.deposit.isEmpty = true) : Flaw params (.invalidParams .noDeposit)
  | deposit {kind : Address} {amount : Decimal} (h : params.deposit.get? kind = some amount)
      (hamount : amount.Unusable) : Flaw params (.invalidAmount (.deposit kind))
  | borrow (h : params.borrow.Unusable) : Flaw params (.invalidAmount .borrow)

theorem CreationParams.checks_validate (params : CreationParams) :
    Checks params.validate params.Flaw := by
  have hamounts := (checks_requireAmounts params.deposit .deposit).bind
    (checks_requireAmount params.borrow .borrow)
  refine (Checks.guard (params.deposit.isEmpty = true) rfl hamounts).congr fun e => ?_
  constructor
  · rintro (⟨h, rfl⟩ | ⟨kind, amount, hget, hamount, rfl⟩ | ⟨h, rfl⟩)
    · exact .noDeposit h
    · exact .deposit hget hamount
    · exact .borrow h
  · rintro (h | ⟨hget, hamount⟩ | h)
    · exact .inl ⟨h, rfl⟩
    · exact .inr (.inl ⟨_, _, hget, hamount, rfl⟩)
    · exact .inr (.inr ⟨h, rfl⟩)

/-- The flaws of adjustment parameters. -/
inductive AdjustmentParams.Flaw (params : AdjustmentParams) : TroveError → Prop where
  | nothingChanges (h : params.isEmpty = true) : Flaw params (.invalidParams .nothingChanges)
  | deposit {kind : Address} {amount : Decimal} (h : params.deposit.get? kind = some amount)
      (hamount : amount.Unusable) : Flaw params (.invalidAmount (.deposit kind))
  | withdrawal {kind : Address} {amount : Decimal} (h : params.withdraw.get? kind = some amount)
      (hamount : amount.Unusable) : Flaw params (.invalidAmount (.withdrawal kind))
  | bothSides {kind : Address} (hdeposit : params.deposit.contains kind = true)
      (hwithdraw : params.withdraw.contains kind = true) : Flaw params (.duplicateCollateral kind)
  | borrow {amount : Decimal} (h : params.debt = some (.borrow amount))
      (hamount : amount.Unusable) : Flaw params (.invalidAmount .borrow)
  | repayment {amount : Decimal} (h : params.debt = some (.repay amount))
      (hamount : amount.Unusable) : Flaw params (.invalidAmount .repayment)

namespace AdjustmentParams

variable {params : AdjustmentParams}

/-- A kind on both sides is refused, else the next check decides. -/
theorem checks_sides {y : Attempt TroveError Unit} {G : TroveError → Prop} (hy : Checks y G) :
    Checks (match params.deposit.keys.find? params.withdraw.contains with
      | some kind => Attempt.refuse (.duplicateCollateral kind)
      | none => y) fun e => (∃ kind, params.deposit.contains kind = true ∧
        params.withdraw.contains kind = true ∧ e = .duplicateCollateral kind) ∨ G e := by
  cases hfind : params.deposit.keys.find? params.withdraw.contains with
  | some kind =>
    have hdeposit := params.deposit.contains_iff.2 (List.mem_of_find?_eq_some hfind)
    exact .inl ⟨_, rfl, .inl ⟨kind, hdeposit, List.find?_some hfind, rfl⟩⟩
  | none =>
    refine hy.congr fun e => ⟨.inr, ?_⟩
    rintro (⟨kind, hdeposit, hwithdraw, -⟩ | h)
    · have hkind := params.deposit.contains_iff.1 hdeposit
      exact absurd hwithdraw (List.find?_eq_none.1 hfind kind hkind)
    · exact h

theorem checks_debt (debt : Option DebtChange) :
    Checks (match debt with
      | some (.borrow amount) => requireAmount amount .borrow
      | some (.repay amount) => requireAmount amount .repayment
      | none => pure ()) fun e => ∃ amount, amount.Unusable ∧
        (debt = some (.borrow amount) ∧ e = .invalidAmount .borrow ∨
          debt = some (.repay amount) ∧ e = .invalidAmount .repayment) := by
  cases debt with
  | none => exact Checks.pass.congr fun e => by simp
  | some change =>
    cases change with
    | borrow amount => exact (checks_requireAmount _ _).congr fun e => by simp
    | repay amount => exact (checks_requireAmount _ _).congr fun e => by simp

theorem checks_validate (params : AdjustmentParams) : Checks params.validate params.Flaw := by
  have hamounts := (checks_requireAmounts params.deposit .deposit).bind
    ((checks_requireAmounts params.withdraw .withdrawal).bind
      (params.checks_sides (checks_debt params.debt)))
  refine (Checks.guard (params.isEmpty = true) rfl hamounts).congr fun e => ?_
  constructor
  · rintro (⟨h, rfl⟩ | ⟨kind, amount, hget, hamount, rfl⟩ | ⟨kind, amount, hget, hamount, rfl⟩ |
      ⟨kind, hdeposit, hwithdraw, rfl⟩ | ⟨amount, hamount, ⟨h, rfl⟩ | ⟨h, rfl⟩⟩)
    · exact .nothingChanges h
    · exact .deposit hget hamount
    · exact .withdrawal hget hamount
    · exact .bothSides hdeposit hwithdraw
    · exact .borrow h hamount
    · exact .repayment h hamount
  · rintro (h | ⟨hget, hamount⟩ | ⟨hget, hamount⟩ | ⟨hdeposit, hwithdraw⟩ | ⟨h, hamount⟩ |
      ⟨h, hamount⟩)
    · exact .inl ⟨h, rfl⟩
    · exact .inr (.inl ⟨_, _, hget, hamount, rfl⟩)
    · exact .inr (.inr (.inl ⟨_, _, hget, hamount, rfl⟩))
    · exact .inr (.inr (.inr (.inl ⟨_, hdeposit, hwithdraw, rfl⟩)))
    · exact .inr (.inr (.inr (.inr ⟨_, hamount, .inl ⟨h, rfl⟩⟩)))
    · exact .inr (.inr (.inr (.inr ⟨_, hamount, .inr ⟨h, rfl⟩⟩)))

end AdjustmentParams

/-- The flaws of what is sold for a kind on closing. -/
inductive Unlever.Flaw (unlever : Unlever) (kind : Address) : Error → Prop where
  | amount (h : unlever.amount.Unusable) :
      Flaw unlever kind (.trove (.invalidAmount (.unlever kind)))
  | slippage (h : .one < unlever.maxSlippage) :
      Flaw unlever kind (.invalidParams (.slippage kind unlever.maxSlippage))

theorem Unlever.checks_validate (unlever : Unlever) (kind : Address) :
    Checks (unlever.validate kind) (unlever.Flaw kind) := by
  have hamount := (checks_requireAmount unlever.amount (.unlever kind)).mapCause Error.trove
  have hslippage := Checks.refuseIf (.one < unlever.maxSlippage)
    (Error.invalidParams (.slippage kind unlever.maxSlippage))
  refine (hamount.bind hslippage).congr fun e => ?_
  constructor
  · rintro (⟨_, ⟨h, rfl⟩, rfl⟩ | ⟨h, rfl⟩)
    · exact .amount h
    · exact .slippage h
  · rintro (h | h)
    · exact .inl ⟨_, ⟨h, rfl⟩, rfl⟩
    · exact .inr ⟨h, rfl⟩

/-- The flaws of the leverage of a kind. -/
inductive LeverUp.Flaw (lever : LeverUp) (kind : Address) : TroveError → Prop where
  | leverage (h : lever.leverage < .one ∨ lever.leverage.isInfinite = true) :
      Flaw lever kind (.invalidLeverage kind lever.leverage)
  | slippage (h : .one < lever.maxSlippage) :
      Flaw lever kind (.invalidParams (.slippage kind lever.maxSlippage))

theorem LeverUp.checks_validate (lever : LeverUp) (kind : Address) :
    Checks (lever.validate kind) (lever.Flaw kind) := by
  have hslippage := Checks.refuseIf (.one < lever.maxSlippage)
    (TroveError.invalidParams (.slippage kind lever.maxSlippage))
  have hleverage : Checks (lever.validate kind) _ :=
    Checks.guard ((decide (lever.leverage < .one) || lever.leverage.isInfinite) = true) rfl
      hslippage
  refine hleverage.congr fun e => ?_
  rw [Bool.or_eq_true, decide_eq_true_iff]
  constructor
  · rintro (⟨h, rfl⟩ | ⟨h, rfl⟩)
    · exact .leverage h
    · exact .slippage h
  · rintro (h | h)
    · exact .inl ⟨h, rfl⟩
    · exact .inr ⟨h, rfl⟩

/-- The flaws of leverage for a deposit. -/
inductive LeverageFlaw (deposit : Collaterals) (leverage : AddressMap LeverUp) :
    TroveError → Prop where
  | noDeposit {kind : Address} {lever : LeverUp} (h : leverage.get? kind = some lever)
      (hdeposit : deposit.get? kind = none) :
      LeverageFlaw deposit leverage (.invalidParams (.leverageWithoutDeposit kind))
  | lever {kind : Address} {lever : LeverUp} {e : TroveError} (h : leverage.get? kind = some lever)
      (hlever : lever.Flaw kind e) : LeverageFlaw deposit leverage e

/-- Leverage that is applied has no flaw. -/
theorem not_leverageFlaw {deposit : Collaterals} {leverage : AddressMap LeverUp} {prices : Prices}
    {levered : LeveredDeposit} (h : leverUp deposit leverage prices = .ok levered)
    (e : TroveError) : ¬LeverageFlaw deposit leverage e := by
  -- the walk over the kinds stops at the first without a deposit or with bad leverage
  have hentries : ∀ entry ∈ leverage.entries, deposit.get? entry.1 ≠ none ∧
      entry.2.validate entry.1 = .ok () := by
    refine foldlM_eq_ok_induct (P := fun entries _ => ∀ entry ∈ entries,
      deposit.get? entry.1 ≠ none ∧ entry.2.validate entry.1 = .ok ()) nofun ?_ h
    intro done entry acc acc' _ hdone hstep
    obtain ⟨amount, hamount, hstep⟩ := bind_eq_ok_iff.1 hstep
    obtain ⟨_, hvalid, -⟩ := bind_eq_ok_iff.1 hstep
    rw [Attempt.ofOption_eq_ok_iff] at hamount
    refine List.forall_mem_append.2 ⟨hdone, List.forall_mem_singleton.2 ⟨?_, hvalid⟩⟩
    rw [hamount]
    exact nofun
  rintro (⟨h, hdeposit⟩ | ⟨h, hlever⟩)
  · exact (hentries _ (leverage.get?_eq_some_iff.1 h)).1 hdeposit
  · have hvalid := (hentries _ (leverage.get?_eq_some_iff.1 h)).2
    exact (LeverUp.checks_validate _ _).not_flaw hvalid hlever

/-! ## Checks before anything is asked -/

section Procedures

variable {α β : Type} {p : ChainProcedure α} {f : α → ChainProcedure β} {Flaw G : Error → Prop}

/-- Computations one after another are a computation. -/
theorem Procedure.forM_done {I : Interface} {ε : Type} (f : α → Except ε PUnit) (as : List α) :
    (as.forM fun a => (done (f a) : Procedure I ε PUnit)) = done (as.forM f) := by
  induction as with
  | nil => rfl
  | cons a rest ih =>
    change ((done (f a) : Procedure I ε PUnit) >>= fun _ => rest.forM fun a => done (f a)) =
      done (f a >>= fun _ => rest.forM f)
    rw [ih]
    cases f a <;> rfl

/-- Every run is refused with this error. -/
def RefusedAlike (p : ChainProcedure α) (e : Error) : Prop :=
  ∀ trace result, p.Yields trace result → result = .error (.refused e)

/-- Any failure of the chain can be what a run is refused with. -/
def Exposed (p : ChainProcedure α) : Prop :=
  ∀ cause, ∃ trace, p.Yields trace (.error (.refused (.chain cause)))

theorem exposed_readAt (q : Query) (tag : BlockTag) : Exposed (readAt q tag) :=
  fun cause => ⟨[⟨.read q tag, .error cause⟩], .ask (.done _)⟩

theorem exposed_bind (hp : Exposed p) : Exposed (p >>= f) := by
  intro cause
  obtain ⟨trace, htrace⟩ := hp cause
  exact ⟨trace, yields_bind_iff.2 (.inr ⟨_, htrace, rfl⟩)⟩

theorem Chain.exposed_readWhitelist (tag : BlockTag) : Exposed (readWhitelist tag) :=
  exposed_bind (exposed_readAt _ _)

theorem Chain.exposed_readState (tag : BlockTag) : Exposed (readState tag) :=
  exposed_bind (exposed_readAt _ _)

/-- A procedure is refused with a flaw before it asks anything, or there is none and any failure of
the chain can come first. -/
def ChecksFirst (p : ChainProcedure α) (Flaw : Error → Prop) : Prop :=
  (∃ e, Flaw e ∧ p = .done (.error (.refused e))) ∨ (∀ e, ¬Flaw e) ∧ Exposed p

namespace ChecksFirst

theorem congr (h : ChecksFirst p Flaw) (hiff : ∀ e, Flaw e ↔ G e) : ChecksFirst p G := by
  obtain rfl : Flaw = G := funext fun e => propext (hiff e)
  exact h

theorem of_exposed (h : Exposed p) : ChecksFirst p fun _ => False := .inr ⟨fun _ => id, h⟩

theorem check {x : Attempt Error Unit} (hx : Checks x Flaw) (hp : ChecksFirst p G) :
    ChecksFirst ((done x : ChainProcedure Unit) >>= fun _ => p) fun e => Flaw e ∨ G e := by
  rcases hx with ⟨e, rfl, hflaw⟩ | ⟨rfl, hnone⟩
  · exact .inl ⟨e, .inl hflaw, rfl⟩
  · exact hp.congr fun e => by simp [hnone e]

theorem guard (c : Prop) [Decidable c] {cause : Error} {q : ChainProcedure α}
    (hq : q = .done (.error (.refused cause))) (hp : Exposed p) :
    ChecksFirst (if c then q else p) fun e => c ∧ e = cause := by
  split
  case isTrue h => exact .inl ⟨cause, ⟨h, rfl⟩, hq⟩
  case isFalse h => exact (of_exposed hp).congr fun e => by simp [h]

theorem map (h : ChecksFirst p Flaw) (g : α → β) : ChecksFirst (g <$> p) Flaw := by
  rcases h with ⟨e, hflaw, rfl⟩ | ⟨hnone, hexposed⟩
  · exact .inl ⟨e, hflaw, rfl⟩
  · rw [map_eq_bind]
    exact .inr ⟨hnone, exposed_bind hexposed⟩

/-- All runs are refused alike exactly when there is a flaw, and then with one. -/
theorem refusedAlike_iff (h : ChecksFirst p Flaw) :
    (∃ e, RefusedAlike p e) ↔ ∃ e, Flaw e := by
  rcases h with ⟨e, hflaw, rfl⟩ | ⟨hnone, hexposed⟩
  · exact ⟨fun _ => ⟨e, hflaw⟩, fun _ => ⟨e, fun _ _ hp => (yields_done_iff.1 hp).2.symm⟩⟩
  · constructor
    · rintro ⟨e, halike⟩
      -- two failures of the chain cannot be the same error
      obtain ⟨trace, htrace⟩ := hexposed (.reverted "")
      obtain ⟨trace', htrace'⟩ := hexposed (.transport "")
      cases (halike _ _ htrace).trans (halike _ _ htrace').symm
    · rintro ⟨e, hflaw⟩
      exact absurd hflaw (hnone e)

end ChecksFirst

end Procedures

/-! ## The six preparations -/

namespace Context

variable {context : Context} {gasLimit : Option UInt64} {maxRate : Option Decimal} {seed : Word}

theorem checksFirst_openTrove {params : OpenParams} :
    ChecksFirst (context.openTrove params maxRate gasLimit seed) fun e =>
      ∃ cause, params.trove.Flaw cause ∧ e = .trove cause := by
  have hvalid := params.trove.checks_validate.mapCause Error.trove
  refine (ChecksFirst.check hvalid (.of_exposed ?_)).congr fun _ => or_iff_left id
  exact exposed_bind (Chain.exposed_readState _)

theorem checksFirst_adjustTrove {params : AdjustParams} :
    ChecksFirst (context.adjustTrove params maxRate gasLimit seed) fun e =>
      (∃ cause, params.adjustment.Flaw cause ∧ e = .trove cause) ∨
        (!params.leverage.isEmpty && params.adjustment.isRepaying) = true ∧
          e = .invalidParams .repayWhileLevering := by
  have hvalid := params.adjustment.checks_validate.mapCause Error.trove
  refine ChecksFirst.check hvalid (.guard _ rfl ?_)
  exact exposed_bind (Chain.exposed_readState _)

theorem checksFirst_closeTrove {unlever : AddressMap Unlever} :
    ChecksFirst (context.closeTrove unlever gasLimit) fun e =>
      ∃ kind sold, unlever.get? kind = some sold ∧ sold.Flaw kind e := by
  have hentries := Checks.forM (fun entry : Address × Unlever => entry.2.checks_validate entry.1)
    unlever.entries
  -- the loop over what is sold is one check, though it is written as a procedure
  rw [closeTrove]
  change ChecksFirst ((unlever.entries.forM fun entry =>
    (done (entry.2.validate entry.1) : ChainProcedure Unit)) >>= fun _ => _) _
  rw [forM_done]
  refine (ChecksFirst.check hentries (.of_exposed ?_)).congr fun e => ?_
  · exact exposed_bind (Chain.exposed_readWhitelist _)
  · constructor
    · rintro (⟨⟨kind, sold⟩, hmem, hflaw⟩ | h)
      · exact ⟨kind, sold, unlever.get?_eq_some_iff.2 hmem, hflaw⟩
      · exact h.elim
    · rintro ⟨kind, sold, hget, hflaw⟩
      exact .inl ⟨(kind, sold), unlever.get?_eq_some_iff.1 hget, hflaw⟩

theorem checksFirst_redeem {amount : Decimal} :
    ChecksFirst (context.redeem amount maxRate gasLimit seed) fun e =>
      amount.Unusable ∧ e = .trove (.invalidAmount .redemption) := by
  have hamount := (checks_requireAmount amount .redemption).mapCause Error.trove
  refine (ChecksFirst.check hamount (.of_exposed ?_)).congr fun e => ?_
  · exact exposed_bind (Chain.exposed_readState _)
  · constructor
    · rintro (⟨_, ⟨h, rfl⟩, rfl⟩ | h)
      · exact ⟨h, rfl⟩
      · exact h.elim
    · rintro ⟨h, rfl⟩
      exact .inl ⟨_, ⟨h, rfl⟩, rfl⟩

theorem exposed_prepareLiquidation {data : Bytes} :
    Exposed (context.prepareLiquidation data gasLimit) :=
  exposed_bind (Chain.exposed_readWhitelist _)

theorem checksFirst_liquidate {owners : List Address} :
    ChecksFirst (context.liquidate owners gasLimit) fun e =>
      owners.isEmpty = true ∧ e = .invalidParams .nothingToLiquidate :=
  .guard _ rfl exposed_prepareLiquidation

theorem checksFirst_liquidateUpTo {count : UInt64} :
    ChecksFirst (context.liquidateUpTo count gasLimit) fun e =>
      count = 0 ∧ e = .invalidParams .nothingToLiquidate :=
  .guard _ rfl exposed_prepareLiquidation

theorem openTrove_not_leverageFlaw {params : OpenParams} {trace : List (Exchange Chain)}
    {prepared : Prepared TroveChangeParser}
    (h : (context.openTrove params maxRate gasLimit seed).Yields trace (.ok prepared))
    (cause : TroveError) : ¬LeverageFlaw params.trove.deposit params.leverage cause := by
  rw [openTrove] at h
  obtain ⟨_, _, _, rfl, -, h⟩ := yields_bind_ok_iff.1 h
  obtain ⟨_, _, state, rfl, -, h⟩ := yields_bind_ok_iff.1 h
  dsimp only at h
  obtain ⟨_, _, _, rfl, -, h⟩ := yields_bind_ok_iff.1 h
  obtain ⟨_, _, fees, rfl, -, h⟩ := yields_bind_ok_iff.1 h
  obtain ⟨_, _, rate, rfl, -, h⟩ := yields_bind_ok_iff.1 h
  obtain ⟨_, _, levered, rfl, hlevered, h⟩ := yields_bind_ok_iff.1 h
  exact not_leverageFlaw (yields_liftM_trove_ok_iff.1 hlevered).2 cause

theorem adjustTrove_not_leverageFlaw {params : AdjustParams} {trace : List (Exchange Chain)}
    {prepared : Prepared TroveChangeParser}
    (h : (context.adjustTrove params maxRate gasLimit seed).Yields trace (.ok prepared))
    (cause : TroveError) : ¬LeverageFlaw params.adjustment.deposit params.leverage cause := by
  rw [adjustTrove] at h
  obtain ⟨_, _, _, rfl, -, h⟩ := yields_bind_ok_iff.1 h
  split at h
  · obtain ⟨_, _, _, rfl, hfail, h⟩ := yields_bind_ok_iff.1 h
    cases (yields_done_iff.1 hfail).2
  · obtain ⟨_, _, state, rfl, -, h⟩ := yields_bind_ok_iff.1 h
    dsimp only at h
    obtain ⟨_, _, _, rfl, -, h⟩ := yields_bind_ok_iff.1 h
    obtain ⟨_, _, user, rfl, -, h⟩ := yields_bind_ok_iff.1 h
    obtain ⟨_, _, trove, rfl, -, h⟩ := yields_bind_ok_iff.1 h
    obtain ⟨_, _, fees, rfl, -, h⟩ := yields_bind_ok_iff.1 h
    obtain ⟨_, _, rate, rfl, -, h⟩ := yields_bind_ok_iff.1 h
    obtain ⟨_, _, levered, rfl, hlevered, h⟩ := yields_bind_ok_iff.1 h
    exact not_leverageFlaw (yields_liftM_trove_ok_iff.1 hlevered).2 cause

end Context

namespace Operation

/-- The flaws that are found before anything is asked. -/
inductive FlawedAtOnce : Operation → Error → Prop where
  | openTrove {params : OpenParams} {maxRate : Option Decimal} {seed : Word} {cause : TroveError}
      (h : params.trove.Flaw cause) : FlawedAtOnce (.openTrove params maxRate seed) (.trove cause)
  | adjustTrove {params : AdjustParams} {maxRate : Option Decimal} {seed : Word}
      {cause : TroveError} (h : params.adjustment.Flaw cause) :
      FlawedAtOnce (.adjustTrove params maxRate seed) (.trove cause)
  | repayWhileLevering {params : AdjustParams} {maxRate : Option Decimal} {seed : Word}
      (hleverage : params.leverage.isEmpty = false)
      (hrepaying : params.adjustment.isRepaying = true) :
      FlawedAtOnce (.adjustTrove params maxRate seed) (.invalidParams .repayWhileLevering)
  | closeTrove {unlever : AddressMap Unlever} {kind : Address} {sold : Unlever} {e : Error}
      (h : unlever.get? kind = some sold) (hflaw : sold.Flaw kind e) :
      FlawedAtOnce (.closeTrove unlever) e
  | redeem {amount : Decimal} {maxRate : Option Decimal} {seed : Word} (h : amount.Unusable) :
      FlawedAtOnce (.redeem amount maxRate seed) (.trove (.invalidAmount .redemption))
  | liquidate : FlawedAtOnce (.liquidate []) (.invalidParams .nothingToLiquidate)
  | liquidateUpTo : FlawedAtOnce (.liquidateUpTo 0) (.invalidParams .nothingToLiquidate)

/-- The flaws of leverage, which are found where it is applied. -/
inductive LeverageFlawed : Operation → Error → Prop where
  | openTrove {params : OpenParams} {maxRate : Option Decimal} {seed : Word} {cause : TroveError}
      (h : LeverageFlaw params.trove.deposit params.leverage cause) :
      LeverageFlawed (.openTrove params maxRate seed) (.trove cause)
  | adjustTrove {params : AdjustParams} {maxRate : Option Decimal} {seed : Word}
      {cause : TroveError} (h : LeverageFlaw params.adjustment.deposit params.leverage cause) :
      LeverageFlawed (.adjustTrove params maxRate seed) (.trove cause)

variable {context : Context} {gasLimit : Option UInt64} {operation : Operation}

theorem checksFirst_prepare :
    ChecksFirst (operation.prepare context gasLimit) operation.FlawedAtOnce := by
  cases operation with
  | openTrove params maxRate seed =>
    refine (Context.checksFirst_openTrove.map _).congr fun e => ⟨?_, ?_⟩
    · rintro ⟨cause, hflaw, rfl⟩
      exact .openTrove hflaw
    · intro h
      cases h with
      | openTrove hflaw => exact ⟨_, hflaw, rfl⟩
  | adjustTrove params maxRate seed =>
    refine (Context.checksFirst_adjustTrove.map _).congr fun e => ⟨?_, ?_⟩
    · rintro (⟨cause, hflaw, rfl⟩ | ⟨h, rfl⟩)
      · exact .adjustTrove hflaw
      · rw [Bool.and_eq_true, Bool.not_eq_true'] at h
        exact .repayWhileLevering h.1 h.2
    · intro h
      cases h with
      | adjustTrove hflaw => exact .inl ⟨_, hflaw, rfl⟩
      | repayWhileLevering hleverage hrepaying =>
        refine .inr ⟨?_, rfl⟩
        rw [hleverage, hrepaying]
        rfl
  | closeTrove unlever =>
    refine (Context.checksFirst_closeTrove.map _).congr fun e => ⟨?_, ?_⟩
    · rintro ⟨kind, sold, hget, hflaw⟩
      exact .closeTrove hget hflaw
    · intro h
      cases h with
      | closeTrove hget hflaw => exact ⟨_, _, hget, hflaw⟩
  | redeem amount maxRate seed =>
    refine (Context.checksFirst_redeem.map _).congr fun e => ⟨?_, ?_⟩
    · rintro ⟨h, rfl⟩
      exact .redeem h
    · intro h
      cases h with
      | redeem hamount => exact ⟨hamount, rfl⟩
  | liquidate owners =>
    refine (Context.checksFirst_liquidate.map _).congr fun e => ⟨?_, ?_⟩
    · rintro ⟨h, rfl⟩
      obtain rfl := List.isEmpty_iff.1 h
      exact .liquidate
    · intro h
      cases h with
      | liquidate => exact ⟨rfl, rfl⟩
  | liquidateUpTo count =>
    refine (Context.checksFirst_liquidateUpTo.map _).congr fun e => ⟨?_, ?_⟩
    · rintro ⟨rfl, rfl⟩
      exact .liquidateUpTo
    · intro h
      cases h with
      | liquidateUpTo => exact ⟨rfl, rfl⟩

theorem not_yields_of_leverageFlawed {e : Error} (h : operation.LeverageFlawed e)
    {trace : List (Exchange Chain)} {priced : ContractCall × Option UInt64} :
    ¬(operation.prepare context gasLimit).Yields trace (.ok priced) := by
  intro hyields
  cases h with
  | openTrove hflaw =>
    obtain ⟨result, hresult, hpriced⟩ := yields_map_iff.1 hyields
    cases result with
    | error failure => cases hpriced
    | ok prepared => exact Context.openTrove_not_leverageFlaw hresult _ hflaw
  | adjustTrove hflaw =>
    obtain ⟨result, hresult, hpriced⟩ := yields_map_iff.1 hyields
    cases result with
    | error failure => cases hpriced
    | ok prepared => exact Context.adjustTrove_not_leverageFlaw hresult _ hflaw

/-- All runs of a request, against whatever chain, are refused with one and the same error exactly
when the request has a flaw that is found at once. The error then names such a flaw and nothing has
been asked. Without one, a run can be refused with any failure of the chain, though a request with a
flaw of leverage never succeeds. -/
theorem prepare_refusedAlike_iff (context : Context) (gasLimit : Option UInt64)
    (operation : Operation) :
    ((∃ e, RefusedAlike (operation.prepare context gasLimit) e) ↔
        ∃ e, operation.FlawedAtOnce e) ∧
      (∀ flaw, operation.FlawedAtOnce flaw → ∃ e, operation.FlawedAtOnce e ∧
        ∀ trace result, (operation.prepare context gasLimit).Yields trace result →
          trace = [] ∧ result = .error (.refused e)) ∧
      ((∀ e, ¬operation.FlawedAtOnce e) → ∀ cause, ∃ trace,
        (operation.prepare context gasLimit).Yields trace (.error (.refused (.chain cause)))) ∧
      (∀ e, operation.LeverageFlawed e → ∀ trace priced,
        ¬(operation.prepare context gasLimit).Yields trace (.ok priced)) := by
  have hfirst : ChecksFirst (operation.prepare context gasLimit) operation.FlawedAtOnce :=
    checksFirst_prepare
  refine ⟨hfirst.refusedAlike_iff, ?_, ?_, fun _ hflaw _ _ => not_yields_of_leverageFlawed hflaw⟩
  · intro flaw hflaw
    rcases hfirst with ⟨e, he, hdone⟩ | ⟨hnone, -⟩
    · refine ⟨e, he, fun trace result hyields => ?_⟩
      rw [hdone] at hyields
      obtain ⟨rfl, rfl⟩ := yields_done_iff.1 hyields
      exact ⟨rfl, rfl⟩
    · exact absurd hflaw (hnone flaw)
  · intro hnone
    rcases hfirst with ⟨e, he, -⟩ | ⟨-, hexposed⟩
    · exact absurd he (hnone e)
    · exact hexposed

/-! ## An opening with half a leverage -/

/-- One half. -/
def half : Decimal := ⟨.wrap 500000000000000000⟩

/-- Ten units of the kind, levered by one half, and a borrow of three thousand. -/
def halvedOpening : Operation :=
  .openTrove ⟨⟨.ofList [(Context.soleKind, .ofUInt64 10)], .ofUInt64 3000⟩,
    .ofList [(Context.soleKind, ⟨half, .zero⟩)]⟩ none .zero

theorem halvedOpening_leverageFlawed :
    halvedOpening.LeverageFlawed (.trove (.invalidLeverage Context.soleKind half)) := by
  have hget : (AddressMap.ofList [(Context.soleKind, (⟨half, .zero⟩ : LeverUp))]).get?
      Context.soleKind = some ⟨half, .zero⟩ := rfl
  exact .openTrove (.lever hget (.leverage (.inl (by decide))))

/-- Where the chain answers, the leverage is what the opening is refused with. -/
theorem halvedOpening_refused :
    resultOn Context.soleKindTables.reply (halvedOpening.prepare Context.soleSender none) =
      .error (.refused (.trove (.invalidLeverage Context.soleKind half))) := by
  decide +kernel

theorem halvedOpening_not_flawedAtOnce (e : Error) : ¬halvedOpening.FlawedAtOnce e := by
  rcases checksFirst_prepare with ⟨_, -, hdone⟩ | ⟨hnone, -⟩
  · -- the opening reads the state first
    have hasks : ∃ next, halvedOpening.prepare Context.soleSender none =
        .ask (.read .block .latest) next := ⟨_, rfl⟩
    obtain ⟨next, hasks⟩ := hasks
    cases hasks.symm.trans hdone
  · exact hnone e

/-- What holds of every request, for a liquidation of nobody and for the halved opening. -/
theorem halvedOpening_exposed :
    (∃ e, RefusedAlike ((Operation.liquidate []).prepare Context.soleSender none) e) ∧
      (∀ cause, ∃ trace, (halvedOpening.prepare Context.soleSender none).Yields trace
        (.error (.refused (.chain cause)))) ∧
      ∀ trace priced,
        ¬(halvedOpening.prepare Context.soleSender none).Yields trace (.ok priced) := by
  obtain ⟨halike, -, -, -⟩ := prepare_refusedAlike_iff Context.soleSender none (.liquidate [])
  obtain ⟨-, -, hexposed, hnever⟩ := prepare_refusedAlike_iff Context.soleSender none halvedOpening
  exact ⟨halike.2 ⟨_, .liquidate⟩, hexposed halvedOpening_not_flawedAtOnce,
    hnever _ halvedOpening_leverageFlawed⟩

/-- It is not true that every flawed request is refused with the same error on all chains: a chain
that answers tells of the leverage, and one that does not only of itself. -/
theorem halvedOpening_masked :
    ¬∀ (context : Context) (gasLimit : Option UInt64) (operation : Operation) (flaw : Error),
      operation.FlawedAtOnce flaw ∨ operation.LeverageFlawed flaw →
        ∃ e, RefusedAlike (operation.prepare context gasLimit) e := by
  intro h
  obtain ⟨e, halike⟩ := h Context.soleSender none halvedOpening _
    (.inr halvedOpening_leverageFlawed)
  have hanswered := halike _ _ (yields_walk Context.soleKindTables.reply _)
  rw [← resultOn, halvedOpening_refused] at hanswered
  have hdead : (halvedOpening.prepare Context.soleSender none).Yields
      [⟨.read .block .latest, .error (.transport "")⟩]
      (.error (.refused (.chain (.transport "")))) :=
    .ask (.done _)
  cases hanswered.trans (halike _ _ hdead).symm

end Operation

end Cdp
