import Cdp.Proofs.Chain.Requests
import Cdp.Proofs.Keeper.Queue

/-!
# Refreshing the queue

A refresh asks nothing but reads (`asks_refreshOnly`), and one that fails leaves the queue as it was
(`queue_of_refreshOnly_error`). One that succeeds has scanned the tail of the list: `TailScan` holds
what was read on the way, and each part of it comes from the part before.

The queue behind a refresh keeps the owners that were scanned and puts the new healths over the old
ones (`refreshOnly_scans`). An owner whose Trove is scanned and is not open has no new health, so an
old one stays: the queue is up to date exactly when no owner like this had been in it before
(`refreshOnly_upToDate_iff`), and there are passes after which it is not (`refresh_keeps_closed`).
-/

set_option autoImplicit false

namespace Cdp

open Procedure

/-- A member of the second of two related lists has a partner in the first. -/
theorem exists_of_mem_right {α β : Type} {R : α → β → Prop} {as : List α} {bs : List β} {b : β}
    (h : List.Forall₂ R as bs) (hb : b ∈ bs) : ∃ a ∈ as, R a b := by
  induction h with
  | nil => cases hb
  | cons hab _ ih =>
    rcases List.mem_cons.1 hb with rfl | hb
    · exact ⟨_, List.mem_cons_self, hab⟩
    · obtain ⟨a, ha, hr⟩ := ih hb
      exact ⟨a, List.mem_cons_of_mem _ ha, hr⟩

/-- A request is a read. -/
def IsRead (r : Chain.Request) : Prop := ∃ tag, ReadsAt tag r

theorem Procedure.Asks.isRead {ε α : Type} {tag : BlockTag} {p : Procedure Chain ε α}
    (hp : Asks (ReadsAt tag) p) : Asks IsRead p :=
  hp.mono fun _ hr => ⟨tag, hr⟩

namespace Chain

variable {tag : BlockTag} {trace : List (Exchange Chain)}

/-! ## Reading the tail -/

theorem asks_walkUp {depth : Nat} {current : Address} :
    Asks (ReadsAt tag) (walkUp tag depth current) := by
  induction depth generalizing current with
  | zero => exact .done _
  | succ depth ih =>
    rw [walkUp]
    split
    · exact .done _
    · exact asks_bind (asks_readAt _) fun next => asks_bind ih fun others => .done _

theorem asks_scanTail (depth : Nat) : Asks (ReadsAt tag) (scanTail depth tag) :=
  asks_bind (asks_readAt _) fun _ => asks_walkUp

theorem length_of_walkUp {depth : Nat} {current : Address} {owners : List Address}
    (h : (walkUp tag depth current).Yields trace (.ok owners)) : owners.length ≤ depth := by
  induction depth generalizing current trace owners with
  | zero =>
    obtain ⟨-, rfl⟩ := yields_pure_ok_iff.1 h
    exact Nat.le_refl 0
  | succ depth ih =>
    rw [walkUp] at h
    split at h
    · obtain ⟨-, rfl⟩ := yields_pure_ok_iff.1 h
      exact Nat.zero_le _
    · obtain ⟨_, _, next, -, -, hrest⟩ := yields_bind_ok_iff.1 h
      obtain ⟨_, _, others, -, hothers, hdone⟩ := yields_bind_ok_iff.1 hrest
      obtain ⟨-, rfl⟩ := yields_pure_ok_iff.1 hdone
      exact Nat.succ_le_succ (ih hothers)

/-- A scan stays within its depth. -/
theorem length_of_scanTail {depth : Nat} {owners : List Address}
    (h : (scanTail depth tag).Yields trace (.ok owners)) : owners.length ≤ depth := by
  obtain ⟨_, _, last, -, -, hwalk⟩ := yields_bind_ok_iff.1 h
  exact length_of_walkUp hwalk

/-! ## Reading Troves -/

theorem owner_of_readStoredTrove {owner : Address} {w : Whitelist} {stored : StoredTrove}
    (h : (readStoredTrove owner w tag).Yields trace (.ok stored)) : stored.user.owner = owner := by
  obtain ⟨_, _, code, -, -, h⟩ := yields_bind_ok_iff.1 h
  split at h
  · exact absurd (yields_done_iff.1 h).2 nofun
  · split at h
    · obtain ⟨-, rfl⟩ := yields_pure_ok_iff.1 h
      rfl
    · obtain ⟨_, _, debt, -, -, h⟩ := yields_bind_ok_iff.1 h
      obtain ⟨_, _, units, -, -, h⟩ := yields_bind_ok_iff.1 h
      obtain ⟨_, _, collaterals, -, -, h⟩ := yields_bind_ok_iff.1 h
      obtain ⟨_, _, perKind, -, -, h⟩ := yields_bind_ok_iff.1 h
      obtain ⟨-, rfl⟩ := yields_pure_ok_iff.1 h
      rfl

theorem owner_of_applyRedistribution {stored : StoredTrove} {totals : RewardTotals}
    {user : UserTrove} (h : stored.applyRedistribution totals = .ok user) :
    user.owner = stored.user.owner := by
  rw [StoredTrove.applyRedistribution] at h
  split at h
  · cases h
    rfl
  · obtain ⟨trove, -, huser⟩ := bind_eq_ok_iff.1 h
    cases huser
    rfl

/-- A Trove that was read is its owner's. -/
theorem owner_of_readTrove {owner : Address} {w : Whitelist} {user : UserTrove}
    (h : (readTrove owner w tag).Yields trace (.ok user)) : user.owner = owner := by
  obtain ⟨_, _, stored, -, hstored, h⟩ := yields_bind_ok_iff.1 h
  obtain ⟨_, _, totals, -, -, h⟩ := yields_bind_ok_iff.1 h
  have huser := (yields_liftM_trove_ok_iff.1 h).2
  exact (owner_of_applyRedistribution huser).trans (owner_of_readStoredTrove hstored)

theorem asks_assessTroves {w : Whitelist} {owners : List Address} {recoveryMode : Bool}
    {block : UInt64} :
    Asks (ReadsAt (.number block)) (assessTroves w owners recoveryMode block) := by
  refine asks_bind (asks_mapM (fun owner => asks_readTrove owner w) _) fun users => ?_
  exact asks_bind (asks_mapM (fun user => .done _) _) fun scores => .done _

end Chain

/-! ## Scoring -/

/-- Scoring asks nothing, and scores every Trove. -/
theorem scores_of_users {w : Whitelist} {users : List UserTrove} {recoveryMode : Bool}
    {block : UInt64} {found : List (Option TroveHealth)} {trace : List (Exchange Chain)}
    (h : (users.mapM fun user => (w.assess user recoveryMode block :
      Attempt Error (Option TroveHealth)) : ChainProcedure _).Yields trace (.ok found)) :
    trace = [] ∧ List.Forall₂ (fun user score =>
      w.assess user recoveryMode block = .ok score) users found := by
  constructor
  · have hnone := (asks_mapM (P := fun _ => False) (fun user => .done _) users).forall_mem h
    exact List.eq_nil_iff_forall_not_mem.2 hnone
  · have hscored : Ensures (fun _ => True) (users.mapM fun user =>
        (w.assess user recoveryMode block : Attempt Error (Option TroveHealth)) :
          ChainProcedure _)
        (List.Forall₂ (fun user score => w.assess user recoveryMode block = .ok score) users) :=
      ensures_mapM fun user => ensures_done fun score hscore =>
        Attempt.mapCause_eq_ok_iff.1 hscore
    exact hscored _ _ h fun _ _ => trivial

namespace Whitelist

variable {w : Whitelist} {user : UserTrove} {recoveryMode : Bool} {block : UInt64}

theorem assess_of_not_open (h : user.status.isOpen = false) :
    w.assess user recoveryMode block = .ok none := by
  rw [assess, h]
  rfl

/-- The score of an open Trove is its owner's, as of the block. -/
theorem assess_of_open {score : Option TroveHealth} (hopen : user.status.isOpen = true)
    (h : w.assess user recoveryMode block = .ok score) :
    ∃ health, score = some health ∧ health.owner = user.owner ∧ health.block = block := by
  rw [assess, hopen] at h
  obtain ⟨ratio, -, h⟩ := bind_eq_ok_iff.1 h
  obtain ⟨health, -, h⟩ := bind_eq_ok_iff.1 h
  cases h
  exact ⟨_, rfl, rfl, rfl⟩

end Whitelist

namespace Keeper

/-! ## What a refresh asks -/

theorem asks_inStage {α : Type} {stage : RefreshStage} {p : ChainProcedure α}
    {P : Chain.Request → Prop} (hp : Asks P p) : Asks P (inStage stage p) := by
  refine asks_onResult hp fun x => ?_
  cases x <;> exact .done _

theorem asks_rescore {queue : HealthQueue} {state : SystemState} {recoveryMode : Bool}
    {depth : Nat} : Asks IsRead (rescore queue state recoveryMode depth) := by
  refine asks_bind (asks_inStage (Chain.asks_scanTail depth).isRead) fun owners => ?_
  exact asks_bind (asks_inStage Chain.asks_assessTroves.isRead) fun scores => .done _

/-- A refresh asks nothing but reads. -/
theorem asks_refreshOnly {queue : HealthQueue} {limits : Limits} :
    Asks IsRead (refreshOnly queue limits) := by
  have hattempt : ∀ {α : Type} {p : Procedure Chain (Failure RefreshFailure) α},
      Asks IsRead p → Asks IsRead (p.attempt : Procedure Chain Empty _) :=
    fun hp => asks_onResult hp fun _ => .done _
  refine asks_bind (asks_bind (hattempt (asks_inStage Chain.asks_readState.isRead)) ?_) ?_
  · intro read
    cases read with
    | error failure => exact .done _
    | ok state =>
      dsimp only
      split
      · exact .done _
      · exact asks_bind (hattempt asks_rescore) fun result => .done _
  · intro refreshed
    split <;> exact .done _

theorem inStage_yields_ok_iff {α : Type} {stage : RefreshStage} {p : ChainProcedure α} {a : α}
    {trace : List (Exchange Chain)} :
    (inStage stage p).Yields trace (.ok a) ↔ p.Yields trace (.ok a) := by
  refine (yields_onResult_iff (Except.mapError (Failure.map fun cause => ⟨some stage, cause⟩))
    (by rintro (_ | _) <;> rfl)).trans ⟨?_, ?_⟩
  · rintro ⟨x, hp, hx⟩
    cases x with
    | error failure => cases hx
    | ok b =>
      cases hx
      exact hp
  · intro h
    exact ⟨.ok a, h, rfl⟩

end Keeper

/-! ## Scans -/

/-- What was read of the tail of the list along a trace: the state of the latest block, then at that
block up to `depth` owners and their Troves, and the score of each. -/
structure TailScan (depth : Nat) (trace : List (Exchange Chain)) where
  stateTrace : List (Exchange Chain)
  tailTrace : List (Exchange Chain)
  troveTrace : List (Exchange Chain)
  state : SystemState
  recoveryMode : Bool
  owners : List Address
  users : List UserTrove
  found : List (Option TroveHealth)
  trace_eq : trace = stateTrace ++ (tailTrace ++ troveTrace)
  state_read : (Chain.readState .latest).Yields stateTrace (.ok state)
  mode_known : state.isRecoveryMode = .ok recoveryMode
  owners_read :
    (Chain.scanTail depth (.number state.block.number)).Yields tailTrace (.ok owners)
  users_read : (owners.mapM fun owner =>
    Chain.readTrove owner state.whitelist (.number state.block.number)).Yields troveTrace
      (.ok users)
  users_scored : List.Forall₂ (fun user score =>
    state.whitelist.assess user recoveryMode state.block.number = .ok score) users found

namespace TailScan

variable {depth : Nat} {trace : List (Exchange Chain)} (scan : TailScan depth trace)
  {owner : Address} {queue : HealthQueue}

/-- The healths of the open Troves. -/
def scores : List TroveHealth := scan.found.filterMap id

/-- An owner was scanned, and the Trove is open. -/
def Open (owner : Address) : Prop :=
  ∃ user ∈ scan.users, user.owner = owner ∧ user.status.isOpen = true

/-- A queue holds the healths that the scan found as of its block, one for every owner who was
scanned with an open Trove, and nothing else. -/
structure UpToDate (q : HealthQueue) : Prop where
  fresh : ∀ owner h, q.get? owner = some h →
    scan.Open owner ∧ h ∈ scan.scores ∧ h.owner = owner ∧ h.block = scan.state.block.number
  complete : ∀ owner, scan.Open owner → (q.get? owner).isSome = true

/-- A trace shows one scan. -/
theorem unique (other : TailScan depth trace) : scan = other := by
  obtain ⟨front, tail, troves, state, mode, owners, users, found, htrace, hstate, hmode, howners,
    husers, hscored⟩ := scan
  obtain ⟨front', tail', troves', state', mode', owners', users', found', htrace', hstate', hmode',
    howners', husers', hscored'⟩ := other
  have hsame := htrace.symm.trans htrace'
  obtain ⟨rfl, heq⟩ := hstate.unique hstate' hsame
  cases heq
  cases hmode.symm.trans hmode'
  have hrest := List.append_cancel_left hsame
  obtain ⟨rfl, heq⟩ := howners.unique howners' hrest
  cases heq
  obtain rfl := List.append_cancel_left hrest
  have htroves : troves ++ [] = troves ++ [] := rfl
  cases (husers.unique husers' htroves).2
  obtain rfl : found = found' := by
    refine List.right_unique_forall₂' (fun user x y hx hy => ?_) hscored hscored'
    exact Except.ok.inj (hx.symm.trans hy)
  rfl

theorem length_owners : scan.owners.length ≤ depth := Chain.length_of_scanTail scan.owners_read

/-- The Troves were read for the owners in their order. -/
theorem owner_of_users : List.Forall₂ (fun owner user => user.owner = owner) scan.owners
    scan.users := by
  have hreads : Ensures (fun _ => True) (scan.owners.mapM fun owner =>
      Chain.readTrove owner scan.state.whitelist (.number scan.state.block.number))
      (List.Forall₂ (fun owner user => user.owner = owner) scan.owners) :=
    ensures_mapM fun owner trace user h _ => Chain.owner_of_readTrove h
  exact hreads _ _ scan.users_read fun _ _ => trivial

variable {scan} in
theorem Open.mem_owners (h : scan.Open owner) : owner ∈ scan.owners := by
  obtain ⟨user, huser, rfl, -⟩ := h
  obtain ⟨owner, howner, rfl⟩ := exists_of_mem_right scan.owner_of_users huser
  exact howner

/-- A health was found for an open Trove only, as of the block of the scan. -/
theorem open_of_mem_scores {h : TroveHealth} (hmem : h ∈ scan.scores) :
    scan.Open h.owner ∧ h.block = scan.state.block.number := by
  obtain ⟨score, hscore, hsome⟩ := List.mem_filterMap.1 hmem
  obtain rfl : score = some h := hsome
  obtain ⟨user, huser, hassess⟩ := exists_of_mem_right scan.users_scored hscore
  cases hopen : user.status.isOpen with
  | false =>
    rw [Whitelist.assess_of_not_open hopen] at hassess
    cases hassess
  | true =>
    obtain ⟨health, hhealth, howner, hblock⟩ := Whitelist.assess_of_open hopen hassess
    cases hhealth
    exact ⟨⟨user, huser, howner.symm, hopen⟩, hblock⟩

variable {scan} in
/-- Every open Trove has a health. -/
theorem Open.isSome_last? (h : scan.Open owner) :
    (HealthQueue.last? scan.scores owner).isSome = true := by
  obtain ⟨user, huser, rfl, hopen⟩ := h
  obtain ⟨score, hscore, hassess⟩ := exists_of_mem_right scan.users_scored.flip huser
  obtain ⟨health, rfl, howner, -⟩ := Whitelist.assess_of_open hopen hassess
  exact HealthQueue.isSome_last? (List.mem_filterMap.2 ⟨_, hscore, rfl⟩) howner

/-- Scanned owners keep their healths where there is no new one, all others have none. -/
theorem get?_rescored : ((queue.retain scan.owners).pushAll scan.scores).get? owner =
    if owner ∈ scan.owners then (HealthQueue.last? scan.scores owner).or (queue.get? owner)
    else none := by
  rw [HealthQueue.get?_pushAll, HealthQueue.get?_retain]
  by_cases howner : owner ∈ scan.owners
  · rw [if_pos howner, if_pos howner]
  · -- an owner with a new health has been scanned
    have hlast : HealthQueue.last? scan.scores owner = none := by
      rw [Option.eq_none_iff_forall_ne_some]
      intro h hsome
      obtain ⟨hmem, rfl⟩ := HealthQueue.last?_eq_some hsome
      exact howner (scan.open_of_mem_scores hmem).1.mem_owners
    rw [if_neg howner, if_neg howner, hlast]
    rfl

/-- The queue is up to date exactly when every scanned owner that it had before has an open
Trove. -/
theorem upToDate_rescored_iff : scan.UpToDate ((queue.retain scan.owners).pushAll scan.scores) ↔
    ∀ owner ∈ scan.owners, queue.get? owner ≠ none → scan.Open owner := by
  constructor
  · intro hdate owner howner hbefore
    -- the owner is still in the queue, and what is in it is a health of this scan
    obtain ⟨h, hsome⟩ : ∃ h, ((queue.retain scan.owners).pushAll scan.scores).get? owner =
        some h := by
      rw [← Option.isSome_iff_exists, scan.get?_rescored, if_pos howner, Option.isSome_or,
        Bool.or_eq_true]
      exact Or.inr (Option.isSome_iff_ne_none.2 hbefore)
    exact (hdate.fresh owner h hsome).1
  · intro hopen
    constructor
    · intro owner h hsome
      rw [scan.get?_rescored] at hsome
      split at hsome
      · rename_i howner
        rcases Option.or_eq_some_iff.1 hsome with hlast | ⟨hlast, hbefore⟩
        · obtain ⟨hmem, rfl⟩ := HealthQueue.last?_eq_some hlast
          obtain ⟨hwas, hblock⟩ := scan.open_of_mem_scores hmem
          exact ⟨hwas, hmem, rfl, hblock⟩
        · -- an old health stays only where there is no new one, but an open Trove has one
          have hwas := hopen owner howner (by simp [hbefore])
          exact absurd hwas.isSome_last? (by simp [hlast])
      · cases hsome
    · intro owner hwas
      rw [scan.get?_rescored, if_pos hwas.mem_owners, Option.isSome_or, hwas.isSome_last?]
      rfl

end TailScan

namespace Keeper

variable {queue : HealthQueue} {limits : Limits} {trace : List (Exchange Chain)}
  {report : Report HealthQueue}

/-! ## What a refresh does -/

theorem rescore_yields_ok {state : SystemState} {recoveryMode : Bool} {depth : Nat}
    {front : List (Exchange Chain)} {rescored : HealthQueue}
    (hstate : (Chain.readState .latest).Yields front (.ok state))
    (hmode : state.isRecoveryMode = .ok recoveryMode)
    (h : (rescore queue state recoveryMode depth).Yields trace (.ok rescored)) :
    ∃ scan : TailScan depth (front ++ trace),
      rescored = (queue.retain scan.owners).pushAll scan.scores := by
  obtain ⟨tail, troves, owners, rfl, howners, h⟩ := yields_bind_ok_iff.1 h
  obtain ⟨troves, _, scores, rfl, hscores, h⟩ := yields_bind_ok_iff.1 h
  obtain ⟨rfl, rfl⟩ := yields_pure_ok_iff.1 h
  obtain ⟨troves, _, users, rfl, husers, h⟩ :=
    yields_bind_ok_iff.1 (inStage_yields_ok_iff.1 hscores)
  obtain ⟨_, _, found, rfl, hfound, h⟩ := yields_bind_ok_iff.1 h
  obtain ⟨rfl, rfl⟩ := yields_pure_ok_iff.1 h
  obtain ⟨rfl, hscored⟩ := scores_of_users hfound
  exact ⟨{
    stateTrace := front
    tailTrace := tail
    troveTrace := troves
    state, recoveryMode, owners, users, found
    trace_eq := by simp
    state_read := hstate
    mode_known := hmode
    owners_read := inStage_yields_ok_iff.1 howners
    users_read := husers
    users_scored := hscored }, rfl⟩

/-- A refresh that succeeds has scanned the tail of the list. -/
theorem refreshOnly_scans (h : (refreshOnly queue limits).Yields trace (.ok report))
    (hok : report.outcome = .ok ()) :
    ∃ scan : TailScan limits.scanDepth.toNat trace,
      report.queue = (queue.retain scan.owners).pushAll scan.scores := by
  obtain ⟨whole, _, refreshed, htrace, hrefresh, h⟩ := yields_bind_ok_iff.1 h
  obtain ⟨front, rest, read, rfl, hread, hrest⟩ := yields_bind_ok_iff.1 hrefresh
  -- wherever a part fails the report ends with that failure, so every part has succeeded
  cases read with
  | error failure =>
    obtain ⟨-, rfl⟩ := yields_pure_ok_iff.1 hrest
    obtain ⟨-, rfl⟩ := yields_pure_ok_iff.1 h
    cases hok
  | ok state =>
    dsimp only at hrest
    split at hrest
    · obtain ⟨-, rfl⟩ := yields_pure_ok_iff.1 hrest
      obtain ⟨-, rfl⟩ := yields_pure_ok_iff.1 h
      cases hok
    · rename_i recoveryMode hmode
      obtain ⟨rest, _, result, rfl, hresult, hrest⟩ := yields_bind_ok_iff.1 hrest
      obtain ⟨rfl, rfl⟩ := yields_pure_ok_iff.1 hrest
      cases result with
      | error failure =>
        obtain ⟨-, rfl⟩ := yields_pure_ok_iff.1 h
        cases hok
      | ok rescored =>
        obtain ⟨rfl, rfl⟩ := yields_pure_ok_iff.1 h
        obtain rfl : trace = front ++ rest := by simpa using htrace
        have hstate := inStage_yields_ok_iff.1 (yields_attempt_iff.1 hread)
        exact rescore_yields_ok hstate hmode (yields_attempt_iff.1 hresult)

/-- A refresh that fails leaves the queue as it was. -/
theorem queue_of_refreshOnly_error {failure : Failure RefreshFailure}
    (h : (refreshOnly queue limits).Yields trace (.ok report))
    (hfailed : report.outcome = .error failure) : report.queue = queue ∧ report.batches = [] := by
  obtain ⟨_, _, ⟨_, result⟩, -, -, h⟩ := yields_bind_ok_iff.1 h
  cases result with
  | error failure =>
    obtain ⟨-, rfl⟩ := yields_pure_ok_iff.1 h
    exact ⟨rfl, rfl⟩
  | ok rescored =>
    obtain ⟨-, rfl⟩ := yields_pure_ok_iff.1 h
    cases hfailed

/-- A refresh that succeeds has scanned the tail of the list. Behind it the queue has the owners
that were scanned, with the new health of each open Trove and the old one where there is no new one.
It is up to date exactly when every scanned owner that it had before has an open Trove. -/
theorem refreshOnly_upToDate_iff (h : (refreshOnly queue limits).Yields trace (.ok report))
    (hok : report.outcome = .ok ()) :
    Nonempty (TailScan limits.scanDepth.toNat trace) ∧
      ∀ scan : TailScan limits.scanDepth.toNat trace,
        (∀ owner, report.queue.get? owner =
          if owner ∈ scan.owners then (HealthQueue.last? scan.scores owner).or (queue.get? owner)
          else none) ∧
        (scan.UpToDate report.queue ↔
          ∀ owner ∈ scan.owners, queue.get? owner ≠ none → scan.Open owner) := by
  obtain ⟨scan, hqueue⟩ := refreshOnly_scans h hok
  refine ⟨⟨scan⟩, fun other => ?_⟩
  obtain rfl := scan.unique other
  rw [hqueue]
  exact ⟨fun owner => scan.get?_rescored, scan.upToDate_rescored_iff⟩

/-- A walk along given answers is a run, and what its report shows is read off the walk. -/
theorem walk_reports {Q β : Type} {p : Procedure Chain Empty (Report Q)} {f : Report Q → β} {x : β}
    {answer : (r : Chain.Request) → Except ChainError (Chain.Answer r)}
    (h : (p.walk answer).2.toOption.map (fun report => (report.outcome.isOk, f report)) =
      some (true, x)) :
    ∃ report, p.Yields (p.walk answer).1 (.ok report) ∧ report.outcome = .ok () ∧
      f report = x := by
  have hyields := yields_walk answer p
  cases hresult : (p.walk answer).2 with
  | error e => exact e.elim
  | ok report =>
    rw [hresult] at h hyields
    obtain ⟨hok, hshown⟩ := Prod.mk.inj (Option.some.inj h)
    obtain ⟨_, houtcome⟩ := exists_eq_ok_of_isOk hok
    exact ⟨report, hyields, houtcome, hshown⟩

/-! ## A closed Trove -/

/-- An owner whose Trove was scored at block 100. -/
def listedOwner : Address := ⟨9, by decide⟩

def oldHealth : TroveHealth := ⟨listedOwner, .thousandths 900, .one, .ofUInt64 2000, 100⟩

def oldQueue : HealthQueue := HealthQueue.empty.push oldHealth

def usualLimits : Limits := ⟨200, 10, 120⟩

/-- The state of a protocol without collateral at block 101. -/
def bareState : SystemState :=
  ⟨⟨101, 1000012⟩, .empty, ⟨.empty, .zero⟩, ⟨.zero, 0⟩⟩

def stateReads : List (Exchange Chain) :=
  [⟨.read .block .latest, .ok bareState.block⟩, ⟨.read .validCollateral .latest, .ok []⟩,
    ⟨.read .baseRate .latest, .ok Word.zero⟩,
    ⟨.read .lastFeeOperationTime .latest, .ok (0 : UInt64)⟩,
    ⟨.read (.poolDebt .active) .latest, .ok Word.zero⟩,
    ⟨.read (.poolDebt .default) .latest, .ok Word.zero⟩]

/-- The owner is alone in the list. -/
def tailReads : List (Exchange Chain) :=
  [⟨.read .last (.number 101), .ok listedOwner⟩,
    ⟨.read (.prev listedOwner) (.number 101), .ok Address.zero⟩]

/-- The Trove has been closed since. -/
def closedReads : List (Exchange Chain) :=
  [⟨.read (.troveStatus listedOwner) (.number 101), .ok (2 : UInt8)⟩]

/-- The scan that finds the closed Trove. -/
def closedScan : TailScan 200 (stateReads ++ (tailReads ++ closedReads)) where
  stateTrace := stateReads
  tailTrace := tailReads
  troveTrace := closedReads
  state := bareState
  recoveryMode := false
  owners := [listedOwner]
  users := [.empty listedOwner .closedByOwner]
  found := [none]
  trace_eq := rfl
  state_read := .ask (.ask (.ask (.ask (.ask (.ask (.done _))))))
  mode_known := rfl
  owners_read := .ask (.ask (.done _))
  users_read := .ask (.done _)
  users_scored := .cons rfl .nil

/-- The old health is still in the queue behind the pass. -/
theorem closedScan_yields :
    (refreshOnly oldQueue usualLimits).Yields (stateReads ++ (tailReads ++ closedReads))
      (.ok ⟨oldQueue, none, [], [], .ok ()⟩) :=
  .ask (.ask (.ask (.ask (.ask (.ask (.ask (.ask (.ask (.done _)))))))))

/-- Whether the queue behind the pass is up to date, by what holds of every refresh. -/
theorem closedScan_upToDate_iff :
    (refreshOnly oldQueue usualLimits).Yields (stateReads ++ (tailReads ++ closedReads))
      (.ok ⟨oldQueue, none, [], [], .ok ()⟩) ∧
    (closedScan.UpToDate oldQueue ↔
      ∀ owner ∈ [listedOwner], oldQueue.get? owner ≠ none → closedScan.Open owner) := by
  obtain ⟨-, hscans⟩ := refreshOnly_upToDate_iff closedScan_yields rfl
  exact ⟨closedScan_yields, (hscans closedScan).2⟩

/-- It is not true that the queue is up to date after every refresh that succeeds. -/
theorem refresh_keeps_closed :
    ¬∀ {queue : HealthQueue} {limits : Limits} {trace : List (Exchange Chain)}
      {report : Report HealthQueue}
      (scan : TailScan limits.scanDepth.toNat trace),
      (refreshOnly queue limits).Yields trace (.ok report) → report.outcome = .ok () →
        scan.UpToDate report.queue := by
  intro h
  have hdate := @h oldQueue usualLimits _ _ closedScan closedScan_yields rfl
  have hblock := (hdate.fresh listedOwner oldHealth (by decide)).2.2.2
  exact absurd hblock (by decide)

end Keeper

end Cdp
