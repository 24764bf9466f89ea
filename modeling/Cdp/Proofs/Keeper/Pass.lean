import Cdp.Proofs.Chain.Standing
import Cdp.Proofs.Keeper.Batch
import Cdp.Proofs.Keeper.QueueOperations

/-!
# What a pass attempts

A pass refreshes the queue and then sends the liquidatable Troves to the chain batch by batch.
`Attempted` is one run over a plan of batches: each goes in one of the ways of a batch, whatever
became of the ones before it, and the run stops early only where a batch breaks off.

The main statement is `pass_attempts`. A pass whose refresh fails sends nothing and leaves the queue
as it was; any other attempts all Troves with a health below one, the least healthy first, in
batches within the limit, and takes out of the queue exactly the owners whose Troves the receipts of
the batches that succeeded report as liquidated. It holds of the queue in one map and of the queue
in two containers, with any lawful priority queue.

Not every pass attempts all of its batches. A receipt may list amounts of one kind that are too much
together, and then the pass breaks off (`overflow_ends_pass`).
-/

set_option autoImplicit false

namespace Cdp

open Procedure QueueOperations

namespace Keeper

variable {Q : Type} [QueueOperations Q] {Holds : Q → HealthQueue → Prop} {context : Context}
  {timeout : Nat} {trace : List (Exchange Chain)}

/-! ## All batches -/

/-- Batches are attempted one after another along a trace, each ending in its way. The run ends
early only where a batch breaks off. -/
inductive Attempted (context : Context) (timeout : Nat) :
    List (List Address) → List (Exchange Chain) → List BatchEnd → Option Fault → Prop where
  | done : Attempted context timeout [] [] [] none
  | batch {owners : List Address} {plan : List (List Address)} {front rest : List (Exchange Chain)}
      {e : BatchEnd} {ends : List BatchEnd} {fault : Option Fault}
      (hbatch : BatchRun context timeout owners front (.ok e))
      (hrest : Attempted context timeout plan rest ends fault) :
      Attempted context timeout (owners :: plan) (front ++ rest) (e :: ends) fault
  | broken {owners : List Address} {plan : List (List Address)} {trace : List (Exchange Chain)}
      {fault : Fault} (h : BatchRun context timeout owners trace (.error fault)) :
      Attempted context timeout (owners :: plan) trace [] (some fault)

/-- The owners that a batch takes out of the queue. -/
def BatchEnd.liquidated : BatchEnd → List Address
  | .succeeded _ _ details => details.liquidated
  | _ => []

theorem liquidated_report (owners : List Address) (e : BatchEnd) :
    (e.report owners).liquidated = e.liquidated := by
  cases e <;> rfl

variable {plan : List (List Address)} {ends : List BatchEnd} {fault : Option Fault}

/-- Attempting all batches is a run over them, and the owners that they report leave the queue. -/
theorem liquidateAll_yields (hplan : ∀ owners ∈ plan, owners ≠ []) {queue : Q}
    {result : Liquidation Q}
    (h : (liquidateAll context timeout queue plan).Yields trace (.ok result)) :
    ∃ ends, Attempted context timeout plan trace ends result.fault ∧
      result.batches = List.zipWith BatchEnd.report plan ends ∧
      result.queue = eraseAll queue (ends.flatMap BatchEnd.liquidated) := by
  induction plan generalizing queue trace result with
  | nil =>
    obtain ⟨rfl, rfl⟩ := yields_pure_ok_iff.1 h
    exact ⟨[], .done, rfl, rfl⟩
  | cons owners plan ih =>
    rw [List.forall_mem_cons] at hplan
    obtain ⟨front, rest, report, rfl, hbatch, h⟩ := yields_bind_ok_iff.1 h
    obtain ⟨e, hrun, rfl⟩ := (liquidateBatch_yields_iff hplan.1).1 (yields_attempt_iff.1 hbatch)
    cases e with
    | error fault =>
      obtain ⟨rfl, rfl⟩ := yields_pure_ok_iff.1 h
      rw [List.append_nil]
      exact ⟨[], .broken hrun, rfl, rfl⟩
    | ok e =>
      obtain ⟨rest, _, others, rfl, hothers, h⟩ := yields_bind_ok_iff.1 h
      obtain ⟨rfl, rfl⟩ := yields_pure_ok_iff.1 h
      obtain ⟨ends, hattempted, hbatches, hqueue⟩ := ih hplan.2 hothers
      rw [List.append_nil]
      refine ⟨e :: ends, .batch hrun hattempted, ?_, ?_⟩
      · rw [List.zipWith_cons_cons, hbatches]
      · rw [hqueue, List.flatMap_cons, liquidated_report, eraseAll_append]

/-- Every run over a plan is one in which all batches are attempted. -/
theorem Attempted.yields (h : Attempted context timeout plan trace ends fault)
    (hplan : ∀ owners ∈ plan, owners ≠ []) (queue : Q) :
    (liquidateAll context timeout queue plan).Yields trace
      (.ok ⟨eraseAll queue (ends.flatMap BatchEnd.liquidated),
        List.zipWith BatchEnd.report plan ends, fault⟩) := by
  induction h generalizing queue with
  | done => exact .done _
  | @batch owners plan front rest e ends fault hbatch _ ih =>
    rw [List.forall_mem_cons] at hplan
    have hends := (liquidateBatch_yields_iff hplan.1).2 ⟨_, hbatch, rfl⟩
    refine yields_bind_ok_iff.2 ⟨front, rest, _, rfl, yields_attempt_iff.2 hends, ?_⟩
    refine yields_bind_ok_iff.2 ⟨rest, [], _, (List.append_nil _).symm, ih hplan.2 _, ?_⟩
    rw [List.flatMap_cons, eraseAll_append, ← liquidated_report owners e]
    exact .done _
  | broken hbatch =>
    have hends := (liquidateBatch_yields_iff (hplan _ List.mem_cons_self)).2 ⟨_, hbatch, rfl⟩
    exact yields_bind_ok_iff.2 ⟨_, [], _, (List.append_nil _).symm, yields_attempt_iff.2 hends,
      .done _⟩

/-! ## What a run over batches shows -/

/-- A receipt of a batch that succeeded reports the Trove of an owner as liquidated. -/
def Reported (manager : Address) (ends : List BatchEnd) (owner : Address) : Prop :=
  ∃ submitted receipt details,
    .succeeded submitted receipt details ∈ ends ∧ receipt.Liquidates manager owner

/-- A transaction that was sent in the run was mined and succeeded, and the summary in its receipt
lists amounts of one kind that are too much together. -/
def Overflows (context : Context) (timeout : Nat) (trace : List (Exchange Chain)) (fault : Fault) :
    Prop :=
  ∃ (submitted : Submitted) (receipt : Receipt) (w : Whitelist) (held amount : Decimal),
    (⟨.waitForReceipt submitted timeout, .ok (.mined receipt)⟩ : Exchange Chain) ∈ trace ∧
      receipt.succeeded = true ∧ fault = .sum held amount ∧
      receipt.Exceeds context.addresses.troveManager w held amount

theorem BatchRun.overflows {owners : List Address} {f : Fault}
    (h : BatchRun context timeout owners trace (.error f)) : Overflows context timeout trace f := by
  cases h with
  | @settled reads w gas submitted outcome _ hreads hsettles =>
    cases hsettles with
    | broken hsucceeded hparse =>
      obtain ⟨held, amount, hfault, hexceeds⟩ := LiquidationParser.parse_breaks hparse
      exact ⟨submitted, _, w, held, amount, by simp, hsucceeded, hfault, hexceeds⟩

/-- A batch that succeeded has read its receipt. -/
theorem BatchRun.parsed {owners : List Address} {submitted : Submitted} {receipt : Receipt}
    {details : LiquidationDetails}
    (h : BatchRun context timeout owners trace (.ok (.succeeded submitted receipt details))) :
    ∃ w : Whitelist,
      (LiquidationParser.mk context.addresses.troveManager w.decimals).parse receipt =
        .ok details := by
  cases h with
  | settled hreads hsettles =>
    cases hsettles with
    | succeeded hsucceeded hparse => exact ⟨_, hparse⟩

/-- The owners that the batches take out of the queue are those that the receipts report. -/
theorem Attempted.mem_liquidated_iff (h : Attempted context timeout plan trace ends fault)
    {owner : Address} : owner ∈ ends.flatMap BatchEnd.liquidated ↔
      Reported context.addresses.troveManager ends owner := by
  have hread : ∀ e ∈ ends, (owner ∈ e.liquidated ↔ ∃ submitted receipt details,
      e = .succeeded submitted receipt details ∧
        receipt.Liquidates context.addresses.troveManager owner) := by
    induction h with
    | done => exact nofun
    | broken _ => exact nofun
    | @batch owners plan front rest e ends fault hbatch _ ih =>
      refine List.forall_mem_cons.2 ⟨?_, ih⟩
      -- a batch takes owners out only if it succeeded, and then its receipt was parsed
      cases e with
      | succeeded submitted receipt details =>
        obtain ⟨w, hparse⟩ := hbatch.parsed
        refine (LiquidationParser.mem_liquidated_iff hparse).trans ⟨?_, ?_⟩
        · exact fun hreports => ⟨submitted, receipt, details, rfl, hreports⟩
        · rintro ⟨_, _, _, heq, hreports⟩
          cases heq
          exact hreports
      | _ => exact iff_of_false List.not_mem_nil (by rintro ⟨_, _, _, heq, -⟩; cases heq)
  rw [List.mem_flatMap]
  constructor
  · rintro ⟨e, he, howner⟩
    obtain ⟨submitted, receipt, details, rfl, hreports⟩ := (hread e he).1 howner
    exact ⟨submitted, receipt, details, he, hreports⟩
  · rintro ⟨submitted, receipt, details, he, hreports⟩
    exact ⟨_, he, (hread _ he).2 ⟨submitted, receipt, details, rfl, hreports⟩⟩

/-- A run that does not break off has attempted every batch. -/
theorem Attempted.length_eq (h : Attempted context timeout plan trace ends none) :
    ends.length = plan.length := by
  -- the induction is on the run, so that it has no fault is kept as an equation
  generalize hfault : (none : Option Fault) = fault at h
  induction h with
  | done => rfl
  | batch _ _ ih => rw [List.length_cons, List.length_cons, ih hfault]
  | broken _ => cases hfault

/-- A run that breaks off does so where a receipt has amounts that are too much together, and later
batches are not attempted. -/
theorem Attempted.overflows {f : Fault} (h : Attempted context timeout plan trace ends (some f)) :
    ends.length < plan.length ∧ Overflows context timeout trace f := by
  generalize hfault : some f = broken at h
  induction h with
  | done => cases hfault
  | @batch owners plan front rest e ends fault _ _ ih =>
    obtain ⟨hlength, submitted, receipt, w, held, amount, hmem, hreceipt⟩ := ih hfault
    exact ⟨Nat.succ_lt_succ hlength, submitted, receipt, w, held, amount,
      List.mem_append_right _ hmem, hreceipt⟩
  | broken h =>
    cases hfault
    exact ⟨Nat.succ_pos _, h.overflows⟩

/-! ## The pass -/

variable {limits : Limits} {queue refreshed left : HealthQueue}

/-- What a pass does behind its refresh: it finds all healths below one in the refreshed queue, the
least first, and cuts their owners into batches that are neither empty nor above the limit; the
batches are attempted as planned; and the owners leave the queue that a receipt reports. -/
structure Liquidates (context : Context) (limits : Limits) (refreshed left : HealthQueue)
    (trace : List (Exchange Chain)) (report : Report Q) (plan : List (List Address))
    (ends : List BatchEnd) (fault : Option Fault) : Prop where
  found : Below refreshed report.found
  plan_flatten : plan.flatten = report.found.map (·.owner)
  plan_sizes : ∀ batch ∈ plan, 1 ≤ batch.length ∧ batch.length ≤ limits.maxPerBatch.toNat
  attempted : Attempted context (limits.receiptTimeout.toNat * 1000) plan trace ends fault
  reports : report.batches = List.zipWith BatchEnd.report plan ends
  left_of_reported : ∀ owner,
    Reported context.addresses.troveManager ends owner → left.get? owner = none
  left_of_not_reported : ∀ owner,
    ¬Reported context.addresses.troveManager ends owner → left.get? owner = refreshed.get? owner
  /-- Unless a batch breaks off, the pass succeeds and every batch has been attempted. -/
  whole : fault = none → report.outcome = .ok () ∧ ends.length = plan.length
  /-- Where a batch breaks off so does the pass, and no later batch is attempted. -/
  broken : ∀ f, fault = some f → report.outcome = .error (.broken f) ∧
    ends.length < plan.length ∧ Overflows context (limits.receiptTimeout.toNat * 1000) trace f

/-- What a pass may do from a queue along a trace, and the queue that is left behind it. -/
inductive Passes (context : Context) (limits : Limits) (queue left : HealthQueue)
    (trace : List (Exchange Chain)) (report : Report Q) : Prop where
  /-- The refresh fails. -/
  | unrefreshed {refreshed : Report HealthQueue} {failure : Failure RefreshFailure}
      (hrefresh : (refreshOnly queue limits).Yields trace (.ok refreshed))
      (hfailed : refreshed.outcome = .error failure) (outcome : report.outcome = .error failure)
      (kept : left = queue) (nothing : report.found = [] ∧ report.batches = [])
      (reads : ∀ e ∈ trace, IsRead e.request)
  | refreshed {front rest : List (Exchange Chain)} {refreshed : Report HealthQueue}
      {plan : List (List Address)} {ends : List BatchEnd} {fault : Option Fault}
      (trace_eq : trace = front ++ rest)
      (hrefresh : (refreshOnly queue limits).Yields front (.ok refreshed))
      (hok : refreshed.outcome = .ok ())
      (liquidates : Liquidates context limits refreshed.queue left rest report plan ends fault)

/-- A refreshed queue has no more owners than were scanned. -/
theorem size_of_refreshOnly {report : Report HealthQueue}
    (h : (refreshOnly queue limits).Yields trace (.ok report))
    (hok : report.outcome = .ok ()) : report.queue.size ≤ limits.scanDepth.toNat := by
  obtain ⟨scan, hqueue⟩ := refreshOnly_scans h hok
  have hscanned : ∀ owner, report.queue.get? owner ≠ none → owner ∈ scan.owners := by
    intro owner howner
    rw [hqueue, scan.get?_rescored] at howner
    by_contra hnot
    exact howner (if_neg hnot)
  exact Nat.le_trans (HealthQueue.size_le_length hscanned) scan.length_owners

theorem keyed_of_refreshOnly {report : Report HealthQueue} (hq : queue.Keyed)
    (h : (refreshOnly queue limits).Yields trace (.ok report)) : report.queue.Keyed := by
  cases houtcome : report.outcome with
  | error failure =>
    rw [(queue_of_refreshOnly_error h houtcome).1]
    exact hq
  | ok _ =>
    obtain ⟨scan, hqueue⟩ := refreshOnly_scans h houtcome
    rw [hqueue]
    exact hq.retain.pushAll

/-- What is done to a queue behind its refresh. -/
theorem liquidates_of_yields (hlaw : Lawful Holds) (hlimit : 0 < limits.maxPerBatch.toNat) {s : Q}
    (hs : Holds s refreshed) (hkeyed : refreshed.Keyed)
    (hsize : refreshed.size ≤ limits.scanDepth.toNat) {plan : List (List Address)}
    (hplan : plan = batches limits.maxPerBatch.toNat
      ((liquidatableUpTo s limits.scanDepth.toNat).map (·.owner)))
    {result : Liquidation Q} {report : Report Q}
    (hall : (liquidateAll context (limits.receiptTimeout.toNat * 1000) s plan).Yields trace
      (.ok result))
    (hfound : report.found = liquidatableUpTo s limits.scanDepth.toNat)
    (hbatches : report.batches = result.batches)
    (houtcome : report.outcome = match result.fault with
      | none => .ok ()
      | some fault => .error (.broken fault)) :
    ∃ left ends, Holds result.queue left ∧
      Liquidates context limits refreshed left trace report plan ends result.fault := by
  have hsizes : ∀ batch ∈ plan, 1 ≤ batch.length ∧ batch.length ≤ limits.maxPerBatch.toNat := by
    intro batch hbatch
    rw [hplan] at hbatch
    exact length_of_mem_batches hbatch
  have hne : ∀ owners ∈ plan, owners ≠ [] := by
    intro owners howners
    exact List.length_pos_iff.1 (hsizes owners howners).1
  obtain ⟨ends, hattempted, hreports, hqueue⟩ := liquidateAll_yields hne hall
  refine ⟨refreshed.eraseAll (ends.flatMap BatchEnd.liquidated), ends, ?_, ?_⟩
  · rw [hqueue]
    exact hlaw.eraseAll hs _
  constructor
  case found =>
    rw [hfound]
    exact hlaw.below hs hkeyed hsize
  case plan_flatten => rw [hplan, flatten_batches hlimit, hfound]
  case plan_sizes => exact hsizes
  case attempted => exact hattempted
  case reports => rw [hbatches, hreports]
  case left_of_reported =>
    intro owner hreported
    exact HealthQueue.get?_eraseAll.trans (if_pos (hattempted.mem_liquidated_iff.2 hreported))
  case left_of_not_reported =>
    intro owner hnot
    exact HealthQueue.get?_eraseAll.trans (if_neg fun h => hnot (hattempted.mem_liquidated_iff.1 h))
  case whole =>
    intro hfault
    rw [hfault] at hattempted houtcome
    exact ⟨houtcome, hattempted.length_eq⟩
  case broken =>
    intro f hfault
    rw [hfault] at hattempted houtcome
    exact ⟨houtcome, hattempted.overflows⟩

/-- A pass over a queue of any lawful kind is a pass over the map that the queue holds. -/
theorem pass_holds (hlaw : Lawful Holds) (hlimit : 0 < limits.maxPerBatch.toNat) {s : Q}
    (hs : Holds s queue) (hkeyed : queue.Keyed) {report : Report Q}
    (h : (pass context limits s).Yields trace (.ok report)) :
    ∃ left, Holds report.queue left ∧ Passes context limits queue left trace report := by
  obtain ⟨front, rest, found, rfl, hfound, h⟩ := yields_bind_ok_iff.1 h
  obtain ⟨refreshed, hrefresh, hholds, houtcome, hnone, hbatches⟩ :=
    refreshOnly_holds hlaw hs hfound
  split at h
  · rename_i failure hfailed
    obtain ⟨rfl, rfl⟩ := yields_pure_ok_iff.1 h
    rw [houtcome] at hfailed
    rw [List.append_nil]
    refine ⟨refreshed.queue, hholds, ?_⟩
    exact .unrefreshed hrefresh hfailed (houtcome.trans hfailed)
      (queue_of_refreshOnly_error hrefresh hfailed).1 ⟨hnone, hbatches⟩
      (asks_refreshOnly.forall_mem hrefresh)
  · rename_i hok
    rw [houtcome] at hok
    obtain ⟨rest, _, result, rfl, hall, h⟩ := yields_bind_ok_iff.1 h
    obtain ⟨rfl, hreport⟩ := yields_pure_ok_iff.1 h
    rw [List.append_nil]
    -- the limit on what is looked at is the depth of the scan, which keeps nothing back
    obtain ⟨left, ends, hleft, hliquidates⟩ := liquidates_of_yields hlaw hlimit hholds
      (keyed_of_refreshOnly hkeyed hrefresh) (size_of_refreshOnly hrefresh hok) rfl hall
      (congrArg Report.found hreport.symm) (congrArg Report.batches hreport.symm)
      (congrArg Report.outcome hreport.symm)
    refine ⟨left, ?_, .refreshed rfl hrefresh hok hliquidates⟩
    rw [← hreport]
    exact hleft

omit [QueueOperations Q] in
theorem Passes.keyed {report : Report Q} (h : Passes context limits queue left trace report)
    (hkeyed : queue.Keyed) : left.Keyed := by
  cases h with
  | unrefreshed _ _ _ kept _ _ =>
    rw [kept]
    exact hkeyed
  | @refreshed _ _ _ _ ends _ _ hrefresh _ liquidates =>
    intro owner health hsome
    by_cases hreported : Reported context.addresses.troveManager ends owner
    · rw [liquidates.left_of_reported owner hreported] at hsome
      cases hsome
    · rw [liquidates.left_of_not_reported owner hreported] at hsome
      exact keyed_of_refreshOnly hkeyed hrefresh owner health hsome

/-- A refresh that succeeds and a run over all batches of the refreshed queue make a pass. -/
theorem pass_of_attempted {s : Q} {front rest : List (Exchange Chain)} {found : Report Q}
    (hfound : (refreshOnly s limits).Yields front (.ok found)) (hok : found.outcome = .ok ())
    (hplan : plan = batches limits.maxPerBatch.toNat
      ((liquidatableUpTo found.queue limits.scanDepth.toNat).map (·.owner)))
    (hattempted : Attempted context (limits.receiptTimeout.toNat * 1000) plan rest ends fault) :
    ∃ report, (pass context limits s).Yields (front ++ rest) (.ok report) ∧
      report.queue = eraseAll found.queue (ends.flatMap BatchEnd.liquidated) ∧
      report.found = liquidatableUpTo found.queue limits.scanDepth.toNat := by
  have hne : ∀ owners ∈ plan, owners ≠ [] := by
    intro owners howners
    rw [hplan] at howners
    exact List.length_pos_iff.1 (length_of_mem_batches howners).1
  have hall := hattempted.yields hne found.queue
  rw [hplan] at hall
  -- the report is what the rest of the pass makes of the two
  apply Exists.intro
  constructor
  · refine (Yields.bind_iff hfound).2 ?_
    rw [hok, ← List.append_nil rest]
    exact (Yields.bind_iff hall).2 (.done _)
  · exact ⟨rfl, rfl⟩

/-- Settings that are accepted leave room for a Trove in each batch. -/
theorem maxPerBatch_of_validate {s : KeeperSettings} (h : s.validate = .ok ()) :
    0 < (Limits.ofSettings s).maxPerBatch.toNat := by
  rw [KeeperSettings.validate] at h
  split at h
  · cases h
  · split at h
    · cases h
    · rename_i hpositive
      simp only [Bool.or_eq_true, decide_eq_true_eq, not_or] at hpositive
      apply Nat.pos_of_ne_zero
      intro hzero
      exact hpositive.2 (UInt64.toNat_inj.1 hzero)

/-- Under settings that are accepted, a pass whose refresh fails ends with that failure, has asked
nothing but reads and leaves the queue as it was; any other attempts the liquidation of all Troves
with a health below one in the refreshed queue, and takes the owners out of it whose Troves were
reported as liquidated. This holds of the queue in one map, and of the queue in two containers with
every lawful priority queue. -/
theorem pass_attempts {s : KeeperSettings} (hvalid : s.validate = .ok ()) :
    (∀ {queue : HealthQueue} {trace report}, queue.Keyed →
      (pass s.context (.ofSettings s) queue).Yields trace (.ok report) →
        report.queue.Keyed ∧
          Passes s.context (.ofSettings s) queue report.queue trace report) ∧
    ∀ {Q : Type} {R : Ranking Q} {order : List Address → List Address}, R.Lawful →
      (∀ owners, (order owners).Perm owners) →
      ∀ {paired : PairedQueue Q} {queue : HealthQueue} {trace report}, paired.Agrees R queue →
        queue.Keyed →
        (@pass _ (PairedQueue.operations R order) s.context (.ofSettings s) paired).Yields trace
            (.ok report) →
          ∃ left, report.queue.Agrees R left ∧ left.Keyed ∧
            Passes s.context (.ofSettings s) queue left trace report := by
  have hlimit := maxPerBatch_of_validate hvalid
  constructor
  · intro queue trace report hkeyed h
    obtain ⟨_, rfl, hpasses⟩ := pass_holds HealthQueue.lawful_operations hlimit rfl hkeyed h
    exact ⟨hpasses.keyed hkeyed, hpasses⟩
  · intro Q R order hR horder paired queue trace report hagrees hkeyed h
    let _ := PairedQueue.operations R order
    obtain ⟨left, hleft, hpasses⟩ :=
      pass_holds (PairedQueue.lawful_operations hR horder) hlimit hagrees hkeyed h
    exact ⟨left, hleft, hpasses.keyed hkeyed, hpasses⟩

/-! ## Two Troves that have lost their collateral -/

def firstOwner : Address := ⟨11, by decide⟩
def secondOwner : Address := ⟨12, by decide⟩

/-- Settings that liquidate one Trove at a time. -/
def singleSettings : KeeperSettings where
  endpoint := "http://localhost"
  contracts := ⟨.zero, ⟨22, by decide⟩, .zero, .zero, .zero, .zero, .zero⟩
  keeper := ⟨21, by decide⟩
  maxLiquidationsPerBatch := 1

def lostTrove : TroveRecord := ⟨1, (Decimal.ofUInt64 2000).raw, [], .empty, .empty⟩

def lostTables : Tables :=
  { Tables.bare with
    troves := .ofList [(firstOwner, lostTrove), (secondOwner, lostTrove)]
    sorted := [(firstOwner, .zero), (secondOwner, .zero)] }

/-- Both Troves are worth nothing. -/
def firstLost : TroveHealth := ⟨firstOwner, .zero, .zero, .ofUInt64 2000, 100⟩
def secondLost : TroveHealth := ⟨secondOwner, .zero, .zero, .ofUInt64 2000, 100⟩

def lostQueue : HealthQueue := (HealthQueue.empty.push secondLost).push firstLost

def lostPair : PairedQueue (AddressMap Decimal) :=
  ((PairedQueue.empty .sorting).push .sorting secondLost).push .sorting firstLost

theorem lostQueue_found : lostQueue.liquidatableUpTo 200 = [firstLost, secondLost] := by
  -- the healths stand in their order already
  have hsorted : lostQueue.sorted = lostQueue.entries.values :=
    List.mergeSort_of_pairwise (by decide)
  rw [HealthQueue.liquidatableUpTo, HealthQueue.liquidatable, hsorted]
  decide +kernel

theorem lostPair_found : lostPair.liquidatableUpTo .sorting 200 = [firstLost, secondLost] := by
  have hsorted : Ranking.sorting.sorted lostPair.ranking = lostPair.ranking.entries :=
    List.mergeSort_of_pairwise (by decide)
  rw [PairedQueue.liquidatableUpTo, hsorted]
  decide +kernel

/-- Each of the two is a batch. -/
theorem lost_planned : batches 1 ([firstLost, secondLost].map (·.owner)) =
    [[firstOwner], [secondOwner]] := by
  decide +kernel

theorem lostQueue_passes {rest : List (Exchange Chain)}
    (h : Attempted singleSettings.context 120000 [[firstOwner], [secondOwner]] rest ends fault) :
    ∃ front, ∃ found report : Report HealthQueue,
      (refreshOnly .empty (.ofSettings singleSettings)).Yields front (.ok found) ∧
      found.outcome = .ok () ∧
      (pass singleSettings.context (.ofSettings singleSettings) .empty).Yields (front ++ rest)
        (.ok report) ∧
      report.queue = lostQueue.eraseAll (ends.flatMap BatchEnd.liquidated) ∧
      report.found = [firstLost, secondLost] := by
  have hwalk : ((refreshOnly HealthQueue.empty (.ofSettings singleSettings)).walk
      lostTables.reply).2.toOption.map (fun report => (report.outcome.isOk, report.queue)) =
        some (true, lostQueue) := by
    decide +kernel
  obtain ⟨found, hfound, hok, hqueue⟩ := walk_reports hwalk
  have hlost : liquidatableUpTo found.queue 200 = [firstLost, secondLost] := by
    rw [hqueue]
    exact lostQueue_found
  have hplan := lost_planned.symm
  rw [← hlost] at hplan ⊢
  obtain ⟨report, hpass, hleft, hbelow⟩ := pass_of_attempted hfound hok hplan h
  rw [hqueue] at hleft
  exact ⟨_, found, report, hfound, hok, hpass, hleft, hbelow⟩

theorem lostPair_passes {rest : List (Exchange Chain)}
    (h : Attempted singleSettings.context 120000 [[firstOwner], [secondOwner]] rest ends fault) :
    ∃ front, ∃ report : Report (PairedQueue (AddressMap Decimal)),
      (@pass _ (PairedQueue.operations .sorting List.reverse) singleSettings.context
        (.ofSettings singleSettings) (.empty .sorting)).Yields (front ++ rest) (.ok report) := by
  let _ := PairedQueue.operations .sorting List.reverse
  have hwalk : ((refreshOnly (PairedQueue.empty .sorting) (.ofSettings singleSettings)).walk
      lostTables.reply).2.toOption.map (fun report => (report.outcome.isOk, report.queue)) =
        some (true, lostPair) := by
    decide +kernel
  obtain ⟨found, hfound, hok, hqueue⟩ := walk_reports hwalk
  have hlost : liquidatableUpTo found.queue 200 = [firstLost, secondLost] := by
    rw [hqueue]
    exact lostPair_found
  have hplan := lost_planned.symm
  rw [← hlost] at hplan
  obtain ⟨report, hpass, -⟩ := pass_of_attempted hfound hok hplan h
  exact ⟨_, report, hpass⟩

/-- The log of a liquidated Trove, with its code for a liquidation in normal mode. -/
def liquidatedLog (owner : Address) : Log where
  address := ⟨22, by decide⟩
  topics := [Contract.troveLiquidated.topic, owner.toWord]
  data := Contract.encode [.word (Decimal.ofUInt64 2000).raw, .word .zero]

/-- The summary of a liquidation of 2000 with these lists of collateral. -/
def summaryLog (tokens amounts : List Word) : Log where
  address := ⟨22, by decide⟩
  topics := [Contract.liquidation.topic]
  data := Contract.encode [.word (Decimal.ofUInt64 2000).raw, .word .zero, .list tokens,
    .list amounts]

/-- The receipt of the first Trove's liquidation. -/
def firstReceipt (tokens amounts : List Word) : Receipt :=
  ⟨.zero, 101, true, 21000, [liquidatedLog firstOwner, summaryLog tokens amounts]⟩

theorem firstReceipt_logs (tokens amounts : List Word) :
    (firstReceipt tokens amounts).logsOf ⟨22, by decide⟩ Contract.troveLiquidated =
        [liquidatedLog firstOwner] ∧
      (firstReceipt tokens amounts).logsOf ⟨22, by decide⟩ Contract.liquidation =
        [summaryLog tokens amounts] := by
  constructor
  · simp [Receipt.logsOf, firstReceipt, liquidatedLog, summaryLog,
      Contract.topic_troveLiquidated_ne.symm]
  · simp [Receipt.logsOf, firstReceipt, liquidatedLog, summaryLog,
      Contract.topic_troveLiquidated_ne]

/-- A receipt without collateral can be read. -/
theorem firstReceipt_parse : (LiquidationParser.mk ⟨22, by decide⟩ .empty).parse
    (firstReceipt [] []) = .ok ⟨[firstOwner], .ofUInt64 2000, .zero, .empty⟩ := by
  obtain ⟨howners, hsummary⟩ := firstReceipt_logs [] []
  rw [LiquidationParser.parse, LiquidationParser.liquidated, howners, hsummary]
  decide +kernel

/-- More of a token than half of what fits. -/
def halfMax : Word := .wrap (2 ^ 255)

def heavyKind : Address := .wrap 7

/-- A receipt that lists such an amount twice cannot. -/
theorem firstReceipt_breaks :
    (LiquidationParser.mk ⟨22, by decide⟩ (.ofList [(heavyKind, 18)])).parse
      (firstReceipt [heavyKind.toWord, heavyKind.toWord] [halfMax, halfMax]) =
        .error (.broken (.sum ⟨halfMax⟩ ⟨halfMax⟩)) := by
  obtain ⟨howners, hsummary⟩ := firstReceipt_logs [heavyKind.toWord, heavyKind.toWord]
    [halfMax, halfMax]
  rw [LiquidationParser.parse, LiquidationParser.liquidated, howners, hsummary]
  decide +kernel

/-- The first Trove is liquidated, and the other liquidation stays pending. -/
def firstSubmitted : Submitted := ⟨.zero, ⟨21, by decide⟩, 0⟩
def secondSubmitted : Submitted := ⟨.zero, ⟨21, by decide⟩, 1⟩

def firstEnd : BatchEnd :=
  .succeeded firstSubmitted (firstReceipt [] []) ⟨[firstOwner], .ofUInt64 2000, .zero, .empty⟩

theorem firstLiquidated : ∃ trace, Attempted singleSettings.context 120000
    [[firstOwner], [secondOwner]] trace [firstEnd, .pending secondSubmitted] none := by
  -- there is no kind of collateral on the whitelist
  have hreads : (Chain.readWhitelist .latest).Yields [⟨.read .validCollateral .latest, .ok []⟩]
      (.ok .empty) :=
    .ask (.done _)
  have hfirst : ∃ front, BatchRun singleSettings.context 120000 [firstOwner] front (.ok firstEnd) :=
    ⟨_, @BatchRun.settled _ _ _ _ _ 100000 _ _ _ hreads (.succeeded rfl firstReceipt_parse)⟩
  have hsecond : ∃ rest, BatchRun singleSettings.context 120000 [secondOwner] rest
      (.ok (.pending secondSubmitted)) :=
    ⟨_, @BatchRun.settled _ _ _ _ _ 100000 _ _ _ hreads .pending⟩
  obtain ⟨front, hfirst⟩ := hfirst
  obtain ⟨rest, hsecond⟩ := hsecond
  exact ⟨_, .batch hfirst (.batch hsecond .done)⟩

/-- The owner of the Trove that was liquidated leaves the queue, and the other owner stays. What
holds of every pass holds of this one, with the queue in one map and in two containers. -/
theorem firstLiquidated_attempts :
    singleSettings.validate = .ok () ∧ Ranking.sorting.Lawful ∧
    (∃ trace, ∃ report : Report HealthQueue,
      (pass singleSettings.context (.ofSettings singleSettings) .empty).Yields trace (.ok report) ∧
      report.queue.get? firstOwner = none ∧ report.queue.get? secondOwner = some secondLost ∧
      report.queue.Keyed ∧
      Passes singleSettings.context (.ofSettings singleSettings) .empty report.queue trace report) ∧
    ∃ trace left, ∃ report : Report (PairedQueue (AddressMap Decimal)),
      (@pass _ (PairedQueue.operations .sorting List.reverse) singleSettings.context
        (.ofSettings singleSettings) (.empty .sorting)).Yields trace (.ok report) ∧
      report.queue.Agrees .sorting left ∧ left.Keyed ∧
      Passes singleSettings.context (.ofSettings singleSettings) .empty left trace report := by
  obtain ⟨hmap, hpaired⟩ := pass_attempts (s := singleSettings) rfl
  obtain ⟨rest, hrest⟩ := firstLiquidated
  obtain ⟨front, _, report, -, -, hpass, hqueue, -⟩ := lostQueue_passes hrest
  obtain ⟨front', report', hpass'⟩ := lostPair_passes hrest
  have hempty : (PairedQueue.empty .sorting).Agrees .sorting .empty := ⟨rfl, fun _ => rfl⟩
  obtain ⟨left, hleft⟩ := hpaired Ranking.lawful_sorting List.reverse_perm hempty
    HealthQueue.keyed_empty hpass'
  have hholds := hmap HealthQueue.keyed_empty hpass
  refine ⟨rfl, Ranking.lawful_sorting, ⟨_, report, hpass, ?_, ?_, hholds⟩, _, left, report', hpass',
    hleft⟩
  · rw [hqueue]
    decide
  · rw [hqueue]
    decide

/-! ## A pass that breaks off -/

/-- A whitelist with the heavy kind is read. -/
def heavyReads : List (Exchange Chain) :=
  [⟨.read .validCollateral .latest, .ok [heavyKind]⟩,
    ⟨.read (.price heavyKind) .latest, .ok Decimal.one.raw⟩,
    ⟨.read (.decimals heavyKind) .latest, .ok (18 : UInt8)⟩,
    ⟨.read (.safetyRatio heavyKind) .latest, .ok Decimal.one.raw⟩,
    ⟨.read (.recoveryRatio heavyKind) .latest, .ok Decimal.one.raw⟩,
    ⟨.read (.isWrapped heavyKind) .latest, .ok false⟩]

theorem heavyReads_yields : (Chain.readWhitelist .latest).Yields heavyReads
    (.ok (.ofEntries [(heavyKind, ⟨18, .one, .one, .one, false⟩)])) :=
  .ask (.ask (.ask (.ask (.ask (.ask (.done _))))))

theorem firstBreaks : ∃ trace fault, Attempted singleSettings.context 120000
    [[firstOwner], [secondOwner]] trace [] (some fault) := by
  have hfirst : ∃ trace, BatchRun singleSettings.context 120000 [firstOwner] trace
      (.error (.sum ⟨halfMax⟩ ⟨halfMax⟩)) :=
    ⟨_, @BatchRun.settled _ _ _ _ _ 100000 firstSubmitted _ _ heavyReads_yields
      (.broken rfl firstReceipt_breaks)⟩
  obtain ⟨trace, hfirst⟩ := hfirst
  exact ⟨_, _, .broken hfirst⟩

/-- Batches of one are told by their owners. -/
theorem eq_map_flatten {plan : List (List Address)} (h : ∀ batch ∈ plan, batch.length = 1) :
    plan = plan.flatten.map fun owner => [owner] := by
  induction plan with
  | nil => rfl
  | cons batch rest ih =>
    obtain ⟨hbatch, hrest⟩ := List.forall_mem_cons.1 h
    obtain ⟨owner, rfl⟩ := List.length_eq_one_iff.1 hbatch
    exact congrArg (List.cons [owner]) (ih hrest)

/-- It is not true that every pass whose refresh succeeds attempts all of its batches. -/
theorem overflow_ends_pass :
    ¬∀ {s : KeeperSettings} {queue : HealthQueue} {front rest : List (Exchange Chain)}
      {found report : Report HealthQueue},
      s.validate = .ok () → queue.Keyed →
        (refreshOnly queue (.ofSettings s)).Yields front (.ok found) → found.outcome = .ok () →
          (pass s.context (.ofSettings s) queue).Yields (front ++ rest) (.ok report) →
            ∃ plan ends, plan.flatten = report.found.map (·.owner) ∧
              (∀ batch ∈ plan, 1 ≤ batch.length ∧
                batch.length ≤ s.maxLiquidationsPerBatch.toNat) ∧
              Attempted s.context (s.receiptTimeoutSeconds.toNat * 1000) plan rest ends none := by
  intro h
  obtain ⟨rest, fault, hbroken⟩ := firstBreaks
  obtain ⟨front, found, report, hfound, hok, hpass, -, hbelow⟩ := lostQueue_passes hbroken
  obtain ⟨plan, ends, hflatten, hsizes, hattempted⟩ :=
    h (s := singleSettings) rfl HealthQueue.keyed_empty hfound hok hpass
  -- the plan is the one that was broken off, and a plan has one run along a trace
  obtain rfl : plan = [[firstOwner], [secondOwner]] := by
    rw [eq_map_flatten fun batch hbatch =>
      Nat.le_antisymm (hsizes batch hbatch).2 (hsizes batch hbatch).1, hflatten, hbelow]
    rfl
  have hne : ∀ owners ∈ [[firstOwner], [secondOwner]], owners ≠ [] := by decide
  have hsame := (hattempted.yields hne lostQueue).result_unique (hbroken.yields hne lostQueue)
  cases congrArg Liquidation.fault (Except.ok.inj hsame)

end Keeper

end Cdp
