import Cdp.Proofs.Chain.Joined
import Cdp.Proofs.Chain.Standing
import Cdp.Proofs.Keeper.Refresh
import Cdp.Proofs.Snapshot.Interleaving

/-!
# Refreshing the queue while the chain grows

A refresh makes many reads, and new blocks may come between any two of them. A `ChainRun` is a
history of a chain that grows and is read: a read of the latest block is answered as of the block
that is the latest at that moment, a read at a block as of that block.

A refresh reads the state of the system at the latest block, and only then pins its reads to the
block that the state is of. So every health names that block, and the list and the Troves are read
at it. The other parts of the state are read side by side with the block or behind it, in an order
that is left open. Prices, ratios and pools are of the block that the healths name exactly when the
chain does not grow between two reads of these and of the block, in whatever order they are answered
(`refreshOnly_oneBlock_iff`). There are healths that name a block and have the prices of the next
(`refresh_scores_across_blocks`).
-/

set_option autoImplicit false

namespace Cdp

open Procedure

/-! ## A chain that grows -/

/-- What a chain answers as of each of its blocks. -/
abbrev BlockHistory := UInt64 → Truth

/-- Each block is told as the block of its number. -/
def BlockHistory.NamesBlocks (history : BlockHistory) : Prop :=
  ∀ n block, history n .block = .ok block → block.number = n

/-- The block that a tag stands for. -/
def BlockTag.asOf (latest : UInt64) : BlockTag → UInt64
  | .latest => latest
  | .number n => n

/-- The answers while one block is the latest. The chain is only read here, so nothing else is
answered. -/
def BlockHistory.answer (history : BlockHistory) (latest : UInt64) :
    (r : Chain.Request) → Except ChainError (Chain.Answer r)
  | .read q tag => history (tag.asOf latest) q
  | .estimateGas _ | .send _ | .waitForReceipt _ _ => .error (.transport "not answered")

/-- A move of a chain that is read. -/
inductive ChainMove where
  /-- The chain has a new latest block. -/
  | grown (number : UInt64)
  /-- A request was answered as of a block. -/
  | answered (exchange : Exchange Chain) (number : UInt64)

namespace ChainMove

/-- A read while a block is the latest. -/
def ofExchange (latest : UInt64) (e : Exchange Chain) : ChainMove :=
  .answered e (match e.request with
    | .read _ tag => tag.asOf latest
    | _ => latest)

/-- What a move has asked and answered. -/
def exchange? : ChainMove → Option (Exchange Chain)
  | grown _ => none
  | answered e _ => some e

/-- What some reads of the latest block can see of a move; growth publishes a block to them. -/
def event (watched : Query → Bool) : ChainMove → Event
  | grown number => .published number
  | answered e number =>
    match e.request with
    | .read q .latest => if watched q then .answered number else .idle
    | _ => .idle

/-- A move takes the latest block from one number to another. -/
inductive Goes (history : BlockHistory) : UInt64 → ChainMove → UInt64 → Prop where
  | grow {a b : UInt64} (h : a < b) : Goes history a (.grown b) b
  | answer {a : UInt64} (q : Query) (tag : BlockTag) :
      Goes history a (.answered ⟨.read q tag, history (tag.asOf a) q⟩ (tag.asOf a)) a

end ChainMove

open ChainMove

/-- What was asked and answered in a history of moves. -/
def exchanges (moves : List ChainMove) : List (Exchange Chain) := moves.filterMap exchange?

/-- A history of moves. -/
inductive ChainRun (history : BlockHistory) : UInt64 → List ChainMove → UInt64 → Prop where
  | nil (a : UInt64) : ChainRun history a [] a
  | cons {a m b : UInt64} {move : ChainMove} {moves : List ChainMove}
      (hmove : Goes history a move m) (hrun : ChainRun history m moves b) :
      ChainRun history a (move :: moves) b

section Moves

variable {history : BlockHistory} {a b n : UInt64} {move : ChainMove} {moves : List ChainMove}
  {e : Exchange Chain} {watched : Query → Bool}

theorem ChainMove.Goes.event_moves (h : Goes history a move b) :
    (move.event watched).Moves a b := by
  cases h with
  | grow h => exact ⟨h, rfl⟩
  | answer q tag =>
    cases tag with
    | latest =>
      rw [event]
      dsimp only
      split
      · exact ⟨rfl, rfl⟩
      · rfl
    | number n => rfl

/-- To reads of the latest block, a history leads from one latest block to another. -/
theorem ChainRun.leads (h : ChainRun history a moves b) :
    Event.Leads a (moves.map (event watched)) b := by
  induction h with
  | nil a => rfl
  | cons hmove _ ih => exact ⟨_, hmove.event_moves, ih⟩

/-- What is answered as of a block is a read, and the answer is the truth about that block. -/
theorem ChainRun.isRead (h : ChainRun history a moves b) (hmem : answered e n ∈ moves) :
    ∃ q tag, e = ⟨.read q tag, history n q⟩ ∧ (tag = .latest ∨ tag = .number n) := by
  induction h with
  | nil a => cases hmem
  | cons hmove _ ih =>
    rcases List.mem_cons.1 hmem with rfl | hmem
    · cases hmove with
      | answer q tag =>
        cases tag with
        | latest => exact ⟨q, .latest, rfl, Or.inl rfl⟩
        | number n => exact ⟨q, .number n, rfl, Or.inr rfl⟩
    · exact ih hmem

theorem ChainRun.answer_eq {q : Query} {tag : BlockTag} {x : Except ChainError q.Answer}
    (h : ChainRun history a moves b) (hmem : answered ⟨.read q tag, x⟩ n ∈ moves) :
    x = history n q ∧ (tag = .latest ∨ tag = .number n) := by
  obtain ⟨q', tag', heq, htag⟩ := h.isRead hmem
  cases heq
  exact ⟨rfl, htag⟩

theorem exchange?_eq_some_iff : move.exchange? = some e ↔ ∃ n, move = answered e n := by
  cases move with
  | grown number => simp [exchange?]
  | answered e' n => simp [exchange?]

/-- While one block is the latest, all that is asked can be asked. -/
theorem chainRun_of_answers {trace : List (Exchange Chain)} (hasks : ∀ e ∈ trace, IsRead e.request)
    (hanswers : ∀ e ∈ trace, e.answer = history.answer a e.request) :
    ChainRun history a (trace.map (ofExchange a)) a := by
  induction trace with
  | nil => exact .nil a
  | cons e rest ih =>
    obtain ⟨hask, hasks⟩ := List.forall_mem_cons.1 hasks
    obtain ⟨hanswer, hanswers⟩ := List.forall_mem_cons.1 hanswers
    refine .cons ?_ (ih hasks hanswers)
    obtain ⟨r, x⟩ := e
    obtain ⟨tag, q, rfl⟩ := hask
    obtain rfl : x = history (tag.asOf a) q := hanswer
    exact .answer q tag

theorem exchanges_map_ofExchange (trace : List (Exchange Chain)) :
    exchanges (trace.map (ofExchange a)) = trace := by
  rw [exchanges, List.filterMap_map]
  change List.filterMap some trace = trace
  exact List.filterMap_some

theorem mem_exchanges : e ∈ exchanges moves ↔ ∃ n, answered e n ∈ moves := by
  rw [exchanges, List.mem_filterMap]
  constructor
  · rintro ⟨move, hmove, he⟩
    obtain ⟨n, rfl⟩ := exchange?_eq_some_iff.1 he
    exact ⟨n, hmove⟩
  · rintro ⟨n, hmem⟩
    exact ⟨_, hmem, rfl⟩

/-- A watched read of the latest block shows as an answer. -/
theorem mem_events_iff : Event.answered n ∈ moves.map (event watched) ↔
    ∃ q x, answered ⟨.read q .latest, x⟩ n ∈ moves ∧ watched q = true := by
  rw [List.mem_map]
  constructor
  · rintro ⟨move, hmove, hevent⟩
    -- of all moves only a watched read of the latest block shows as an answer
    cases move with
    | grown number => cases hevent
    | answered e m =>
      obtain ⟨r, x⟩ := e
      cases r with
      | read q tag =>
        cases tag with
        | number m => cases hevent
        | latest =>
          rw [event] at hevent
          dsimp only at hevent
          split at hevent
          · rename_i hwatched
            cases hevent
            exact ⟨q, x, hmove, hwatched⟩
          · cases hevent
      | _ => cases hevent
  · rintro ⟨q, x, hmem, hwatched⟩
    refine ⟨_, hmem, ?_⟩
    rw [event]
    dsimp only
    rw [if_pos hwatched]

end Moves

/-! ## What healths are made of -/

/-- A health is made of what the query finds: prices, ratios, decimals and pools, the list, and all
that is known of the Troves. The block, the fee state and whether a token is wrapped are not part of
it. -/
def Query.feedsHealth : Query → Bool
  | .block | .baseRate | .lastFeeOperationTime | .isWrapped _ => false
  | _ => true

/-- A health names the block that the query finds, or is made of what it finds. -/
def Query.toldByHealth : Query → Bool
  | .block => true
  | q => q.feedsHealth

/-- A request whose answer feeds healths. -/
def FeedsHealth (r : Chain.Request) : Prop :=
  ∃ q tag, r = ChainRequest.read q tag ∧ q.feedsHealth = true

/-- The base rate is part of the state. -/
theorem Chain.baseRate_of_readState {trace : List (Exchange Chain)} {state : SystemState}
    (h : (readState .latest).Yields trace (.ok state)) :
    ∃ rate, (⟨.read .baseRate .latest, .ok rate⟩ : Exchange Chain) ∈ trace := by
  obtain ⟨_, _, block, rfl, -, hread⟩ := yields_bind_ok_iff.1 h
  obtain ⟨_, _, w, rfl, -, hread⟩ := yields_bind_ok_iff.1 hread
  obtain ⟨fees, _, factory, rfl, hfees, -⟩ := yields_bind_ok_iff.1 hread
  obtain ⟨_, _, rate, rfl, hrate, -⟩ := yields_bind_ok_iff.1 hfees
  obtain rfl := yields_readAt_ok_iff.1 hrate
  exact ⟨rate, by simp⟩

/-! ## What a scan is read of -/

namespace TailScan

variable {depth : Nat} {history : BlockHistory} {a b n : UInt64} {moves : List ChainMove}
  {order : List (Exchange Chain)} {e : Exchange Chain} (scan : TailScan depth order)

/-- The block that the healths name. -/
def number : UInt64 := scan.state.block.number

/-- All that feeds a health is answered as of the block that the health names. -/
def OneBlock (moves : List ChainMove) : Prop :=
  ∀ h ∈ scan.scores, ∀ e n, answered e n ∈ moves → FeedsHealth e.request → n = h.block

theorem readsAt_number (he : e ∈ scan.tailTrace ++ scan.troveTrace) :
    ReadsAt (.number scan.number) e.request := by
  rcases List.mem_append.1 he with he | he
  · exact (Chain.asks_scanTail depth).forall_mem scan.owners_read e he
  · refine (asks_mapM (fun owner => ?_) _).forall_mem scan.users_read e he
    exact Chain.asks_readTrove owner _

/-- A scan asks for the latest block while it reads the state, and for its own block after it. -/
theorem latest_or_pinned (he : e ∈ order) :
    ReadsAt .latest e.request ∨ ReadsAt (.number scan.number) e.request := by
  rw [scan.trace_eq] at he
  rcases List.mem_append.1 he with he | he
  · exact Or.inl (Chain.asks_readState.forall_mem scan.state_read e he)
  · exact Or.inr (scan.readsAt_number he)

/-- The block that the healths name is told once. -/
theorem block_told : ⟨.read .block .latest, .ok scan.state.block⟩ ∈ order ∧
    ∀ x, (⟨.read .block .latest, x⟩ : Exchange Chain) ∈ order → x = .ok scan.state.block := by
  obtain ⟨rest, hstate, hrest⟩ := Chain.block_of_readState scan.state_read
  have horder := scan.trace_eq
  rw [hstate] at horder
  constructor
  · exact (List.Perm.of_eq horder).mem_iff.2 List.mem_cons_self
  · intro x hx
    rw [horder] at hx
    rcases List.mem_cons.1 hx with heq | hx
    · cases heq
      rfl
    · -- nothing else that is asked is the latest block
      rcases List.mem_append.1 hx with hx | hx
      · obtain ⟨q, hq, heq⟩ := hrest _ hx
        cases heq
        exact absurd rfl hq
      · obtain ⟨q, heq⟩ := scan.readsAt_number hx
        cases heq

section Run

variable (hrun : ChainRun history a moves b) (horder : order.Perm (exchanges moves))
include hrun horder

/-- The list and the Troves are read at the block that the healths name. -/
theorem number_of_pinned {q : Query} {m : UInt64} {x : Except ChainError q.Answer}
    (hmem : answered ⟨.read q (.number m), x⟩ n ∈ moves) : n = scan.number := by
  rcases (hrun.answer_eq hmem).2 with htag | htag
  · cases htag
  · cases htag
    rcases scan.latest_or_pinned (horder.mem_iff.2 (mem_exchanges.2 ⟨_, hmem⟩)) with
      ⟨q', hq⟩ | ⟨q', hq⟩
    · cases hq
    · cases hq
      rfl

variable (hnames : history.NamesBlocks)
include hnames

/-- The block is told as of the number that the healths name, whenever that is. -/
theorem number_of_block {x : Except ChainError BlockInfo}
    (hmem : answered ⟨.read .block .latest, x⟩ n ∈ moves) : n = scan.number := by
  have hanswer := scan.block_told.2 x (horder.mem_iff.2 (mem_exchanges.2 ⟨n, hmem⟩))
  exact (hnames n _ ((hrun.answer_eq hmem).1.symm.trans hanswer)).symm

/-- Where the chain does not grow between two of the reads that are watched, the block among them,
these are all of the block that the healths name. -/
theorem number_of_not_torn {watched : Query → Bool} (hblock : watched .block = true)
    (htorn : ¬Event.Torn (moves.map (event watched))) {q : Query} {x : Except ChainError q.Answer}
    (hmem : answered ⟨.read q .latest, x⟩ n ∈ moves) (hwatched : watched q = true) :
    n = scan.number := by
  obtain ⟨m, htold⟩ := mem_exchanges.1 (horder.mem_iff.1 scan.block_told.1)
  have hone := hrun.leads.oneBlock_iff.2 htorn n m (mem_events_iff.2 ⟨q, x, hmem, hwatched⟩)
    (mem_events_iff.2 ⟨_, _, htold, hblock⟩)
  exact hone.trans (scan.number_of_block hrun horder hnames htold)

/-- Healths are scored at one block exactly when the chain does not grow between two reads of what
they tell, unless no health is found. -/
theorem oneBlock_iff : scan.OneBlock moves ↔
    scan.scores = [] ∨ ¬Event.Torn (moves.map (event Query.toldByHealth)) := by
  constructor
  · intro hone
    cases hscores : scan.scores with
    | nil => exact Or.inl rfl
    | cons h rest =>
      have hmem : h ∈ scan.scores := hscores ▸ List.mem_cons_self
      -- one health is enough: its block is told as of its number, and so is all that feeds it
      have hnumber : ∀ m, Event.answered m ∈ moves.map (event Query.toldByHealth) →
          m = scan.number := by
        intro m hm
        obtain ⟨q, x, he, htold⟩ := mem_events_iff.1 hm
        by_cases hblock : q = .block
        · subst hblock
          exact scan.number_of_block hrun horder hnames he
        · have hfeeds : q.feedsHealth = true := by
            cases q <;> first | exact htold | exact absurd rfl hblock
          exact (hone h hmem _ m he ⟨q, .latest, rfl, hfeeds⟩).trans
            (scan.open_of_mem_scores hmem).2
      refine Or.inr (hrun.leads.oneBlock_iff.1 fun m m' hm hm' => ?_)
      exact (hnumber m hm).trans (hnumber m' hm').symm
  · rintro (hnone | htorn) h hmem e n he ⟨q, tag, hread, hfeeds⟩
    · rw [hnone] at hmem
      cases hmem
    · rw [(scan.open_of_mem_scores hmem).2]
      obtain ⟨r, x⟩ := e
      cases hread
      cases tag with
      | latest =>
        refine scan.number_of_not_torn hrun horder hnames rfl htorn he ?_
        cases q <;> first | exact hfeeds | rfl
      | number m => exact scan.number_of_pinned hrun horder he

end Run

end TailScan

namespace Keeper

/-! ## A refresh with joined reads -/

/-- The healths of Troves that are read side by side. -/
def joinedTroves (whitelist : Whitelist) (owners : List Address) (recoveryMode : Bool)
    (block : UInt64) : Chain.JoinedReading (List TroveHealth) :=
  (Joined.all (owners.map fun owner =>
    Chain.joinedTrove owner whitelist (.number block))).andThen fun users =>
      .procedure (do
        let scores ← (users.mapM fun user =>
          (whitelist.assess user recoveryMode block : Attempt Error (Option TroveHealth)))
        return scores.filterMap id)

/-- A refresh of a queue, which comes to the refreshed queue. -/
def joinedRefresh (queue : HealthQueue) (depth : Nat) : Chain.JoinedReading HealthQueue :=
  (Chain.joinedState .latest).andThen fun state =>
    (Chain.computed state.isRecoveryMode).andThen fun recoveryMode =>
      (Joined.procedure (Chain.scanTail depth (.number state.block.number))).andThen fun owners =>
        (joinedTroves state.whitelist owners recoveryMode state.block.number).andThen fun scores =>
          Joined.value (QueueOperations.update queue owners scores)

theorem sequential_joinedTroves (whitelist : Whitelist) (owners : List Address)
    (recoveryMode : Bool) (block : UInt64) :
    (joinedTroves whitelist owners recoveryMode block).sequential =
      Chain.assessTroves whitelist owners recoveryMode block := by
  simp [joinedTroves, Chain.assessTroves]

theorem sequential_joinedRefresh (queue : HealthQueue) (depth : Nat) :
    (joinedRefresh queue depth).sequential = do
      let state ← Chain.readState .latest
      let recoveryMode ← (state.isRecoveryMode : Attempt Error Bool)
      let owners ← Chain.scanTail depth (.number state.block.number)
      let scores ← Chain.assessTroves state.whitelist owners recoveryMode state.block.number
      return QueueOperations.update queue owners scores := by
  simp [joinedRefresh, Chain.computed, sequential_joinedTroves]

variable {queue : HealthQueue} {limits : Limits} {report : Report HealthQueue}
  {history : BlockHistory} {a b : UInt64} {moves : List ChainMove}
  {order trace : List (Exchange Chain)}

/-- A refresh whose joined reads are answered in any order has the exchanges of a refresh that asks
them in turn, and comes to the same queue. -/
theorem exists_order_of_joinedRefresh {refreshed : HealthQueue}
    (h : (joinedRefresh queue limits.scanDepth.toNat).Runs trace (some (.ok refreshed))) :
    ∃ order report, order.Perm trace ∧ (refreshOnly queue limits).Yields order (.ok report) ∧
      report.outcome = .ok () ∧ report.queue = refreshed := by
  obtain ⟨order, hperm, hread⟩ := h.exists_order
  rw [sequential_joinedRefresh] at hread
  obtain ⟨front, _, state, rfl, hstate, hrest⟩ := yields_bind_ok_iff.1 hread
  obtain ⟨_, _, recoveryMode, rfl, hlift, hscan⟩ := yields_bind_ok_iff.1 hrest
  obtain ⟨rfl, hmode⟩ := yields_liftM_ok_iff.1 hlift
  obtain ⟨tail, _, owners, rfl, howners, hassess⟩ := yields_bind_ok_iff.1 hscan
  obtain ⟨troves, _, scores, rfl, hscores, hdone⟩ := yields_bind_ok_iff.1 hassess
  obtain ⟨rfl, rfl⟩ := yields_pure_ok_iff.1 hdone
  -- the parts are put together again in the stages of a refresh, which ask the same
  have hrescored : (rescore queue state recoveryMode limits.scanDepth.toNat).Yields
      (tail ++ (troves ++ [])) (.ok (QueueOperations.update queue owners scores)) := by
    refine yields_bind_ok_iff.2 ⟨tail, _, owners, rfl, inStage_yields_ok_iff.2 howners, ?_⟩
    exact yields_bind_ok_iff.2 ⟨troves, [], scores, rfl, inStage_yields_ok_iff.2 hscores, .done _⟩
  have hrefresh : (refresh queue limits.scanDepth.toNat).Yields
      (front ++ ([] ++ (tail ++ (troves ++ [])))) (.ok
        ⟨if recoveryMode then some state.block.number else none,
          .ok (QueueOperations.update queue owners scores)⟩) := by
    refine yields_bind_ok_iff.2 ⟨front, _, .ok state, rfl, ?_, ?_⟩
    · exact yields_attempt_iff.2 (inStage_yields_ok_iff.2 hstate)
    · dsimp only
      rw [hmode]
      refine yields_bind_ok_iff.2 ⟨_, [], _, (List.append_nil _).symm, ?_, .done _⟩
      exact yields_attempt_iff.2 hrescored
  refine ⟨_, _, hperm, yields_bind_ok_iff.2 ⟨_, [], _, (List.append_nil _).symm, hrefresh, .done _⟩,
    rfl, rfl⟩

/-! ## In any order -/

/-- A refresh that succeeds while the chain grows, its exchanges in any order, has healths that all
name one block, and reads the list and the Troves at that block. All that feeds the healths is read
at it exactly when the chain does not grow between two reads of this and of the block, or no health
is found; and if the chain does not grow between any two reads of the state, the refresh comes to
what it would come to on a chain that stands still at the block. The orders that joined reads may
take are among these (`exists_order_of_joinedRefresh`). -/
theorem refreshOnly_oneBlock_iff (hrun : ChainRun history a moves b)
    (hnames : history.NamesBlocks) (horder : order.Perm (exchanges moves))
    (h : (refreshOnly queue limits).Yields order (.ok report)) (hok : report.outcome = .ok ()) :
    ∃ scan : TailScan limits.scanDepth.toNat order,
      report.queue = (queue.retain scan.owners).pushAll scan.scores ∧
      (∀ h ∈ scan.scores, h.block = scan.number) ∧
      (∀ q m x n, answered ⟨.read q (.number m), x⟩ n ∈ moves → n = scan.number) ∧
      (scan.OneBlock moves ↔
        scan.scores = [] ∨ ¬Event.Torn (moves.map (event Query.toldByHealth))) ∧
      (¬Event.Torn (moves.map (event fun _ => true)) →
        resultOn (history.answer scan.number) (refreshOnly queue limits) = .ok report) := by
  obtain ⟨scan, hqueue⟩ := refreshOnly_scans h hok
  refine ⟨scan, hqueue, fun h hmem => (scan.open_of_mem_scores hmem).2,
    fun q m x n hmem => scan.number_of_pinned hrun horder hmem,
    scan.oneBlock_iff hrun horder hnames, ?_⟩
  intro htorn
  -- what is read of the latest block is of the block that the healths name, and so is the rest
  have hanswers : ∀ e ∈ order, e.answer = history.answer scan.number e.request := by
    intro e he
    obtain ⟨n, hmem⟩ := mem_exchanges.1 (horder.mem_iff.1 he)
    obtain ⟨q, tag, rfl, rfl | rfl⟩ := hrun.isRead hmem
    · obtain rfl := scan.number_of_not_torn hrun horder hnames rfl htorn hmem rfl
      rfl
    · rfl
  rw [resultOn, h.eq_walk hanswers]

/-! ## A price that falls in between -/

/-- A token, and an owner with two of it and a debt of 3600. -/
def pricedKind : Address := .wrap 7

def pricedOwner : Address := .wrap 9

/-- A block with a price of the token. -/
def pricedTables (number price : UInt64) : Tables :=
  { Tables.bare with
    block := ⟨number, 1000000⟩
    whitelist := [(pricedKind, ⟨18, .ofUInt64 price, .one, .one, false⟩)]
    troves := .ofList [(pricedOwner,
      { status := 1
        debt := (Decimal.ofUInt64 3600).raw
        units := [(pricedKind, (Decimal.ofUInt64 2).raw)]
        stakes := .empty
        snapshots := .empty })]
    activePool := ⟨(Decimal.ofUInt64 1000000).raw,
      .ofList [(pricedKind, (Decimal.ofUInt64 1000).raw)]⟩
    sorted := [(pricedOwner, .zero)] }

/-- The price falls from 2000 to 1700 with block 101. -/
def priceFall : BlockHistory := fun n => (pricedTables n (if n ≤ 100 then 2000 else 1700)).answer

theorem priceFall_namesBlocks : priceFall.NamesBlocks := by
  rintro n block h
  cases h
  rfl

/-- What is left of a refresh once it has got block 100. -/
def behindBlock : Procedure Chain Empty (Report HealthQueue) :=
  match refreshOnly HealthQueue.empty usualLimits with
  | .ask (.read .block _) next => next (priceFall 100 .block)
  | p => p

/-- The reads behind it, while block 101 is the latest. -/
def readsBehind : List (Exchange Chain) := (behindBlock.walk (priceFall.answer 101)).1

/-- The chain grows once the block has been read. -/
def growingMoves : List ChainMove :=
  .answered ⟨.read .block .latest, priceFall 100 .block⟩ 100 :: .grown 101 ::
    readsBehind.map (ofExchange 101)

theorem refreshOnly_starts :
    ∃ next, refreshOnly HealthQueue.empty usualLimits = .ask (.read .block .latest) next ∧
      behindBlock = next (priceFall 100 .block) :=
  ⟨_, rfl, rfl⟩

theorem growingMoves_run : ChainRun priceFall 100 growingMoves 101 := by
  obtain ⟨next, hstart, hbehind⟩ := refreshOnly_starts
  have hasks : Asks IsRead (refreshOnly HealthQueue.empty usualLimits) := asks_refreshOnly
  rw [hstart] at hasks
  refine .cons (.answer .block .latest) (.cons (.grow (by decide)) ?_)
  refine chainRun_of_answers (Asks.forall_mem ?_ (yields_walk _ behindBlock))
    (answer_of_mem_walk _ behindBlock)
  cases hasks with
  | ask _ hnext => exact hbehind ▸ hnext _

theorem growingMoves_torn : Event.Torn (growingMoves.map (event Query.toldByHealth)) :=
  ⟨[], 100, [.published 101], 101, _, 101, rfl, List.mem_singleton_self _⟩

/-- What a report says of the owner: the block of the health, and whether it is below one. -/
def pricedHealth (report : Report HealthQueue) : Option (UInt64 × Bool) :=
  (report.queue.get? pricedOwner).map fun h => (h.block, h.isLiquidatable)

/-- The owner is found to be liquidatable at block 100. -/
theorem growingMoves_report : ∃ report,
    (refreshOnly HealthQueue.empty usualLimits).Yields (exchanges growingMoves) (.ok report) ∧
      report.outcome = .ok () ∧ pricedHealth report = some (100, true) := by
  obtain ⟨next, hstart, hbehind⟩ := refreshOnly_starts
  have hreport : (behindBlock.walk (priceFall.answer 101)).2.toOption.map (fun report =>
      (report.outcome.isOk, pricedHealth report)) = some (true, some (100, true)) := by
    decide +kernel
  obtain ⟨report, hrest, hok, hhealth⟩ := walk_reports hreport
  refine ⟨report, ?_, hok, hhealth⟩
  rw [hstart]
  change (Procedure.ask _ next).Yields (_ :: exchanges (readsBehind.map (ofExchange 101))) _
  rw [exchanges_map_ofExchange]
  exact .ask (hbehind ▸ hrest)

/-- Once the base rate is known, the chain grows, and everything else is read of block 101. -/
def earlyRateMoves (others : List (Exchange Chain)) : List ChainMove :=
  .answered ⟨.read .baseRate .latest, priceFall 100 .baseRate⟩ 100 :: .grown 101 ::
    others.map (ofExchange 101)

/-- The refresh of a chain that stands still at block 101, in turn. -/
def lateRefresh : List (Exchange Chain) :=
  ((refreshOnly HealthQueue.empty usualLimits).walk (priceFall.answer 101)).1

theorem lateRefresh_report : ∃ report,
    (refreshOnly HealthQueue.empty usualLimits).Yields lateRefresh (.ok report) ∧
      report.outcome = .ok () ∧ pricedHealth report = some (101, true) := by
  have hreport : ((refreshOnly HealthQueue.empty usualLimits).walk
      (priceFall.answer 101)).2.toOption.map (fun report =>
        (report.outcome.isOk, pricedHealth report)) = some (true, some (101, true)) := by
    decide +kernel
  exact walk_reports hreport

/-- The base rate is the same in both blocks, so the refresh comes to the same if it is known
first. -/
theorem earlyRateMoves_run : ∃ others, ChainRun priceFall 100 (earlyRateMoves others) 101 ∧
    lateRefresh.Perm (exchanges (earlyRateMoves others)) ∧
    ∃ block, (⟨.read .block .latest, .ok block⟩ : Exchange Chain) ∈ others := by
  obtain ⟨report, hyields, hok, -⟩ := lateRefresh_report
  obtain ⟨scan, -⟩ := refreshOnly_scans hyields hok
  have hreads := asks_refreshOnly.forall_mem hyields
  have hanswers : ∀ e ∈ lateRefresh, e.answer = priceFall.answer 101 e.request :=
    answer_of_mem_walk _ _
  obtain ⟨rate, hrate⟩ := Chain.baseRate_of_readState scan.state_read
  have htold : (⟨.read .baseRate .latest, priceFall 100 .baseRate⟩ : Exchange Chain) ∈
      lateRefresh := by
    have hmem := (List.Perm.of_eq scan.trace_eq).mem_iff.2 (List.mem_append_left _ hrate)
    have hsame : .ok rate = priceFall 100 .baseRate := hanswers _ hmem
    exact hsame ▸ hmem
  -- the base rate comes first, and the others keep their order
  obtain ⟨front, back, hcut⟩ := List.append_of_mem htold
  have hperm : lateRefresh.Perm
      (⟨.read .baseRate .latest, priceFall 100 .baseRate⟩ :: (front ++ back)) := by
    rw [hcut]
    exact List.perm_middle
  have hmem : ∀ e ∈ front ++ back, e ∈ lateRefresh := by
    intro e he
    exact hperm.mem_iff.2 (List.mem_cons_of_mem _ he)
  refine ⟨front ++ back, ?_, ?_, scan.state.block, ?_⟩
  · refine .cons (.answer .baseRate .latest) (.cons (.grow (by decide)) ?_)
    exact chainRun_of_answers (fun e he => hreads e (hmem e he)) fun e he => hanswers e (hmem e he)
  · change lateRefresh.Perm (_ :: exchanges ((front ++ back).map (ofExchange 101)))
    rw [exchanges_map_ofExchange]
    exact hperm
  · rcases List.mem_cons.1 (hperm.mem_iff.1 scan.block_told.1) with heq | hmem
    · cases heq
    · exact hmem

/-- The state is read of both blocks, but what healths tell is read of one. -/
theorem earlyRateMoves_torn {others : List (Exchange Chain)} {block : BlockInfo}
    (hrun : ChainRun priceFall 100 (earlyRateMoves others) 101)
    (hblock : (⟨.read .block .latest, .ok block⟩ : Exchange Chain) ∈ others) :
    Event.Torn ((earlyRateMoves others).map (event fun _ => true)) ∧
      ¬Event.Torn ((earlyRateMoves others).map (event Query.toldByHealth)) := by
  constructor
  · by_contra htorn
    have htold : answered ⟨.read .block .latest, .ok block⟩ 101 ∈ earlyRateMoves others :=
      List.mem_cons_of_mem _ (List.mem_cons_of_mem _ (List.mem_map.2 ⟨_, hblock, rfl⟩))
    have hone := hrun.leads.oneBlock_iff.2 htorn 100 101 List.mem_cons_self
      (mem_events_iff.2 ⟨.block, _, htold, rfl⟩)
    exact absurd hone (by decide)
  · rw [← hrun.leads.oneBlock_iff]
    have hlate : ∀ n, Event.answered n ∈
        (earlyRateMoves others).map (event Query.toldByHealth) → n = 101 := by
      intro n hn
      obtain ⟨q, x, hmove, htold⟩ := mem_events_iff.1 hn
      rcases List.mem_cons.1 hmove with heq | hmove
      · cases heq
        cases htold
      · rcases List.mem_cons.1 hmove with heq | hmove
        · cases heq
        · obtain ⟨e, -, he⟩ := List.mem_map.1 hmove
          obtain ⟨rfl, rfl⟩ := ChainMove.answered.inj he
          rfl
    intro n n' hn hn'
    exact (hlate n hn).trans (hlate n' hn').symm

/-- The growing chain is scored across two blocks, by what holds of every refresh. The early base
rate makes no difference to healths: they are scored at one block, although the state is read of
two. -/
theorem growingMoves_oneBlock_iff :
    (∃ report, (refreshOnly HealthQueue.empty usualLimits).Yields (exchanges growingMoves)
        (.ok report) ∧
      ∃ scan : TailScan usualLimits.scanDepth.toNat (exchanges growingMoves),
        (∀ h ∈ scan.scores, h.block = scan.number) ∧
        (scan.OneBlock growingMoves ↔
          scan.scores = [] ∨ ¬Event.Torn (growingMoves.map (event Query.toldByHealth)))) ∧
      ∃ others, Event.Torn ((earlyRateMoves others).map (event fun _ => true)) ∧
        ∃ scan : TailScan usualLimits.scanDepth.toNat lateRefresh,
          scan.scores ≠ [] ∧ scan.OneBlock (earlyRateMoves others) := by
  constructor
  · obtain ⟨report, hyields, hok, -⟩ := growingMoves_report
    obtain ⟨scan, -, hblock, -, hone, -⟩ := refreshOnly_oneBlock_iff growingMoves_run
      priceFall_namesBlocks (.refl _) hyields hok
    exact ⟨report, hyields, scan, hblock, hone⟩
  · obtain ⟨others, hrun, horder, block, hblock⟩ := earlyRateMoves_run
    obtain ⟨report, hyields, hok, hhealth⟩ := lateRefresh_report
    obtain ⟨scan, hqueue, -, -, hone, -⟩ := refreshOnly_oneBlock_iff hrun priceFall_namesBlocks
      horder hyields hok
    obtain ⟨htorn, hwhole⟩ := earlyRateMoves_torn hrun hblock
    refine ⟨others, htorn, scan, fun hnone => ?_, hone.2 (Or.inr hwhole)⟩
    rw [pricedHealth, hqueue, hnone] at hhealth
    cases hhealth

/-- It is not true that every refresh scores at one block. -/
theorem refresh_scores_across_blocks :
    ¬∀ {history : BlockHistory} {a b : UInt64} {moves : List ChainMove} {queue : HealthQueue}
      {limits : Limits} {order : List (Exchange Chain)} {report : Report HealthQueue}
      (scan : TailScan limits.scanDepth.toNat order),
      ChainRun history a moves b → history.NamesBlocks → order.Perm (exchanges moves) →
        (refreshOnly queue limits).Yields order (.ok report) → report.outcome = .ok () →
          scan.OneBlock moves := by
  intro h
  obtain ⟨report, hyields, hok, hhealth⟩ := growingMoves_report
  obtain ⟨scan, hqueue⟩ := refreshOnly_scans hyields hok
  have hone := h scan growingMoves_run priceFall_namesBlocks (.refl _) hyields hok
  rcases (scan.oneBlock_iff growingMoves_run (.refl _) priceFall_namesBlocks).1 hone with
    hnone | htorn
  · -- without a score the owner would have no health
    rw [pricedHealth, hqueue, hnone] at hhealth
    cases hhealth
  · exact htorn growingMoves_torn

end Keeper

end Cdp
