import Cdp.Proofs.Chain.Pinned
import Cdp.Proofs.Chain.Requests
import Cdp.Snapshot.Polling

/-!
# Reading while the store moves on

A cached read takes the published snapshot anew for each of its requests, and the store may publish
another one between two of them. `Step` is one move of the two together, a request or a look of the
store, and `Run` a history of moves in any order.

Every request is answered as of the block that is published at that moment, and every publication
raises the number of that block (`step_moves`). So a read of the system's state, of a Trove or of an
insert position mixes blocks exactly when a snapshot is published between two of its requests
(`oneBlock_iff_not_torn`), and such histories exist (`readState_torn`).
-/

set_option autoImplicit false

namespace Cdp

open Procedure

/-! ## The store -/

/-- Asked for a block by its number, the chain answers with the block of that number. -/
def NamesBlock (e : Exchange Chain) : Prop :=
  ∀ n block, e = ⟨.read .block (.number n), .ok block⟩ → block.number = n

namespace Store

variable {store store' : Store} {trace : List (Exchange Chain)}

theorem number_of_readSnapshot {owner : Option Address} {n : UInt64} {s : Snapshot}
    (h : (Chain.readSnapshot owner (.number n)).Yields trace (.ok s))
    (hnames : ∀ e ∈ trace, NamesBlock e) : s.block.number = n := by
  obtain ⟨front, rest, block, rfl, hfront, hrest⟩ := yields_bind_ok_iff.1 h
  rw [List.forall_mem_append] at hnames
  obtain rfl := yields_readAt_ok_iff.1 hfront
  obtain rfl := Chain.ensures_readSnapshotAt_block _ _ hrest hnames.2
  exact hnames.1 _ List.mem_cons_self _ _ rfl

/-- A look leaves the store as it is, or publishes the snapshot of a later block. -/
theorem poll_yields_ok (h : store.poll.Yields trace (.ok store'))
    (hnames : ∀ e ∈ trace, NamesBlock e) :
    store' = store ∨ store.published.block.number < store'.published.block.number := by
  obtain ⟨_, rest, latest, rfl, -, hrest⟩ := yields_bind_ok_iff.1 h
  rw [List.forall_mem_append] at hnames
  cases latest with
  | error e => exact Or.inl (yields_pure_ok_iff.1 hrest).2.symm
  | ok block =>
    dsimp only at hrest
    split at hrest
    · rename_i hlt
      obtain ⟨front, last, result, rfl, hread, hlast⟩ := yields_bind_ok_iff.1 hrest
      rw [List.forall_mem_append] at hnames
      cases result with
      | error e => exact Or.inl (yields_pure_ok_iff.1 hlast).2.symm
      | ok s =>
        obtain ⟨-, rfl⟩ := yields_pure_ok_iff.1 hlast
        have hnumber := number_of_readSnapshot (yields_attempt_iff.1 hread) hnames.2.1
        exact Or.inr (hnumber.symm ▸ hlt)
    · exact Or.inl (yields_pure_ok_iff.1 hrest).2.symm

end Store

/-! ## Moves -/

/-- A procedure on its way, and the store whose cache it reads through. -/
structure CachedRun (α : Type) where
  store : Store
  rest : ChainProcedure α

/-- What a move lets be seen. -/
inductive Event where
  /-- A request was answered as of a block. -/
  | answered (number : UInt64)
  /-- A look of the store published the snapshot of a block. -/
  | published (number : UInt64)
  /-- A look of the store changed nothing. -/
  | idle

namespace Event

/-- An event fits between two numbers of the published block. -/
def Moves (a b : UInt64) : Event → Prop
  | answered number => number = a ∧ b = a
  | published number => a < number ∧ b = number
  | idle => b = a

/-- A list of events leads from one number of the published block to another. -/
def Leads : UInt64 → List Event → UInt64 → Prop
  | a, [], b => a = b
  | a, e :: events, b => ∃ m, e.Moves a m ∧ Leads m events b

/-- All requests were answered as of one block. -/
def OneBlock (events : List Event) : Prop :=
  ∀ a b, answered a ∈ events → answered b ∈ events → a = b

/-- A snapshot was published between two answers. -/
def Torn (events : List Event) : Prop :=
  ∃ front a mid b back n, events = front ++ answered a :: mid ++ answered b :: back ∧
    published n ∈ mid

variable {a b : UInt64} {events : List Event}

theorem leads_append {xs ys : List Event} :
    Leads a (xs ++ ys) b ↔ ∃ m, Leads a xs m ∧ Leads m ys b := by
  induction xs generalizing a with
  | nil =>
    constructor
    · intro h
      exact ⟨a, rfl, h⟩
    · rintro ⟨m, rfl, h⟩
      exact h
  | cons e rest ih =>
    constructor
    · rintro ⟨m, he, h⟩
      obtain ⟨m', hrest, hys⟩ := ih.1 h
      exact ⟨m', ⟨m, he, hrest⟩, hys⟩
    · rintro ⟨m', ⟨m, he, hrest⟩, hys⟩
      exact ⟨m, he, ih.2 ⟨m', hrest, hys⟩⟩

theorem Moves.le {e : Event} (h : e.Moves a b) : a ≤ b := by
  cases e with
  | answered number => exact UInt64.le_of_eq h.2.symm
  | published number => exact UInt64.le_of_lt (h.2 ▸ h.1)
  | idle => exact UInt64.le_of_eq (Eq.symm h)

theorem Leads.le (h : Leads a events b) : a ≤ b := by
  induction events generalizing a with
  | nil => exact UInt64.le_of_eq h
  | cons e rest ih =>
    obtain ⟨m, he, hrest⟩ := h
    exact UInt64.le_trans he.le (ih hrest)

/-- A publication raises the number for good. -/
theorem Leads.lt_of_published {n : UInt64} (h : Leads a events b) (hmem : published n ∈ events) :
    a < b := by
  induction events generalizing a with
  | nil => cases hmem
  | cons e rest ih =>
    obtain ⟨m, he, hrest⟩ := h
    rcases List.mem_cons.1 hmem with rfl | hmem
    · exact UInt64.lt_of_lt_of_le (he.2 ▸ he.1) hrest.le
    · exact UInt64.lt_of_le_of_lt he.le (ih hrest hmem)

/-- Nothing else does. -/
theorem Leads.eq_of_forall_not_published (h : Leads a events b)
    (hnone : ∀ n, published n ∉ events) : a = b := by
  induction events generalizing a with
  | nil => exact h
  | cons e rest ih =>
    obtain ⟨m, he, hrest⟩ := h
    have hm : m = a := by
      cases e with
      | answered number => exact he.2
      | published number => exact absurd List.mem_cons_self (hnone number)
      | idle => exact he
    exact hm.symm.trans (ih hrest fun n hn => hnone n (List.mem_cons_of_mem _ hn))

/-- Between two answers the numbers have gone from the one to the other. -/
theorem Leads.between {start stop : UInt64} {front mid back : List Event}
    (h : Leads start (front ++ answered a :: mid ++ answered b :: back) stop) : Leads a mid b := by
  obtain ⟨m, hfront, hback⟩ := leads_append.1 h
  obtain ⟨m', -, m₁, ⟨rfl, rfl⟩, hmid⟩ := leads_append.1 hfront
  obtain ⟨m₂, ⟨rfl, rfl⟩, -⟩ := hback
  exact hmid

/-- Requests are answered as of one block exactly when nothing is published between two of them. -/
theorem Leads.oneBlock_iff (h : Leads a events b) : OneBlock events ↔ ¬Torn events := by
  constructor
  · rintro hone ⟨front, x, mid, y, back, n, rfl, hmem⟩
    -- the publication has raised the number from one answer to the other
    have hxy : x = y := hone x y (by simp) (by simp)
    exact UInt64.ne_of_lt (h.between.lt_of_published hmem) hxy
  · intro htorn
    -- it is enough to compare two answers in the order of the events
    have hordered : ∀ front x mid y back,
        events = front ++ answered x :: mid ++ answered y :: back → x = y := by
      rintro front x mid y back rfl
      refine h.between.eq_of_forall_not_published fun n hn => htorn ?_
      exact ⟨front, x, mid, y, back, n, rfl, hn⟩
    intro x y hx hy
    obtain ⟨front, back, rfl⟩ := List.append_of_mem hx
    rcases List.mem_append.1 hy with hy | hy
    · obtain ⟨front, mid, rfl⟩ := List.append_of_mem hy
      exact (hordered front y mid x back rfl).symm
    · rcases List.mem_cons.1 hy with hy | hy
      · cases hy
        rfl
      · -- here `y` was answered after `x`, before it was the other way round
        obtain ⟨mid, back, rfl⟩ := List.append_of_mem hy
        exact hordered front x mid y back (by simp)

end Event

namespace CachedRun

variable {α : Type} {c c' : CachedRun α} {events : List Event}

/-- The number of the published block. -/
def number (c : CachedRun α) : UInt64 := c.store.published.block.number

/-- A move of a procedure and the store that it reads through. A request is answered by the snapshot
that is published at that moment, or at its block. What a look asks goes to the chain and not
through the cache, so a look shows when it publishes. -/
inductive Step : CachedRun α → Event → CachedRun α → Prop where
  | read {store : Store} {q : Query} {tag : BlockTag} {number : UInt64}
      {next : Except ChainError q.Answer → ChainProcedure α} {x : Except ChainError q.Answer}
      {trace : List (Exchange Chain)} (hread : (store.published.read q tag).Yields trace x)
      (hpin : store.published.pin tag = .number number) :
      Step ⟨store, .ask (.read q tag) next⟩ (.answered number) ⟨store, next x⟩
  | publish {store store' : Store} {rest : ChainProcedure α} {trace : List (Exchange Chain)}
      (hpoll : store.poll.Yields trace (.ok store')) (hnames : ∀ e ∈ trace, NamesBlock e)
      (hnew : store' ≠ store) :
      Step ⟨store, rest⟩ (.published store'.published.block.number) ⟨store', rest⟩
  | look {store : Store} {rest : ChainProcedure α} {trace : List (Exchange Chain)}
      (hpoll : store.poll.Yields trace (.ok store)) : Step ⟨store, rest⟩ .idle ⟨store, rest⟩

/-- A history of moves. -/
inductive Run : CachedRun α → List Event → CachedRun α → Prop where
  | nil (c : CachedRun α) : Run c [] c
  | cons {c m c' : CachedRun α} {e : Event} {events : List Event} (hstep : Step c e m)
      (hrun : Run m events c') : Run c (e :: events) c'

/-- A move of a procedure that reads the latest block only is an answer as of the published block or
a publication of a later one. -/
theorem step_moves {e : Event} (h : Step c e c') (hasks : Asks (ReadsAt .latest) c.rest) :
    e.Moves c.number c'.number ∧ Asks (ReadsAt .latest) c'.rest := by
  cases h with
  | read hread hpin =>
    cases hasks with
    | ask hr hnext =>
      obtain ⟨q, hq⟩ := hr
      cases hq
      cases hpin
      exact ⟨⟨rfl, rfl⟩, hnext _⟩
  | publish hpoll hnames hnew =>
    exact ⟨⟨(Store.poll_yields_ok hpoll hnames).resolve_left hnew, rfl⟩, hasks⟩
  | look hpoll => exact ⟨rfl, hasks⟩

theorem run_leads (h : Run c events c') (hasks : Asks (ReadsAt .latest) c.rest) :
    Event.Leads c.number events c'.number := by
  induction h with
  | nil c => rfl
  | cons hstep _ ih =>
    obtain ⟨hmoves, hasks⟩ := step_moves hstep hasks
    exact ⟨_, hmoves, ih hasks⟩

/-! ## Logical reads -/

/-- The reads of the latest block that are one to their callers. -/
inductive LogicalRead : {α : Type} → ChainProcedure α → Prop where
  | state : LogicalRead (Chain.readState .latest)
  | trove (owner : Address) (whitelist : Whitelist) :
      LogicalRead (Chain.readTrove owner whitelist .latest)
  | position (finder : HintFinder) (ratio : Decimal) (owner : Option Address) (seed : Word) :
      LogicalRead (finder.findWithSeed ratio owner seed)

theorem LogicalRead.asks {p : ChainProcedure α} (hp : LogicalRead p) :
    Asks (ReadsAt .latest) p := by
  cases hp with
  | state => exact Chain.asks_readState
  | trove owner whitelist => exact Chain.asks_readTrove owner whitelist
  | position finder ratio owner seed => exact HintFinder.asks_findWithSeed

/-- Whatever the order of its requests and the looks of the store, a logical read is answered as of
one block exactly when no snapshot is published between two of its requests. -/
theorem oneBlock_iff_not_torn {store : Store} {p : ChainProcedure α} (hp : LogicalRead p)
    (h : Run ⟨store, p⟩ events c') : Event.OneBlock events ↔ ¬Event.Torn events :=
  (run_leads h hp.asks).oneBlock_iff

/-! ## A torn read -/

/-- A store of a protocol without collateral, at a block and with a base rate. -/
def bareStore (block : BlockInfo) (baseRate : Word) : Store where
  published :=
    { block
      whitelist := .empty
      activePool := ⟨.empty, .zero⟩
      defaultPool := ⟨.empty, .zero⟩
      totals := .empty
      feesFactory := ⟨⟨baseRate⟩, 0⟩
      troveCount := 0
      ownerTrove := none }
  owner := none

/-- A block and its successor. -/
def early : BlockInfo := ⟨100, 1000000⟩
def late : BlockInfo := ⟨101, 1000012⟩

/-- What a look asks that finds the later block with a base rate. -/
def latePoll (baseRate : Word) : List (Exchange Chain) :=
  [⟨.read .block .latest, .ok late⟩, ⟨.read .block (.number 101), .ok late⟩,
    ⟨.read .validCollateral (.number 101), .ok []⟩, ⟨.read .baseRate (.number 101), .ok baseRate⟩,
    ⟨.read .lastFeeOperationTime (.number 101), .ok (0 : UInt64)⟩,
    ⟨.read .troveOwnersCount (.number 101), .ok (0 : UInt64)⟩,
    ⟨.read (.poolDebt .active) (.number 101), .ok Word.zero⟩,
    ⟨.read (.poolDebt .default) (.number 101), .ok Word.zero⟩]

theorem latePoll_publishes (old new : Word) :
    (bareStore early old).poll.Yields (latePoll new) (.ok (bareStore late new)) := by
  exact .ask (.ask (.ask (.ask (.ask (.ask (.ask (.ask (.done _))))))))

theorem latePoll_names (new : Word) : ∀ e ∈ latePoll new, NamesBlock e := by
  intro e he n block heq
  subst heq
  simp only [latePoll, List.mem_cons, List.not_mem_nil, or_false] at he
  rcases he with h | h | h | h | h | h | h | h <;> cases h
  rfl

/-- A history that reads the state of the system while the later block is published. -/
def tornHistory : List Event :=
  [.answered 100, .answered 100, .published 101, .answered 101, .answered 101, .answered 101,
    .answered 101]

/-- The state at neither block: it has the earlier block and the base rate of the later one. -/
def tornState (new : Word) : SystemState :=
  ⟨early, .empty, ⟨.empty, .zero⟩, ⟨⟨new⟩, 0⟩⟩

theorem readState_torn (old new : Word) :
    Run ⟨bareStore early old, Chain.readState .latest⟩ tornHistory
      ⟨bareStore late new, .done (.ok (tornState new))⟩ := by
  refine .cons (.read (.done _) rfl) (.cons (.read (.done _) rfl) ?_)
  refine .cons (.publish (latePoll_publishes old new) (latePoll_names new) ?_) ?_
  · intro h
    cases h
  refine .cons (.read (.done _) rfl) (.cons (.read (.done _) rfl) ?_)
  exact .cons (.read (.done _) rfl) (.cons (.read (.done _) rfl) (.nil _))

theorem tornHistory_torn : Event.Torn tornHistory :=
  ⟨[.answered 100], 100, [.published 101], 101, [.answered 101, .answered 101, .answered 101], 101,
    rfl, List.mem_cons_self⟩

/-- The state of the system may be read along the torn history, and its answers are then of two
blocks. -/
theorem tornHistory_not_oneBlock :
    LogicalRead (Chain.readState .latest) ∧
      Run ⟨bareStore early .zero, Chain.readState .latest⟩ tornHistory
        ⟨bareStore late .max, .done (.ok (tornState .max))⟩ ∧
      ¬Event.OneBlock tornHistory := by
  refine ⟨.state, readState_torn .zero .max, fun hone => ?_⟩
  exact (oneBlock_iff_not_torn .state (readState_torn .zero .max)).1 hone tornHistory_torn

/-- It is not true that every logical read is answered as of one block. -/
theorem logicalRead_mixes_blocks :
    ¬∀ {α : Type} {store : Store} {p : ChainProcedure α} {events : List Event} {c' : CachedRun α},
      LogicalRead p → Run ⟨store, p⟩ events c' → Event.OneBlock events := by
  intro h
  have hone := h .state (readState_torn .zero .max) 100 101 (by simp [tornHistory])
    (by simp [tornHistory])
  exact absurd hone (by decide)

end CachedRun

end Cdp
