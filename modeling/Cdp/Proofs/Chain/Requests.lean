import Cdp.Proofs.InsertHint.Phases
import Cdp.Snapshot.Basic

/-!
# What composite reads ask

A composite read asks nothing but reads at the block that it is given (`asks_readState`,
`asks_readTrove`, `asks_readSnapshotAt`), and the search for an insert position nothing but reads at
the latest block (`asks_findWithSeed`).
-/

set_option autoImplicit false

namespace Cdp

open Procedure

/-- A request is a read at a block. -/
def ReadsAt (tag : BlockTag) (r : Chain.Request) : Prop := ∃ q, r = ChainRequest.read q tag

/-- A request is a read at a block, and not of the block itself. -/
def ReadsBeside (tag : BlockTag) (r : Chain.Request) : Prop :=
  ∃ q, q ≠ Query.block ∧ r = ChainRequest.read q tag

variable {tag : BlockTag}

theorem asks_readAt (q : Query) : Asks (ReadsAt tag) (readAt q tag) := asks_request ⟨q, rfl⟩

theorem asks_beside {q : Query} (hq : q ≠ .block) : Asks (ReadsBeside tag) (readAt q tag) :=
  asks_request ⟨q, hq, rfl⟩

theorem Procedure.Asks.readsAt {ε α : Type} {p : Procedure Chain ε α}
    (hp : Asks (ReadsBeside tag) p) : Asks (ReadsAt tag) p :=
  hp.mono fun _ ⟨q, _, hr⟩ => ⟨q, hr⟩

namespace Chain

theorem asks_readWhitelist : Asks (ReadsBeside tag) (readWhitelist tag) := by
  refine asks_bind (asks_beside nofun) fun kinds => asks_bind (asks_mapM (fun kind => ?_) kinds) ?_
  · refine asks_bind ?_ fun info => .done _
    refine asks_bind (asks_beside nofun) fun price => ?_
    refine asks_bind (asks_beside nofun) fun decimals => ?_
    refine asks_bind (asks_beside nofun) fun safety => ?_
    refine asks_bind (asks_beside nofun) fun recovery => ?_
    exact asks_bind (asks_beside nofun) fun wrapped => .done _
  · exact fun entries => .done _

theorem asks_readFeesFactory : Asks (ReadsBeside tag) (readFeesFactory tag) :=
  asks_bind (asks_beside nofun) fun _ => asks_bind (asks_beside nofun) fun _ => .done _

theorem asks_readPool (pool : Pool) (w : Whitelist) :
    Asks (ReadsBeside tag) (readPool pool w tag) := by
  refine asks_bind (asks_beside nofun) fun debt => ?_
  refine asks_bind (asks_mapM (fun kind => ?_) _) fun units => ?_
  · exact asks_bind (asks_beside nofun) fun raw => .done _
  · exact asks_bind (.done _) fun collaterals => .done _

theorem asks_readTotal (w : Whitelist) : Asks (ReadsBeside tag) (readTotal w tag) :=
  asks_bind (asks_readPool _ _) fun _ => asks_bind (asks_readPool _ _) fun _ => .done _

theorem asks_readState : Asks (ReadsAt tag) (readState tag) := by
  refine asks_bind (asks_readAt _) fun block => ?_
  refine asks_bind asks_readWhitelist.readsAt fun whitelist => ?_
  refine asks_bind asks_readFeesFactory.readsAt fun factory => ?_
  exact asks_bind (asks_readTotal _).readsAt fun total => .done _

/-- The block of the state is the one block that is asked for. -/
theorem block_of_readState {trace : List (Exchange Chain)} {state : SystemState}
    (h : (readState tag).Yields trace (.ok state)) :
    ∃ rest, trace = ⟨.read .block tag, .ok state.block⟩ :: rest ∧
      ∀ e ∈ rest, ReadsBeside tag e.request := by
  obtain ⟨_, rest, block, rfl, hblock, hread⟩ := yields_bind_ok_iff.1 h
  obtain rfl := yields_readAt_ok_iff.1 hblock
  have hbeside : ∀ e ∈ rest, ReadsBeside tag e.request := by
    refine Asks.forall_mem (asks_bind asks_readWhitelist fun w => ?_) hread
    refine asks_bind asks_readFeesFactory fun factory => ?_
    exact asks_bind (asks_readTotal _) fun total => .done _
  obtain ⟨_, _, w, rfl, -, hread⟩ := yields_bind_ok_iff.1 hread
  obtain ⟨_, _, factory, rfl, -, hread⟩ := yields_bind_ok_iff.1 hread
  obtain ⟨_, _, total, rfl, -, hread⟩ := yields_bind_ok_iff.1 hread
  obtain ⟨rfl, rfl⟩ := yields_pure_ok_iff.1 hread
  exact ⟨_, rfl, hbeside⟩

theorem asks_readFees (w : Whitelist) : Asks (ReadsAt tag) (readFees w tag) := by
  refine asks_bind asks_readFeesFactory.readsAt fun factory => ?_
  refine asks_bind (asks_readTotal _).readsAt fun total => ?_
  refine asks_bind (asks_readAt _) fun block => asks_bind (.done _) fun recovery => ?_
  exact .done _

theorem asks_readStoredTrove (owner : Address) (w : Whitelist) :
    Asks (ReadsAt tag) (readStoredTrove owner w tag) := by
  refine asks_bind (asks_readAt _) fun code => ?_
  split
  · exact .done _
  · split
    · exact .done _
    · refine asks_bind (asks_readAt _) fun debt => asks_bind (asks_readAt _) fun units => ?_
      refine asks_bind (.done _) fun collaterals => asks_bind (asks_mapM (fun e => ?_) units) ?_
      · refine asks_bind (asks_readAt _) fun stake => ?_
        exact asks_bind (asks_readAt _) fun snapshot => .done _
      · exact fun perKind => .done _

theorem asks_readTotals (kinds : List Address) : Asks (ReadsAt tag) (readTotals kinds tag) := by
  refine asks_bind (asks_mapM (fun kind => ?_) _) fun totals => .done _
  exact asks_bind (asks_readAt _) fun raw => .done _

theorem asks_readTrove (owner : Address) (w : Whitelist) :
    Asks (ReadsAt tag) (readTrove owner w tag) :=
  asks_bind (asks_readStoredTrove _ _) fun _ => asks_bind (asks_readTotals _) fun _ => .done _

theorem asks_readOwnerTrove (owner : Option Address) (w : Whitelist) :
    Asks (ReadsAt tag) (readOwnerTrove owner w tag) := by
  cases owner with
  | none => exact .done _
  | some owner => exact asks_bind (asks_readStoredTrove _ _) fun stored => .done _

/-- A snapshot of a resolved block is read at the number of that block. -/
theorem asks_readSnapshotAt (owner : Option Address) (block : BlockInfo) :
    Asks (ReadsAt (.number block.number)) (readSnapshotAt owner block) := by
  refine asks_bind asks_readWhitelist.readsAt fun w => ?_
  refine asks_bind asks_readFeesFactory.readsAt fun factory => ?_
  refine asks_bind (asks_readAt _) fun count => ?_
  refine asks_bind (asks_readPool _ _).readsAt fun active => ?_
  refine asks_bind (asks_readPool _ _).readsAt fun default => ?_
  refine asks_bind (asks_readTotals _) fun totals => ?_
  exact asks_bind (asks_readOwnerTrove _ _) fun ownerTrove => .done _

end Chain

namespace HintFinder

theorem asks_findWithSeed {finder : HintFinder} {ratio : Decimal} {owner : Option Address}
    {seed : Word} : Asks (ReadsAt .latest) (finder.findWithSeed ratio owner seed) :=
  phased_findWithSeed.asks

end HintFinder

end Cdp
