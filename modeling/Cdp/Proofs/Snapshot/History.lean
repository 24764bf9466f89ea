import Cdp.Proofs.Chain.Faults
import Cdp.Proofs.Snapshot.Interleaving

/-!
# What a store publishes over its life

A store looks for new blocks again and again, and each look and each read of a reading may fail.
`Goes` lists the ways in which one look may go, and `History` puts looks together, each of which
starts from the snapshot that the ones before it left.

The main statement is `pollTimes_history`. After any number of looks the published snapshot is what
one reading found as a whole, looks that failed published nothing, the published blocks follow each
other with rising numbers, and a reading never leaves the block that it is about.
-/

set_option autoImplicit false

namespace Cdp

open Procedure

/-! ## One look -/

/-- A look of a store: what it asked and was answered, and the snapshot that it published, if
any. -/
structure Look where
  trace : List (Exchange Chain)
  published : Option Snapshot

namespace Look

/-- The exchange that a look starts with. -/
def sawLatest (answer : Except ChainError BlockInfo) : Exchange Chain :=
  ⟨.read .block .latest, answer⟩

/-- The look saw a block and read a snapshot of it, with all that a snapshot has. -/
def Fetches (owner : Option Address) (look : Look) (s : Snapshot) : Prop :=
  ∃ block reading, look.trace = sawLatest (.ok block) :: reading ∧
    (Chain.readSnapshot owner (.number block.number)).Yields reading (.ok s)

/-- The look was not told the latest block, or its reading of that block came to an error. -/
def Fails (owner : Option Address) (look : Look) : Prop :=
  (∃ cause, look.trace = [sawLatest (.error cause)]) ∨
    ∃ block reading failure, look.trace = sawLatest (.ok block) :: reading ∧
      (Chain.readSnapshot owner (.number block.number)).Yields reading (.error failure)

/-- After the latest block is known, everything is read at the number of that block. -/
def StaysAtBlock (look : Look) : Prop :=
  ∀ block reading, look.trace = sawLatest (.ok block) :: reading →
    ∀ e ∈ reading, ReadsAt (.number block.number) e.request

/-- The ways in which a look may go that starts from a published snapshot. A reading that does not
come to an end has been refused: it cannot break off. -/
inductive Goes (owner : Option Address) (s : Snapshot) : Look → Prop where
  | unanswered (cause : ChainError) : Goes owner s ⟨[sawLatest (.error cause)], none⟩
  | nothingNew (block : BlockInfo) (hold : block.number ≤ s.block.number) :
      Goes owner s ⟨[sawLatest (.ok block)], none⟩
  | failed (block : BlockInfo) (hnew : s.block.number < block.number)
      (reading : List (Exchange Chain)) (cause : Error)
      (hreading : (Chain.readSnapshot owner (.number block.number)).Yields reading
        (.error (.refused cause))) :
      Goes owner s ⟨sawLatest (.ok block) :: reading, none⟩
  | publishes (block : BlockInfo) (hnew : s.block.number < block.number)
      (reading : List (Exchange Chain)) (new : Snapshot)
      (hreading : (Chain.readSnapshot owner (.number block.number)).Yields reading (.ok new)) :
      Goes owner s ⟨sawLatest (.ok block) :: reading, some new⟩

end Look

namespace Chain

variable {owner : Option Address} {n : UInt64} {reading : List (Exchange Chain)}
  {result : Except (Failure Error) Snapshot}

/-- Where the chain names its blocks by their numbers, every read of a reading is at the number that
the reading was asked for, whether it succeeds or not. -/
theorem readSnapshot_readsAt (h : (readSnapshot owner (.number n)).Yields reading result)
    (hnames : ∀ e ∈ reading, NamesBlock e) : ∀ e ∈ reading, ReadsAt (.number n) e.request := by
  rcases yields_bind_iff.1 h with ⟨front, rest, block, rfl, hblock, hrest⟩ | ⟨failure, hfail, -⟩
  · obtain rfl := yields_readAt_ok_iff.1 hblock
    obtain ⟨hfirst, -⟩ := List.forall_mem_append.1 hnames
    obtain rfl : block.number = n := hfirst _ List.mem_cons_self n block rfl
    exact List.forall_mem_cons.2 ⟨⟨_, rfl⟩, (asks_readSnapshotAt owner block).forall_mem hrest⟩
  · exact (asks_readAt _).forall_mem hfail

end Chain

namespace Store

variable {store store' : Store} {trace : List (Exchange Chain)}

/-- A look goes in one of these ways, and the store keeps its snapshot or takes the new one. -/
theorem poll_goes (h : store.poll.Yields trace (.ok store')) :
    ∃ published, Look.Goes store.owner store.published ⟨trace, published⟩ ∧
      store' = { store with published := published.getD store.published } := by
  obtain ⟨front, rest, latest, rfl, hfront, hrest⟩ := yields_bind_ok_iff.1 h
  have hasked := yields_attempt_iff.1 hfront
  cases latest with
  | error failure =>
    obtain ⟨answer, rfl, hanswer⟩ := yields_request_iff.1 hasked
    obtain ⟨rfl, rfl⟩ := yields_pure_ok_iff.1 hrest
    cases answer with
    | error cause => exact ⟨none, .unanswered cause, rfl⟩
    | ok block => cases hanswer
  | ok block =>
    obtain rfl := yields_readAt_ok_iff.1 hasked
    dsimp only at hrest
    split at hrest
    · rename_i hnew
      obtain ⟨reading, last, result, rfl, hreading, hlast⟩ := yields_bind_ok_iff.1 hrest
      have hreading := yields_attempt_iff.1 hreading
      cases result with
      | error failure =>
        obtain ⟨rfl, rfl⟩ := yields_pure_ok_iff.1 hlast
        rw [List.append_nil]
        cases failure with
        | refused cause => exact ⟨none, .failed block hnew reading cause hreading, rfl⟩
        | broken fault => exact absurd hreading (Chain.unbroken_readSnapshot _ _ _)
      | ok new =>
        obtain ⟨rfl, rfl⟩ := yields_pure_ok_iff.1 hlast
        rw [List.append_nil]
        exact ⟨some new, .publishes block hnew reading new hreading, rfl⟩
    · rename_i hold
      obtain ⟨rfl, rfl⟩ := yields_pure_ok_iff.1 hrest
      exact ⟨none, .nothingNew block (UInt64.not_lt.1 hold), rfl⟩

end Store

/-! ## A history of looks -/

/-- Looks one after another, each from the snapshot that was published before it. -/
inductive History (owner : Option Address) : Snapshot → List Look → Snapshot → Prop where
  | nil (s : Snapshot) : History owner s [] s
  | cons {s s' : Snapshot} {look : Look} {looks : List Look} (hlook : look.Goes owner s)
      (hrest : History owner (look.published.getD s) looks s') : History owner s (look :: looks) s'

/-- A snapshot is what one reading found as a whole: the first reading of the store, or the one of a
look. -/
def ReadAsWhole (owner : Option Address) (first : List (Exchange Chain)) (looks : List Look)
    (s : Snapshot) : Prop :=
  (Chain.readSnapshot owner .latest).Yields first (.ok s) ∨ ∃ look ∈ looks, look.Fetches owner s

namespace Look.Goes

variable {owner : Option Address} {s : Snapshot} {look : Look}

/-- What a look publishes it has read as a whole. -/
theorem fetches (h : look.Goes owner s) {new : Snapshot} (hnew : look.published = some new) :
    look.Fetches owner new := by
  cases h with
  | unanswered cause => cases hnew
  | nothingNew block hold => cases hnew
  | failed block hlt reading cause hreading => cases hnew
  | publishes block hlt reading found hreading =>
    cases hnew
    exact ⟨block, reading, rfl, hreading⟩

/-- A trace comes to one result, so a look that failed did not publish. -/
theorem not_published (h : look.Goes owner s) (hfails : look.Fails owner) :
    look.published = none := by
  cases h with
  | unanswered cause => rfl
  | nothingNew block hold => rfl
  | failed block hlt reading cause hreading => rfl
  | publishes block hlt reading found hreading =>
    rcases hfails with ⟨cause, heq⟩ | ⟨block', reading', failure, heq, hfailed⟩
    · cases heq
    · cases heq
      cases hreading.result_unique hfailed

theorem number_lt (h : look.Goes owner s) {new : Snapshot} (hnew : look.published = some new)
    (hnames : ∀ e ∈ look.trace, NamesBlock e) : s.block.number < new.block.number := by
  cases h with
  | unanswered cause => cases hnew
  | nothingNew block hold => cases hnew
  | failed block hlt reading cause hreading => cases hnew
  | publishes block hlt reading found hreading =>
    cases hnew
    obtain ⟨-, hnames⟩ := List.forall_mem_cons.1 hnames
    rw [Store.number_of_readSnapshot hreading hnames]
    exact hlt

theorem staysAtBlock (h : look.Goes owner s) (hnames : ∀ e ∈ look.trace, NamesBlock e) :
    look.StaysAtBlock := by
  intro block reading htrace
  cases h with
  | unanswered cause => cases htrace
  | nothingNew block' hold =>
    cases htrace
    intro e he
    cases he
  | failed block' hlt reading' cause hreading =>
    cases htrace
    exact Chain.readSnapshot_readsAt hreading (List.forall_mem_cons.1 hnames).2
  | publishes block' hlt reading' found hreading =>
    cases htrace
    exact Chain.readSnapshot_readsAt hreading (List.forall_mem_cons.1 hnames).2

end Look.Goes

namespace History

variable {owner : Option Address} {s s' : Snapshot} {looks : List Look}

/-- At each moment of a history there is a published snapshot, and the history goes on from it. -/
theorem cut {before rest : List Look} (h : History owner s (before ++ rest) s') :
    ∃ m, History owner s before m ∧ History owner m rest s' := by
  induction before generalizing s with
  | nil => exact ⟨s, .nil s, h⟩
  | cons look before ih =>
    cases h with
    | cons hlook hrest =>
      obtain ⟨m, hbefore, hafter⟩ := ih hrest
      exact ⟨m, .cons hlook hbefore, hafter⟩

/-- Looks settle what is published after them. -/
theorem unique {s₁ s₂ : Snapshot} (h₁ : History owner s looks s₁) (h₂ : History owner s looks s₂) :
    s₁ = s₂ := by
  induction h₁ with
  | nil s =>
    cases h₂
    rfl
  | cons _ _ ih =>
    cases h₂ with
    | cons _ hrest => exact ih hrest

/-- What is published at the end was published at the start, or some look has read it. -/
theorem fetched (h : History owner s looks s') :
    s' = s ∨ ∃ look ∈ looks, look.Fetches owner s' := by
  induction h with
  | nil s => exact Or.inl rfl
  | @cons s s' look looks hlook _ ih =>
    rcases ih with rfl | ⟨later, hmem, hfetches⟩
    · cases hpublished : look.published with
      | none => exact Or.inl rfl
      | some new => exact Or.inr ⟨look, List.mem_cons_self, hlook.fetches hpublished⟩
    · exact Or.inr ⟨later, List.mem_cons_of_mem _ hmem, hfetches⟩

theorem forall_goes (h : History owner s looks s') : ∀ look ∈ looks, ∃ m, look.Goes owner m := by
  induction h with
  | nil s => exact nofun
  | @cons s s' look looks hlook _ ih => exact List.forall_mem_cons.2 ⟨⟨s, hlook⟩, ih⟩

/-- Every published block has a higher number than those published before it, the first one
included. -/
theorem pairwise_number (h : History owner s looks s')
    (hnames : ∀ look ∈ looks, ∀ e ∈ look.trace, NamesBlock e) :
    (s :: looks.filterMap Look.published).Pairwise fun a b => a.block.number < b.block.number := by
  induction h with
  | nil s => exact List.pairwise_singleton _ _
  | @cons s s' look looks hlook _ ih =>
    obtain ⟨hlookNames, hnames⟩ := List.forall_mem_cons.1 hnames
    have hrest := ih hnames
    cases hpublished : look.published with
    | none =>
      rw [hpublished] at hrest
      rw [List.filterMap_cons_none hpublished]
      exact hrest
    | some new =>
      rw [hpublished] at hrest
      rw [List.filterMap_cons_some hpublished]
      have hlt := hlook.number_lt hpublished hlookNames
      refine List.pairwise_cons.2 ⟨List.forall_mem_cons.2 ⟨hlt, ?_⟩, hrest⟩
      intro later hlater
      exact UInt64.lt_trans hlt ((List.pairwise_cons.1 hrest).1 later hlater)

end History

namespace Store

variable {store last : Store} {trace : List (Exchange Chain)}

/-- A run of looks is a history, and its trace is what the looks asked one after another. -/
theorem pollTimes_yields {count : Nat}
    (h : (pollTimes count store).Yields trace (.ok last)) :
    ∃ looks : List Look, looks.length = count ∧ trace = looks.flatMap Look.trace ∧
      History store.owner store.published looks last.published := by
  induction count generalizing store trace with
  | zero =>
    obtain ⟨rfl, rfl⟩ := yields_pure_ok_iff.1 h
    exact ⟨[], rfl, rfl, .nil _⟩
  | succ count ih =>
    obtain ⟨front, rest, next, rfl, hpoll, hrest⟩ := yields_bind_ok_iff.1 h
    obtain ⟨published, hgoes, rfl⟩ := poll_goes hpoll
    obtain ⟨looks, hlength, rfl, hhistory⟩ := ih hrest
    exact ⟨⟨front, published⟩ :: looks, congrArg (· + 1) hlength, rfl, .cons hgoes hhistory⟩

/-- The life of a store, where every look and every read of a reading may fail: at all times the
published snapshot is what a single reading found as a whole, looks that fail publish nothing, the
numbers of the published blocks rise, and every read that follows the sight of a block is at that
block. -/
theorem pollTimes_history {owner : Option Address} {first : List (Exchange Chain)} {count : Nat}
    (hstart : (start owner).Yields first (.ok store))
    (hrun : (pollTimes count store).Yields trace (.ok last))
    (hnames : ∀ e ∈ trace, NamesBlock e) :
    ∃ looks : List Look, looks.length = count ∧ trace = looks.flatMap Look.trace ∧
      History owner store.published looks last.published ∧
      (∀ before rest, looks = before ++ rest →
        ∃ s, History owner store.published before s ∧ ReadAsWhole owner first before s) ∧
      (∀ look ∈ looks, look.Fails owner → look.published = none) ∧
      (store.published :: looks.filterMap Look.published).Pairwise
        (fun a b => a.block.number < b.block.number) ∧
      ∀ look ∈ looks, look.StaysAtBlock := by
  obtain ⟨_, _, published, rfl, hread, hstore⟩ := yields_bind_ok_iff.1 hstart
  obtain ⟨rfl, rfl⟩ := yields_pure_ok_iff.1 hstore
  obtain ⟨looks, hlength, rfl, hhistory⟩ := pollTimes_yields hrun
  have hlookNames : ∀ look ∈ looks, ∀ e ∈ look.trace, NamesBlock e := by
    intro look hmem e he
    exact hnames e (List.mem_flatMap.2 ⟨look, hmem, he⟩)
  refine ⟨looks, hlength, rfl, hhistory, ?_, ?_, hhistory.pairwise_number hlookNames, ?_⟩
  · rintro before rest rfl
    obtain ⟨s, hbefore, -⟩ := hhistory.cut
    refine ⟨s, hbefore, ?_⟩
    rw [List.append_nil]
    rcases hbefore.fetched with rfl | hfetched
    · exact Or.inl hread
    · exact Or.inr hfetched
  · intro look hmem hfails
    obtain ⟨m, hgoes⟩ := hhistory.forall_goes look hmem
    exact hgoes.not_published hfails
  · intro look hmem
    obtain ⟨m, hgoes⟩ := hhistory.forall_goes look hmem
    exact hgoes.staysAtBlock (hlookNames look hmem)

/-! ## A life with failures -/

/-- The first reading of a store of a bare protocol, at the earlier block. -/
def earlyReading (baseRate : Word) : List (Exchange Chain) :=
  [⟨.read .block .latest, .ok CachedRun.early⟩, ⟨.read .validCollateral (.number 100), .ok []⟩,
    ⟨.read .baseRate (.number 100), .ok baseRate⟩,
    ⟨.read .lastFeeOperationTime (.number 100), .ok (0 : UInt64)⟩,
    ⟨.read .troveOwnersCount (.number 100), .ok (0 : UInt64)⟩,
    ⟨.read (.poolDebt .active) (.number 100), .ok Word.zero⟩,
    ⟨.read (.poolDebt .default) (.number 100), .ok Word.zero⟩]

/-- A look that is not answered, one whose reading fails in its third request, and one that
publishes. -/
def troubledLooks (cause : ChainError) (baseRate : Word) : List (Exchange Chain) :=
  ⟨.read .block .latest, .error cause⟩ ::
    ⟨.read .block .latest, .ok CachedRun.late⟩ ::
    ⟨.read .block (.number 101), .ok CachedRun.late⟩ ::
    ⟨.read .validCollateral (.number 101), .error cause⟩ :: CachedRun.latePoll baseRate

theorem start_yields (baseRate : Word) :
    (start none).Yields (earlyReading baseRate)
      (.ok (CachedRun.bareStore CachedRun.early baseRate)) :=
  .ask (.ask (.ask (.ask (.ask (.ask (.ask (.done _)))))))

/-- Each look is run on its own: the first asks one request, the second three, and the third reads a
whole snapshot. -/
theorem pollTimes_troubled (cause : ChainError) (old new : Word) :
    (pollTimes 3 (CachedRun.bareStore CachedRun.early old)).Yields (troubledLooks cause new)
      (.ok (CachedRun.bareStore CachedRun.late new)) := by
  have hdown : (CachedRun.bareStore CachedRun.early old).poll.Yields
      [⟨.read .block .latest, .error cause⟩] (.ok (CachedRun.bareStore CachedRun.early old)) :=
    .ask (.done _)
  have hfails : (CachedRun.bareStore CachedRun.early old).poll.Yields
      [⟨.read .block .latest, .ok CachedRun.late⟩, ⟨.read .block (.number 101), .ok CachedRun.late⟩,
        ⟨.read .validCollateral (.number 101), .error cause⟩]
      (.ok (CachedRun.bareStore CachedRun.early old)) := .ask (.ask (.ask (.done _)))
  refine yields_bind_ok_iff.2 ⟨_, _, _, rfl, hdown, ?_⟩
  refine yields_bind_ok_iff.2 ⟨_, _, _, rfl, hfails, ?_⟩
  refine yields_bind_ok_iff.2 ⟨_, _, _, ?_, CachedRun.latePoll_publishes old new, .done _⟩
  exact (List.append_nil _).symm

theorem troubledLooks_names (cause : ChainError) (new : Word) :
    ∀ e ∈ troubledLooks cause new, NamesBlock e := by
  refine List.forall_mem_cons.2 ⟨?_, List.forall_mem_cons.2 ⟨?_, List.forall_mem_cons.2 ⟨?_, ?_⟩⟩⟩
  · intro n block heq
    cases heq
  · intro n block heq
    cases heq
  · intro n block heq
    cases heq
    rfl
  · refine List.forall_mem_cons.2 ⟨?_, CachedRun.latePoll_names new⟩
    intro n block heq
    cases heq

/-- The two looks that fail change nothing, and the third publishes what it has read. -/
theorem troubledLooks_history :
    ∃ looks : List Look, looks.length = 3 ∧
      troubledLooks (.transport "down") .max = looks.flatMap Look.trace ∧
      ReadAsWhole none (earlyReading .zero) looks
        (CachedRun.bareStore CachedRun.late .max).published ∧
      (looks.filterMap Look.published).Pairwise (fun a b => a.block.number < b.block.number) ∧
      ∀ look ∈ looks, look.StaysAtBlock := by
  obtain ⟨looks, hlength, htrace, hhistory, hwhole, -, hrising, hstays⟩ :=
    pollTimes_history (start_yields .zero) (pollTimes_troubled (.transport "down") .zero .max)
      (troubledLooks_names (.transport "down") .max)
  obtain ⟨s, hs, hread⟩ := hwhole looks [] (List.append_nil _).symm
  obtain rfl := hs.unique hhistory
  exact ⟨looks, hlength, htrace, hread, (List.pairwise_cons.1 hrising).2, hstays⟩

end Store

end Cdp
