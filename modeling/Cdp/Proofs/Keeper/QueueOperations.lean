import Cdp.Proofs.Keeper.PairedQueue
import Cdp.Proofs.Keeper.Refresh

/-!
# Any queue in place of a map

A pass changes its queue and asks it for the healths below one, and it asks the chain the same
whatever kind of queue it is. `Lawful` says of a kind of queue which map each of its queues stands
for, that the changes keep up with those of the map, and that all healths below one are given back,
the least first (`Below`). Nothing is said of the order of equal healths.

The queue in one map is lawful, and so is the queue in two containers with any lawful priority queue
and in whatever order it drops owners (`PairedQueue.lawful_operations`). A refresh of a lawful queue
goes as a refresh of its map (`refreshOnly_holds`).
-/

set_option autoImplicit false

namespace Cdp

open Procedure

/-- All healths below one that a queue has, each owner once and the least health first. -/
structure Below (q : HealthQueue) (hs : List TroveHealth) : Prop where
  mem : ∀ h, h ∈ hs ↔ q.get? h.owner = some h ∧ h.health < .one
  nodup : (hs.map (·.owner)).Nodup
  ascending : hs.Pairwise fun a b => a.health ≤ b.health

/-- What tells a map gives back all of its healths below one where the limit is no smaller than the
map. -/
theorem Tells.below {v : QueueView} {q : HealthQueue} {limit : Nat} (h : Tells v q.entries)
    (hlimit : q.size ≤ limit) : Below q (v.liquidatableUpTo limit) := by
  obtain ⟨below, hmem, hnodup, hascending, htake⟩ := h.liquidatable
  have hkeys : below.map (·.owner) ⊆ q.entries.keys := by
    intro owner howner
    obtain ⟨health, hhealth, rfl⟩ := List.mem_map.1 howner
    rw [← q.entries.contains_iff]
    exact AddressMap.contains_of_get? ((hmem health).1 hhealth).1
  have hlength : below.length ≤ q.size := by
    have hle := (hnodup.subperm hkeys).length_le
    rwa [List.length_map, AddressMap.keys, List.length_map] at hle
  rw [htake, List.take_of_length_le (Nat.le_trans hlength hlimit)]
  exact ⟨hmem, hnodup, hascending⟩

namespace QueueOperations

variable {Q : Type}

/-- The operations do to the queues what those of the map do to the maps that they hold. -/
structure Lawful [QueueOperations Q] (Holds : Q → HealthQueue → Prop) : Prop where
  retain : ∀ {s q} (owners : List Address), Holds s q → Holds (retain s owners) (q.retain owners)
  push : ∀ {s q} (h : TroveHealth), Holds s q → Holds (push s h) (q.push h)
  erase : ∀ {s q} (owner : Address), Holds s q → Holds (erase s owner) (q.erase owner)
  below : ∀ {s q limit}, Holds s q → q.Keyed → q.size ≤ limit → Below q (liquidatableUpTo s limit)

section Laws

variable [QueueOperations Q] {Holds : Q → HealthQueue → Prop} {s : Q} {q : HealthQueue}

theorem Lawful.update (hlaw : Lawful Holds) (hs : Holds s q) (owners : List Address)
    (scores : List TroveHealth) : Holds (update s owners scores) (update q owners scores) := by
  have hpushes : ∀ {s q}, Holds s q →
      Holds (scores.foldl QueueOperations.push s) (scores.foldl QueueOperations.push q) := by
    induction scores with
    | nil => exact fun hs => hs
    | cons h rest ih => exact fun hs => ih (hlaw.push h hs)
  exact hpushes (hlaw.retain owners hs)

theorem eraseAll_append (queue : Q) (owners others : List Address) :
    eraseAll queue (owners ++ others) = eraseAll (eraseAll queue owners) others :=
  List.foldl_append

theorem Lawful.eraseAll (hlaw : Lawful Holds) (hs : Holds s q) (owners : List Address) :
    Holds (eraseAll s owners) (q.eraseAll owners) := by
  induction owners generalizing s q with
  | nil => exact hs
  | cons owner rest ih => exact ih (hlaw.erase owner hs)

end Laws

end QueueOperations

open QueueOperations

/-- The queue in one map holds itself. -/
theorem HealthQueue.lawful_operations : Lawful (fun s q : HealthQueue => s = q) where
  retain owners hs := congrArg (HealthQueue.retain · owners) hs
  push h hs := congrArg (HealthQueue.push · h) hs
  erase owner hs := congrArg (HealthQueue.erase · owner) hs
  below := by
    rintro s q limit rfl hkeyed hlimit
    exact (HealthQueue.tells_view hkeyed).below hlimit

/-- The queue in two containers holds the map that the two agree on. -/
theorem PairedQueue.lawful_operations {Q : Type} {R : Ranking Q}
    {order : List Address → List Address} (hR : R.Lawful)
    (horder : ∀ owners, (order owners).Perm owners) :
    @Lawful (PairedQueue Q) (PairedQueue.operations R order) (PairedQueue.Agrees R) := by
  let _ := PairedQueue.operations R order
  constructor
  case retain =>
    intro s q owners hs
    rw [← PairedQueue.eraseAll_stale hs (horder (s.stale owners))]
    exact hs.removeAll hR _
  case push => exact fun h hs => hs.push hR h
  case erase => exact fun owner hs => hs.remove hR owner
  case below =>
    intro s q limit hs hkeyed hlimit
    exact (PairedQueue.tells_view hR hs hkeyed).below hlimit

/-! ## Refreshing -/

namespace Keeper

variable {Q : Type} [QueueOperations Q] {Holds : Q → HealthQueue → Prop} {s : Q} {q : HealthQueue}
  {trace : List (Exchange Chain)}

/-- Two results that are the same failure, or a queue and the map that it holds. -/
inductive Alike {ε : Type} (Holds : Q → HealthQueue → Prop) :
    Except ε Q → Except ε HealthQueue → Prop where
  | error (e : ε) : Alike Holds (.error e) (.error e)
  | ok {s : Q} {q : HealthQueue} (h : Holds s q) : Alike Holds (.ok s) (.ok q)

/-- The queue has no part in what a refresh asks. -/
theorem rescore_holds (hlaw : Lawful Holds) (hs : Holds s q) {state : SystemState}
    {recoveryMode : Bool} {depth : Nat} {result : Except (Failure RefreshFailure) Q}
    (h : (rescore s state recoveryMode depth).Yields trace result) :
    ∃ same, (rescore q state recoveryMode depth).Yields trace same ∧ Alike Holds result same := by
  -- the queue is first touched by the update, when all has been read
  rcases yields_bind_iff.1 h with ⟨front, rest, owners, rfl, howners, h⟩ | ⟨e, he, rfl⟩
  · rcases yields_bind_iff.1 h with ⟨front', rest, scores, rfl, hscores, h⟩ | ⟨e, he, rfl⟩
    · obtain ⟨rfl, rfl⟩ := yields_done_iff.1 h
      refine ⟨.ok (update q owners scores), ?_, .ok (hlaw.update hs owners scores)⟩
      refine yields_bind_iff.2 (Or.inl ⟨front, _, owners, rfl, howners, ?_⟩)
      exact yields_bind_iff.2 (Or.inl ⟨front', [], scores, rfl, hscores, .done _⟩)
    · refine ⟨.error e, ?_, .error e⟩
      refine yields_bind_iff.2 (Or.inl ⟨front, rest, owners, rfl, howners, ?_⟩)
      exact yields_bind_iff.2 (Or.inr ⟨e, he, rfl⟩)
  · exact ⟨.error e, yields_bind_iff.2 (Or.inr ⟨e, he, rfl⟩), .error e⟩

theorem refresh_holds (hlaw : Lawful Holds) (hs : Holds s q) {depth : Nat} {found : Refresh Q}
    (h : (refresh s depth).Yields trace (.ok found)) :
    ∃ result, (refresh q depth).Yields trace (.ok ⟨found.recoveryBlock, result⟩) ∧
      Alike Holds found.result result := by
  obtain ⟨front, rest, read, rfl, hread, h⟩ := yields_bind_ok_iff.1 h
  simp only [refresh, yields_bind_ok_iff]
  cases read with
  | error failure =>
    obtain ⟨rfl, rfl⟩ := yields_pure_ok_iff.1 h
    exact ⟨.error failure, ⟨front, [], _, rfl, hread, .done _⟩, .error failure⟩
  | ok state =>
    dsimp only at h
    cases hmode : state.isRecoveryMode with
    | error failure =>
      rw [hmode] at h
      obtain ⟨rfl, rfl⟩ := yields_pure_ok_iff.1 h
      refine ⟨_, ⟨front, [], _, rfl, hread, ?_⟩, .error _⟩
      dsimp only
      rw [hmode]
      exact .done _
    | ok recoveryMode =>
      rw [hmode] at h
      obtain ⟨scans, _, result, rfl, hresult, h⟩ := yields_bind_ok_iff.1 h
      obtain ⟨rfl, rfl⟩ := yields_pure_ok_iff.1 h
      obtain ⟨same, hsame, halike⟩ := rescore_holds hlaw hs (yields_attempt_iff.1 hresult)
      refine ⟨same, ⟨front, _, _, rfl, hread, ?_⟩, halike⟩
      dsimp only
      rw [hmode]
      exact yields_bind_ok_iff.2 ⟨scans, [], _, rfl, yields_attempt_iff.2 hsame, .done _⟩

/-- A refresh of a queue goes as a refresh of the map that it holds. -/
theorem refreshOnly_holds (hlaw : Lawful Holds) (hs : Holds s q) {limits : Limits}
    {report : Report Q} (h : (refreshOnly s limits).Yields trace (.ok report)) :
    ∃ same : Report HealthQueue, (refreshOnly q limits).Yields trace (.ok same) ∧
      Holds report.queue same.queue ∧ report.outcome = same.outcome ∧ report.found = [] ∧
      report.batches = [] := by
  obtain ⟨front, rest, found, rfl, hfound, h⟩ := yields_bind_ok_iff.1 h
  obtain ⟨result, hresult, halike⟩ := refresh_holds hlaw hs hfound
  obtain ⟨recoveryBlock, before⟩ := found
  cases halike with
  | error failure =>
    obtain ⟨rfl, rfl⟩ := yields_pure_ok_iff.1 h
    exact ⟨_, yields_bind_ok_iff.2 ⟨front, [], _, rfl, hresult, .done _⟩, hs, rfl, rfl, rfl⟩
  | ok hrefreshed =>
    obtain ⟨rfl, rfl⟩ := yields_pure_ok_iff.1 h
    exact ⟨_, yields_bind_ok_iff.2 ⟨front, [], _, rfl, hresult, .done _⟩, hrefreshed, rfl, rfl, rfl⟩

end Keeper

end Cdp
