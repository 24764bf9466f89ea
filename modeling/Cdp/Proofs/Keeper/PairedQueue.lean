import Cdp.Keeper.PairedQueue
import Cdp.Proofs.Keeper.Queue
import Mathlib.Data.List.Induction

/-!
# The queue as a finite map

Whatever was pushed, removed and dropped, an owner has the health that was pushed last and that
nothing has taken out since (`Stands`). The queue is the map of these healths, and all that it tells
is told of this map (`Tells`): its size, the entry that a removal answers with, a least health, and
the healths below one in their order.

This holds of the queue in one map and of the queue in two containers, for every lawful priority
queue and in whatever order the dropped owners are taken out. The two containers have the same
owners with the same healths after every change (`Agrees`), so neither hides an owner from the other
(`queue_tells_map`).
-/

set_option autoImplicit false

namespace Cdp

/-! ## Histories -/

/-- A change of the queue. -/
inductive QueueChange where
  | push (health : TroveHealth)
  | remove (owner : Address)
  /-- Drops every owner who is not in a list. -/
  | retain (seen : List Address)

namespace QueueChange

/-- The change sets the health of an owner or takes it out. -/
def Touches (owner : Address) : QueueChange → Prop
  | .push h => h.owner = owner
  | .remove other => other = owner
  | .retain seen => owner ∉ seen

/-- The health that a change sets. -/
def pushed : QueueChange → Option TroveHealth
  | .push h => some h
  | .remove _ => none
  | .retain _ => none

end QueueChange

/-- A health that was pushed for an owner whom nothing has touched since. -/
def Stands (changes : List QueueChange) (owner : Address) (h : TroveHealth) : Prop :=
  h.owner = owner ∧ ∃ before after, changes = before ++ .push h :: after ∧
    ∀ change ∈ after, ¬change.Touches owner

section Histories

variable {changes : List QueueChange} {change : QueueChange} {owner : Address} {h : TroveHealth}

theorem not_stands_nil : ¬Stands [] owner h := by
  rintro ⟨-, before, after, hcut, -⟩
  exact absurd hcut.symm (List.append_ne_nil_of_right_ne_nil _ (List.cons_ne_nil _ _))

/-- The last change decides if it touches the owner, and leaves things as they are if it does
not. -/
theorem stands_concat_iff : Stands (changes ++ [change]) owner h ↔
    change.Touches owner ∧ change.pushed = some h ∨
      ¬change.Touches owner ∧ Stands changes owner h := by
  constructor
  · rintro ⟨howner, before, after, hcut, huntouched⟩
    rcases List.eq_nil_or_concat after with rfl | ⟨later, last, rfl⟩
    · obtain ⟨-, rfl⟩ := List.append_inj' hcut rfl |>.imp id (List.cons.inj · |>.1)
      exact Or.inl ⟨howner, rfl⟩
    · rw [List.concat_eq_append, ← List.cons_append, ← List.append_assoc] at hcut
      obtain ⟨rfl, hlast⟩ := List.append_inj' hcut rfl
      cases hlast
      rw [List.concat_eq_append, List.forall_mem_append] at huntouched
      refine Or.inr ⟨huntouched.2 _ List.mem_cons_self, howner, before, later, rfl, huntouched.1⟩
  · rintro (⟨htouches, hpushed⟩ | ⟨huntouched, howner, before, after, rfl, hafter⟩)
    · cases change with
      | push health =>
        cases hpushed
        exact ⟨htouches, changes, [], rfl, List.forall_mem_nil _⟩
      | remove other => cases hpushed
      | retain seen => cases hpushed
    · refine ⟨howner, before, after ++ [change], by simp, ?_⟩
      rw [List.forall_mem_append, List.forall_mem_singleton]
      exact ⟨hafter, huntouched⟩

end Histories

/-! ## The queue in one map -/

namespace HealthQueue

variable {q : HealthQueue} {changes : List QueueChange} {change : QueueChange} {owner : Address}
  {h : TroveHealth}

def apply (q : HealthQueue) : QueueChange → HealthQueue
  | .push h => q.push h
  | .remove owner => q.erase owner
  | .retain seen => q.retain seen

/-- The queue after changes of an empty one. -/
def after (changes : List QueueChange) : HealthQueue := changes.foldl apply empty

theorem after_concat : after (changes ++ [change]) = (after changes).apply change :=
  List.foldl_concat ..

theorem get?_apply_of_touches (htouches : change.Touches owner) :
    (q.apply change).get? owner = change.pushed := by
  cases change with
  | push h => exact (get?_push q h owner).trans (if_pos htouches)
  | remove other => exact (get?_erase q other owner).trans (if_pos htouches)
  | retain seen => exact get?_retain.trans (if_neg htouches)

theorem get?_apply_of_not_touches (huntouched : ¬change.Touches owner) :
    (q.apply change).get? owner = q.get? owner := by
  cases change with
  | push h => exact (get?_push q h owner).trans (if_neg huntouched)
  | remove other => exact (get?_erase q other owner).trans (if_neg huntouched)
  | retain seen => exact get?_retain.trans (if_pos (Decidable.not_not.1 huntouched))

/-- After any changes the queue has exactly the healths that stand. -/
theorem get?_after : (after changes).get? owner = some h ↔ Stands changes owner h := by
  induction changes using List.reverseRecOn with
  | nil => exact ⟨nofun, fun hstands => absurd hstands not_stands_nil⟩
  | append_singleton changes change ih =>
    rw [after_concat, stands_concat_iff]
    by_cases htouches : change.Touches owner
    · simp [get?_apply_of_touches htouches, htouches]
    · simp [get?_apply_of_not_touches htouches, htouches, ih]

end HealthQueue

/-! ## The queue in two containers -/

namespace PairedQueue

variable {Q : Type} (R : Ranking Q)

/-- What a change makes of the two containers. The map may be walked in any order when owners are
dropped. -/
inductive Changes (s : PairedQueue Q) : QueueChange → PairedQueue Q → Prop
  | push (h : TroveHealth) : Changes s (.push h) (s.push R h)
  | remove (owner : Address) : Changes s (.remove owner) (s.remove R owner).2
  | retain (seen dropped : List Address) (walk : dropped.Perm (s.stale seen)) :
    Changes s (.retain seen) (s.removeAll R dropped)

/-- Where changes of an empty queue may lead. -/
inductive Runs : List QueueChange → PairedQueue Q → Prop
  | start : Runs [] (empty R)
  | change {changes : List QueueChange} {s s' : PairedQueue Q} {change : QueueChange}
    (run : Runs changes s) (step : Changes R s change s') : Runs (changes ++ [change]) s'

/-- Both containers have the owners of a queue in one map, with the same healths. -/
structure Agrees (s : PairedQueue Q) (q : HealthQueue) : Prop where
  entries : s.entries = q.entries
  priorities : ∀ owner, R.health? s.ranking owner = (q.get? owner).map (·.health)

variable {R} {s s' : PairedQueue Q} {q : HealthQueue} {changes : List QueueChange}
  {change : QueueChange}

theorem Agrees.push (hR : R.Lawful) (hs : Agrees R s q) (h : TroveHealth) :
    Agrees R (s.push R h) (q.push h) where
  entries := by rw [PairedQueue.push, hs.entries, HealthQueue.push]
  priorities owner := by
    rw [PairedQueue.push, hR.health?_push, HealthQueue.get?_push, hs.priorities]
    split <;> rfl

theorem Agrees.remove (hR : R.Lawful) (hs : Agrees R s q) (owner : Address) :
    Agrees R (s.remove R owner).2 (q.erase owner) where
  entries := by rw [PairedQueue.remove, hs.entries, HealthQueue.erase]
  priorities other := by
    rw [PairedQueue.remove, hR.health?_remove, HealthQueue.get?_erase, hs.priorities]
    split <;> rfl

theorem Agrees.removeAll (hR : R.Lawful) (hs : Agrees R s q) (owners : List Address) :
    Agrees R (s.removeAll R owners) (q.eraseAll owners) := by
  induction owners generalizing s q with
  | nil => exact hs
  | cons owner rest ih => exact ih (hs.remove hR owner)

/-- The order in which owners are dropped makes no difference to the map. -/
theorem eraseAll_stale {seen dropped : List Address} (hs : Agrees R s q)
    (hwalk : dropped.Perm (s.stale seen)) : q.eraseAll dropped = q.retain seen := by
  have hentries : (q.eraseAll dropped).entries = (q.retain seen).entries := by
    apply AddressMap.ext_get?
    intro owner
    show (q.eraseAll dropped).get? owner = (q.retain seen).get? owner
    rw [HealthQueue.retain, HealthQueue.get?_eraseAll, HealthQueue.get?_eraseAll,
      ← hs.entries]
    exact if_congr hwalk.mem_iff rfl rfl
  exact congrArg HealthQueue.mk hentries

theorem Agrees.step (hR : R.Lawful) (hs : Agrees R s q) (hstep : Changes R s change s') :
    Agrees R s' (q.apply change) := by
  cases hstep with
  | push h => exact hs.push hR h
  | remove owner => exact hs.remove hR owner
  | retain seen dropped walk =>
    rw [HealthQueue.apply, ← eraseAll_stale hs walk]
    exact hs.removeAll hR dropped

/-- The two containers agree after every run. -/
theorem Runs.agrees (hR : R.Lawful) (hrun : Runs R changes s) :
    Agrees R s (HealthQueue.after changes) := by
  induction hrun with
  | start => exact ⟨rfl, hR.health?_empty⟩
  | change _ hstep ih =>
    rw [HealthQueue.after_concat]
    exact ih.step hR hstep

variable (R) in
/-- Every change can be made. -/
theorem exists_runs (changes : List QueueChange) : ∃ s : PairedQueue Q, Runs R changes s := by
  induction changes using List.reverseRecOn with
  | nil => exact ⟨_, .start⟩
  | append_singleton changes change ih =>
    obtain ⟨s, hrun⟩ := ih
    cases change with
    | push h => exact ⟨_, hrun.change (.push h)⟩
    | remove owner => exact ⟨_, hrun.change (.remove owner)⟩
    | retain seen => exact ⟨_, hrun.change (.retain seen _ (List.Perm.refl _))⟩

end PairedQueue

/-! ## What a queue tells -/

/-- What can be asked of a queue. -/
structure QueueView where
  size : Nat
  /-- The entry that the removal of an owner answers with. -/
  removed : Address → Option TroveHealth
  peek? : Option TroveHealth
  liquidatableUpTo : Nat → List TroveHealth

/-- A queue tells the size of a map and its entries, a least health unless the map is empty, and up
to a limit the healths below one, ascending and each owner once. -/
structure Tells (v : QueueView) (m : AddressMap TroveHealth) : Prop where
  size : v.size = m.size
  removed : ∀ owner, v.removed owner = m.get? owner
  peek?_eq_none_iff : v.peek? = none ↔ m.size = 0
  peek?_least : ∀ h, v.peek? = some h → m.get? h.owner = some h ∧
    ∀ owner other, m.get? owner = some other → h.health ≤ other.health
  liquidatable : ∃ below : List TroveHealth,
    (∀ h, h ∈ below ↔ m.get? h.owner = some h ∧ h.health < .one) ∧
    (below.map (·.owner)).Nodup ∧ (below.Pairwise fun a b => a.health ≤ b.health) ∧
    ∀ limit, v.liquidatableUpTo limit = below.take limit

/-- The first of a list that ascends by a decimal is a least of it. -/
theorem least_of_head? {α : Type} {value : α → Decimal} {l : List α} {first : α}
    (hascending : l.Pairwise fun a b => value a ≤ value b) (hfirst : l.head? = some first) :
    first ∈ l ∧ ∀ other ∈ l, value first ≤ value other := by
  obtain ⟨rest, rfl⟩ := List.head?_eq_some_iff.1 hfirst
  refine ⟨List.mem_cons_self, List.forall_mem_cons.2 ⟨Nat.le_refl _, ?_⟩⟩
  exact (List.pairwise_cons.1 hascending).1

/-- All healths of a map, each owner once and in ascending order. -/
structure Lists (m : AddressMap TroveHealth) (hs : List TroveHealth) : Prop where
  mem : ∀ h, h ∈ hs ↔ m.get? h.owner = some h
  nodup : (hs.map (·.owner)).Nodup
  ascending : hs.Pairwise fun a b => a.health ≤ b.health

section Listed

variable {m : AddressMap TroveHealth} {hs : List TroveHealth} {v : QueueView}

/-- Every owner of the map has one place in the list. -/
theorem Lists.length_eq (hlists : Lists m hs)
    (hkeyed : ∀ owner h, m.get? owner = some h → h.owner = owner) : hs.length = m.size := by
  have hperm : (hs.map (·.owner)).Perm m.keys := by
    rw [List.perm_ext_iff_of_nodup hlists.nodup m.nodup_keys]
    intro owner
    rw [← m.contains_iff, AddressMap.contains, Option.isSome_iff_exists, List.mem_map]
    constructor
    · rintro ⟨h, hmem, rfl⟩
      exact ⟨h, (hlists.mem h).1 hmem⟩
    · rintro ⟨h, hget⟩
      obtain rfl := hkeyed owner h hget
      exact ⟨h, (hlists.mem h).2 hget, rfl⟩
  have hlength := hperm.length_eq
  rwa [List.length_map, AddressMap.keys, List.length_map] at hlength

/-- A queue that answers from a list of all healths tells the map. -/
theorem Lists.tells (hlists : Lists m hs)
    (hkeyed : ∀ owner h, m.get? owner = some h → h.owner = owner)
    (hsize : v.size = hs.length) (hremoved : ∀ owner, v.removed owner = m.get? owner)
    (hnone : v.peek? = none ↔ hs = [])
    (hleast : ∀ h, v.peek? = some h → h ∈ hs ∧ ∀ other ∈ hs, h.health ≤ other.health)
    (hbelow : ∀ limit, v.liquidatableUpTo limit =
      (hs.takeWhile TroveHealth.isLiquidatable).take limit) : Tells v m where
  size := hsize.trans (hlists.length_eq hkeyed)
  removed := hremoved
  peek?_eq_none_iff := by
    rw [hnone, ← hlists.length_eq hkeyed, List.length_eq_zero_iff]
  peek?_least := by
    intro h hpeek
    obtain ⟨hmem, hle⟩ := hleast h hpeek
    refine ⟨(hlists.mem h).1 hmem, fun owner other hother => ?_⟩
    obtain rfl := hkeyed owner other hother
    exact hle other ((hlists.mem other).2 hother)
  liquidatable := by
    have hsublist := List.takeWhile_sublist TroveHealth.isLiquidatable (l := hs)
    refine ⟨hs.takeWhile TroveHealth.isLiquidatable, ?_, ?_, ?_, hbelow⟩
    · intro h
      rw [HealthQueue.takeWhile_isLiquidatable hlists.ascending, List.mem_filter, hlists.mem,
        TroveHealth.isLiquidatable, decide_eq_true_eq]
    · exact hlists.nodup.sublist (hsublist.map _)
    · exact hlists.ascending.sublist hsublist

end Listed

namespace HealthQueue

variable {q : HealthQueue}

def view (q : HealthQueue) : QueueView := ⟨q.size, q.get?, q.peek?, q.liquidatableUpTo⟩

theorem lists_sorted (hq : q.Keyed) : Lists q.entries q.sorted where
  mem h := by
    rw [q.sorted_perm.mem_iff, AddressMap.values, List.mem_map]
    constructor
    · rintro ⟨e, he, rfl⟩
      have hget := q.entries.get?_eq_some_iff.2 he
      rwa [hq e.1 e.2 hget]
    · intro hget
      exact ⟨(h.owner, h), q.entries.get?_eq_some_iff.1 hget, rfl⟩
  nodup := by
    have howners : q.entries.values.map (·.owner) = q.entries.keys := by
      rw [AddressMap.values, AddressMap.keys, List.map_map]
      refine List.map_congr_left fun e he => ?_
      exact hq e.1 e.2 (q.entries.get?_eq_some_iff.2 he)
    rw [(q.sorted_perm.map _).nodup_iff, howners]
    exact q.entries.nodup_keys
  ascending := q.pairwise_sorted

theorem tells_view (hq : q.Keyed) : Tells q.view q.entries := by
  have hlists := lists_sorted hq
  refine hlists.tells hq (hlists.length_eq hq).symm (fun _ => rfl) List.head?_eq_none_iff ?_
    fun _ => rfl
  intro h hpeek
  exact least_of_head? q.pairwise_sorted hpeek

end HealthQueue

namespace PairedQueue

variable {Q : Type} {R : Ranking Q} {s : PairedQueue Q} {q : HealthQueue}

variable (R) in
def view (s : PairedQueue Q) : QueueView :=
  ⟨s.size R, fun owner => (s.remove R owner).1, s.peek? R, s.liquidatableUpTo R⟩

/-- What the priority queue walks through are the entries of the map, by owner and health. -/
theorem exists_lists (hR : R.Lawful) (hs : Agrees R s q) (hq : q.Keyed) :
    ∃ hs, Lists q.entries hs ∧ R.sorted s.ranking = hs.map fun h => (h.owner, h.health) := by
  let hs' := (R.sorted s.ranking).filterMap fun e => q.get? e.1
  have hsorted : R.sorted s.ranking = hs'.map fun h => (h.owner, h.health) := by
    rw [List.map_filterMap, eq_comm]
    refine (List.filterMap_congr ?_).trans List.filterMap_some
    -- each pair that is walked through is that of an entry
    rintro ⟨owner, health⟩ he
    rw [hR.mem_sorted, hs.priorities, Option.map_eq_some_iff] at he
    obtain ⟨h, hget, rfl⟩ := he
    rw [hget, Option.map_some, hq owner h hget]
  refine ⟨hs', ⟨?mem, ?nodup, ?ascending⟩, hsorted⟩
  case mem =>
    intro h
    rw [List.mem_filterMap]
    constructor
    · rintro ⟨e, -, hget⟩
      rwa [hq e.1 h hget]
    · intro hget
      refine ⟨(h.owner, h.health), ?_, hget⟩
      rw [hR.mem_sorted, hs.priorities, HealthQueue.get?, hget, Option.map_some]
  case nodup =>
    have hnodup := hR.nodup_sorted s.ranking
    rwa [hsorted, List.map_map] at hnodup
  case ascending =>
    have hascending := hR.ascending_sorted s.ranking
    rwa [hsorted, List.pairwise_map] at hascending

/-- The queue in two containers answers from the map as the queue in one map does. -/
theorem tells_view (hR : R.Lawful) (hs : Agrees R s q) (hq : q.Keyed) :
    Tells (s.view R) q.entries := by
  obtain ⟨hs', hlists, hsorted⟩ := exists_lists hR hs hq
  have hentry : ∀ h ∈ hs', s.entries.get? h.owner = some h := by
    intro h hmem
    rw [hs.entries]
    exact (hlists.mem h).1 hmem
  -- the first owner has an entry
  have hfirst : ∀ first, R.peek? s.ranking = some first → ∃ h ∈ hs', (h.owner, h.health) = first ∧
      s.entries.get? first.1 = some h ∧ ∀ other ∈ hs', h.health ≤ other.health := by
    intro first hpeek
    obtain ⟨hmem, hle⟩ := hR.peek?_least _ first hpeek
    rw [hsorted, List.mem_map] at hmem
    obtain ⟨h, hmem, rfl⟩ := hmem
    refine ⟨h, hmem, rfl, hentry h hmem, fun other hother => ?_⟩
    apply hle (other.owner, other.health)
    rw [hsorted]
    exact List.mem_map_of_mem hother
  refine hlists.tells hq ?_ ?_ ?_ ?_ ?_
  · show R.size s.ranking = _
    rw [hR.size_eq, hsorted, List.length_map]
  · intro owner
    show s.entries.get? owner = _
    rw [hs.entries]
  · show (R.peek? s.ranking).bind (fun first => s.entries.get? first.1) = none ↔ _
    rw [← List.map_eq_nil_iff (f := fun h : TroveHealth => (h.owner, h.health)), ← hsorted,
      ← hR.peek?_eq_none_iff]
    cases hpeek : R.peek? s.ranking with
    | none => simp
    | some first =>
      obtain ⟨h, -, -, hget, -⟩ := hfirst first hpeek
      simp [hget]
  · intro h hpeek
    obtain ⟨first, hsome, hget⟩ := Option.bind_eq_some_iff.1 hpeek
    obtain ⟨h', hmem, -, hget', hle⟩ := hfirst first hsome
    cases hget.symm.trans hget'
    exact ⟨hmem, hle⟩
  · intro limit
    show (((R.sorted s.ranking).takeWhile _).take limit).filterMap _ = _
    rw [hsorted, List.takeWhile_map, ← List.map_take, List.filterMap_map]
    refine (List.filterMap_congr ?_).trans List.filterMap_some
    intro h hmem
    exact hentry h ((List.takeWhile_sublist _).mem (List.mem_of_mem_take hmem))

end PairedQueue

/-! ## All histories -/

/-- After any changes of an empty queue, the queue in one map and the queue in two containers are
both the map of the healths that stand, and tell it. -/
theorem queue_tells_map {Q : Type} {R : Ranking Q} (hR : R.Lawful) (changes : List QueueChange) :
    ∃ m : AddressMap TroveHealth,
      (∀ owner h, m.get? owner = some h ↔ Stands changes owner h) ∧
      (HealthQueue.after changes).entries = m ∧ Tells (HealthQueue.after changes).view m ∧
      (∃ s, PairedQueue.Runs R changes s) ∧
      ∀ s, PairedQueue.Runs R changes s → s.entries = m ∧
        (∀ owner, R.health? s.ranking owner = (m.get? owner).map (·.health)) ∧
        Tells (s.view R) m := by
  have hkeyed : (HealthQueue.after changes).Keyed := by
    intro owner h hget
    exact (HealthQueue.get?_after.1 hget).1
  refine ⟨(HealthQueue.after changes).entries, ?map, rfl, HealthQueue.tells_view hkeyed,
    PairedQueue.exists_runs R changes, ?runs⟩
  case map =>
    intro owner h
    exact HealthQueue.get?_after
  case runs =>
    intro s hrun
    have hagrees := hrun.agrees hR
    exact ⟨hagrees.entries, hagrees.priorities, PairedQueue.tells_view hR hagrees hkeyed⟩

/-! ## A priority queue -/

theorem Ranking.lawful_sorting : Ranking.sorting.Lawful where
  health?_empty _ := rfl
  health?_push m owner health other := m.get?_insert owner other health
  health?_remove m owner other := m.get?_erase owner other
  size_eq m := (List.length_mergeSort m.entries).symm
  peek?_eq_none_iff _ := List.head?_eq_none_iff
  peek?_least m _ hpeek := least_of_head? (Decimal.pairwise_mergeSort (·.2) m.entries) hpeek
  mem_sorted m _ _ := List.mem_mergeSort.trans m.get?_eq_some_iff.symm
  nodup_sorted m := ((List.mergeSort_perm m.entries _).map _).nodup_iff.2 m.nodup_keys
  ascending_sorted m := Decimal.pairwise_mergeSort (·.2) m.entries

def fallingOwner : Address := .wrap 1
def closedOwner : Address := .wrap 2
def unseenOwner : Address := .wrap 3
def poorOwner : Address := .wrap 4

def scoreOf (owner : Address) (health : Decimal) : TroveHealth := ⟨owner, health, .one, .one, 0⟩

/-- One owner falls below one, another is taken out, and a third is dropped. -/
def fallingChanges : List QueueChange :=
  [.push (scoreOf fallingOwner .one), .push (scoreOf closedOwner (.thousandths 80)),
    .push (scoreOf unseenOwner (.thousandths 70)), .push (scoreOf poorOwner (.thousandths 60)),
    .push (scoreOf fallingOwner (.thousandths 90)), .remove closedOwner,
    .retain [poorOwner, fallingOwner, closedOwner]]

/-- The priority queue that sorts is lawful, and the two containers with it tell of the owners that
are left, the first of them with the health it fell to. -/
theorem fallingChanges_told : Ranking.sorting.Lawful ∧
    ∃ s, PairedQueue.Runs Ranking.sorting fallingChanges s ∧
      Tells (s.view Ranking.sorting)
        (.ofList [(fallingOwner, scoreOf fallingOwner (.thousandths 90)),
          (poorOwner, scoreOf poorOwner (.thousandths 60))]) := by
  refine ⟨Ranking.lawful_sorting, ?_⟩
  obtain ⟨m, -, hentries, -, ⟨s, hrun⟩, hruns⟩ :=
    queue_tells_map Ranking.lawful_sorting fallingChanges
  obtain ⟨-, -, htells⟩ := hruns s hrun
  have hleft : (HealthQueue.after fallingChanges).entries =
      .ofList [(fallingOwner, scoreOf fallingOwner (.thousandths 90)),
        (poorOwner, scoreOf poorOwner (.thousandths 60))] := by decide
  rw [← hentries, hleft] at htells
  exact ⟨s, hrun, htells⟩

end Cdp
