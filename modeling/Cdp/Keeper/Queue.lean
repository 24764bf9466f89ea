import Cdp.Keeper.Health

/-!
# The queue of Troves by health

The keeper remembers one health for each owner, the one that was pushed last. The queue gives the
owners back in the order of their health, the least healthy first; owners of equal health come in
the order of their addresses.

A pass needs no more of a queue than `QueueOperations`, so it may work on any kind of queue.
-/

set_option autoImplicit false

namespace Cdp

/-- A list that is sorted by a decimal ascends. -/
theorem Decimal.pairwise_mergeSort {α : Type} (value : α → Decimal) (l : List α) :
    (l.mergeSort fun a b => decide (value a ≤ value b)).Pairwise fun a b => value a ≤ value b := by
  have trans : ∀ a b c, decide (value a ≤ value b) = true → decide (value b ≤ value c) = true →
      decide (value a ≤ value c) = true := by
    intro a b c hab hbc
    simp only [decide_eq_true_eq, Decimal.le_def] at hab hbc ⊢
    exact Nat.le_trans hab hbc
  have total : ∀ a b, (decide (value a ≤ value b) || decide (value b ≤ value a)) = true := by
    intro a b
    simp only [Bool.or_eq_true, decide_eq_true_eq, Decimal.le_def]
    exact Nat.le_total _ _
  exact (List.pairwise_mergeSort trans total l).imp of_decide_eq_true

/-- The latest health of every tracked owner. -/
structure HealthQueue where
  entries : AddressMap TroveHealth
deriving DecidableEq

namespace HealthQueue

def empty : HealthQueue := ⟨.empty⟩

instance : Inhabited HealthQueue := ⟨empty⟩

def size (q : HealthQueue) : Nat := q.entries.size

def isEmpty (q : HealthQueue) : Bool := q.entries.isEmpty

/-- The health of an owner. -/
def get? (q : HealthQueue) (owner : Address) : Option TroveHealth := q.entries.get? owner

/-- Sets the health of its owner. -/
def push (q : HealthQueue) (h : TroveHealth) : HealthQueue := ⟨q.entries.insert h.owner h⟩

def pushAll (q : HealthQueue) (hs : List TroveHealth) : HealthQueue := hs.foldl push q

def erase (q : HealthQueue) (owner : Address) : HealthQueue := ⟨q.entries.erase owner⟩

def eraseAll (q : HealthQueue) (owners : List Address) : HealthQueue := owners.foldl erase q

/-- Drops every owner that is not in a list. -/
def retain (q : HealthQueue) (owners : List Address) : HealthQueue :=
  q.eraseAll (q.entries.keys.filter fun owner => !owners.contains owner)

/-- Whether one health comes before another, or is equal to it. -/
def before (a b : TroveHealth) : Bool := decide (a.health ≤ b.health)

/-- All healths, the least first. -/
def sorted (q : HealthQueue) : List TroveHealth := q.entries.values.mergeSort before

/-- The least health. -/
def peek? (q : HealthQueue) : Option TroveHealth := q.sorted.head?

/-- The healths below one, the least first. -/
def liquidatable (q : HealthQueue) : List TroveHealth :=
  q.sorted.takeWhile TroveHealth.isLiquidatable

/-- At most `limit` healths below one, the least first. -/
def liquidatableUpTo (q : HealthQueue) (limit : Nat) : List TroveHealth :=
  q.liquidatable.take limit

theorem get?_push (q : HealthQueue) (h : TroveHealth) (owner : Address) :
    (q.push h).get? owner = if h.owner = owner then some h else q.get? owner :=
  q.entries.get?_insert h.owner owner h

theorem get?_erase (q : HealthQueue) (owner other : Address) :
    (q.erase owner).get? other = if owner = other then none else q.get? other :=
  q.entries.get?_erase owner other

theorem sorted_perm (q : HealthQueue) : q.sorted.Perm q.entries.values :=
  List.mergeSort_perm _ _

/-- The healths come in ascending order. -/
theorem pairwise_sorted (q : HealthQueue) :
    q.sorted.Pairwise fun a b => a.health ≤ b.health :=
  Decimal.pairwise_mergeSort TroveHealth.health _

end HealthQueue

/-- What a pass does to a queue and asks of it. -/
class QueueOperations (Q : Type) where
  /-- Drops every owner that is not in a list. -/
  retain : Q → List Address → Q
  /-- Sets the health of its owner. -/
  push : Q → TroveHealth → Q
  erase : Q → Address → Q
  /-- At most `limit` healths below one, the least first. -/
  liquidatableUpTo : Q → Nat → List TroveHealth

namespace QueueOperations

instance : QueueOperations HealthQueue where
  retain := HealthQueue.retain
  push := HealthQueue.push
  erase := HealthQueue.erase
  liquidatableUpTo := HealthQueue.liquidatableUpTo

variable {Q : Type} [QueueOperations Q]

/-- The queue after a scan: other owners are dropped, and new scores replace old ones. -/
def update (queue : Q) (owners : List Address) (scores : List TroveHealth) : Q :=
  scores.foldl push (retain queue owners)

def eraseAll (queue : Q) (owners : List Address) : Q := owners.foldl erase queue

end QueueOperations

end Cdp
