import Cdp.Keeper.Queue

/-!
# The queue in two containers

The keeper holds its queue twice. A priority queue has the owners with their healths and tells the
order; a map has the entry of each owner. Every change is made to both, and what is asked of the
order is looked up in the map before it is answered.

The priority queue may be any: only its operations are used (`Ranking`), and all that is relied on
is that it holds the health that was pushed last for an owner and that it walks its owners in the
order of their healths, in some order where healths are equal (`Ranking.Lawful`).
-/

set_option autoImplicit false

namespace Cdp

/-- The operations of a priority queue of owners by health, the least health first. -/
structure Ranking (Q : Type) where
  empty : Q
  /-- Sets the health of an owner, who may be in the queue already. -/
  push : Q → Address → Decimal → Q
  remove : Q → Address → Q
  /-- The health of an owner. -/
  health? : Q → Address → Option Decimal
  size : Q → Nat
  /-- An owner of the least health. -/
  peek? : Q → Option (Address × Decimal)
  /-- All owners, the least health first. -/
  sorted : Q → List (Address × Decimal)

/-- What a priority queue keeps and in which order it gives it back. -/
structure Ranking.Lawful {Q : Type} (R : Ranking Q) : Prop where
  health?_empty : ∀ owner, R.health? R.empty owner = none
  health?_push : ∀ q owner health other, R.health? (R.push q owner health) other =
    if owner = other then some health else R.health? q other
  health?_remove : ∀ q owner other, R.health? (R.remove q owner) other =
    if owner = other then none else R.health? q other
  size_eq : ∀ q, R.size q = (R.sorted q).length
  peek?_eq_none_iff : ∀ q, R.peek? q = none ↔ R.sorted q = []
  peek?_least : ∀ q first, R.peek? q = some first →
    first ∈ R.sorted q ∧ ∀ other ∈ R.sorted q, first.2 ≤ other.2
  mem_sorted : ∀ q owner health, (owner, health) ∈ R.sorted q ↔ R.health? q owner = some health
  nodup_sorted : ∀ q, ((R.sorted q).map (·.1)).Nodup
  ascending_sorted : ∀ q, (R.sorted q).Pairwise fun a b => a.2 ≤ b.2

/-- A priority queue that keeps its owners in a map and sorts them when it is asked for their
order. -/
def Ranking.sorting : Ranking (AddressMap Decimal) where
  empty := .empty
  push m owner health := m.insert owner health
  remove m owner := m.erase owner
  health? m owner := m.get? owner
  size m := m.size
  peek? m := (m.entries.mergeSort fun a b => decide (a.2 ≤ b.2)).head?
  sorted m := m.entries.mergeSort fun a b => decide (a.2 ≤ b.2)

/-- The latest healths, once as priorities and once as entries. -/
structure PairedQueue (Q : Type) where
  ranking : Q
  entries : AddressMap TroveHealth
deriving DecidableEq

namespace PairedQueue

variable {Q : Type} (R : Ranking Q)

def empty : PairedQueue Q := ⟨R.empty, .empty⟩

/-- Sets the health of its owner. -/
def push (s : PairedQueue Q) (h : TroveHealth) : PairedQueue Q :=
  ⟨R.push s.ranking h.owner h.health, s.entries.insert h.owner h⟩

/-- Takes an owner out; the answer is the owner's entry. -/
def remove (s : PairedQueue Q) (owner : Address) : Option TroveHealth × PairedQueue Q :=
  (s.entries.get? owner, ⟨R.remove s.ranking owner, s.entries.erase owner⟩)

def removeAll (s : PairedQueue Q) (owners : List Address) : PairedQueue Q :=
  owners.foldl (fun s owner => (s.remove R owner).2) s

/-- The owners who have an entry and are not in a list. -/
def stale (s : PairedQueue Q) (seen : List Address) : List Address :=
  s.entries.keys.filter fun owner => !seen.contains owner

def size (s : PairedQueue Q) : Nat := R.size s.ranking

/-- The entry of the first owner. -/
def peek? (s : PairedQueue Q) : Option TroveHealth :=
  (R.peek? s.ranking).bind fun first => s.entries.get? first.1

/-- The entries of at most `limit` owners whose health is below one, the least first. -/
def liquidatableUpTo (s : PairedQueue Q) (limit : Nat) : List TroveHealth :=
  (((R.sorted s.ranking).takeWhile fun e => e.2 < Decimal.one).take limit).filterMap fun e =>
    s.entries.get? e.1

/-- The operations of a pass. The map is walked in an order of its own, so the owners that are
dropped come in any. -/
@[reducible] def operations (order : List Address → List Address) :
    QueueOperations (PairedQueue Q) where
  retain s seen := s.removeAll R (order (s.stale seen))
  push := push R
  erase s owner := (s.remove R owner).2
  liquidatableUpTo := liquidatableUpTo R

end PairedQueue

end Cdp
