import Cdp.Keeper.Pass
import Mathlib.Data.List.Perm.Subperm

/-!
# What the queue of the keeper holds

Where an owner is looked up after the operations that work on many owners, which healths count as
liquidatable, and how a list of owners is cut into batches.

A queue takes one entry from each of its owners, so it holds no more healths than a list that has
all of them (`size_le_length`). Where healths ascend, the prefix below one is all that is below one
(`takeWhile_isLiquidatable`).
-/

set_option autoImplicit false

namespace Cdp

namespace AddressMap

theorem nodup_keys {α : Type} (m : AddressMap α) : m.keys.Nodup := by
  have hasc : m.keys.Pairwise (· < ·) := List.pairwise_map.2 m.ascending
  refine hasc.imp fun {a b} hlt heq => ?_
  exact Address.lt_irrefl b (heq ▸ hlt)

end AddressMap

namespace HealthQueue

variable {q : HealthQueue} {owners : List Address} {owner : Address}

/-! ## Many owners at once -/

theorem get?_eraseAll : (q.eraseAll owners).get? owner =
    if owner ∈ owners then none else q.get? owner := by
  induction owners generalizing q with
  | nil => simp [eraseAll]
  | cons first rest ih =>
    have hstep : q.eraseAll (first :: rest) = (q.erase first).eraseAll rest := rfl
    rw [hstep, ih, get?_erase]
    by_cases hfirst : first = owner
    · simp [hfirst]
    · have hfirst' : ¬owner = first := fun h => hfirst h.symm
      simp [hfirst, hfirst']

theorem get?_retain : (q.retain owners).get? owner =
    if owner ∈ owners then q.get? owner else none := by
  rw [retain, get?_eraseAll]
  by_cases howner : owner ∈ owners
  · simp [howner]
  · -- an owner that is not kept is erased, unless the queue never had it
    by_cases hkey : q.entries.contains owner = true
    · have hmem : owner ∈ q.entries.keys := q.entries.contains_iff.1 hkey
      simp [howner, hmem]
    · have hnone : q.get? owner = none := by
        rw [AddressMap.contains, Option.not_isSome_iff_eq_none] at hkey
        exact hkey
      simp [howner, hnone]

/-- The health that was pushed last for an owner. -/
def last? (hs : List TroveHealth) (owner : Address) : Option TroveHealth :=
  hs.reverse.find? fun h => h.owner = owner

theorem get?_pushAll {hs : List TroveHealth} :
    (q.pushAll hs).get? owner = (last? hs owner).or (q.get? owner) := by
  induction hs generalizing q with
  | nil => rfl
  | cons first rest ih =>
    have hstep : q.pushAll (first :: rest) = (q.push first).pushAll rest := rfl
    rw [hstep, ih, get?_push, last?, last?, List.reverse_cons, List.find?_append, Option.or_assoc]
    by_cases hfirst : first.owner = owner
    · simp [hfirst]
    · simp [hfirst]

theorem last?_eq_some {hs : List TroveHealth} {h : TroveHealth} (hlast : last? hs owner = some h) :
    h ∈ hs ∧ h.owner = owner := by
  constructor
  · exact List.mem_reverse.1 (List.mem_of_find?_eq_some hlast)
  · simpa using List.find?_some hlast

theorem isSome_last? {hs : List TroveHealth} {h : TroveHealth} (hmem : h ∈ hs)
    (howner : h.owner = owner) : (last? hs owner).isSome = true := by
  rw [last?, List.find?_isSome]
  exact ⟨h, List.mem_reverse.2 hmem, by simpa using howner⟩

/-! ## Whose health it is -/

/-- Every health stands at its own owner, as it does in a queue that was filled by pushing. -/
def Keyed (q : HealthQueue) : Prop := ∀ owner h, q.get? owner = some h → h.owner = owner

theorem keyed_empty : HealthQueue.empty.Keyed := by
  intro owner h hsome
  cases hsome

theorem Keyed.eraseAll (hq : q.Keyed) : (q.eraseAll owners).Keyed := by
  intro owner h hsome
  rw [get?_eraseAll] at hsome
  split at hsome
  · cases hsome
  · exact hq owner h hsome

theorem Keyed.retain (hq : q.Keyed) : (q.retain owners).Keyed := hq.eraseAll

theorem Keyed.pushAll {hs : List TroveHealth} (hq : q.Keyed) : (q.pushAll hs).Keyed := by
  intro owner h hsome
  rw [get?_pushAll] at hsome
  rcases Option.or_eq_some_iff.1 hsome with hlast | ⟨-, hbefore⟩
  · exact (last?_eq_some hlast).2
  · exact hq owner h hbefore

/-! ## Healths below one -/

/-- A prefix of a list on which a test never comes back is all that passes the test. -/
theorem takeWhile_eq_filter {α : Type} {p : α → Bool} {l : List α}
    (h : l.Pairwise fun a b => p b = true → p a = true) : l.takeWhile p = l.filter p := by
  induction l with
  | nil => rfl
  | cons a rest ih =>
    obtain ⟨ha, hrest⟩ := List.pairwise_cons.1 h
    by_cases hp : p a = true
    · rw [List.takeWhile_cons_of_pos hp, List.filter_cons_of_pos hp, ih hrest]
    · rw [List.takeWhile_cons_of_neg hp, List.filter_cons_of_neg hp, eq_comm,
        List.filter_eq_nil_iff]
      exact fun b hb hpb => hp (ha b hb hpb)

/-- Where healths ascend, those below one stand in front. -/
theorem takeWhile_isLiquidatable {hs : List TroveHealth}
    (h : hs.Pairwise fun a b => a.health ≤ b.health) :
    hs.takeWhile TroveHealth.isLiquidatable = hs.filter TroveHealth.isLiquidatable := by
  refine takeWhile_eq_filter (h.imp fun {a b} hle hb => ?_)
  rw [TroveHealth.isLiquidatable, decide_eq_true_eq, Decimal.lt_def] at hb ⊢
  rw [Decimal.le_def] at hle
  exact Nat.lt_of_le_of_lt hle hb

/-- A queue is no larger than a list that has all of its owners. -/
theorem size_le_length (h : ∀ owner, q.get? owner ≠ none → owner ∈ owners) :
    q.size ≤ owners.length := by
  have hsubset : q.entries.keys ⊆ owners := by
    intro owner hkey
    apply h
    have hcontains := q.entries.contains_iff.2 hkey
    rw [AddressMap.contains, Option.isSome_iff_ne_none] at hcontains
    exact hcontains
  have hlength := (q.entries.nodup_keys.subperm hsubset).length_le
  rwa [AddressMap.keys, List.length_map] at hlength

end HealthQueue

/-! ## Batches -/

namespace Keeper

variable {limit : Nat} {owners batch : List Address}

/-- The batches leave nobody out and keep the order. -/
theorem flatten_batches (hlimit : 0 < limit) : (batches limit owners).flatten = owners := by
  fun_induction batches limit owners with
  | case1 => omega
  | case2 => rfl
  | case3 owners hne _ ih => rw [List.flatten_cons, ih, List.take_append_drop]

/-- No batch is empty or above the limit. -/
theorem length_of_mem_batches (h : batch ∈ batches limit owners) :
    1 ≤ batch.length ∧ batch.length ≤ limit := by
  fun_induction batches limit owners with
  | case1 => cases h
  | case2 => cases h
  | case3 owners hlimit howners ih =>
    rcases List.mem_cons.1 h with rfl | hrest
    · have hpos := List.length_pos_iff.2 howners
      rw [List.length_take]
      omega
    · exact ih hrest

end Keeper

end Cdp
