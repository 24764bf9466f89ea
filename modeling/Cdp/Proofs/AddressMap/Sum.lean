import Cdp.Proofs.AddressMap
import Mathlib.Algebra.Order.BigOperators.Group.Finset
import Mathlib.Algebra.Ring.Nat

/-!
# Sums over a map

Two maps whose addresses differ cannot be compared entry by entry. A sum over the entries of a map
is therefore taken as a sum over a set of addresses that has all of the map and may have more, where
an address without an entry counts nothing (`sum_entries_eq_finset_sum`). Sums over several maps are
then compared address by address (`sum_entries_le`, `sum_entries_add_le`, `sum_entries_le_add`).
-/

set_option autoImplicit false

namespace Cdp.AddressMap

open scoped BigOperators

variable {α β γ : Type}

/-- What an entry counts, at its address; nothing where there is no entry. -/
def countAt (f : Address × α → Nat) (m : AddressMap α) (k : Address) : Nat :=
  ((m.get? k).map fun value => f (k, value)).getD 0

theorem countAt_of_get? {f : Address × α → Nat} {m : AddressMap α} {k : Address} {value : α}
    (h : m.get? k = some value) : countAt f m k = f (k, value) := by
  rw [countAt, h]
  rfl

theorem countAt_of_none {f : Address × α → Nat} {m : AddressMap α} {k : Address}
    (h : m.get? k = none) : countAt f m k = 0 := by
  rw [countAt, h]
  rfl

theorem sum_entries_eq_finset_sum (f : Address × α → Nat) (m : AddressMap α) {K : Finset Address}
    (h : ∀ e ∈ m.entries, e.1 ∈ K) : (m.entries.map f).sum = ∑ k ∈ K, countAt f m k := by
  have hlist : ∀ K : Finset Address, (∀ e ∈ m.entries, e.1 ∈ K) → (m.entries.map f).sum =
      ∑ k ∈ K, ((Entries.get? k m.entries).map fun value => f (k, value)).getD 0 := by
    refine entries_induct (P := fun es => ∀ K : Finset Address, (∀ e ∈ es, e.1 ∈ K) →
      (es.map f).sum = ∑ k ∈ K, ((Entries.get? k es).map fun value => f (k, value)).getD 0) m ?_ ?_
    · intro K _
      exact (Finset.sum_eq_zero fun _ _ => rfl).symm
    · rintro ⟨key, value⟩ rest hfront ih K hK
      obtain ⟨hkey, hrest⟩ := List.forall_mem_cons.1 hK
      -- the address of the first entry is taken out, and no other entry has it
      have hothers : ∀ e ∈ rest, e.1 ∈ K.erase key := fun e he =>
        Finset.mem_erase.2 ⟨hfront e he, hrest e he⟩
      rw [List.map_cons, List.sum_cons, ih _ hothers, ← Finset.add_sum_erase K _ hkey,
        Entries.get?_cons_self]
      refine congrArg _ (Finset.sum_congr rfl fun k hk => ?_)
      rw [Entries.get?, if_neg (Finset.ne_of_mem_erase hk).symm]
  exact hlist K h

/-- A set that has the addresses of three maps. -/
theorem exists_addresses₃ (m : AddressMap α) (n : AddressMap β) (p : AddressMap γ) :
    ∃ K : Finset Address, (∀ e ∈ m.entries, e.1 ∈ K) ∧ (∀ e ∈ n.entries, e.1 ∈ K) ∧
      ∀ e ∈ p.entries, e.1 ∈ K := by
  refine ⟨(m.keys ++ n.keys ++ p.keys).toFinset, fun e he => ?_, fun e he => ?_, fun e he => ?_⟩
  all_goals
    rw [List.mem_toFinset]
    simp only [List.mem_append]
  · exact Or.inl (Or.inl (List.mem_map_of_mem he))
  · exact Or.inl (Or.inr (List.mem_map_of_mem he))
  · exact Or.inr (List.mem_map_of_mem he)

variable {f : Address × α → Nat} {g : Address × β → Nat} {h : Address × γ → Nat}
  {m : AddressMap α} {n : AddressMap β} {p : AddressMap γ}

/-- What two maps count at every address together, they count in all. -/
theorem sum_entries_add_le (hle : ∀ k, countAt f m k + countAt g n k ≤ countAt h p k) :
    (m.entries.map f).sum + (n.entries.map g).sum ≤ (p.entries.map h).sum := by
  obtain ⟨K, hm, hn, hp⟩ := exists_addresses₃ m n p
  rw [sum_entries_eq_finset_sum f m hm, sum_entries_eq_finset_sum g n hn,
    sum_entries_eq_finset_sum h p hp, ← Finset.sum_add_distrib]
  exact Finset.sum_le_sum fun k _ => hle k

theorem sum_entries_le_add (hle : ∀ k, countAt h p k ≤ countAt f m k + countAt g n k) :
    (p.entries.map h).sum ≤ (m.entries.map f).sum + (n.entries.map g).sum := by
  obtain ⟨K, hm, hn, hp⟩ := exists_addresses₃ m n p
  rw [sum_entries_eq_finset_sum f m hm, sum_entries_eq_finset_sum g n hn,
    sum_entries_eq_finset_sum h p hp, ← Finset.sum_add_distrib]
  exact Finset.sum_le_sum fun k _ => hle k

/-- What counts less at every address counts less in all. -/
theorem sum_entries_le (hle : ∀ k, countAt f m k ≤ countAt g n k) :
    (m.entries.map f).sum ≤ (n.entries.map g).sum := by
  obtain ⟨K, hm, hn, -⟩ := exists_addresses₃ m n n
  rw [sum_entries_eq_finset_sum f m hm, sum_entries_eq_finset_sum g n hn]
  exact Finset.sum_le_sum fun k _ => hle k

end Cdp.AddressMap
