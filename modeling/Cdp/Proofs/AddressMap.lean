import Cdp.AddressMap
import Cdp.Proofs.Attempt

/-!
# Walks along a map

Deposits, withdrawals and the like are walks along the entries of a map, and the step for an entry
looks at one address only, that of the entry. The addresses of a map are distinct, so such a walk
does each entry on what was at its address before the walk, and leaves every other address as it was
(`walked_of_foldlM`). It succeeds where each of its steps can be taken on what was there before
(`exists_foldlM_of_local`).
-/

set_option autoImplicit false

namespace Cdp.AddressMap

variable {β γ σ ε : Type} {view : σ → Address → γ} {R : γ → Address × β → γ → Prop} {s s' : σ}

/-- What holds of no entries, and of one more entry whose address is that of no other, holds of the
entries of a map. -/
theorem entries_induct {P : List (Address × β) → Prop} (m : AddressMap β) (hnil : P [])
    (hcons : ∀ e rest, (∀ d ∈ rest, d.1 ≠ e.1) → P rest → P (e :: rest)) : P m.entries := by
  have hall : ∀ es : List (Address × β), Entries.Ascending es → P es := by
    intro es hes
    induction es with
    | nil => exact hnil
    | cons e rest ih =>
      obtain ⟨hfront, hrest⟩ := List.pairwise_cons.1 hes
      refine hcons e rest (fun d hd heq => ?_) (ih hrest)
      have hlt := hfront d hd
      rw [heq] at hlt
      exact Address.lt_irrefl _ hlt
  exact hall m.entries m.ascending

theorem ne_of_get?_eq_none {m : AddressMap β} {k : Address} (h : m.get? k = none) :
    ∀ e ∈ m.entries, e.1 ≠ k := by
  rintro ⟨key, value⟩ he rfl
  rw [m.get?_eq_some_iff.2 he] at h
  cases h

/-- The step for an entry relates what it finds at the address of the entry and what it leaves there
by `R`, and keeps what is at other addresses. -/
structure StepsAt (view : σ → Address → γ) (R : γ → Address × β → γ → Prop) (e : Address × β)
    (s s' : σ) : Prop where
  done : R (view s e.1) e (view s' e.1)
  kept : ∀ k, k ≠ e.1 → view s' k = view s k

/-- A walk has done every one of its entries, and nothing else. -/
structure Walked (view : σ → Address → γ) (R : γ → Address × β → γ → Prop)
    (es : List (Address × β)) (s s' : σ) : Prop where
  done : ∀ e ∈ es, R (view s e.1) e (view s' e.1)
  kept : ∀ k, (∀ e ∈ es, e.1 ≠ k) → view s' k = view s k

/-- What a step does to its address in every case, a walk does to all addresses. -/
theorem Walked.rel {r : γ → γ → Prop} {es : List (Address × β)} (h : Walked view R es s s')
    (hkept : ∀ held, r held held) (hdone : ∀ held e after, R held e after → r held after)
    (k : Address) : r (view s k) (view s' k) := by
  by_cases hk : ∃ e ∈ es, e.1 = k
  · obtain ⟨e, he, rfl⟩ := hk
    exact hdone _ e _ (h.done e he)
  · rw [h.kept k fun e he heq => hk ⟨e, he, heq⟩]
    exact hkept _

theorem walked_of_foldlM {step : σ → Address × β → Except ε σ} {changes : AddressMap β}
    (hstep : ∀ s e s', step s e = .ok s' → StepsAt view R e s s')
    (h : changes.entries.foldlM step s = .ok s') : Walked view R changes.entries s s' := by
  revert s
  refine entries_induct (P := fun es => ∀ {s}, es.foldlM step s = .ok s' → Walked view R es s s')
    changes ?_ ?_
  · intro s h
    cases h
    exact ⟨nofun, fun _ _ => rfl⟩
  · intro e rest hfront ih s h
    rw [List.foldlM_cons] at h
    obtain ⟨m, hm, hrest⟩ := bind_eq_ok_iff.1 h
    have hat := hstep s e m hm
    have hwalked := ih hrest
    constructor
    case done =>
      rw [List.forall_mem_cons]
      constructor
      · -- the rest of the walk does not come back to this address
        rw [hwalked.kept e.1 hfront]
        exact hat.done
      · intro d hd
        rw [← hat.kept d.1 (hfront d hd)]
        exact hwalked.done d hd
    case kept =>
      intro k hk
      rw [List.forall_mem_cons] at hk
      rw [hwalked.kept k hk.2, hat.kept k (Ne.symm hk.1)]

/-- A walk whose steps cannot fail. -/
theorem walked_foldl {step : σ → Address × β → σ}
    (hstep : ∀ s e, StepsAt view R e s (step s e)) (changes : AddressMap β) (s : σ) :
    Walked view R changes.entries s (changes.entries.foldl step s) := by
  have hfold : changes.entries.foldlM (fun s e => (pure (step s e) : Except Unit σ)) s =
      .ok (changes.entries.foldl step s) := List.foldlM_pure
  refine walked_of_foldlM ?_ hfold
  intro s e s' hs
  cases hs
  exact hstep s e

/-- A walk succeeds if each of its steps can be taken on what is at its address beforehand. -/
theorem exists_foldlM_of_local (view : σ → Address → γ) {step : σ → Address × β → Except ε σ}
    {P : γ → Address × β → Prop} {changes : AddressMap β}
    (hkept : ∀ s e s', step s e = .ok s' → ∀ k, k ≠ e.1 → view s' k = view s k)
    (hok : ∀ s e, P (view s e.1) e → ∃ s', step s e = .ok s')
    (h : ∀ e ∈ changes.entries, P (view s e.1) e) :
    ∃ s', changes.entries.foldlM step s = .ok s' := by
  revert s
  refine entries_induct (P := fun es => ∀ {s}, (∀ e ∈ es, P (view s e.1) e) →
    ∃ s', es.foldlM step s = .ok s') changes ?_ ?_
  · intro s _
    exact ⟨s, rfl⟩
  · intro e rest hfront ih s h
    rw [List.forall_mem_cons] at h
    obtain ⟨m, hm⟩ := hok s e h.1
    have hrest : ∀ d ∈ rest, P (view m d.1) d := by
      intro d hd
      rw [hkept s e m hm d.1 (hfront d hd)]
      exact h.2 d hd
    obtain ⟨s', hs'⟩ := ih hrest
    exact ⟨s', bind_eq_ok_iff.2 ⟨m, hm, hs'⟩⟩

end Cdp.AddressMap
