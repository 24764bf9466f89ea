import Cdp.Chain.Positions
import Cdp.Proofs.Attempt
import Mathlib.Data.List.Induction

/-!
# Maps and whitelists from lists

A map that is built from a list of entries has only entries of the list (`mem_of_get?_ofList`). A
whitelist that is built from a list of entries lists each of their kinds once, at its first entry
(`kinds_ofEntries_eq`), and amounts in units of different kinds become a map with the decimal of
each amount, where a zero amount is left out (`collateralsOfUnits_eq_ok`).
-/

set_option autoImplicit false

namespace Cdp

namespace AddressMap

variable {α : Type}

theorem mem_or_of_get?_foldl {es : List (Address × α)} {m : AddressMap α} {k : Address} {v : α}
    (h : (es.foldl (fun m e => m.insert e.1 e.2) m).get? k = some v) :
    (k, v) ∈ es ∨ m.get? k = some v := by
  induction es generalizing m with
  | nil => exact Or.inr h
  | cons e rest ih =>
    rcases ih h with hmem | hget
    · exact Or.inl (List.mem_cons_of_mem _ hmem)
    · rw [get?_insert] at hget
      split at hget
      · rename_i he
        cases he
        cases hget
        exact Or.inl List.mem_cons_self
      · exact Or.inr hget

theorem mem_of_get?_ofList {es : List (Address × α)} {k : Address} {v : α}
    (h : (ofList es).get? k = some v) : (k, v) ∈ es :=
  (mem_or_of_get?_foldl h).resolve_right nofun

end AddressMap

namespace Whitelist

variable {entries : List (Address × CollateralInfo)} {w : Whitelist}

theorem info_foldl_add (entries : List (Address × CollateralInfo)) (w : Whitelist) :
    (entries.foldl (fun w e => w.add e.1 e.2) w).info =
      entries.foldl (fun m e => m.insert e.1 e.2) w.info := by
  induction entries generalizing w with
  | nil => rfl
  | cons e rest ih => exact ih (w.add e.1 e.2)

theorem mem_of_get?_ofEntries {kind : Address} {info : CollateralInfo}
    (h : (ofEntries entries).get? kind = some info) : (kind, info) ∈ entries := by
  rw [get?, ofEntries, info_foldl_add] at h
  exact AddressMap.mem_of_get?_ofList h

theorem ofEntries_append (entries : List (Address × CollateralInfo))
    (e : Address × CollateralInfo) :
    ofEntries (entries ++ [e]) = (ofEntries entries).add e.1 e.2 := by
  rw [ofEntries, List.foldl_append]
  rfl

/-- The whitelist knows the kinds of its entries. -/
theorem contains_ofEntries_iff (entries : List (Address × CollateralInfo)) (kind : Address) :
    (ofEntries entries).info.contains kind = true ↔ kind ∈ entries.map (·.1) := by
  induction entries using List.reverseRecOn with
  | nil => exact ⟨nofun, nofun⟩
  | append_singleton entries e ih =>
    rw [ofEntries_append, add, AddressMap.contains, AddressMap.get?_insert, List.map_append,
      List.mem_append, ← ih, AddressMap.contains]
    by_cases he : e.1 = kind
    · simp [he]
    · have hne : ¬kind = e.1 := fun h => he h.symm
      simp [he, hne]

theorem get?_ofEntries_eq_none_iff {entries : List (Address × CollateralInfo)} {kind : Address} :
    (ofEntries entries).get? kind = none ↔ kind ∉ entries.map (·.1) := by
  rw [← contains_ofEntries_iff, AddressMap.contains, Bool.not_eq_true, Option.isSome_eq_false_iff,
    Option.isNone_iff_eq_none]
  rfl

/-- A whitelist lists each kind at its first entry. -/
theorem kinds_ofEntries_eq (entries : List (Address × CollateralInfo)) :
    (ofEntries entries).kinds = (entries.map (·.1)).eraseDups := by
  induction entries using List.reverseRecOn with
  | nil => rfl
  | append_singleton entries e ih =>
    rw [kinds] at ih
    rw [ofEntries_append, kinds, add, List.map_append, List.eraseDups_append, ← ih]
    by_cases hlisted : e.1 ∈ entries.map (·.1)
    · rw [if_pos ((contains_ofEntries_iff entries e.1).2 hlisted)]
      simp [List.removeAll, hlisted]
    · rw [if_neg fun h => hlisted ((contains_ofEntries_iff entries e.1).1 h)]
      simp [List.removeAll, hlisted, List.eraseDups_cons]

theorem eraseDups_eq_self {kinds : List Address} (h : kinds.Nodup) : kinds.eraseDups = kinds := by
  induction kinds with
  | nil => rfl
  | cons kind rest ih =>
    rw [List.nodup_cons] at h
    have hrest : rest.filter (fun other => !other == kind) = rest := by
      rw [List.filter_eq_self]
      intro other hother
      have hne : ¬other = kind := fun he => h.1 (he ▸ hother)
      simp [hne]
    rw [List.eraseDups_cons, hrest, ih h.2]

theorem kinds_ofEntries {entries : List (Address × CollateralInfo)}
    (h : (entries.map (·.1)).Nodup) : (ofEntries entries).kinds = entries.map (·.1) := by
  rw [kinds_ofEntries_eq, eraseDups_eq_self h]

theorem mem_kinds_ofEntries_iff (entries : List (Address × CollateralInfo)) (kind : Address) :
    kind ∈ (ofEntries entries).kinds ↔ (ofEntries entries).info.contains kind = true := by
  rw [kinds_ofEntries_eq, List.mem_eraseDups, contains_ofEntries_iff]

theorem nodup_kinds_ofEntries (entries : List (Address × CollateralInfo)) :
    (ofEntries entries).kinds.Nodup := by
  induction entries using List.reverseRecOn with
  | nil => exact List.nodup_nil
  | append_singleton entries e ih =>
    have hmem := mem_kinds_ofEntries_iff entries e.1
    rw [kinds] at ih hmem
    rw [ofEntries_append, kinds, add]
    split
    · exact ih
    · rename_i hnew
      -- a kind that is not known is not listed either
      have hnotMem : e.1 ∉ (ofEntries entries).order := fun h => hnew (hmem.1 h)
      rw [List.nodup_append]
      refine ⟨ih, List.pairwise_singleton _ _, ?_⟩
      intro kind hkind other hother
      rw [List.mem_singleton.1 hother]
      exact fun h => hnotMem (h ▸ hkind)

theorem toDecimal_eq_ok_iff {kind : Address} {units : Word} {amount : Decimal} :
    w.toDecimal kind units = .ok amount ↔
      ∃ info, w.get? kind = some info ∧ Decimal.ofUnits units info.decimals = .ok amount := by
  simp only [toDecimal, decimalsOf, bind_eq_ok_iff, Attempt.ofOption_eq_ok_iff,
    Attempt.ofExcept_eq_ok_iff, Option.map_eq_some_iff]
  constructor
  · rintro ⟨_, ⟨info, hinfo, rfl⟩, hamount⟩
    exact ⟨info, hinfo, hamount⟩
  · rintro ⟨info, hinfo, hamount⟩
    exact ⟨info.decimals, ⟨info, hinfo, rfl⟩, hamount⟩

end Whitelist

namespace Chain

variable {w : Whitelist} {units : List (Address × Word)} {m m' : Collaterals}

/-- One step of turning units into a map: the amount of its kind is set, and no other. -/
def addUnits (w : Whitelist) (m : Collaterals) (e : Address × Word) :
    Attempt Error Collaterals := do
  let amount ← w.toDecimal e.1 e.2
  return if amount.isZero then m else m.insert e.1 amount

theorem addUnits_eq_ok_iff {e : Address × Word} : addUnits w m e = .ok m' ↔
    ∃ amount, w.toDecimal e.1 e.2 = .ok amount ∧
      (if amount.isZero then m else m.insert e.1 amount) = m' := by
  rw [addUnits, bind_eq_ok_iff]
  simp only [pure_eq_ok_iff]

theorem addUnits_eq_ok {e : Address × Word} (h : addUnits w m e = .ok m') :
    ∃ amount, w.toDecimal e.1 e.2 = .ok amount ∧
      (m.get? e.1 = none → (m'.get? e.1).getD .zero = amount) ∧
      ∀ kind, ¬e.1 = kind → m'.get? kind = m.get? kind := by
  obtain ⟨amount, hamount, rfl⟩ := addUnits_eq_ok_iff.1 h
  refine ⟨amount, hamount, fun hnone => ?_, fun kind hkind => ?_⟩
  · split
    · rename_i hzero
      rw [hnone, Decimal.isZero_iff.1 hzero]
      rfl
    · rw [AddressMap.get?_insert, if_pos rfl]
      rfl
  · split
    · rfl
    · rw [AddressMap.get?_insert, if_neg hkind]

theorem foldlM_addUnits_eq_ok (hnodup : (units.map (·.1)).Nodup)
    (h : units.foldlM (addUnits w) m = .ok m') :
    (∀ kind, kind ∉ units.map (·.1) → m'.get? kind = m.get? kind) ∧
      ∀ e ∈ units, m.get? e.1 = none →
        w.toDecimal e.1 e.2 = .ok ((m'.get? e.1).getD .zero) := by
  induction units generalizing m with
  | nil =>
    cases h
    exact ⟨fun _ _ => rfl, nofun⟩
  | cons e rest ih =>
    rw [List.map_cons, List.nodup_cons] at hnodup
    obtain ⟨next, hnext, hrest⟩ := bind_eq_ok_iff.1 h
    obtain ⟨amount, hamount, hself, hother⟩ := addUnits_eq_ok hnext
    obtain ⟨hkeep, hset⟩ := ih hnodup.2 hrest
    constructor
    · intro kind hkind
      rw [List.map_cons, List.mem_cons, not_or] at hkind
      rw [hkeep kind hkind.2, hother kind fun he => hkind.1 he.symm]
    · -- the kind is set by its own step and kept by all the others
      refine List.forall_mem_cons.2 ⟨fun hnone => ?_, fun other hmem hnone => ?_⟩
      · rw [hkeep e.1 hnodup.1, hself hnone]
        exact hamount
      · have hne : ¬e.1 = other.1 := fun he => hnodup.1 (he ▸ List.mem_map_of_mem hmem)
        exact hset other hmem ((hother other.1 hne).trans hnone)

/-- The map that amounts of different kinds turn into has the decimal of each amount. -/
theorem collateralsOfUnits_eq_ok (hnodup : (units.map (·.1)).Nodup)
    (h : collateralsOfUnits w units = .ok m) :
    ∀ e ∈ units, w.toDecimal e.1 e.2 = .ok ((m.get? e.1).getD .zero) := fun e he =>
  (foldlM_addUnits_eq_ok hnodup h).2 e he rfl

end Chain

end Cdp
