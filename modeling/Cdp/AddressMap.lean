import Cdp.Address

/-!
# Maps from addresses

Amounts, prices and ratios are kept per address, in maps that are walked in the order of addresses.
A map is a list of entries whose addresses strictly ascend, so two maps with the same values at
every address are equal (`AddressMap.ext_get?`).

The lemmas say what each operation does to `get?`, the value at an address.
-/

set_option autoImplicit false

namespace Cdp

variable {α β : Type}

namespace Entries

/-- Whether the addresses of a list of entries strictly ascend. -/
abbrev Ascending (es : List (Address × α)) : Prop := es.Pairwise fun a b => a.1 < b.1

/-- The value at an address. -/
def get? (k : Address) : List (Address × α) → Option α
  | [] => none
  | (key, value) :: rest => if key = k then some value else get? k rest

/-- The entries with the value at an address set. -/
def insert (k : Address) (v : α) : List (Address × α) → List (Address × α)
  | [] => [(k, v)]
  | (key, value) :: rest =>
    if k < key then (k, v) :: (key, value) :: rest
    else if k = key then (k, v) :: rest
    else (key, value) :: insert k v rest

/-- The entries without the one at an address. -/
def erase (k : Address) (es : List (Address × α)) : List (Address × α) :=
  es.filter fun e => e.1 ≠ k

theorem fst_mem_insert {k a : Address} {v : α} {es : List (Address × α)}
    (h : a ∈ (insert k v es).map (·.1)) : a = k ∨ a ∈ es.map (·.1) := by
  induction es with
  | nil => simpa [insert] using h
  | cons e rest ih =>
    obtain ⟨key, value⟩ := e
    rw [insert] at h
    split at h
    · simpa using h
    · split at h
      · rename_i hk
        subst hk
        simp only [List.map_cons, List.mem_cons] at h ⊢
        exact h.elim .inl fun r => .inr (.inr r)
      · simp only [List.map_cons, List.mem_cons] at h ⊢
        rcases h with h | h
        · exact .inr (.inl h)
        · exact (ih h).elim .inl fun r => .inr (.inr r)

theorem ascending_insert (k : Address) (v : α) {es : List (Address × α)} (h : Ascending es) :
    Ascending (insert k v es) := by
  induction es with
  | nil => exact List.pairwise_singleton _ _
  | cons e rest ih =>
    obtain ⟨key, value⟩ := e
    have hrest := List.pairwise_cons.1 h
    rw [insert]
    split
    · rename_i hlt
      exact List.pairwise_cons.2 ⟨fun b hb => (List.mem_cons.1 hb).elim (fun e => e ▸ hlt)
        fun m => Address.lt_trans hlt (hrest.1 b m), h⟩
    · split
      · rename_i heq
        subst heq
        exact List.pairwise_cons.2 ⟨hrest.1, hrest.2⟩
      · rename_i hlt hne
        refine List.pairwise_cons.2 ⟨fun b hb => ?_, ih hrest.2⟩
        rcases fst_mem_insert (List.mem_map_of_mem (f := (·.1)) hb) with hk | hmem
        · show key < b.1
          rw [hk]
          exact Address.lt_of_not_lt_of_ne hlt hne
        · obtain ⟨e, he, heq⟩ := List.mem_map.1 hmem
          exact heq ▸ hrest.1 e he

theorem get?_cons_self (k : Address) (v : α) (rest : List (Address × α)) :
    get? k ((k, v) :: rest) = some v := if_pos rfl

theorem get?_insert (k a : Address) (v : α) (es : List (Address × α)) :
    get? a (insert k v es) = if k = a then some v else get? a es := by
  induction es with
  | nil => rfl
  | cons e rest ih =>
    obtain ⟨key, value⟩ := e
    rw [insert]
    split
    · rfl
    · split
      · rename_i heq
        subst heq
        by_cases h : k = a <;> simp [get?, h]
      · rename_i hne
        rw [get?, get?, ih]
        by_cases h : key = a
        · have : ¬k = a := fun e => hne (e.trans h.symm)
          simp [h, this]
        · simp [h]

theorem get?_erase (k a : Address) (es : List (Address × α)) :
    get? a (erase k es) = if k = a then none else get? a es := by
  induction es with
  | nil => simp [erase, get?]
  | cons e rest ih =>
    obtain ⟨key, value⟩ := e
    rw [erase] at ih ⊢
    by_cases hk : key = k
    · subst hk
      rw [List.filter_cons_of_neg (by simp), ih, get?]
      by_cases h : key = a <;> simp [h]
    · rw [List.filter_cons_of_pos (by simpa using hk), get?, get?, ih]
      by_cases h : key = a
      · have : ¬k = a := fun e => hk (h.trans e.symm)
        simp [h, this]
      · simp [h]

theorem get?_eq_none {k : Address} {es : List (Address × α)} (h : ∀ e ∈ es, k < e.1) :
    get? k es = none := by
  induction es with
  | nil => rfl
  | cons e rest ih =>
    obtain ⟨key, value⟩ := e
    have hlt : k < key := h (key, value) List.mem_cons_self
    have hne : ¬key = k := fun e => Address.lt_irrefl k (e ▸ hlt)
    rw [get?, if_neg hne, ih fun e he => h e (List.mem_cons_of_mem _ he)]

theorem get?_eq_some_iff {k : Address} {v : α} {es : List (Address × α)} (h : Ascending es) :
    get? k es = some v ↔ (k, v) ∈ es := by
  induction es with
  | nil => simp [get?]
  | cons e rest ih =>
    obtain ⟨key, value⟩ := e
    have hrest := List.pairwise_cons.1 h
    rw [get?, List.mem_cons, Prod.mk.injEq]
    by_cases hk : key = k
    · subst hk
      rw [if_pos rfl, Option.some_inj]
      constructor
      · intro hv
        exact .inl ⟨rfl, hv.symm⟩
      · rintro (⟨-, hv⟩ | hmem)
        · exact hv.symm
        · exact absurd (hrest.1 _ hmem) (Address.lt_irrefl key)
    · rw [if_neg hk, ih hrest.2]
      constructor
      · exact .inr
      · rintro (⟨hv, -⟩ | hmem)
        · exact absurd hv.symm hk
        · exact hmem

theorem ext_get? {xs ys : List (Address × α)} (hx : Ascending xs) (hy : Ascending ys)
    (h : ∀ k, get? k xs = get? k ys) : xs = ys := by
  induction xs generalizing ys with
  | nil =>
    cases ys with
    | nil => rfl
    | cons e rest =>
      have := h e.1
      rw [(get?_eq_some_iff hy (k := e.1) (v := e.2)).2 List.mem_cons_self] at this
      cases this
  | cons e rest ih =>
    obtain ⟨k, v⟩ := e
    have hxs := List.pairwise_cons.1 hx
    cases ys with
    | nil =>
      have := (get?_eq_some_iff hx (k := k) (v := v)).2 List.mem_cons_self
      rw [h k] at this
      cases this
    | cons f tail =>
      obtain ⟨m, w⟩ := f
      have hys := List.pairwise_cons.1 hy
      have hkm : k = m := by
        refine Decidable.byContradiction fun hne => ?_
        by_cases hlt : k < m
        · have := h k
          rw [get?_cons_self, get?_eq_none] at this
          · cases this
          · intro e he
            rcases List.mem_cons.1 he with rfl | he
            · exact hlt
            · exact Address.lt_trans hlt (hys.1 e he)
        · have hmk := Address.lt_of_not_lt_of_ne hlt hne
          have := h m
          rw [get?_cons_self, get?_eq_none] at this
          · cases this
          · intro e he
            rcases List.mem_cons.1 he with rfl | he
            · exact hmk
            · exact Address.lt_trans hmk (hxs.1 e he)
      subst hkm
      have hvw : v = w := by
        have := h k
        rw [get?_cons_self, get?_cons_self] at this
        exact Option.some.inj this
      subst hvw
      congr 1
      refine ih hxs.2 hys.2 fun a => ?_
      by_cases ha : k = a
      · subst ha
        rw [get?_eq_none fun e he => hxs.1 e he, get?_eq_none fun e he => hys.1 e he]
      · have := h a
        rwa [get?, if_neg ha, get?, if_neg ha] at this

end Entries

/-- A finite map from addresses, in the order of addresses. -/
structure AddressMap (α : Type) where
  entries : List (Address × α)
  ascending : Entries.Ascending entries

namespace AddressMap

instance [DecidableEq α] : DecidableEq (AddressMap α) := fun m n =>
  if h : m.entries = n.entries then
    isTrue (by cases m; cases n; cases h; rfl)
  else isFalse fun e => h (e ▸ rfl)

/-- The map without entries. -/
def empty : AddressMap α := ⟨[], List.Pairwise.nil⟩

instance : Inhabited (AddressMap α) := ⟨empty⟩

def isEmpty (m : AddressMap α) : Bool := m.entries.isEmpty

/-- The number of entries. -/
def size (m : AddressMap α) : Nat := m.entries.length

/-- The value at an address. -/
def get? (m : AddressMap α) (k : Address) : Option α := Entries.get? k m.entries

/-- Whether the map has a value at an address. -/
def contains (m : AddressMap α) (k : Address) : Bool := (m.get? k).isSome

/-- The addresses, ascending. -/
def keys (m : AddressMap α) : List Address := m.entries.map (·.1)

/-- The values, in the order of their addresses. -/
def values (m : AddressMap α) : List α := m.entries.map (·.2)

/-- The map with the value at an address set. -/
def insert (m : AddressMap α) (k : Address) (v : α) : AddressMap α :=
  ⟨Entries.insert k v m.entries, Entries.ascending_insert k v m.ascending⟩

/-- The map without a value at an address. -/
def erase (m : AddressMap α) (k : Address) : AddressMap α :=
  ⟨Entries.erase k m.entries, m.ascending.filter _⟩

/-- The map with every value changed. -/
def map (f : α → β) (m : AddressMap α) : AddressMap β :=
  ⟨m.entries.map fun e => (e.1, f e.2), List.pairwise_map.2 m.ascending⟩

/-- The map of a list of entries; a later entry replaces an earlier one with the same address. -/
def ofList (es : List (Address × α)) : AddressMap α :=
  es.foldl (fun m e => m.insert e.1 e.2) empty

@[simp] theorem get?_empty (k : Address) : (empty : AddressMap α).get? k = none := rfl

theorem get?_insert (m : AddressMap α) (k a : Address) (v : α) :
    (m.insert k v).get? a = if k = a then some v else m.get? a :=
  Entries.get?_insert k a v m.entries

theorem get?_erase (m : AddressMap α) (k a : Address) :
    (m.erase k).get? a = if k = a then none else m.get? a :=
  Entries.get?_erase k a m.entries

theorem get?_map (f : α → β) (m : AddressMap α) (k : Address) :
    (m.map f).get? k = (m.get? k).map f := by
  show Entries.get? k (m.entries.map fun e => (e.1, f e.2)) = (Entries.get? k m.entries).map f
  generalize m.entries = es
  induction es with
  | nil => rfl
  | cons e rest ih =>
    by_cases h : e.1 = k <;> simp [Entries.get?, h, ih]

theorem get?_eq_some_iff (m : AddressMap α) {k : Address} {v : α} :
    m.get? k = some v ↔ (k, v) ∈ m.entries :=
  Entries.get?_eq_some_iff m.ascending

theorem contains_of_get? {m : AddressMap α} {k : Address} {a : α} (h : m.get? k = some a) :
    m.contains k = true := by
  rw [contains, h]
  rfl

theorem contains_iff (m : AddressMap α) {k : Address} : m.contains k = true ↔ k ∈ m.keys := by
  rw [contains, Option.isSome_iff_exists]
  constructor
  · rintro ⟨v, hv⟩
    exact List.mem_map.2 ⟨(k, v), m.get?_eq_some_iff.1 hv, rfl⟩
  · intro h
    obtain ⟨⟨key, v⟩, hmem, rfl⟩ := List.mem_map.1 h
    exact ⟨v, m.get?_eq_some_iff.2 hmem⟩

/-- Maps with the same value at every address are equal. -/
theorem ext_get? {m n : AddressMap α} (h : ∀ k, m.get? k = n.get? k) : m = n := by
  have := Entries.ext_get? m.ascending n.ascending h
  cases m
  cases n
  cases this
  rfl

end AddressMap

end Cdp
