import Cdp.Proofs.Contract.CollateralArrays
import Cdp.Proofs.Json.RoundTrip
import Mathlib.Data.List.Count
import Mathlib.Data.List.Nodup

/-!
# Consistent whitelists

A whitelist keeps the order of its kinds apart from what is known of them. The two fit together
where the order lists each known kind once and no other (`Consistent`), as it does in a whitelist
that is built from a list of entries, and in no other (`exists_ofEntries_iff`).

Encoding relies on it. It asks of every kind of a map whether it is known, and then walks the order,
so a kind is sent as often as the order lists it (`count_of_encode`). A whitelist that is read from
data need not be consistent, as its order and its entries are taken as they are. A known kind that
the order misses is then dropped from a call without an error (`unlisted_dropped`).
-/

set_option autoImplicit false

namespace Cdp.Whitelist

variable {w : Whitelist} {c : Collaterals} {kind : Address}

/-- The order lists each known kind once, and no other kind. -/
structure Consistent (w : Whitelist) : Prop where
  nodup : w.order.Nodup
  mem_order_iff (kind : Address) : kind ∈ w.order ↔ w.info.contains kind = true

/-- In every encoding each kind of the map comes once. -/
def EmitsOnce (w : Whitelist) : Prop :=
  ∀ c kinds amounts, w.encode c = .ok (kinds, amounts) → ∀ kind ∈ c.keys, kinds.count kind = 1

theorem consistent_ofEntries (entries : List (Address × CollateralInfo)) :
    (ofEntries entries).Consistent where
  nodup := nodup_kinds_ofEntries entries
  mem_order_iff := mem_kinds_ofEntries_iff entries

/-- The kinds of the order with what is known of them. -/
def entries (w : Whitelist) : List (Address × CollateralInfo) :=
  w.order.filterMap fun kind => (w.get? kind).map fun info => (kind, info)

theorem mem_entries_iff {info : CollateralInfo} :
    (kind, info) ∈ w.entries ↔ kind ∈ w.order ∧ w.get? kind = some info := by
  rw [entries, List.mem_filterMap]
  constructor
  · rintro ⟨other, hother, hmap⟩
    obtain ⟨found, hfound, hpair⟩ := Option.map_eq_some_iff.1 hmap
    cases hpair
    exact ⟨hother, hfound⟩
  · rintro ⟨hkind, hinfo⟩
    exact ⟨kind, hkind, Option.map_eq_some_iff.2 ⟨info, hinfo, rfl⟩⟩

theorem map_fst_entries (h : w.Consistent) : w.entries.map (·.1) = w.order := by
  have hfst : ∀ kind ∈ w.order,
      Option.map (·.1) ((w.get? kind).map fun info => (kind, info)) = some kind := by
    intro kind hkind
    obtain ⟨info, hinfo⟩ := Option.isSome_iff_exists.1 ((h.mem_order_iff kind).1 hkind)
    rw [get?, hinfo]
    rfl
  rw [entries, List.map_filterMap, List.filterMap_congr hfst, List.filterMap_some]

theorem get?_ofEntries_entries (h : w.Consistent) (kind : Address) :
    (ofEntries w.entries).get? kind = w.get? kind := by
  cases hbuilt : (ofEntries w.entries).get? kind with
  | some info => exact (mem_entries_iff.1 (mem_of_get?_ofEntries hbuilt)).2.symm
  | none =>
    rw [get?_ofEntries_eq_none_iff, map_fst_entries h, h.mem_order_iff, AddressMap.contains,
      Bool.not_eq_true, Option.isSome_eq_false_iff, Option.isNone_iff_eq_none] at hbuilt
    exact hbuilt.symm

theorem ofEntries_entries (h : w.Consistent) : ofEntries w.entries = w := by
  have hnodup : (w.entries.map (·.1)).Nodup := map_fst_entries h ▸ h.nodup
  have horder : (ofEntries w.entries).order = w.order :=
    (kinds_ofEntries hnodup).trans (map_fst_entries h)
  have hinfo : (ofEntries w.entries).info = w.info :=
    AddressMap.ext_get? (get?_ofEntries_entries h)
  cases w
  cases hbuilt : ofEntries _
  rw [hbuilt] at horder hinfo
  cases horder
  cases hinfo
  rfl

/-- The consistent whitelists are those that are built. -/
theorem exists_ofEntries_iff : (∃ entries, ofEntries entries = w) ↔ w.Consistent := by
  constructor
  · rintro ⟨entries, rfl⟩
    exact consistent_ofEntries entries
  · exact fun h => ⟨w.entries, ofEntries_entries h⟩

/-! ## Encoding -/

/-- A kind of the map is sent as often as it is listed. -/
theorem count_of_encode {kinds : List Address} {amounts : List Word}
    (h : w.encode c = .ok (kinds, amounts)) (hkind : kind ∈ c.keys) :
    kinds.count kind = w.order.count kind := by
  rw [(encodes_of_encode h).1, List.count_filter (c.contains_iff.2 hkind)]

/-- A zero amount of a known kind can be encoded. -/
theorem exists_encode_zero (hknown : w.info.contains kind = true) :
    ∃ kinds amounts, w.encode (AddressMap.empty.insert kind .zero) = .ok (kinds, amounts) := by
  apply exists_encode
  intro other amount hget
  rw [AddressMap.get?_insert] at hget
  split at hget
  · rename_i hother
    cases hother
    cases hget
    obtain ⟨info, hinfo⟩ := Option.isSome_iff_exists.1 hknown
    exact ⟨info, .zero, hinfo, Decimal.toUnits_zero info.decimals⟩
  · cases hget

theorem emitsOnce_iff :
    w.EmitsOnce ↔ ∀ kind, w.info.contains kind = true → w.order.count kind = 1 := by
  constructor
  · -- a zero amount of the kind can be encoded whatever the order is
    intro honce kind hknown
    obtain ⟨kinds, amounts, hencode⟩ := exists_encode_zero hknown
    have hmem : kind ∈ (AddressMap.empty.insert kind Decimal.zero).keys := by
      rw [← AddressMap.contains_iff, AddressMap.contains, AddressMap.get?_insert, if_pos rfl]
      rfl
    rw [← count_of_encode hencode hmem]
    exact honce _ _ _ hencode kind hmem
  · intro hlisted c kinds amounts hencode kind hkind
    rw [count_of_encode hencode hkind]
    exact hlisted kind ((encode_eq_ok_iff.1 hencode).1 kind hkind)

theorem Consistent.emitsOnce (h : w.Consistent) : w.EmitsOnce := by
  rw [emitsOnce_iff]
  intro kind hknown
  exact List.count_eq_one_of_mem h.nodup ((h.mem_order_iff kind).2 hknown)

/-- Any whitelist can be read from data, by itself and in the state of the system, but only the
consistent ones are built from entries. With a consistent one, each kind of a map comes once in its
encoding. In general a kind of the map comes as often as the order lists it, so each comes once in
every encoding if and only if the order lists each known kind once. -/
theorem readable_emitsOnce_iff (w : Whitelist) :
    (∃ j, JsonRead.read j = some w) ∧
      (∃ j, ∃ s : SystemState, JsonRead.read j = some s ∧ s.whitelist = w) ∧
      ((∃ entries, ofEntries entries = w) ↔ w.Consistent) ∧
      (w.Consistent → w.EmitsOnce) ∧
      (w.EmitsOnce ↔ ∀ kind, w.info.contains kind = true → w.order.count kind = 1) ∧
      ∀ c kinds amounts, w.encode c = .ok (kinds, amounts) →
        ∀ kind ∈ c.keys, kinds.count kind = w.order.count kind := by
  refine ⟨⟨write w, read_write w⟩, ?_, exists_ofEntries_iff, Consistent.emitsOnce, emitsOnce_iff,
    fun c kinds amounts h kind hkind => count_of_encode h hkind⟩
  let state : SystemState :=
    ⟨⟨0, 0⟩, w, ⟨.empty, .zero⟩, ⟨.zero, 0⟩⟩
  exact ⟨write state, state, read_write state, rfl⟩

/-- A whitelist in data, with one known kind and an order of its own. -/
def soleKindForm (order : List Json) : Json :=
  .object [("order", .array order),
    ("info", .object [("0x1111111111111111111111111111111111111111", .object [
      ("decimals", .integer 18), ("price", .string "2000"), ("safety_ratio", .string "1.1"),
      ("recovery_ratio", .string "1.5"), ("wrapped", .bool false)])])]

/-- The kind that the form knows. -/
def soleKind : Address := ⟨0x1111111111111111111111111111111111111111, by decide⟩

/-- The whitelist of the form. -/
def soleKindWhitelist (order : List Address) : Whitelist where
  order := order
  info := .ofList [(soleKind, ⟨18, .ofUInt64 2000, ⟨⟨11 * 10 ^ 17, by decide⟩⟩,
    ⟨⟨15 * 10 ^ 17, by decide⟩⟩, false⟩)]

/-- One token of the kind. -/
def oneToken : Collaterals := .ofList [(soleKind, .ofUInt64 1)]

/-- Where the order of the data is empty, the token of a call is dropped without an error. Where it
has the kind twice, the token is sent twice. -/
theorem unlisted_dropped :
    oneToken.keys = [soleKind] ∧
      JsonRead.read (soleKindForm []) = some (soleKindWhitelist []) ∧
      ¬(soleKindWhitelist []).Consistent ∧
      (soleKindWhitelist []).encode oneToken = .ok ([], []) ∧
      JsonRead.read (soleKindForm [write soleKind, write soleKind]) =
        some (soleKindWhitelist [soleKind, soleKind]) ∧
      (soleKindWhitelist [soleKind, soleKind]).encode oneToken =
        .ok ([soleKind, soleKind], [⟨10 ^ 18, by decide⟩, ⟨10 ^ 18, by decide⟩]) := by
  refine ⟨?_, ?_, ?_, ?_, ?_, ?_⟩
  · decide +kernel
  · decide +kernel
  · intro h
    have hmem := (h.mem_order_iff soleKind).2 (by decide +kernel)
    cases hmem
  · decide +kernel
  · decide +kernel
  · decide +kernel

end Cdp.Whitelist
