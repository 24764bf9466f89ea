import Cdp.Proofs.Decimal.Units
import Cdp.Proofs.Whitelist
import Cdp.Receipt.Logs
import Mathlib.Data.List.Forall2

/-!
# Collateral for the contracts and back

The contracts take collateral as a list of kinds and a list of amounts in units, in the order of the
whitelist, and report it in the same way. Encoding a map for them and reading the lists back gives
the map again, without the amounts that are zero (`encode_inverse`). An amount that its token cannot
express is refused, and so is a kind that is not listed; nothing else is, and nothing is rounded.

The induction runs along the order of the whitelist. `Encodes` says what one kind contributes to the
lists, and a step of reading puts exactly that back into the map.
-/

set_option autoImplicit false

namespace Cdp

/-- The amounts that are not zero. -/
def Collaterals.withoutZeros (c : Collaterals) : Collaterals :=
  ⟨c.entries.filter fun e => !e.2.isZero, c.ascending.filter _⟩

theorem Collaterals.get?_withoutZeros (c : Collaterals) (kind : Address) :
    c.withoutZeros.get? kind = (c.get? kind).filter fun amount => !amount.isZero := by
  apply Option.ext
  intro amount
  rw [AddressMap.get?_eq_some_iff, Option.filter_eq_some_iff, AddressMap.get?_eq_some_iff]
  exact List.mem_filter

namespace Whitelist

variable {w : Whitelist} {c : Collaterals}

/-- What a kind contributes to the lists: its amount, in the units of its token. -/
structure Encodes (w : Whitelist) (c : Collaterals) (kind : Address) (e : Address × Word) :
    Prop where
  fst_eq : e.1 = kind
  units_eq : ∃ amount info, c.get? kind = some amount ∧ w.get? kind = some info ∧
    amount.toUnits info.decimals = .ok e.2

theorem toUnits_eq_ok_iff {kind : Address} {amount : Decimal} {units : Word} :
    w.toUnits kind amount = .ok units ↔
      ∃ info, w.get? kind = some info ∧ amount.toUnits info.decimals = .ok units := by
  simp only [toUnits, decimalsOf, bind_eq_ok_iff, Attempt.ofOption_eq_ok_iff,
    Attempt.ofExcept_eq_ok_iff, Option.map_eq_some_iff]
  constructor
  · rintro ⟨_, ⟨info, hinfo, rfl⟩, hunits⟩
    exact ⟨info, hinfo, hunits⟩
  · rintro ⟨info, hinfo, hunits⟩
    exact ⟨info.decimals, ⟨info, hinfo, rfl⟩, hunits⟩

/-- The lists follow the given order, with one entry for each kind of the map. -/
theorem encodeInOrder_eq_ok_iff {kinds : List Address} {pairs : List (Address × Word)} :
    w.encodeInOrder c kinds = .ok pairs ↔
      List.Forall₂ (Encodes w c) (kinds.filter c.contains) pairs := by
  induction kinds generalizing pairs with
  | nil =>
    rw [encodeInOrder, List.filter_nil, List.forall₂_nil_left_iff, Except.ok.injEq]
    exact eq_comm
  | cons kind rest ih =>
    cases hget : c.get? kind with
    | none =>
      have hskip : c.contains kind = false := by
        rw [AddressMap.contains, hget]
        rfl
      simp only [encodeInOrder, hget]
      rw [List.filter_cons_of_neg (by rw [hskip]; decide)]
      exact ih
    | some amount =>
      have hkeep : c.contains kind = true := AddressMap.contains_of_get? hget
      simp only [encodeInOrder, hget]
      rw [List.filter_cons_of_pos hkeep]
      constructor
      · intro h
        obtain ⟨units, hunits, h⟩ := bind_eq_ok_iff.1 h
        obtain ⟨others, hothers, hpure⟩ := bind_eq_ok_iff.1 h
        obtain ⟨info, hinfo, hunits⟩ := toUnits_eq_ok_iff.1 hunits
        cases hpure
        exact .cons ⟨rfl, amount, info, hget, hinfo, hunits⟩ (ih.1 hothers)
      · intro h
        rcases h with _ | ⟨⟨rfl, amount', info, hget', hinfo, hunits⟩, hrest⟩
        obtain rfl : amount = amount' := Option.some.inj (hget.symm.trans hget')
        apply bind_eq_ok_iff.2
        exact ⟨_, toUnits_eq_ok_iff.2 ⟨info, hinfo, hunits⟩, bind_eq_ok_iff.2 ⟨_, ih.2 hrest, rfl⟩⟩

theorem require_eq_ok_iff {kinds : List Address} :
    w.require kinds = .ok () ↔ ∀ kind ∈ kinds, w.info.contains kind = true := by
  have hfind : (∀ kind ∈ kinds, w.info.contains kind = true) ↔
      (kinds.find? fun kind => !w.info.contains kind) = none := by
    simp
  rw [hfind, require]
  constructor
  · intro h
    split at h
    · cases h
    · assumption
  · intro h
    rw [h]

theorem encode_eq_ok_iff {kinds : List Address} {amounts : List Word} :
    w.encode c = .ok (kinds, amounts) ↔
      (∀ kind ∈ c.keys, w.info.contains kind = true) ∧
      ∃ pairs, List.Forall₂ (Encodes w c) (w.order.filter c.contains) pairs ∧
        pairs.unzip = (kinds, amounts) := by
  rw [encode, bind_eq_ok_iff]
  constructor
  · rintro ⟨⟨⟩, hrequire, h⟩
    obtain ⟨pairs, hpairs, hunzip⟩ := bind_eq_ok_iff.1 h
    exact ⟨require_eq_ok_iff.1 hrequire, pairs, encodeInOrder_eq_ok_iff.1 hpairs,
      pure_eq_ok_iff.1 hunzip⟩
  · rintro ⟨hrequire, pairs, hpairs, hunzip⟩
    refine ⟨(), require_eq_ok_iff.2 hrequire, bind_eq_ok_iff.2 ⟨pairs, ?_, ?_⟩⟩
    · exact encodeInOrder_eq_ok_iff.2 hpairs
    · exact pure_eq_ok_iff.2 hunzip

/-! ## Reading back -/

/-- One step of reading the lists: what is reported of a kind is added to it. -/
def addReported (decimals : AddressMap UInt8) (m : Collaterals) (e : Address × Word) :
    Attempt ChainError Collaterals := do
  let places ← Attempt.ofOption (.undecodable (.unknownCollateral e.1)) (decimals.get? e.1)
  let amount ← Attempt.ofExcept (fun cause => .undecodable (.amount cause))
    (Decimal.ofUnits e.2 places)
  if amount.isZero then return m
  else Trove.addAmount m e.1 amount

theorem addReported_eq_ok_iff {m m' : Collaterals} {e : Address × Word} :
    addReported w.decimals m e = .ok m' ↔
    ∃ amount, w.toDecimal e.1 e.2 = .ok amount ∧
      (if amount.isZero then .ok m else Trove.addAmount m e.1 amount) = .ok m' := by
  have hplaces (places : UInt8) : w.decimals.get? e.1 = some places ↔
      ∃ info, w.get? e.1 = some info ∧ info.decimals = places := by
    rw [decimals, AddressMap.get?_map, Option.map_eq_some_iff]
    rfl
  have hstep (amount : Decimal) : (if amount.isZero then pure m
      else liftM (Trove.addAmount m e.1 amount) : Attempt ChainError Collaterals) = .ok m' ↔
      (if amount.isZero then .ok m else Trove.addAmount m e.1 amount) = .ok m' := by
    cases amount.isZero with
    | true => simp only [if_pos, pure_eq_ok_iff, Except.ok.injEq]
    | false => exact liftM_faulty_eq_ok_iff
  simp only [addReported, bind_eq_ok_iff, Attempt.ofOption_eq_ok_iff, Attempt.ofExcept_eq_ok_iff,
    hplaces, toDecimal_eq_ok_iff, hstep]
  constructor
  · rintro ⟨_, ⟨info, hinfo, rfl⟩, amount, hamount, hm⟩
    exact ⟨amount, ⟨info, hinfo, hamount⟩, hm⟩
  · rintro ⟨amount, ⟨info, hinfo, hamount⟩, hm⟩
    exact ⟨info.decimals, ⟨info, hinfo, rfl⟩, amount, hamount, hm⟩

theorem addAmount_eq_ok_iff {m m' : Collaterals} {kind : Address} {amount : Decimal} :
    Trove.addAmount m kind amount = .ok m' ↔
    ∃ total, ((m.get? kind).getD .zero).add amount = .ok total ∧ m.insert kind total = m' := by
  rw [Trove.addAmount, bind_eq_ok_iff]
  simp only [pure_eq_ok_iff]

/-- A step of reading puts back what the kind contributed. -/
theorem addReported_eq_ok {m : Collaterals} {kind : Address} {e : Address × Word}
    (he : Encodes w c kind e) (hnew : m.get? kind = none) :
    ∃ m', addReported w.decimals m e = .ok m' ∧ ∀ other, m'.get? other =
      if other = kind then (c.get? kind).filter fun amount => !amount.isZero
      else m.get? other := by
  obtain ⟨rfl, amount, info, hget, hinfo, hunits⟩ := he
  have hamount := toDecimal_eq_ok_iff.2 ⟨info, hinfo, Decimal.ofUnits_toUnits hunits⟩
  rw [hget]
  cases hzero : amount.isZero with
  | true =>
    refine ⟨m, addReported_eq_ok_iff.2 ⟨amount, hamount, by rw [hzero, if_pos rfl]⟩,
      fun other => ?_⟩
    split
    · rename_i heq
      rw [heq, hnew, Option.filter_some, hzero]
      rfl
    · rfl
  | false =>
    -- nothing was there before, so the sum is the amount
    have hsum : Decimal.zero.add amount = .ok amount := by
      apply Decimal.add_eq_ok_iff.2
      apply (Decimal.checkedAdd_eq_some_iff (by decide) (Decimal.lt_infinity_of_toUnits hunits)).2
      exact ⟨Nat.zero_add _, Decimal.lt_infinity_of_toUnits hunits⟩
    have hadd : Trove.addAmount m e.1 amount = .ok (m.insert e.1 amount) := by
      rw [addAmount_eq_ok_iff, hnew]
      exact ⟨amount, hsum, rfl⟩
    refine ⟨m.insert e.1 amount, addReported_eq_ok_iff.2 ⟨amount, hamount, ?_⟩, fun other => ?_⟩
    · rw [hzero, if_neg Bool.false_ne_true, hadd]
    · rw [AddressMap.get?_insert, Option.filter_some, hzero]
      by_cases heq : e.1 = other
      · rw [if_pos heq, if_pos heq.symm]
        rfl
      · rw [if_neg heq, if_neg fun h => heq h.symm]

/-- Reading lists of different kinds puts back what each of them contributed. -/
theorem foldlM_addReported {kinds : List Address} {pairs : List (Address × Word)}
    {m : Collaterals} (hpairs : List.Forall₂ (Encodes w c) kinds pairs) (hnodup : kinds.Nodup)
    (hnew : ∀ kind ∈ kinds, m.get? kind = none) :
    ∃ m', pairs.foldlM (addReported w.decimals) m = .ok m' ∧ ∀ other, m'.get? other =
      if other ∈ kinds then (c.get? other).filter fun amount => !amount.isZero
      else m.get? other := by
  induction hpairs generalizing m with
  | nil => exact ⟨m, rfl, fun other => rfl⟩
  | @cons kind e kinds pairs he _ ih =>
    rw [List.nodup_cons] at hnodup
    rw [List.forall_mem_cons] at hnew
    obtain ⟨next, hnext, hget⟩ := addReported_eq_ok he hnew.1
    have hrest : ∀ other ∈ kinds, next.get? other = none := by
      intro other hother
      have hne : ¬other = kind := fun heq => hnodup.1 (heq ▸ hother)
      rw [hget, if_neg hne, hnew.2 other hother]
    obtain ⟨m', hm', hget'⟩ := ih hnodup.2 hrest
    refine ⟨m', ?_, fun other => ?_⟩
    · rw [List.foldlM_cons, hnext]
      exact hm'
    · rw [hget', hget]
      by_cases heq : other = kind
      · subst heq
        simp [hnodup.1]
      · simp [heq]

theorem map_fst_of_encodes {kinds : List Address} {pairs : List (Address × Word)}
    (h : List.Forall₂ (Encodes w c) kinds pairs) : pairs.map (·.1) = kinds := by
  induction h with
  | nil => rfl
  | cons he _ ih => rw [List.map_cons, he.fst_eq, ih]

/-- An encoding lists the kinds of the map in the order of the whitelist, each with its exact amount
in units. -/
theorem encodes_of_encode {kinds : List Address} {amounts : List Word}
    (h : w.encode c = .ok (kinds, amounts)) :
    kinds = w.order.filter c.contains ∧ kinds.length = amounts.length ∧
      List.Forall₂ (Encodes w c) kinds (kinds.zip amounts) := by
  obtain ⟨-, pairs, hpairs, hunzip⟩ := encode_eq_ok_iff.1 h
  have hfst := map_fst_of_encodes hpairs
  rw [List.unzip_eq_map, Prod.mk.injEq] at hunzip
  obtain ⟨rfl, rfl⟩ := hunzip
  refine ⟨hfst, ?_, ?_⟩
  · rw [List.length_map, List.length_map]
  · have hzip := List.zip_unzip pairs
    rw [List.unzip_eq_map] at hzip
    rw [hzip, hfst]
    exact hpairs

/-- The lists of an encoding give the map back, without its zero amounts. -/
theorem collateralsOfArrays_encode {kinds : List Address} {amounts : List Word}
    (hnodup : w.order.Nodup) (hlisted : ∀ kind, w.info.contains kind = true → kind ∈ w.order)
    (h : w.encode c = .ok (kinds, amounts)) :
    collateralsOfArrays w.decimals kinds amounts = .ok c.withoutZeros := by
  obtain ⟨hknown, -⟩ := encode_eq_ok_iff.1 h
  obtain ⟨hkinds, hlength, hencodes⟩ := encodes_of_encode h
  have hdistinct : kinds.Nodup := hkinds ▸ hnodup.filter _
  obtain ⟨m, hm, hget⟩ := foldlM_addReported (m := .empty) hencodes hdistinct fun _ _ => rfl
  have hsame : m = c.withoutZeros := by
    apply AddressMap.ext_get?
    intro kind
    rw [hget, Collaterals.get?_withoutZeros]
    split
    · rfl
    · rename_i hnot
      -- a kind that is not listed is not in the map either
      cases hvalue : c.get? kind with
      | none => rfl
      | some amount =>
        have hcontains : c.contains kind = true := AddressMap.contains_of_get? hvalue
        have horder := hlisted kind (hknown kind (c.contains_iff.1 hcontains))
        rw [hkinds] at hnot
        exact absurd (List.mem_filter.2 ⟨horder, hcontains⟩) hnot
  rw [collateralsOfArrays, if_neg (Decidable.not_not.2 hlength), ← hsame]
  exact hm

/-! ## Refusals -/

/-- Every amount of a map belongs to a known kind and has units of it. -/
def Encodable (w : Whitelist) (c : Collaterals) : Prop :=
  ∀ kind amount, c.get? kind = some amount → ∃ info units, w.get? kind = some info ∧
    amount.toUnits info.decimals = .ok units

theorem exists_encodes (hc : Encodable w c) (kinds : List Address)
    (hkinds : ∀ kind ∈ kinds, c.contains kind = true) :
    ∃ pairs, List.Forall₂ (Encodes w c) kinds pairs := by
  induction kinds with
  | nil => exact ⟨[], .nil⟩
  | cons kind rest ih =>
    rw [List.forall_mem_cons] at hkinds
    obtain ⟨pairs, hpairs⟩ := ih hkinds.2
    obtain ⟨amount, hget⟩ := Option.isSome_iff_exists.1 hkinds.1
    obtain ⟨info, units, hinfo, hunits⟩ := hc kind amount hget
    exact ⟨(kind, units) :: pairs, .cons ⟨rfl, amount, info, hget, hinfo, hunits⟩ hpairs⟩

/-- Encoding succeeds on the maps whose amounts all have units. -/
theorem exists_encode (hc : Encodable w c) :
    ∃ kinds amounts, w.encode c = .ok (kinds, amounts) := by
  obtain ⟨pairs, hpairs⟩ := exists_encodes hc (w.order.filter c.contains) fun kind hkind =>
    (List.mem_filter.1 hkind).2
  refine ⟨pairs.unzip.1, pairs.unzip.2, encode_eq_ok_iff.2 ⟨fun kind hkind => ?_, pairs, hpairs,
    rfl⟩⟩
  obtain ⟨amount, hget⟩ := Option.isSome_iff_exists.1 (c.contains_iff.2 hkind)
  obtain ⟨info, -, hinfo, -⟩ := hc kind amount hget
  exact AddressMap.contains_of_get? hinfo

/-- Where every known kind is listed, encoding succeeds on no other maps. -/
theorem exists_encode_iff (hlisted : ∀ kind, w.info.contains kind = true → kind ∈ w.order) :
    (∃ kinds amounts, w.encode c = .ok (kinds, amounts)) ↔ Encodable w c := by
  constructor
  · rintro ⟨kinds, amounts, h⟩ kind amount hget
    obtain ⟨hknown, -⟩ := encode_eq_ok_iff.1 h
    obtain ⟨hkinds, -, hencodes⟩ := encodes_of_encode h
    have hcontains : c.contains kind = true := AddressMap.contains_of_get? hget
    have horder := hlisted kind (hknown kind (c.contains_iff.1 hcontains))
    have hmem : kind ∈ kinds := by
      rw [hkinds]
      exact List.mem_filter.2 ⟨horder, hcontains⟩
    have heach : ∀ kind ∈ kinds, ∃ e, Encodes w c kind e :=
      ((List.forall₂_and_left _ _).1 (hencodes.imp fun kind e he => ⟨⟨e, he⟩, he⟩)).1
    obtain ⟨e, -, amount', info, hget', hinfo, hunits⟩ := heach kind hmem
    obtain rfl : amount = amount' := Option.some.inj (hget.symm.trans hget')
    exact ⟨info, e.2, hinfo, hunits⟩
  · exact exists_encode

theorem unbroken_require (kinds : List Address) : Attempt.Unbroken (w.require kinds) := by
  rw [require]
  split <;> exact nofun

theorem unbroken_encodeInOrder (kinds : List Address) :
    Attempt.Unbroken (w.encodeInOrder c kinds) := by
  induction kinds with
  | nil => exact nofun
  | cons kind rest ih =>
    rw [encodeInOrder]
    split
    · exact ih
    · apply Attempt.unbroken_bind
      · exact Attempt.unbroken_bind (Attempt.unbroken_ofOption _ _) fun _ =>
          Attempt.unbroken_ofExcept _ _
      · exact fun units => Attempt.unbroken_bind ih fun others => nofun

theorem unbroken_encode : Attempt.Unbroken (w.encode c) := by
  apply Attempt.unbroken_bind
  · exact unbroken_require _
  · exact fun _ => Attempt.unbroken_bind (unbroken_encodeInOrder _) fun pairs => nofun

/-- Where a map cannot be encoded, one of its kinds is not known or one of its amounts has no
units. -/
theorem not_encodable_iff : ¬Encodable w c ↔ ∃ kind amount, c.get? kind = some amount ∧
    (w.get? kind = none ∨ ∃ info cause, w.get? kind = some info ∧
      amount.toUnits info.decimals = .error cause) := by
  simp only [Encodable, not_forall, exists_prop]
  refine exists_congr fun kind => exists_congr fun amount => and_congr_right fun _ => ?_
  cases hinfo : w.get? kind with
  | none => simp
  | some info => cases hunits : amount.toUnits info.decimals <;> simp [hunits]

/-- Whatever the entries of a whitelist are, encoding collateral in its order and reading the lists
back are inverse to each other: the lists hold each kind of the map once, in the order of the
entries, with its exact amount in units, and reading them gives the map without its zero amounts.
Encoding is refused where a kind is not listed or an amount has no units, and only there. -/
theorem encode_inverse (entries : List (Address × CollateralInfo)) (c : Collaterals) :
    (∀ kinds amounts, (ofEntries entries).encode c = .ok (kinds, amounts) →
      kinds.Nodup ∧ kinds = (entries.map (·.1)).eraseDups.filter c.contains ∧
        (∀ kind, kind ∈ kinds ↔ kind ∈ c.keys) ∧ kinds.length = amounts.length ∧
        List.Forall₂ (Encodes (ofEntries entries) c) kinds (kinds.zip amounts) ∧
        collateralsOfArrays (ofEntries entries).decimals kinds amounts = .ok c.withoutZeros) ∧
      ((∃ lists, (ofEntries entries).encode c = .ok lists) ∨
        ∃ cause, (ofEntries entries).encode c = Attempt.refuse cause) ∧
      ((∃ cause, (ofEntries entries).encode c = Attempt.refuse cause) ↔
        ∃ kind amount, c.get? kind = some amount ∧ (kind ∉ entries.map (·.1) ∨
          ∃ info cause, (ofEntries entries).get? kind = some info ∧
            amount.toUnits info.decimals = .error cause)) := by
  have hnodup := nodup_kinds_ofEntries entries
  have hlisted : ∀ kind, (ofEntries entries).info.contains kind = true →
      kind ∈ (ofEntries entries).order := fun kind => (mem_kinds_ofEntries_iff entries kind).2
  have hends := (unbroken_encode (w := ofEntries entries) (c := c)).isOk_or_refused
  refine ⟨fun kinds amounts h => ?_, hends, ?_⟩
  · obtain ⟨hknown, -⟩ := encode_eq_ok_iff.1 h
    obtain ⟨hkinds, hlength, hencodes⟩ := encodes_of_encode h
    refine ⟨hkinds ▸ hnodup.filter _, ?_, fun kind => ?_, hlength, hencodes,
      collateralsOfArrays_encode hnodup hlisted h⟩
    · rw [hkinds, ← kinds_ofEntries_eq]
      rfl
    · rw [hkinds, List.mem_filter, c.contains_iff]
      constructor
      · exact fun hmem => hmem.2
      · exact fun hmem => ⟨hlisted kind (hknown kind hmem), hmem⟩
  · simp only [← get?_ofEntries_eq_none_iff]
    rw [← not_encodable_iff, ← exists_encode_iff hlisted]
    constructor
    · rintro ⟨cause, hrefused⟩ ⟨kinds, amounts, hok⟩
      rw [hrefused] at hok
      cases hok
    · intro hnone
      rcases hends with ⟨⟨kinds, amounts⟩, hok⟩ | hrefused
      · exact absurd ⟨kinds, amounts, hok⟩ hnone
      · exact hrefused

/-- A kind of collateral with a number of decimals. -/
def mixedEntry (kind : Address) (decimals : UInt8) : Address × CollateralInfo :=
  (kind, ⟨decimals, .ofUInt64 1, .ofUInt64 1, .ofUInt64 1, false⟩)

/-- Kinds with fewer and more than eighteen decimals, out of their order, one of them twice. -/
def mixedEntries : List (Address × CollateralInfo) :=
  [mixedEntry ⟨43, by decide⟩ 6, mixedEntry ⟨41, by decide⟩ 24, mixedEntry ⟨43, by decide⟩ 2,
    mixedEntry ⟨42, by decide⟩ 18]

/-- A quarter of each of two kinds, and nothing of a third. -/
def quarters : Collaterals :=
  .ofList [(⟨41, by decide⟩, .thousandths 250), (⟨42, by decide⟩, .zero),
    (⟨43, by decide⟩, .thousandths 250)]

/-- The quarters come back without the zero amount. A thousandth of the kind that counts in
hundredths is refused. -/
theorem quarters_encode_inverse :
    (∃ kinds amounts, (ofEntries mixedEntries).encode quarters = .ok (kinds, amounts) ∧
      kinds.map (·.toNat) = [43, 41, 42] ∧ amounts.map (·.toNat) = [25, 25 * 10 ^ 22, 0] ∧
      collateralsOfArrays (ofEntries mixedEntries).decimals kinds amounts =
        .ok quarters.withoutZeros) ∧
      ∃ cause, (ofEntries mixedEntries).encode
        (.ofList [(⟨43, by decide⟩, .thousandths 1)]) = Attempt.refuse cause := by
  constructor
  · have hencode : (ofEntries mixedEntries).encode quarters =
        .ok ([⟨43, by decide⟩, ⟨41, by decide⟩, ⟨42, by decide⟩],
          [⟨25, by decide⟩, ⟨25 * 10 ^ 22, by decide⟩, .zero]) := by decide +kernel
    obtain ⟨-, -, -, -, -, hback⟩ := (encode_inverse mixedEntries quarters).1 _ _ hencode
    exact ⟨_, _, hencode, rfl, by decide, hback⟩
  · apply (encode_inverse mixedEntries _).2.2.2
    exact ⟨⟨43, by decide⟩, .thousandths 1, rfl, Or.inr ⟨_, _, rfl, rfl⟩⟩

end Whitelist

end Cdp
