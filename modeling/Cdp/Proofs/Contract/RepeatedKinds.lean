import Cdp.Proofs.Chain.Standing
import Cdp.Proofs.Contract.CollateralArrays
import Cdp.Proofs.Decimal.Capped
import Cdp.Proofs.Procedure.Trace

/-!
# Lists that repeat a kind

The chain tells what a Trove holds as a list of kinds and amounts in units, once when the Trove is
read and once in the events of a receipt. Both lists are turned into maps, and the two ways differ
in what they make of a kind that comes twice: reading a Trove keeps the last amount that is not zero
(`getLast?_of_foldlM_addUnits`), and reading a receipt adds the amounts up
(`totals_of_foldlM_addReported`).

A list is therefore read alike in both ways if and only if no kind has two amounts that are not
zero, but for a kind whose last amount is infinite (`readStoredTrove_agrees_iff`). Which lists can
be read at all does not depend on the way, as long as the sums fit.
-/

set_option autoImplicit false

namespace Cdp

open Procedure

theorem Decimal.sum_concat (ds : List Decimal) (d : Decimal) :
    sum (ds ++ [d]) = sum ds >>= fun a => a.add d := by
  rw [sum, List.foldlM_append]
  simp [sum]

namespace Whitelist

variable {w : Whitelist} {kind : Address} {units done : List (Address × Word)} {m m' : Collaterals}
  {e : Address × Word} {amount : Decimal}

/-- The amounts of a kind in a list, in their order and without zeros. -/
def amountsOf (w : Whitelist) (kind : Address) (units : List (Address × Word)) : List Decimal :=
  units.filterMap fun e =>
    if e.1 = kind then (w.toDecimal e.1 e.2).toOption.filter fun amount => !amount.isZero
    else none

/-- Every entry of a list is of a known kind, and its amount is a decimal. -/
def Readable (w : Whitelist) (units : List (Address × Word)) : Prop :=
  ∀ e ∈ units, ∃ amount, w.toDecimal e.1 e.2 = .ok amount

/-- The amounts of every kind have a sum. -/
def Summable (w : Whitelist) (units : List (Address × Word)) : Prop :=
  ∀ kind, ∃ total, Decimal.sum (w.amountsOf kind units) = .ok total

/-- No kind has two amounts, unless its last one is infinite. -/
def Unambiguous (w : Whitelist) (units : List (Address × Word)) : Prop :=
  ∀ kind, (w.amountsOf kind units).length ≤ 1 ∨
    (w.amountsOf kind units).getLast? = some .infinity

theorem amountsOf_concat (h : w.toDecimal e.1 e.2 = .ok amount) :
    w.amountsOf kind (done ++ [e]) =
      w.amountsOf kind done ++ if e.1 = kind ∧ amount.isZero = false then [amount] else [] := by
  have hoption : (w.toDecimal e.1 e.2).toOption = some amount := by
    rw [h]
    rfl
  rw [amountsOf, List.filterMap_append]
  congr 1
  simp only [List.filterMap_cons, List.filterMap_nil, hoption, Option.filter_some]
  by_cases hkind : e.1 = kind
  · cases amount.isZero <;> simp [hkind]
  · simp [hkind]

theorem amountsOf_concat_of_isZero (h : w.toDecimal e.1 e.2 = .ok amount)
    (hzero : amount.isZero = true) :
    w.amountsOf kind (done ++ [e]) = w.amountsOf kind done := by
  rw [amountsOf_concat h, hzero, if_neg (fun hand => Bool.noConfusion hand.2), List.append_nil]

theorem isZero_of_mem_amountsOf (h : amount ∈ w.amountsOf kind units) :
    amount.isZero = false := by
  obtain ⟨e, -, he⟩ := List.mem_filterMap.1 h
  split at he
  · rw [Option.filter_eq_some_iff, Bool.not_eq_true'] at he
    exact he.2
  · cases he

theorem Readable.concat (hdone : Readable w done) (h : w.toDecimal e.1 e.2 = .ok amount) :
    Readable w (done ++ [e]) := by
  intro other hother
  rcases List.mem_append.1 hother with hmem | hmem
  · exact hdone other hmem
  · rw [List.mem_singleton.1 hmem]
    exact ⟨amount, h⟩

/-! ## Reading a Trove -/

/-- Of the amounts of a kind the last one is kept. -/
theorem getLast?_of_foldlM_addUnits (h : units.foldlM (Chain.addUnits w) .empty = .ok m) :
    Readable w units ∧ ∀ kind, m.get? kind = (w.amountsOf kind units).getLast? := by
  refine foldlM_eq_ok_induct (P := fun done m =>
    Readable w done ∧ ∀ kind, m.get? kind = (w.amountsOf kind done).getLast?) ?_ ?_ h
  · exact ⟨nofun, fun kind => rfl⟩
  · rintro done e m m' - ⟨hread, hlast⟩ hstep
    obtain ⟨amount, hamount, rfl⟩ := Chain.addUnits_eq_ok_iff.1 hstep
    refine ⟨hread.concat hamount, fun kind => ?_⟩
    cases hzero : amount.isZero with
    | true => rw [amountsOf_concat_of_isZero hamount hzero, if_pos rfl, hlast]
    | false =>
      rw [amountsOf_concat hamount, if_neg Bool.false_ne_true, AddressMap.get?_insert]
      by_cases hkind : e.1 = kind
      · rw [if_pos hkind, if_pos ⟨hkind, hzero⟩, List.getLast?_concat]
      · rw [if_neg hkind, if_neg fun hand => hkind hand.1, List.append_nil, hlast]

theorem exists_foldlM_addUnits_iff :
    (∃ m', units.foldlM (Chain.addUnits w) m = .ok m') ↔ Readable w units := by
  induction units generalizing m with
  | nil => exact ⟨fun _ => nofun, fun _ => ⟨m, rfl⟩⟩
  | cons e rest ih =>
    rw [Readable, List.forall_mem_cons, List.foldlM_cons]
    constructor
    · rintro ⟨m', h⟩
      obtain ⟨next, hstep, hrest⟩ := bind_eq_ok_iff.1 h
      obtain ⟨amount, hamount, -⟩ := Chain.addUnits_eq_ok_iff.1 hstep
      exact ⟨⟨amount, hamount⟩, ih.1 ⟨m', hrest⟩⟩
    · rintro ⟨⟨amount, hamount⟩, hrest⟩
      obtain ⟨m', hm'⟩ := ih.2 hrest
      exact ⟨m', bind_eq_ok_iff.2 ⟨_, Chain.addUnits_eq_ok_iff.2 ⟨amount, hamount, rfl⟩, hm'⟩⟩

/-! ## Reading a receipt -/

/-- What is held of a kind is the sum of its amounts, and nothing where it has none. -/
structure Totals (amounts : List Decimal) (held : Option Decimal) : Prop where
  sum_eq : Decimal.sum amounts = .ok (held.getD .zero)
  eq_none_iff : held = none ↔ amounts = []

/-- One more amount is added to what is held of its kind. -/
theorem Totals.concat {amounts : List Decimal} {held : Option Decimal} {total : Decimal}
    (h : Totals amounts held) (hadd : (held.getD .zero).add amount = .ok total) :
    Totals (amounts ++ [amount]) (some total) := by
  constructor
  case sum_eq =>
    rw [Decimal.sum_concat, h.sum_eq]
    exact hadd
  case eq_none_iff => simp

/-- The amounts of every kind are added up. -/
theorem totals_of_foldlM_addReported (h : units.foldlM (addReported w.decimals) .empty = .ok m) :
    Readable w units ∧ ∀ kind, Totals (w.amountsOf kind units) (m.get? kind) := by
  refine foldlM_eq_ok_induct (P := fun done m =>
    Readable w done ∧ ∀ kind, Totals (w.amountsOf kind done) (m.get? kind)) ?_ ?_ h
  · exact ⟨nofun, fun kind => ⟨rfl, iff_of_true rfl rfl⟩⟩
  · rintro done e m m' - ⟨hread, htotals⟩ hstep
    obtain ⟨amount, hamount, hm⟩ := addReported_eq_ok_iff.1 hstep
    refine ⟨hread.concat hamount, fun kind => ?_⟩
    cases hzero : amount.isZero with
    | true =>
      rw [hzero, if_pos rfl] at hm
      cases hm
      rw [amountsOf_concat_of_isZero hamount hzero]
      exact htotals kind
    | false =>
      rw [hzero, if_neg Bool.false_ne_true] at hm
      obtain ⟨total, hadd, rfl⟩ := addAmount_eq_ok_iff.1 hm
      rw [amountsOf_concat hamount, AddressMap.get?_insert]
      by_cases hkind : e.1 = kind
      · subst hkind
        rw [if_pos rfl, if_pos ⟨rfl, hzero⟩]
        exact (htotals e.1).concat hadd
      · rw [if_neg hkind, if_neg fun hand => hkind hand.1, List.append_nil]
        exact htotals kind

/-- A readable list is added up where the sum of every kind fits. The induction is on the end of the
list: the sums of its start fit because they come first in the sums of the whole. -/
theorem exists_foldlM_addReported (hread : Readable w units) (hsums : Summable w units) :
    ∃ m, units.foldlM (addReported w.decimals) .empty = .ok m := by
  induction units using List.reverseRecOn with
  | nil => exact ⟨.empty, rfl⟩
  | append_singleton done e ih =>
    rw [Readable, List.forall_mem_append] at hread
    obtain ⟨amount, hamount⟩ := hread.2 e (List.mem_singleton_self e)
    have hstarts : Summable w done := by
      intro kind
      obtain ⟨total, htotal⟩ := hsums kind
      rw [amountsOf_concat hamount, Decimal.sum, List.foldlM_append] at htotal
      obtain ⟨start, hstart, -⟩ := bind_eq_ok_iff.1 htotal
      exact ⟨start, hstart⟩
    obtain ⟨m, hm⟩ := ih hread.1 hstarts
    obtain ⟨-, htotals⟩ := totals_of_foldlM_addReported hm
    have hstep : ∃ m', addReported w.decimals m e = .ok m' := by
      simp only [addReported_eq_ok_iff]
      cases hzero : amount.isZero with
      | true =>
        refine ⟨m, amount, hamount, ?_⟩
        rw [hzero, if_pos rfl]
      | false =>
        obtain ⟨total, htotal⟩ := hsums e.1
        rw [amountsOf_concat hamount, if_pos ⟨rfl, hzero⟩, Decimal.sum_concat,
          (htotals e.1).sum_eq] at htotal
        refine ⟨m.insert e.1 total, amount, hamount, ?_⟩
        rw [hzero, if_neg Bool.false_ne_true]
        exact addAmount_eq_ok_iff.2 ⟨total, htotal, rfl⟩
    obtain ⟨m', hm'⟩ := hstep
    refine ⟨m', ?_⟩
    rw [List.foldlM_append, hm]
    exact bind_eq_ok_iff.2 ⟨m, rfl, bind_eq_ok_iff.2 ⟨m', hm', rfl⟩⟩

/-- The lists of an event have the kinds and the amounts apart. -/
theorem collateralsOfArrays_unzip :
    collateralsOfArrays w.decimals (units.map (·.1)) (units.map (·.2)) =
      units.foldlM (addReported w.decimals) .empty := by
  have hzip : (units.map (·.1)).zip (units.map (·.2)) = units := by
    rw [List.zip_map']
    exact List.map_id units
  rw [collateralsOfArrays, if_neg (by simp), hzip]
  rfl

/-! ## Both ways -/

/-- The last of some amounts that are not zero is their sum if there is one amount at most, or if
the last is infinite. -/
theorem Totals.getLast?_eq_iff {amounts : List Decimal} {held : Option Decimal}
    (h : Totals amounts held) (hpos : ∀ amount ∈ amounts, amount.isZero = false) :
    amounts.getLast? = held ↔ amounts.length ≤ 1 ∨ amounts.getLast? = some .infinity := by
  obtain ⟨hsum, hnone⟩ := h
  rcases List.eq_nil_or_concat' amounts with rfl | ⟨front, last, rfl⟩
  · rw [hnone.2 rfl]
    exact iff_of_true rfl (Or.inl (Nat.zero_le 1))
  · cases held with
    | none => exact absurd (hnone.1 rfl) (by simp)
    | some total =>
      have hraw := Decimal.rawNat_sum_eq hsum
      have hlast := Decimal.rawNat_le_infinity last
      rw [List.map_append, List.sum_append, List.map_singleton, List.sum_singleton,
        Option.getD_some] at hraw
      rw [List.getLast?_concat, List.length_append, List.length_singleton, Option.some_inj,
        Option.some_inj]
      constructor
      · rintro rfl
        rcases front with _ | ⟨first, front⟩
        · exact Or.inl (Nat.le_refl 1)
        · -- something is added in front, so only infinity can come out unchanged
          have hfirst := Decimal.isZero_eq_false_iff.1 (hpos first (by simp))
          rw [List.map_cons, List.sum_cons] at hraw
          right
          apply Decimal.ext
          omega
      · rintro (hlength | rfl)
        · obtain rfl : front = [] := List.length_eq_zero_iff.1 (by omega)
          apply Decimal.ext
          simp only [List.map_nil, List.sum_nil] at hraw
          omega
        · apply Decimal.ext
          omega

end Whitelist

/-! ## A Trove and its receipt -/

namespace Chain

variable {owner : Address} {w : Whitelist} {tag : BlockTag} {units : List (Address × Word)}
  {trace : List (Exchange Chain)} {result : Attempt Error StoredTrove}

/-- The Trove of an owner is open and holds a list of amounts, and every read of it is answered. -/
structure OpenReading (owner : Address) (tag : BlockTag) (units : List (Address × Word))
    (trace : List (Exchange Chain)) : Prop where
  starts : ∃ code debt rest, TroveStatus.ofCode? code = some .open ∧
    trace = ⟨.read (.troveStatus owner) tag, .ok code⟩ ::
      ⟨.read (.troveDebt owner) tag, .ok debt⟩ ::
      ⟨.read (.troveColls owner) tag, .ok units⟩ :: rest
  answered : ∀ e ∈ trace, e.answer.isOk = true

theorem succeeds_readAt (query : Query) :
    Succeeds (fun e => e.answer.isOk = true) (readAt query tag) fun _ => True := by
  refine succeeds_request fun x hx => ?_
  obtain ⟨a, ha⟩ := exists_eq_ok_of_isOk hx
  exact ⟨a, ha, trivial⟩

theorem succeeds_readStake (owner kind : Address) :
    Succeeds (fun e => e.answer.isOk = true) (readStake owner tag kind) fun _ => True :=
  succeeds_bind (succeeds_readAt _) fun _ _ =>
    succeeds_bind (succeeds_readAt _) fun _ _ => succeeds_pure trivial

/-- A read that is answered is followed by what goes on from its answer. -/
theorem yields_readAt_bind_iff {query : Query} {answer : query.Answer} {α : Type}
    {f : query.Answer → ChainProcedure α} {rest : List (Exchange Chain)} {x : Attempt Error α} :
    (readAt query tag >>= f).Yields (⟨.read query tag, .ok answer⟩ :: rest) x ↔
      (f answer).Yields rest x := by
  have hread : (readAt query tag).Yields [⟨.read query tag, .ok answer⟩] (.ok answer) :=
    yields_readAt_ok_iff.2 rfl
  exact hread.bind_iff

/-- Where every read is answered, a Trove can be read if and only if its list can, and the Trove
holds what the list is turned into. -/
theorem readStoredTrove_collaterals (hopen : OpenReading owner tag units trace)
    (h : (readStoredTrove owner w tag).Yields trace result) :
    result.map (·.user.trove.collaterals) = collateralsOfUnits w units := by
  obtain ⟨⟨code, debt, rest, hcode, rfl⟩, hanswered⟩ := hopen
  have hstatus := yields_readAt_bind_iff.1 h
  simp only [hcode] at hstatus
  have hunits := yields_readAt_bind_iff.1 (yields_readAt_bind_iff.1 hstatus)
  cases hcollaterals : collateralsOfUnits w units with
  | error failure =>
    -- the reading ends here, before any stake is asked for
    rw [hcollaterals] at hunits
    obtain ⟨-, rfl⟩ := yields_done_iff.1 hunits
    rfl
  | ok collaterals =>
    have hturned : (liftM (collateralsOfUnits w units) : ChainProcedure Collaterals).Yields []
        (.ok collaterals) := yields_liftM_ok_iff.2 ⟨rfl, hcollaterals⟩
    have hperKind := hturned.bind_iff.1 hunits
    -- only reads are left, and all of them are answered
    have hrest : ∀ e ∈ rest, e.answer.isOk = true := fun e he =>
      hanswered e (List.mem_cons_of_mem _ (List.mem_cons_of_mem _ (List.mem_cons_of_mem _ he)))
    have hends : ∃ stored, result = .ok stored ∧ stored.user.trove.collaterals = collaterals := by
      refine succeeds_bind (succeeds_mapM fun _ => succeeds_readStake _ _) ?_ _ _ hperKind hrest
      exact fun perKind _ => succeeds_pure rfl
    obtain ⟨stored, rfl, hstored⟩ := hends
    exact congrArg Except.ok hstored

/-- An open Trove is read back as long as its list is readable, and what a receipt reports by the
same list is read as long as the sums fit as well. Of each kind the Trove then holds the last amount
and the receipt the sum of all amounts, which is the same for every kind if and only if the list is
unambiguous. -/
theorem readStoredTrove_agrees_iff (hopen : OpenReading owner tag units trace)
    (h : (readStoredTrove owner w tag).Yields trace result) :
    ((∃ stored, result = .ok stored) ↔ w.Readable units) ∧
      ((∃ m, collateralsOfArrays w.decimals (units.map (·.1)) (units.map (·.2)) = .ok m) ↔
        w.Readable units ∧ w.Summable units) ∧
      ∀ stored m, result = .ok stored →
        collateralsOfArrays w.decimals (units.map (·.1)) (units.map (·.2)) = .ok m →
        (∀ kind,
          stored.user.trove.collaterals.get? kind = (w.amountsOf kind units).getLast? ∧
          Whitelist.Totals (w.amountsOf kind units) (m.get? kind)) ∧
        (stored.user.trove.collaterals = m ↔ w.Unambiguous units) := by
  have hheld := readStoredTrove_collaterals hopen h
  rw [Whitelist.collateralsOfArrays_unzip]
  refine ⟨?_, ?_, ?_⟩
  · have hsame : (∃ stored, result = .ok stored) ↔
        ∃ m, units.foldlM (addUnits w) .empty = .ok m := by
      change _ ↔ ∃ m, collateralsOfUnits w units = .ok m
      rw [← hheld]
      cases result <;> simp [Except.map]
    rw [hsame, Whitelist.exists_foldlM_addUnits_iff]
  · constructor
    · rintro ⟨m, hm⟩
      obtain ⟨hread, htotals⟩ := Whitelist.totals_of_foldlM_addReported hm
      exact ⟨hread, fun kind => ⟨_, (htotals kind).sum_eq⟩⟩
    · rintro ⟨hread, hsums⟩
      exact Whitelist.exists_foldlM_addReported hread hsums
  · rintro stored m rfl hm
    obtain ⟨-, hlast⟩ := Whitelist.getLast?_of_foldlM_addUnits hheld.symm
    obtain ⟨-, htotals⟩ := Whitelist.totals_of_foldlM_addReported hm
    refine ⟨fun kind => ⟨hlast kind, htotals kind⟩, ?_⟩
    have hkind (kind : Address) : stored.user.trove.collaterals.get? kind = m.get? kind ↔
        (w.amountsOf kind units).length ≤ 1 ∨
          (w.amountsOf kind units).getLast? = some .infinity := by
      rw [hlast]
      exact (htotals kind).getLast?_eq_iff fun _ => Whitelist.isZero_of_mem_amountsOf
    constructor
    · rintro hsame kind
      exact (hkind kind).1 (congrArg (·.get? kind) hsame)
    · intro hall
      apply AddressMap.ext_get?
      exact fun kind => (hkind kind).2 (hall kind)

/-- Tables with one open Trove, which holds a list of amounts. -/
def listedTables (units : List (Address × Word)) : Tables :=
  { Tables.bare with
    troves := .ofList [(.wrap 7, ⟨1, .zero, units, .empty, .empty⟩)] }

/-- A whitelist whose kinds have different numbers of decimals. -/
def mixedWhitelist : Whitelist := .ofEntries Whitelist.mixedEntries

/-- The reading of the Trove that holds a list of amounts. -/
def listedReading (units : List (Address × Word)) :
    List (Exchange Chain) × Attempt Error StoredTrove :=
  (readStoredTrove (.wrap 7) mixedWhitelist .latest).walk
    (listedTables units).reply

/-- One token of a kind and nothing of another, and then nothing of the first kind. -/
def zeroBehind : List (Address × Word) :=
  [(.wrap 42, .wrap (10 ^ 18)), (.wrap 41, .zero), (.wrap 42, .zero)]

theorem unambiguous_zeroBehind : mixedWhitelist.Unambiguous zeroBehind := by
  intro kind
  left
  have hfirst : (mixedWhitelist.amountsOf kind ([] ++ [(.wrap 42, .wrap (10 ^ 18))])).length ≤ 1 :=
    (List.length_filterMap_le _ _).trans (Nat.le_refl 1)
  have hsecond : mixedWhitelist.toDecimal (.wrap 41) .zero = .ok .zero := by decide +kernel
  have hthird : mixedWhitelist.toDecimal (.wrap 42) .zero = .ok .zero := by decide +kernel
  rwa [← Whitelist.amountsOf_concat_of_isZero (e := (.wrap 41, .zero)) hsecond rfl,
    ← Whitelist.amountsOf_concat_of_isZero (e := (.wrap 42, .zero)) hthird rfl] at hfirst

/-- The Trove is read back as the receipt reports it, as the amount that repeats its kind is
zero. -/
theorem zeroBehind_agrees :
    OpenReading (.wrap 7) .latest zeroBehind (listedReading zeroBehind).1 ∧
      ∃ stored, (listedReading zeroBehind).2 = .ok stored ∧
        collateralsOfArrays mixedWhitelist.decimals (zeroBehind.map (·.1))
          (zeroBehind.map (·.2)) = .ok stored.user.trove.collaterals ∧
        stored.user.trove.collaterals = .ofList [(.wrap 42, .ofUInt64 1)] := by
  have hopen : OpenReading (.wrap 7) .latest zeroBehind (listedReading zeroBehind).1 :=
    ⟨⟨1, .zero, _, rfl, rfl⟩, by decide +kernel⟩
  have hreported : collateralsOfArrays mixedWhitelist.decimals (zeroBehind.map (·.1))
      (zeroBehind.map (·.2)) = .ok (.ofList [(.wrap 42, .ofUInt64 1)]) := by
    decide +kernel
  obtain ⟨hstored, hsums, hsame⟩ := readStoredTrove_agrees_iff hopen (yields_walk _ _)
  obtain ⟨stored, hok⟩ := hstored.2 (hsums.1 ⟨_, hreported⟩).1
  have hheld := (hsame stored _ hok hreported).2.2 unambiguous_zeroBehind
  exact ⟨hopen, stored, hok, hheld ▸ hreported, hheld⟩

/-- One token of a kind, and then two more. -/
def twiceListed : List (Address × Word) :=
  [(.wrap 42, .wrap (10 ^ 18)), (.wrap 42, .wrap (2 * 10 ^ 18))]

/-- Read back, the Trove holds two tokens, and the receipt reports three. -/
theorem twiceListed_differs :
    OpenReading (.wrap 7) .latest twiceListed (listedReading twiceListed).1 ∧
      (listedReading twiceListed).2.map (·.user.trove.collaterals) =
        .ok (.ofList [(.wrap 42, .ofUInt64 2)]) ∧
      collateralsOfArrays mixedWhitelist.decimals (twiceListed.map (·.1))
        (twiceListed.map (·.2)) = .ok (.ofList [(.wrap 42, .ofUInt64 3)]) := by
  refine ⟨⟨⟨1, .zero, _, rfl, rfl⟩, by decide +kernel⟩, ?_, ?_⟩
  · decide +kernel
  · decide +kernel

end Chain

end Cdp
