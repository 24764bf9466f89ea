import Cdp.InsertHint.Search
import Cdp.Proofs.Chain.Standing
import Cdp.Proofs.Procedure.Trace
import Cdp.Proofs.TroveList

/-!
# The search finds the place

Against a reader of one list (`ListReader`) the search for an insert position ends with hints that
depend on the list, the ratio and the owner only, not on the samples, their seed or their number
(`succeeds_findWithSeed`). In the list without the owner the hints frame the ratio, so inserting at
them keeps that list sorted (`findWithSeed_brackets`).
-/

set_option autoImplicit false

namespace Cdp

variable {σ : Type}

/-- A handler whose answers at the latest block are those of one list. Samples may be anything, and
a lone member has debt. -/
structure ListReader (l : TroveList)
    (handle : (r : Chain.Request) → StateM σ (Except ChainError (Chain.Answer r))) : Prop where
  size : ∀ w, ∃ n, (handle (.read .size .latest) w).1 = .ok n ∧ n.toNat = l.length
  first : ∀ w, (handle (.read .first .latest) w).1 = .ok (l.head?.getD .zero)
  prev : ∀ id w, (handle (.read (.prev id) .latest) w).1 = .ok ((l.prev? id).getD .zero)
  next : ∀ id w, (handle (.read (.next id) .latest) w).1 = .ok ((l.next? id).getD .zero)
  position : ∀ ratio prev next w,
    (handle (.read (.insertPosition ratio prev next) .latest) w).1 = .ok (l.insertPosition ratio)
  sample : ∀ ratio trials seed w,
    ∃ hint, (handle (.read (.approxHint ratio trials seed) .latest) w).1 = .ok hint
  loneDebt : ∀ member, l.ids = [member] → ∀ w, ∃ debt,
    (handle (.read (.troveDebt member) .latest) w).1 = .ok debt ∧ debt.isZero = false

/-- A handler whose answers at the latest block are those of one list and of the debts of its
members, which may be zero. Samples may be anything. -/
structure DebtReader (l : TroveList) (debts : Address → Word)
    (handle : (r : Chain.Request) → StateM σ (Except ChainError (Chain.Answer r))) : Prop where
  size : ∀ w, ∃ n, (handle (.read .size .latest) w).1 = .ok n ∧ n.toNat = l.length
  first : ∀ w, (handle (.read .first .latest) w).1 = .ok (l.head?.getD .zero)
  prev : ∀ id w, (handle (.read (.prev id) .latest) w).1 = .ok ((l.prev? id).getD .zero)
  next : ∀ id w, (handle (.read (.next id) .latest) w).1 = .ok ((l.next? id).getD .zero)
  position : ∀ ratio prev next w,
    (handle (.read (.insertPosition ratio prev next) .latest) w).1 = .ok (l.insertPosition ratio)
  sample : ∀ ratio trials seed w,
    ∃ hint, (handle (.read (.approxHint ratio trials seed) .latest) w).1 = .ok hint
  debt : ∀ member w, (handle (.read (.troveDebt member) .latest) w).1 = .ok (debts member)

/-- Unless a lone member has no debt, a reader of debts is a reader of the list. -/
theorem DebtReader.listReader {l : TroveList} {debts : Address → Word}
    {handle : (r : Chain.Request) → StateM σ (Except ChainError (Chain.Answer r))}
    (h : DebtReader l debts handle)
    (hdebt : ∀ member, l.ids = [member] → (debts member).isZero = false) :
    ListReader l handle where
  size := h.size
  first := h.first
  prev := h.prev
  next := h.next
  position := h.position
  sample := h.sample
  loneDebt member hlone w := ⟨debts member, h.debt member w, hdebt member hlone⟩

namespace HintFinder

open Procedure TroveList

variable {handle : (r : Chain.Request) → StateM σ (Except ChainError (Chain.Answer r))}
  {l front back : TroveList} {finder : HintFinder} {ratio : Decimal} {owner : Option Address}
  {seed : Word} {phase : SearchPhase} {query : Query}

theorem succeeds_readIn {Q : query.Answer → Prop}
    (h : ∀ w, ∃ a, (handle (.read query .latest) w).1 = .ok a ∧ Q a) :
    Succeeds (Answers handle) (readIn phase query) Q := by
  refine succeeds_request (I := Chain) (r := .read query .latest) ?_
  rintro x ⟨w, hw⟩
  obtain ⟨a, ha, hQ⟩ := h w
  exact ⟨a, hw.trans ha, hQ⟩

/-- A batch of samples succeeds, whatever it finds. -/
theorem succeeds_sample (h : ListReader l handle) (state : Word × Option ApproxHint)
    (trials : UInt64) :
    Succeeds (Answers handle) (sample ratio state trials)
      fun _ => True := by
  refine succeeds_bind (Q := fun _ => True) (succeeds_readIn fun w => ?_) fun found _ =>
    succeeds_pure trivial
  obtain ⟨hint, hhint⟩ := h.sample ratio.raw trials state.1 w
  exact ⟨hint, hhint, trivial⟩

/-- A value that may have to be read anew, and what goes on from it. -/
theorem succeeds_reread {α β : Type} {allowed : Exchange Chain → Prop} {c : Prop} [Decidable c]
    {p : ChainProcedure α} {a b x : α} {f : α → ChainProcedure β} {R : β → Prop}
    (hb : (if c then x else a) = b) (hp : Succeeds allowed p fun y => y = x)
    (hf : Succeeds allowed (f b) R) :
    Succeeds allowed (if c then p >>= f else pure a >>= f) R := by
  split
  · rename_i hc
    rw [if_pos hc] at hb
    refine succeeds_bind hp ?_
    rintro _ rfl
    rw [hb]
    exact hf
  · rename_i hc
    rw [if_neg hc] at hb
    rw [hb]
    exact succeeds_bind (succeeds_pure rfl) fun _ hy => hy ▸ hf

/-- The hints of a list that is cut at the ratio, once the owner is out of it. -/
def hintsAt (front back : TroveList) (owner : Option Address) : HintPair :=
  HintPair.normalized ⟨(front.without owner).tailId, (back.without owner).headId⟩

/-- The walk ends at the cut, and an owner who stands there is replaced by the neighbour beyond. -/
theorem succeeds_refine (hl : Valid (front ++ back)) (hcut : CutAt ratio.raw front back)
    (h : ListReader (front ++ back) handle) (size : UInt64) :
    Succeeds (Answers handle) (finder.refine size ratio owner seed)
      fun pair => pair = hintsAt front back owner := by
  -- nothing is kept of the samples: from any start the walk ends at the same place
  refine succeeds_bind (Q := fun _ => True)
    (succeeds_foldlM trivial fun state trials _ => succeeds_sample h state trials) fun best _ => ?_
  refine succeeds_bind (Q := fun place => place = (front.tailId, back.headId))
    (succeeds_readIn fun w => ⟨_, h.position _ _ _ w, insertPosition_of_cut hcut⟩) ?_
  rintro _ rfl
  cases owner with
  | none =>
    refine succeeds_pure ?_
    rw [hintsAt, without_none, without_none]
  | some owner =>
    refine succeeds_reread (prev_of_owner hl owner)
      (succeeds_readIn fun w => ⟨_, h.prev _ w, rfl⟩) ?_
    refine succeeds_reread (next_of_owner hl owner)
      (succeeds_readIn fun w => ⟨_, h.next _ w, rfl⟩) ?_
    exact succeeds_pure rfl

theorem succeeds_findWithSeed (hl : Valid (front ++ back)) (hcut : CutAt ratio.raw front back)
    (h : ListReader (front ++ back) handle) (hratio : ratio.isInfinite = false) :
    Succeeds (Answers handle) (finder.findWithSeed ratio owner seed)
      fun pair => pair = hintsAt front back owner := by
  refine succeeds_bind (succeeds_readIn h.size) fun size hsize => ?_
  split
  · rename_i hzero
    have hlength : (front ++ back).length = 0 := by rw [← hsize, hzero]; rfl
    obtain ⟨rfl, rfl⟩ := List.append_eq_nil_iff.1 (List.length_eq_zero_iff.1 hlength)
    exact succeeds_pure rfl
  · rw [if_neg (by simp [hratio])]
    split
    · rename_i hone
      have hlength : (front ++ back).length = 1 := by rw [← hsize, hone]; rfl
      obtain ⟨member, hmember⟩ := List.length_eq_one_iff.1 hlength
      refine succeeds_bind (succeeds_readIn fun w => ⟨_, h.first w, rfl⟩) ?_
      rintro _ rfl
      rw [hmember] at h ⊢
      refine succeeds_bind (succeeds_readIn (h.loneDebt _ rfl)) fun debt hdebt => ?_
      rw [if_neg (by simp [hdebt])]
      rw [← hmember] at h
      exact succeeds_refine hl hcut h size
    · exact succeeds_refine hl hcut h size

/-- For a list, a ratio and an owner there is one pair of hints that every search ends with. It
frames the ratio in the list without the owner, and inserting at it keeps that list sorted. -/
theorem findWithSeed_brackets (hl : l.Valid) (hratio : ratio.isInfinite = false)
    (owner : Option Address) :
    ∃ pair,
      (∀ {σ : Type} {handle : (r : Chain.Request) → StateM σ (Except ChainError (Chain.Answer r))},
        ListReader l handle → ∀ (finder : HintFinder) (seed : Word) (w : σ),
          ((finder.findWithSeed ratio owner seed).run handle w).1 = .ok pair) ∧
      Brackets ratio.raw (l.without owner) pair ∧
      ∀ id, Sorted ((l.without owner).insertAt pair (id, ratio.raw)) ∧
        ((l.without owner).insertAt pair (id, ratio.raw)).Perm ((id, ratio.raw) :: l.without owner)
    := by
  obtain ⟨front, back, rfl, hcut⟩ := exists_cut hl.sorted ratio.raw
  have hwithout := hl.without owner
  have hbrackets : Brackets ratio.raw (without (front ++ back) owner)
      (hintsAt front back owner) := by
    rw [without_append] at hwithout ⊢
    exact (hcut.without owner).brackets hwithout.ne_zero
  refine ⟨hintsAt front back owner, fun h finder seed w => ?_, hbrackets, fun id => ?_⟩
  · obtain ⟨pair, hrun, rfl⟩ := (succeeds_findWithSeed hl hcut h hratio).run w
    exact hrun
  · exact ⟨hbrackets.sorted_insertAt hwithout id, insertAt_perm _ _ _⟩

/-! ## Tables as a reader -/

/-- Tables read their list and the debts exactly, unless they are told a size or a position of
their own. -/
theorem debtReader_standing {t : Tables} (hsize : t.size = none) (hposition : t.position = none)
    (hlength : t.sorted.length < UInt64.size) :
    DebtReader t.sorted (fun member => (t.trove member).debt) t.standing where
  size w := by
    refine ⟨UInt64.ofNat t.sorted.length, ?_, UInt64.toNat_ofNat_of_lt' hlength⟩
    show Except.ok (t.size.getD (UInt64.ofNat t.sorted.length)) = _
    rw [hsize]
    rfl
  first w := rfl
  prev id w := rfl
  next id w := rfl
  position ratio prev next w := by
    show Except.ok (t.position.getD (t.sorted.insertPosition ratio)) = _
    rw [hposition]
    rfl
  sample ratio trials seed w := ⟨t.samples.head?.getD (Tables.noSample seed), rfl⟩
  debt member w := rfl

theorem listReader_standing {t : Tables} (hsize : t.size = none) (hposition : t.position = none)
    (hlength : t.sorted.length < UInt64.size)
    (hdebt : ∀ member, t.sorted.ids = [member] → (t.trove member).debt.isZero = false) :
    ListReader t.sorted t.standing :=
  (debtReader_standing hsize hposition hlength).listReader hdebt

/-- Three Troves with the ratios 0.03, 0.02 and 0.01. -/
def ladder : TroveList :=
  [(.wrap 1, (Decimal.thousandths 30).raw), (.wrap 2, (Decimal.thousandths 20).raw),
    (.wrap 3, (Decimal.thousandths 10).raw)]

/-- Tables with the three Troves in their list. -/
def ladderTables : Tables := { Tables.bare with sorted := ladder }

theorem ladder_valid : ladder.Valid where
  nodup := by decide
  ne_zero := by decide
  sorted := by decide

theorem ladder_ratio_finite : (Decimal.thousandths 25).isInfinite = false := by
  decide

/-- The second owner moves up and is not its own neighbour. -/
theorem ladder_search :
    ∃ pair,
      (∀ (finder : HintFinder) (seed : Word) (w : Unit),
        ((finder.findWithSeed (.thousandths 25) (some (.wrap 2)) seed).run
          ladderTables.standing w).1 = .ok pair) ∧
      Brackets (Decimal.thousandths 25).raw (ladder.without (some (.wrap 2))) pair := by
  obtain ⟨pair, hrun, hbrackets, -⟩ :=
    findWithSeed_brackets ladder_valid ladder_ratio_finite (some (.wrap 2))
  refine ⟨pair, fun finder seed w => hrun ?_ finder seed w, hbrackets⟩
  exact listReader_standing (t := ladderTables) rfl rfl (by decide) nofun

end HintFinder

end Cdp
