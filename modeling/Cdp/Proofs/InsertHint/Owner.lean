import Cdp.Proofs.InsertHint.Search

/-!
# An owner among its own hints

A Trove leaves the list before it is inserted again, so hints that name its own owner are of no use.
The walk to a position leaves the owner out, but two searches end before they walk: an infinite
ratio and a lone member without debt are both answered with the head of the list, whoever that is.

The main statement `findWithSeed_names_owner_iff` is that there are no other cases: the hints for an
owner who is in the list name the owner exactly where the owner is that head.
-/

set_option autoImplicit false

namespace Cdp

namespace HintFinder

open Procedure TroveList

variable {σ : Type} {handle : (r : Chain.Request) → StateM σ (Except ChainError (Chain.Answer r))}
  {l : TroveList} {debts : Address → Word} {finder : HintFinder} {ratio : Decimal} {seed : Word}
  {owner : Address}

/-- One of the hints is the owner. -/
def Names (pair : HintPair) (owner : Address) : Prop := pair.prev = owner ∨ pair.next = owner

/-- The search ends at the head of the list without a walk: at any head for an infinite ratio, at a
lone head that has no debt for a finite one. -/
def EndsAtHead (l : TroveList) (debts : Address → Word) (ratio : Decimal) : Prop :=
  ratio = .infinity ∨ ∃ member, l.ids = [member] ∧ (debts member).isZero = true

/-- A search that ends at the head answers with it, and the other hint is nobody. -/
theorem succeeds_of_endsAtHead (h : DebtReader l debts handle) (hne : l ≠ [])
    (hend : EndsAtHead l debts ratio) :
    Succeeds (Answers handle) (finder.findWithSeed ratio (some owner) seed)
      fun pair => pair = ⟨.zero, l.headId⟩ := by
  refine succeeds_bind (succeeds_readIn h.size) ?_
  intro size hsize
  have hfirst : ∀ w, ∃ a, (handle (.read .first .latest) w).1 = .ok a ∧ a = l.headId := by
    intro w
    exact ⟨_, h.first w, rfl⟩
  have hzero : size ≠ 0 := by
    rintro rfl
    exact hne (List.length_eq_zero_iff.1 hsize.symm)
  rw [if_neg hzero]
  cases hinf : ratio.isInfinite with
  | true =>
    rw [if_pos rfl]
    refine succeeds_bind (succeeds_readIn hfirst) ?_
    rintro _ rfl
    exact succeeds_pure rfl
  | false =>
    rw [if_neg Bool.false_ne_true]
    -- the ratio is finite, so the head is alone and has no debt
    rcases hend with rfl | ⟨member, hlone, hdebt⟩
    · cases hinf
    · have hsingle : size = 1 := by
        apply UInt64.toNat_inj.1
        rw [hsize, ← List.length_map Prod.fst]
        exact congrArg List.length hlone
      have hhead : l.headId = member := by
        simp [headId, head?, hlone]
      rw [if_pos hsingle]
      refine succeeds_bind (succeeds_readIn hfirst) ?_
      rintro _ rfl
      refine succeeds_bind (Q := fun debt => debt.isZero = true) (succeeds_readIn ?_) ?_
      · intro w
        exact ⟨_, h.debt _ w, by rw [hhead]; exact hdebt⟩
      · intro debt hzeroDebt
        rw [if_pos hzeroDebt]
        exact succeeds_pure rfl

/-- A search that walks ends with hints of the list without the owner. -/
theorem succeeds_of_not_endsAtHead (hl : l.Valid) (h : DebtReader l debts handle)
    (hend : ¬EndsAtHead l debts ratio) :
    Succeeds (Answers handle) (finder.findWithSeed ratio (some owner) seed)
      fun pair => Brackets ratio.raw (l.without (some owner)) pair := by
  rw [EndsAtHead, not_or, not_exists] at hend
  have hratio : ratio.isInfinite = false := by
    rw [Bool.eq_false_iff]
    intro hinf
    exact hend.1 (Decimal.isInfinite_iff.1 hinf)
  have hreader : ListReader l handle := by
    apply h.listReader
    intro member hlone
    rw [Bool.eq_false_iff]
    intro hdebt
    exact hend.2 member ⟨hlone, hdebt⟩
  obtain ⟨front, back, rfl, hcut⟩ := exists_cut hl.sorted ratio.raw
  intro trace result hyields hallowed
  obtain ⟨pair, rfl, rfl⟩ :=
    succeeds_findWithSeed hl hcut hreader hratio trace result hyields hallowed
  refine ⟨_, rfl, ?_⟩
  have hvalid := hl.without (some owner)
  rw [without_append] at hvalid ⊢
  exact (hcut.without (some owner)).brackets hvalid.ne_zero

/-- Hints of the list without the owner do not name the owner. -/
theorem not_names_of_brackets {pair : HintPair} (howner : owner ≠ .zero)
    (h : Brackets ratio.raw (l.without (some owner)) pair) : ¬Names pair owner := by
  have hother : ∀ id, id ∈ (l.without (some owner)).ids ∨ id = .zero → id ≠ owner := by
    rintro _ (hmem | rfl) rfl
    · exact not_mem_ids_without l _ hmem
    · exact howner rfl
  obtain ⟨hprev, hnext⟩ := h.mem_or_zero
  rintro (hp | hn)
  · exact hother _ hprev hp
  · exact hother _ hnext hn

/-- Whatever the list, the ratio and the samples, a search for an owner who is in the list ends with
hints, and they name the owner exactly where the owner is the head of the list and the search ends
there: for an infinite ratio, or because the owner is alone in the list and has no debt. -/
theorem findWithSeed_names_owner_iff (hl : l.Valid) (howner : owner ∈ l.ids)
    (h : DebtReader l debts handle) (finder : HintFinder) (ratio : Decimal) (seed : Word) (w : σ) :
    ∃ pair, ((finder.findWithSeed ratio (some owner) seed).run handle w).1 = .ok pair ∧
      (Names pair owner ↔ l.headId = owner ∧ EndsAtHead l debts ratio) := by
  have hzero : owner ≠ .zero := hl.ne_zero owner howner
  by_cases hend : EndsAtHead l debts ratio
  · have hne : l ≠ [] := by
      rintro rfl
      cases howner
    obtain ⟨pair, hrun, rfl⟩ := (succeeds_of_endsAtHead h hne hend).run w
    refine ⟨_, hrun, ?_⟩
    constructor
    · rintro (hprev | hnext)
      · exact absurd hprev.symm hzero
      · exact ⟨hnext, hend⟩
    · rintro ⟨hhead, -⟩
      exact Or.inr hhead
  · obtain ⟨pair, hrun, hbrackets⟩ := (succeeds_of_not_endsAtHead hl h hend).run w
    refine ⟨pair, hrun, ?_⟩
    constructor
    · intro hnames
      exact absurd hnames (not_names_of_brackets hzero hbrackets)
    · rintro ⟨-, hhead⟩
      exact absurd hhead hend

/-- In a list of three the head gets itself as a hint for an infinite ratio, and its two successors
for a ratio between theirs. -/
theorem ladderHead_named :
    (∀ (finder : HintFinder) (seed : Word) (w : Unit), ∃ pair,
      ((finder.findWithSeed .infinity (some (.wrap 1)) seed).run ladderTables.standing w).1 =
        .ok pair ∧ Names pair (.wrap 1)) ∧
    ∀ (finder : HintFinder) (seed : Word) (w : Unit), ∃ pair,
      ((finder.findWithSeed (.thousandths 15) (some (.wrap 1)) seed).run
        ladderTables.standing w).1 = .ok pair ∧ ¬Names pair (.wrap 1) := by
  have hreader := debtReader_standing (t := ladderTables) rfl rfl (by decide)
  have hmem : Address.wrap 1 ∈ ladder.ids := by decide
  constructor
  · intro finder seed w
    obtain ⟨pair, hrun, hnames⟩ :=
      findWithSeed_names_owner_iff ladder_valid hmem hreader finder .infinity seed w
    exact ⟨pair, hrun, hnames.2 ⟨rfl, Or.inl rfl⟩⟩
  · intro finder seed w
    obtain ⟨pair, hrun, hnames⟩ :=
      findWithSeed_names_owner_iff ladder_valid hmem hreader finder (.thousandths 15) seed w
    refine ⟨pair, hrun, ?_⟩
    rw [hnames]
    rintro ⟨-, hinf | ⟨member, hlone, -⟩⟩
    · exact absurd hinf (by decide)
    · have hthree : ladder.ids.length = 1 := by
        rw [hlone]
        rfl
      exact absurd hthree (by decide)

/-- It is not true that no search for an owner in the list names the owner: the head of a list does
not move for an infinite ratio. -/
theorem infiniteRatio_names_head :
    ¬∀ {σ : Type} {handle : (r : Chain.Request) → StateM σ (Except ChainError (Chain.Answer r))}
      {l : TroveList} {debts : Address → Word} {owner : Address}, l.Valid → owner ∈ l.ids →
      DebtReader l debts handle → ∀ (finder : HintFinder) (ratio : Decimal) (seed : Word) (w : σ)
        (pair : HintPair),
        ((finder.findWithSeed ratio (some owner) seed).run handle w).1 = .ok pair →
        ¬Names pair owner := by
  intro hnever
  have hreader := debtReader_standing (t := ladderTables) rfl rfl (by decide)
  have hends : Succeeds (Answers ladderTables.standing)
      ((ofPolicy .standard).findWithSeed .infinity (some (.wrap 1)) .zero)
      fun pair => pair = ⟨.zero, ladder.headId⟩ :=
    succeeds_of_endsAtHead hreader nofun (Or.inl rfl)
  obtain ⟨pair, hrun, rfl⟩ := hends.run ()
  have hmem : Address.wrap 1 ∈ ladderTables.sorted.ids := by decide
  exact hnever ladder_valid hmem hreader _ _ _ _ _ hrun (Or.inr rfl)

end HintFinder

end Cdp
