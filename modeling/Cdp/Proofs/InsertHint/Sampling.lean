import Cdp.Proofs.InsertHint.Phases

/-!
# What a search samples and keeps

A search that starts to sample asks for the batches of its effort one after another, the first with
the seed that it was given and each further one with the seed of the answer before (`Sampled`). Of
all answers it keeps the first that no other comes closer than (`Closest`), and it lets the
contracts walk from there. The reads before it samples, the samples and the reads after them follow
each other in this order (`SampledSearch`).

The first read that fails is the last that is asked, and the search ends with its phase and its
cause (`findWithSeed_samples_or_aborts`).
-/

set_option autoImplicit false

namespace Cdp.HintFinder

open Procedure

variable {α : Type} {finder : HintFinder} {ratio : Decimal} {owner : Option Address} {seed : Word}
  {size : UInt64} {trace : List (Exchange Chain)}

/-! ## Effort -/

theorem ceilSqrt_pos {x : Nat} (h : 0 < x) : 0 < ceilSqrt x := by
  rw [ceilSqrt]
  split
  · exact h
  · dsimp only
    split
    · exact Nat.succ_pos _
    · rename_i hroot
      apply Nat.pos_of_ne_zero
      intro hzero
      rw [hzero] at hroot
      omega

/-- A list that is not empty is sampled at least once. -/
theorem totalTrials_pos (finder : HintFinder) (h : size ≠ 0) :
    0 < (finder.totalTrials size).toNat := by
  have hfactor := finder.trialsFactor_pos
  have hsize : 0 < size.toNat := Nat.pos_of_ne_zero fun hzero => h (UInt64.toNat_inj.1 hzero)
  have hlimit : 0 < productLimit := by decide
  have hsquare : 0 < min (finder.trialsFactor.toNat * finder.trialsFactor.toNat) productLimit :=
    Nat.lt_min.2 ⟨Nat.mul_pos hfactor hfactor, hlimit⟩
  have hproduct := Nat.lt_min.2 ⟨Nat.mul_pos hsquare hsize, hlimit⟩
  rw [totalTrials, Counter.toNat_clamp]
  exact Nat.lt_min.2 ⟨ceilSqrt_pos hproduct, by decide⟩

theorem trialBatches_ne_nil (finder : HintFinder) {total : UInt64} (h : 0 < total.toNat) :
    finder.trialBatches total ≠ [] := by
  have hne : total ≠ 0 := by
    rintro rfl
    exact Nat.lt_irrefl 0 h
  rw [trialBatches_eq_cons finder hne]
  exact List.cons_ne_nil _ _

/-! ## Samples -/

/-- The exchanges of a chain of samples, the hints in their answers, and the failure that ends it
early if there is one: one request for each batch, and the seed of an answer is that of the next
request. -/
inductive Sampled (ratio : Word) : (seed : Word) → (batches : List UInt64) →
    (trace : List (Exchange Chain)) → (hints : List ApproxHint) → (failure : Option ChainError) →
    Prop
  | finished (seed : Word) : Sampled ratio seed [] [] [] none
  | failed (seed : Word) (trials : UInt64) (rest : List UInt64) (e : ChainError) :
    Sampled ratio seed (trials :: rest) [⟨latest (.approxHint ratio trials seed), .error e⟩] []
      (some e)
  | answered {seed : Word} {trials : UInt64} {rest : List UInt64} {found : ApproxHint}
    {trace : List (Exchange Chain)} {hints : List ApproxHint} {failure : Option ChainError}
    (further : Sampled ratio found.seed rest trace hints failure) :
    Sampled ratio seed (trials :: rest)
      (⟨latest (.approxHint ratio trials seed), .ok found⟩ :: trace) (found :: hints) failure

/-- Without a failure every batch has its answer. -/
theorem Sampled.length_hints {raw : Word} {batches : List UInt64} {hints : List ApproxHint}
    (h : Sampled raw seed batches trace hints none) : hints.length = batches.length := by
  generalize hnone : (none : Option ChainError) = failure at h
  induction h with
  | finished => rfl
  | failed => cases hnone
  | answered _ ih => rw [List.length_cons, List.length_cons, ih hnone]

/-- A hint among others that none of them is closer than, and that is closer than all before it. -/
def Closest (hints : List ApproxHint) (best : ApproxHint) : Prop :=
  ∃ before after, hints = before ++ best :: after ∧ (∀ h ∈ before, best.diff < h.diff) ∧
    ∀ h ∈ after, best.diff ≤ h.diff

/-- What is kept of the best hint so far and a new one. -/
def closer (best : Option ApproxHint) (found : ApproxHint) : ApproxHint :=
  match best with
  | some best => if found.diff < best.diff then found else best
  | none => found

/-- One more hint is kept if it is closer than all before. -/
theorem Closest.concat {hints : List ApproxHint} {best : ApproxHint} (h : Closest hints best)
    (found : ApproxHint) : Closest (hints ++ [found]) (closer (some best) found) := by
  obtain ⟨before, after, rfl, hbefore, hafter⟩ := h
  rw [closer]
  split
  · rename_i hlt
    refine ⟨before ++ best :: after, [], rfl, ?_, nofun⟩
    intro other hother
    rw [List.mem_append, List.mem_cons] at hother
    rw [Word.lt_def] at hlt ⊢
    rcases hother with hmem | rfl | hmem
    · exact Nat.lt_trans hlt (hbefore other hmem)
    · exact hlt
    · exact Nat.lt_of_lt_of_le hlt (hafter other hmem)
  · rename_i hge
    refine ⟨before, after ++ [found], by simp, hbefore, ?_⟩
    intro other hother
    rcases List.mem_append.1 hother with hmem | hmem
    · exact hafter other hmem
    · rw [List.mem_singleton.1 hmem]
      exact Nat.le_of_not_lt hge

theorem closest_foldl {done hints : List ApproxHint} {best : ApproxHint} (h : Closest done best) :
    ∃ last, hints.foldl (fun best found => some (closer best found)) (some best) = some last ∧
      Closest (done ++ hints) last := by
  induction hints generalizing done best with
  | nil => exact ⟨best, rfl, by rwa [List.append_nil]⟩
  | cons found rest ih =>
    obtain ⟨last, hlast, hclosest⟩ := ih (h.concat found)
    refine ⟨last, hlast, ?_⟩
    rwa [List.append_assoc] at hclosest

/-- Of all hints the closest is kept, and of equally close ones the first. -/
theorem closest_of_ne_nil {hints : List ApproxHint} (h : hints ≠ []) :
    ∃ best, hints.foldl (fun best found => some (closer best found)) none = some best ∧
      Closest hints best := by
  obtain ⟨first, rest, rfl⟩ := List.exists_cons_of_ne_nil h
  have hfirst : Closest [first] first := ⟨[], [], rfl, nofun, nofun⟩
  exact closest_foldl hfirst

/-! ## The course of a search -/

/-- A read and what goes on from its answer. -/
theorem readIn_bind_yields {phase : SearchPhase} {query : Query}
    {f : query.Answer → ChainProcedure α}
    {result : Attempt Error α} (h : (readIn phase query >>= f).Yields trace result) :
    (∃ answer rest, trace = ⟨latest query, .ok answer⟩ :: rest ∧ (f answer).Yields rest result) ∨
      ∃ e, trace = [⟨latest query, .error e⟩] ∧
        result = .error (.refused (.hintLookup phase e)) := by
  obtain ⟨x, rest, rfl, hrest⟩ := yields_ask_iff.1 h
  cases x with
  | ok answer => exact Or.inl ⟨answer, rest, rfl, hrest⟩
  | error e =>
    obtain ⟨rfl, rfl⟩ := yields_done_iff.1 hrest
    exact Or.inr ⟨e, rfl, rfl⟩

/-- The batches are sampled in their order, and the hint that is kept is handed on. -/
theorem foldlM_sample_yields {batches : List UInt64} {best : Option ApproxHint}
    {result : Attempt Error (Word × Option ApproxHint)}
    (h : (batches.foldlM (sample ratio) (seed, best)).Yields trace result) :
    ∃ hints failure, Sampled ratio.raw seed batches trace hints failure ∧
      match failure with
      | none => ∃ last,
        result = .ok (last, hints.foldl (fun best found => some (closer best found)) best)
      | some e => result = .error (.refused (.hintLookup .sampling e)) := by
  induction batches generalizing seed best trace with
  | nil =>
    obtain ⟨rfl, rfl⟩ := yields_done_iff.1 h
    exact ⟨[], none, .finished seed, seed, rfl⟩
  | cons trials rest ih =>
    rw [List.foldlM_cons, sample, LawfulMonad.bind_assoc] at h
    rcases readIn_bind_yields h with ⟨found, tail, rfl, htail⟩ | ⟨e, rfl, rfl⟩
    · obtain ⟨hints, failure, hsampled, hresult⟩ := ih htail
      exact ⟨found :: hints, failure, .answered hsampled, hresult⟩
    · exact ⟨[], some e, .failed seed trials rest e, rfl⟩

/-- A read that belongs to a phase. -/
def InPhase (phase : SearchPhase) (r : Chain.Request) : Prop :=
  ∃ query, r = latest query ∧ phaseOf query = phase

/-- A search that takes a sample has started. -/
theorem sample_started {raw : Word} {trials : UInt64} :
    ¬InPhase .notStarted (latest (.approxHint raw trials seed)) := by
  rintro ⟨query, hquery, hphase⟩
  cases hquery
  cases hphase

/-- A read of the Trove beside another. -/
def AsksNeighbour (r : Chain.Request) : Prop := ∃ id, r = latest (.prev id) ∨ r = latest (.next id)

/-- The reads of a search that samples a list of the given size: those before it starts to, the
samples with the hints that they found, and those after, which begin with the walk from the closest
hint. A sample that fails is the last read. -/
structure SampledSearch (finder : HintFinder) (ratio : Decimal) (seed : Word) (size : UInt64)
    (opening samples closing : List (Exchange Chain)) (hints : List ApproxHint)
    (failure : Option ChainError) : Prop where
  size_read : opening.head? = some ⟨latest .size, .ok size⟩
  not_started : ∀ x ∈ opening, InPhase .notStarted x.request
  sampled : Sampled ratio.raw seed (finder.trialBatches (finder.totalTrials size)) samples hints
    failure
  stopped : failure ≠ none → closing = []
  walked : failure = none → ∃ best place rest, Closest hints best ∧
    closing = ⟨latest (.insertPosition ratio.raw best.hint best.hint), place⟩ :: rest ∧
      ∀ x ∈ rest, AsksNeighbour x.request

/-- Samples come first, and the walk from the closest of them follows unless one of them failed. -/
theorem refine_yields {result : Attempt Error HintPair} (hsize : size ≠ 0)
    (h : (finder.refine size ratio owner seed).Yields trace result) :
    ∃ samples closing hints failure, trace = samples ++ closing ∧
      Sampled ratio.raw seed (finder.trialBatches (finder.totalTrials size)) samples hints failure ∧
      (failure ≠ none → closing = []) ∧
      (failure = none → ∃ best place rest, Closest hints best ∧
        closing = ⟨latest (.insertPosition ratio.raw best.hint best.hint), place⟩ :: rest ∧
          ∀ x ∈ rest, AsksNeighbour x.request) := by
  rcases yields_bind_iff.1 h with
    ⟨samples, closing, ⟨last, kept⟩, rfl, hsamples, hclosing⟩ | ⟨e, he, -⟩
  · obtain ⟨hints, failure, hsampled, hresult⟩ := foldlM_sample_yields hsamples
    cases failure with
    | some e => cases hresult
    | none =>
      obtain ⟨last, hlast⟩ := hresult
      cases hlast
      have hne : hints ≠ [] := by
        rw [← List.length_pos_iff, hsampled.length_hints, List.length_pos_iff]
        exact trialBatches_ne_nil finder (totalTrials_pos finder hsize)
      obtain ⟨best, hbest, hclosest⟩ := closest_of_ne_nil hne
      rw [hbest] at hclosing
      refine ⟨samples, closing, hints, none, rfl, hsampled, fun h => absurd rfl h, fun _ => ?_⟩
      rcases readIn_bind_yields hclosing with ⟨place, rest, rfl, hrest⟩ | ⟨e, rfl, -⟩
      · refine ⟨best, .ok place, rest, hclosest, rfl, Asks.forall_mem ?_ hrest⟩
        cases owner with
        | none => exact .done _
        | some owner =>
          refine asks_branch (asks_request ⟨_, Or.inl rfl⟩) (.done _) fun prev => ?_
          exact asks_branch (asks_request ⟨_, Or.inr rfl⟩) (.done _) fun next => .done _
      · exact ⟨best, .error e, [], hclosest, rfl, List.forall_mem_nil _⟩
  · obtain ⟨hints, failure, hsampled, hresult⟩ := foldlM_sample_yields he
    cases failure with
    | none =>
      obtain ⟨last, hlast⟩ := hresult
      cases hlast
    | some e =>
      exact ⟨trace, [], hints, some e, (List.append_nil _).symm, hsampled, fun _ => rfl,
        fun hnone => nomatch hnone⟩

/-- A search ends before it samples, or it samples behind reads of which the first tells the
size. -/
theorem findWithSeed_yields {result : Attempt Error HintPair}
    (h : (finder.findWithSeed ratio owner seed).Yields trace result) :
    (∀ x ∈ trace, InPhase .notStarted x.request) ∨
      ∃ (size : UInt64) (opening rest : List (Exchange Chain)), trace = opening ++ rest ∧ size ≠ 0 ∧
        opening.head? = some ⟨latest .size, .ok size⟩ ∧
        (∀ x ∈ opening, InPhase .notStarted x.request) ∧
        (finder.refine size ratio owner seed).Yields rest result := by
  have hsizeRead : InPhase .notStarted (latest .size) := ⟨_, rfl, rfl⟩
  have hfirstRead : InPhase .notStarted (latest .first) := ⟨_, rfl, rfl⟩
  rcases readIn_bind_yields h with ⟨size, rest, rfl, hrest⟩ | ⟨e, rfl, -⟩
  case inr => exact Or.inl (List.forall_mem_singleton.2 hsizeRead)
  split at hrest
  · obtain ⟨rfl, -⟩ := yields_done_iff.1 hrest
    exact Or.inl (List.forall_mem_singleton.2 hsizeRead)
  rename_i hsize
  split at hrest
  · -- an infinite ratio goes to the head
    rcases readIn_bind_yields hrest with ⟨first, tail, rfl, htail⟩ | ⟨e, rfl, -⟩
    · obtain ⟨rfl, -⟩ := yields_done_iff.1 htail
      exact Or.inl (List.forall_mem_cons.2 ⟨hsizeRead, List.forall_mem_singleton.2 hfirstRead⟩)
    · exact Or.inl (List.forall_mem_cons.2 ⟨hsizeRead, List.forall_mem_singleton.2 hfirstRead⟩)
  split at hrest
  · -- so does any ratio beside a lone head without debt
    rcases readIn_bind_yields hrest with ⟨head, tail, rfl, htail⟩ | ⟨e, rfl, -⟩
    · have hdebtRead : InPhase .notStarted (latest (.troveDebt head)) := ⟨_, rfl, rfl⟩
      rcases readIn_bind_yields htail with ⟨debt, last, rfl, hlast⟩ | ⟨e, rfl, -⟩
      · have hopening : ∀ x ∈ [⟨latest .size, .ok size⟩, ⟨latest .first, .ok head⟩,
            (⟨latest (.troveDebt head), .ok debt⟩ : Exchange Chain)],
            InPhase .notStarted x.request := by
          simp [hsizeRead, hfirstRead, hdebtRead]
        split at hlast
        · obtain ⟨rfl, -⟩ := yields_done_iff.1 hlast
          exact Or.inl hopening
        · exact Or.inr ⟨size, _, last, rfl, hsize, rfl, hopening, hlast⟩
      · exact Or.inl (by simp [hsizeRead, hfirstRead, hdebtRead])
    · exact Or.inl (List.forall_mem_cons.2 ⟨hsizeRead, List.forall_mem_singleton.2 hfirstRead⟩)
  · exact Or.inr ⟨size, [_], rest, rfl, hsize, rfl, List.forall_mem_singleton.2 hsizeRead, hrest⟩

/-- For every finder, ratio, owner, seed and reader: a read that fails is the last read of a search,
which then ends with the phase of the read and its failure, and otherwise a search ends with a pair.
If it samples or refines, then it takes one sample for each batch of the effort for the size that
it was told, in order and with the seed handed on, and the contracts walk from the first of the
closest hints. -/
theorem findWithSeed_samples_or_aborts {result : Attempt Error HintPair}
    (h : (finder.findWithSeed ratio owner seed).Yields trace result) :
    (∀ front request e rest, trace = front ++ ⟨request, .error e⟩ :: rest →
      rest = [] ∧ ∃ query, request = latest query ∧
        result = .error (.refused (.hintLookup (phaseOf query) e))) ∧
    ((∀ x ∈ trace, ∃ answer, x.answer = .ok answer) → ∃ pair, result = .ok pair) ∧
    ((∃ x ∈ trace, ¬InPhase .notStarted x.request) →
      ∃ size opening samples closing hints failure, trace = opening ++ samples ++ closing ∧
        SampledSearch finder ratio seed size opening samples closing hints failure) := by
  refine ⟨?_, ?_, ?_⟩
  · intro front request e rest hcut
    exact phased_findWithSeed.aborts h hcut
  · intro hall
    exact phased_findWithSeed.succeeds h hall
  · rintro ⟨x, hx, hstarted⟩
    rcases findWithSeed_yields h with
      hnone | ⟨size, opening, rest, rfl, hsize, hhead, hopening, hrest⟩
    · exact absurd (hnone x hx) hstarted
    · obtain ⟨samples, closing, hints, failure, rfl, hsampled, hstopped, hwalked⟩ :=
        refine_yields hsize hrest
      refine ⟨size, opening, samples, closing, hints, failure, (List.append_assoc _ _ _).symm, ?_⟩
      exact ⟨hhead, hopening, hsampled, hstopped, hwalked⟩

/-- A finder that takes one sample at a time. -/
def oneByOne : HintFinder := make 1 1

theorem trialBatches_oneByOne : oneByOne.trialBatches (oneByOne.totalTrials 4) = [1, 1] := by
  have hroot : ceilSqrt 4 = 2 := by simp [ceilSqrt, newtonRoot]
  have htotal : oneByOne.totalTrials 4 = 2 := by
    show Counter.clamp (ceilSqrt 4) = 2
    rw [hroot]
    rfl
  rw [htotal, trialBatches_eq_cons _ (by decide), trialBatches_eq_cons _ (by decide)]
  exact congrArg (fun rest => 1 :: 1 :: rest) oneByOne.trialBatches_zero

/-- Hints of the same distance, told apart by the Trove and the seed. -/
def alikeHint (n : Nat) : ApproxHint := ⟨.wrap n, .wrap 5, .wrap n⟩

/-- A list of four is sampled twice, with two hints that are equally close. -/
def tiedTrace : List (Exchange Chain) :=
  [⟨latest .size, .ok (4 : UInt64)⟩,
    ⟨latest (.approxHint Decimal.one.raw 1 .zero), .ok (alikeHint 1)⟩,
    ⟨latest (.approxHint Decimal.one.raw 1 (.wrap 1)), .ok (alikeHint 2)⟩,
    ⟨latest (.insertPosition Decimal.one.raw (.wrap 1) (.wrap 1)),
      .ok (Address.wrap 1, Address.wrap 2)⟩]

/-- The same up to the second sample, which fails. -/
def brokenTrace : List (Exchange Chain) :=
  [⟨latest .size, .ok (4 : UInt64)⟩,
    ⟨latest (.approxHint Decimal.one.raw 1 .zero), .ok (alikeHint 1)⟩,
    ⟨latest (.approxHint Decimal.one.raw 1 (.wrap 1)), .error (.transport "closed")⟩]

theorem tiedTrace_yields :
    (oneByOne.findWithSeed .one none .zero).Yields tiedTrace (.ok ⟨.wrap 1, .wrap 2⟩) := by
  refine .ask ?_
  show (oneByOne.refine 4 .one none .zero).Yields _ _
  rw [refine, trialBatches_oneByOne]
  exact .ask (.ask (.ask (.done _)))

theorem brokenTrace_yields :
    (oneByOne.findWithSeed .one none .zero).Yields brokenTrace
      (.error (.refused (.hintLookup .sampling (.transport "closed")))) := by
  refine .ask ?_
  show (oneByOne.refine 4 .one none .zero).Yields _ _
  rw [refine, trialBatches_oneByOne]
  exact .ask (.ask (.done _))

/-- Both searches sample, and the one that is not answered to the end ends with its last read. -/
theorem tied_and_broken_sample :
    ((oneByOne.findWithSeed .one none .zero).Yields tiedTrace (.ok ⟨.wrap 1, .wrap 2⟩) ∧
      ∃ size opening samples closing hints failure, tiedTrace = opening ++ samples ++ closing ∧
        SampledSearch oneByOne .one .zero size opening samples closing hints failure) ∧
    (oneByOne.findWithSeed .one none .zero).Yields brokenTrace
        (.error (.refused (.hintLookup .sampling (.transport "closed")))) ∧
      (∃ size opening samples closing hints failure, brokenTrace = opening ++ samples ++ closing ∧
        SampledSearch oneByOne .one .zero size opening samples closing hints failure) ∧
      ∃ query, latest (.approxHint Decimal.one.raw 1 (.wrap 1)) = latest query ∧
        (.error (.refused (.hintLookup .sampling (.transport "closed"))) : Attempt Error HintPair) =
          .error (.refused (.hintLookup (phaseOf query) (.transport "closed"))) := by
  obtain ⟨-, -, htied⟩ := findWithSeed_samples_or_aborts tiedTrace_yields
  obtain ⟨haborts, -, hbroken⟩ := findWithSeed_samples_or_aborts brokenTrace_yields
  refine ⟨⟨tiedTrace_yields, htied ?_⟩, brokenTrace_yields, hbroken ?_,
    (haborts [_, _] _ _ [] rfl).2⟩
  · exact ⟨_, List.mem_cons_of_mem _ List.mem_cons_self, sample_started⟩
  · exact ⟨_, List.mem_cons_of_mem _ List.mem_cons_self, sample_started⟩

end Cdp.HintFinder
