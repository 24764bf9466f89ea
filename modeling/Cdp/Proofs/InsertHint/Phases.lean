import Cdp.InsertHint.Search
import Cdp.Proofs.Procedure.Trace

/-!
# The reads of a search

A search for an insert position is made of reads at the latest block and of nothing else, and a read
that fails ends the search at once, under the phase that the read belongs to. `Phased` says this of
a procedure, step by step, and every part of the search is of this kind (`phased_findWithSeed`).
What follows holds of all such procedures: the first failure is the last thing asked and the result
tells its phase and its cause (`Phased.aborts`), and without a failure there is a value
(`Phased.succeeds`).
-/

set_option autoImplicit false

namespace Cdp.HintFinder

open Procedure

variable {α β : Type}

/-- The phase that a read belongs to: samples are taken while sampling, the place and the neighbours
are asked for while refining, and all else comes before the search has started. -/
def phaseOf : Query → SearchPhase
  | .approxHint _ _ _ => .sampling
  | .insertPosition _ _ _ | .prev _ | .next _ => .refining
  | _ => .notStarted

/-- What a failed read ends the search with. -/
def abort (query : Query) (e : ChainError) : Failure Error :=
  .refused (.hintLookup (phaseOf query) e)

/-- The request for a read at the latest block. -/
abbrev latest (query : Query) : Chain.Request := ChainRequest.read query .latest

/-- Made of reads at the latest block, each of which ends the whole if it fails. -/
inductive Phased : ChainProcedure α → Prop where
  | done (a : α) : Phased (.done (.ok a))
  | read (query : Query) {next : Except ChainError (Chain.Answer (latest query)) → ChainProcedure α}
    (goes_on : ∀ answer, Phased (next (.ok answer)))
    (aborts : ∀ e, next (.error e) = .done (.error (abort query e))) :
    Phased (.ask (latest query) next)

/-! ## The search is phased -/

theorem phased_readIn {phase : SearchPhase} {query : Query} (h : phaseOf query = phase) :
    Phased (readIn phase query) := by
  subst h
  exact .read query (fun answer => .done answer) fun _ => rfl

theorem phased_bind {p : ChainProcedure α} {f : α → ChainProcedure β} (hp : Phased p)
    (hf : ∀ a, Phased (f a)) : Phased (p >>= f) := by
  induction hp with
  | done a => exact hf a
  | read query _ aborts ih =>
    refine .read query ih fun e => ?_
    show Procedure.bind _ f = _
    rw [aborts]
    rfl

theorem phased_foldlM {f : β → α → ChainProcedure β} (h : ∀ b a, Phased (f b a)) (as : List α)
    (b : β) : Phased (as.foldlM f b) := by
  induction as generalizing b with
  | nil => exact .done b
  | cons a rest ih =>
    rw [List.foldlM_cons]
    exact phased_bind (h b a) ih

/-- A neighbour that may be read again before the search goes on with it. -/
theorem phased_reread {c : Prop} [Decidable c] {p : ChainProcedure α} {a : α}
    {f : α → ChainProcedure β} (hp : Phased p) (hf : ∀ x, Phased (f x)) :
    Phased (if c then p >>= f else pure a >>= f) := by
  split
  · exact phased_bind hp hf
  · exact phased_bind (.done a) hf

variable {finder : HintFinder} {ratio : Decimal} {owner : Option Address} {seed : Word}

theorem phased_sample (state : Word × Option ApproxHint) (trials : UInt64) :
    Phased (sample ratio state trials) :=
  phased_bind (phased_readIn rfl) fun _ => .done _

theorem phased_refine (size : UInt64) : Phased (finder.refine size ratio owner seed) := by
  refine phased_bind (phased_foldlM phased_sample _ _) fun best => ?_
  refine phased_bind (phased_readIn rfl) fun place => ?_
  cases owner with
  | none => exact .done _
  | some owner =>
    refine phased_reread (phased_readIn rfl) fun prev => ?_
    exact phased_reread (phased_readIn rfl) fun next => .done _

theorem phased_findWithSeed : Phased (finder.findWithSeed ratio owner seed) := by
  refine phased_bind (phased_readIn rfl) fun size => ?_
  split
  · exact .done _
  · split
    · exact phased_bind (phased_readIn rfl) fun first => .done _
    · split
      · refine phased_bind (phased_readIn rfl) fun head => ?_
        refine phased_bind (phased_readIn rfl) fun debt => ?_
        split
        · exact .done _
        · exact phased_refine size
      · exact phased_refine size

/-! ## What a phased procedure does -/

variable {p : ChainProcedure α} {trace : List (Exchange Chain)} {result : Attempt Error α}

theorem Phased.asks (hp : Phased p) : Asks (fun r => ∃ query, r = latest query) p := by
  induction hp with
  | done a => exact .done _
  | read query _ aborts ih =>
    refine .ask ⟨query, rfl⟩ fun x => ?_
    cases x with
    | ok answer => exact ih answer
    | error e =>
      rw [aborts]
      exact .done _

theorem Phased.unbroken (hp : Phased p) : Unbroken p := by
  induction hp with
  | done a => exact unbroken_done nofun
  | read query _ aborts ih =>
    intro trace fault h
    obtain ⟨x, rest, rfl, hnext⟩ := yields_ask_iff.1 h
    cases x with
    | ok answer => exact ih answer rest fault hnext
    | error e =>
      rw [aborts] at hnext
      cases (yields_done_iff.1 hnext).2

/-- A failed read is the last one, and what the procedure ends with. -/
theorem Phased.aborts (hp : Phased p) (h : p.Yields trace result)
    {front rest : List (Exchange Chain)} {request : Chain.Request} {e : ChainError}
    (hcut : trace = front ++ ⟨request, .error e⟩ :: rest) :
    rest = [] ∧ ∃ query, request = latest query ∧ result = .error (abort query e) := by
  induction hp generalizing trace front with
  | done a =>
    obtain ⟨rfl, -⟩ := yields_done_iff.1 h
    exact absurd hcut (List.append_ne_nil_of_right_ne_nil _ (List.cons_ne_nil _ _)).symm
  | read query _ aborts ih =>
    obtain ⟨x, tail, rfl, hnext⟩ := yields_ask_iff.1 h
    cases x with
    | error d =>
      -- this read failed, so nothing comes after it
      rw [aborts] at hnext
      obtain ⟨rfl, rfl⟩ := yields_done_iff.1 hnext
      obtain ⟨rfl, hone⟩ := List.append_eq_singleton_iff.1 hcut.symm |>.resolve_right (by simp)
      cases hone
      exact ⟨rfl, query, rfl, rfl⟩
    | ok answer =>
      cases front with
      | nil => cases hcut
      | cons first front =>
        rw [List.cons_append, List.cons.injEq] at hcut
        exact ih answer hnext hcut.2

/-- Without a failed read there is a value. -/
theorem Phased.succeeds (hp : Phased p) (h : p.Yields trace result)
    (hall : ∀ x ∈ trace, ∃ answer, x.answer = .ok answer) : ∃ a, result = .ok a := by
  induction hp generalizing trace with
  | done a => exact ⟨a, (yields_done_iff.1 h).2.symm⟩
  | read query _ _ ih =>
    obtain ⟨x, tail, rfl, hnext⟩ := yields_ask_iff.1 h
    obtain ⟨⟨_, hanswer⟩, htail⟩ := List.forall_mem_cons.1 hall
    cases x with
    | error e => cases hanswer
    | ok answer => exact ih answer hnext htail

end Cdp.HintFinder
