import Cdp.Proofs.Chain.Requests
import Cdp.Transaction.Prepared

/-!
# What a preparation estimates

Before its estimates a preparation only reads and computes. The calls that a trace estimates
(`estimatedCalls`) are therefore asked by what comes after those steps: where there is an estimate,
each step before it ended with a value (`goes_on`, `goes_on_done`). Two estimates in a row are of
the two calls that a preparation weighs against each other (`withDualGas_estimates`).
-/

set_option autoImplicit false

namespace Cdp

open Procedure

/-- The call of a request for an estimate. -/
def estimatedCall? : Chain.Request → Option ContractCall
  | ChainRequest.estimateGas call => some call
  | _ => none

/-- The calls whose gas was estimated along a trace, in their order. -/
def estimatedCalls (trace : List (Exchange Chain)) : List ContractCall :=
  trace.filterMap fun e => estimatedCall? e.request

theorem estimatedCalls_append (front rest : List (Exchange Chain)) :
    estimatedCalls (front ++ rest) = estimatedCalls front ++ estimatedCalls rest :=
  List.filterMap_append

theorem estimatedCalls_of_reads {tag : BlockTag} {trace : List (Exchange Chain)}
    (h : ∀ e ∈ trace, ReadsAt tag e.request) : estimatedCalls trace = [] := by
  apply List.filterMap_eq_nil_iff.2
  intro e he
  obtain ⟨q, hq⟩ := h e he
  rw [hq]
  rfl

variable {α β : Type} {trace : List (Exchange Chain)} {result : Except (Failure Error) β}
  {first second : ContractCall} {others : List ContractCall}

/-- Where an estimate follows, a part that only reads ended with a value. -/
theorem goes_on {tag : BlockTag} {p : ChainProcedure α} {f : α → ChainProcedure β}
    (hp : Asks (ReadsAt tag) p) (h : (p >>= f).Yields trace result)
    (hcalls : estimatedCalls trace = first :: others) :
    ∃ front rest a, trace = front ++ rest ∧ p.Yields front (.ok a) ∧ (f a).Yields rest result ∧
      estimatedCalls rest = first :: others := by
  rcases yields_bind_iff.1 h with ⟨front, rest, a, rfl, hfront, hrest⟩ | ⟨e, he, -⟩
  · have hnone := estimatedCalls_of_reads (hp.forall_mem hfront)
    rw [estimatedCalls_append, hnone, List.nil_append] at hcalls
    exact ⟨front, rest, a, rfl, hfront, hrest, hcalls⟩
  · rw [estimatedCalls_of_reads (hp.forall_mem he)] at hcalls
    cases hcalls

/-- Where an estimate follows, a part that only computes ended with a value. -/
theorem goes_on_done {x : Except (Failure Error) α} {f : α → ChainProcedure β}
    (h : ((done x : ChainProcedure α) >>= f).Yields trace result)
    (hcalls : estimatedCalls trace = first :: others) :
    ∃ a, x = .ok a ∧ (f a).Yields trace result := by
  cases x with
  | ok a => exact ⟨a, rfl, h⟩
  | error e =>
    obtain ⟨rfl, -⟩ := yields_done_iff.1 h
    cases hcalls

/-- What only reads after a part adds no estimates to those of the part. -/
theorem estimatedCalls_bind {p : ChainProcedure α} {f : α → ChainProcedure β}
    (hf : ∀ a, Asks (ReadsAt .latest) (f a)) (h : (p >>= f).Yields trace result) :
    ∃ front x, p.Yields front x ∧ estimatedCalls front = estimatedCalls trace := by
  rcases yields_bind_iff.1 h with ⟨front, rest, a, rfl, hfront, hrest⟩ | ⟨e, he, -⟩
  · have hnone := estimatedCalls_of_reads ((hf a).forall_mem hrest)
    refine ⟨front, .ok a, hfront, ?_⟩
    rw [estimatedCalls_append, hnone, List.append_nil]
  · exact ⟨trace, .error e, he, rfl⟩

theorem HintFinder.asks_findForTrove {finder : HintFinder} {trove : Trove} {owner : Option Address}
    {seed : Word} : Asks (ReadsAt .latest) (finder.findForTrove trove owner seed) :=
  asks_bind (.done _) fun _ => asks_findWithSeed

namespace Context

variable {context : Context}

/-- One estimate is of the call that is limited. -/
theorem withGas_estimates {call : ContractCall} {pinned : Option UInt64} {padding : UInt64}
    {result : Except (Failure Error) (ContractCall × Option UInt64)}
    (h : (context.withGas call pinned padding).Yields trace result) :
    (estimatedCalls trace).length ≤ 1 := by
  cases pinned with
  | some limit =>
    obtain ⟨rfl, -⟩ := yields_done_iff.1 h
    exact Nat.zero_le 1
  | none =>
    rcases yields_bind_iff.1 h with ⟨front, rest, now, rfl, hfront, hrest⟩ | ⟨e, he, -⟩
    · obtain rfl := yields_request_ok_iff.1 hfront
      obtain ⟨rfl, -⟩ := yields_done_iff.1 hrest
      exact Nat.le_refl 1
    · obtain ⟨x, rfl, -⟩ := yields_request_iff.1 he
      exact Nat.le_refl 1

/-- Two estimates are of the call as it is and of the call that imitates the decay. -/
theorem withDualGas_estimates {call later : ContractCall} {updateGas : UInt64}
    {result : Except (Failure Error) (ContractCall × Option UInt64)}
    (h : (context.withDualGas call later updateGas).Yields trace result)
    (hcalls : estimatedCalls trace = first :: second :: others) :
    first = call ∧ second = later := by
  rcases yields_bind_iff.1 h with ⟨front, rest, now, rfl, hfront, hrest⟩ | ⟨e, he, -⟩
  · obtain rfl := yields_request_ok_iff.1 hfront
    have hlist : call :: estimatedCalls rest = first :: second :: others := hcalls
    obtain ⟨rfl, hnext⟩ := List.cons.inj hlist
    rcases yields_bind_iff.1 hrest with ⟨front', rest', soon, rfl, hfront', -⟩ | ⟨e, he, -⟩
    · obtain rfl := yields_request_ok_iff.1 hfront'
      exact ⟨rfl, (List.cons.inj hnext).1.symm⟩
    · obtain ⟨x, rfl, -⟩ := yields_request_iff.1 he
      exact ⟨rfl, (List.cons.inj hnext).1.symm⟩
  · obtain ⟨x, rfl, -⟩ := yields_request_iff.1 he
    cases hcalls

end Context

end Cdp
