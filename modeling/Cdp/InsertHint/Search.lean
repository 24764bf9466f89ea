import Cdp.Chain.Interface
import Cdp.InsertHint.Trials
import Cdp.Trove.Ratio

/-!
# The search for an insert position

The search samples the list in requests that hand on a random seed, keeps the closest Trove that
any of them found, and lets the contracts walk from there to the exact position. A Trove that is
already in the list is taken out before it is inserted again, so it may not be its own neighbour:
the search then takes the neighbour beyond it. The first read that fails ends the search.
-/

set_option autoImplicit false

namespace Cdp.HintFinder

/-- Reads in a phase of the search. -/
def readIn (phase : SearchPhase) (query : Query) : ChainProcedure query.Answer :=
  Procedure.request (I := Chain) (fun e => .refused (.hintLookup phase e)) (.read query .latest)

/-- Takes one batch of samples: the seed goes on to the next batch, and a closer Trove than all
before becomes the best. -/
def sample (ratio : Decimal) (state : Word × Option ApproxHint) (trials : UInt64) :
    ChainProcedure (Word × Option ApproxHint) := do
  let found ← readIn .sampling (.approxHint ratio.raw trials state.1)
  let best :=
    match state.2 with
    | some best => if found.diff < best.diff then found else best
    | none => found
  return (found.seed, some best)

/-- Samples the list and lets the contracts walk to the position. -/
def refine (finder : HintFinder) (size : UInt64) (ratio : Decimal) (owner : Option Address)
    (seed : Word) : ChainProcedure HintPair := do
  let (_, best) ← (finder.trialBatches (finder.totalTrials size)).foldlM (sample ratio) (seed, none)
  let start := (best.map (·.hint)).getD .zero
  let (prev, next) ← readIn .refining (.insertPosition ratio.raw start start)
  match owner with
  | none => return HintPair.normalized ⟨prev, next⟩
  | some owner => do
    let prev ← if prev = owner then readIn .refining (.prev prev) else pure prev
    let next ← if next = owner then readIn .refining (.next next) else pure next
    return HintPair.normalized ⟨prev, next⟩

/-- Finds the position for a nominal ratio. An infinite ratio belongs at the head, and so does any
ratio beside a single Trove without debt. -/
def findWithSeed (finder : HintFinder) (ratio : Decimal) (owner : Option Address) (seed : Word) :
    ChainProcedure HintPair := do
  let size ← readIn .notStarted .size
  if size = 0 then return .none
  if ratio.isInfinite then
    let first ← readIn .notStarted .first
    return ⟨.zero, first⟩
  if size = 1 then
    let head ← readIn .notStarted .first
    let debt ← readIn .notStarted (.troveDebt head)
    if debt.isZero then return ⟨.zero, head⟩
    finder.refine size ratio owner seed
  else finder.refine size ratio owner seed

/-- Finds the position for a Trove. -/
def findForTrove (finder : HintFinder) (trove : Trove) (owner : Option Address) (seed : Word) :
    ChainProcedure HintPair := do
  let ratio ← trove.nominalRatio
  finder.findWithSeed ratio owner seed

end Cdp.HintFinder
