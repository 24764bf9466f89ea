import Cdp.Address

/-!
# Insert positions

The contracts keep Troves in a list of falling nominal ratio. A Trove is inserted quickly if the
caller names two neighbours of its place; the null address stands for an end of the list.
-/

set_option autoImplicit false

namespace Cdp

/-- The neighbours of an insert position. -/
structure HintPair where
  prev : Address
  next : Address
deriving DecidableEq

namespace HintPair

/-- The position in an empty list. -/
def none : HintPair := ⟨.zero, .zero⟩

/-- At an end of the list, both hints are the one neighbour that exists. -/
def normalized (p : HintPair) : HintPair :=
  if p.prev.isZero then ⟨p.next, p.next⟩
  else if p.next.isZero then ⟨p.prev, p.prev⟩
  else p

end HintPair

/-- How far the search for a position has come. -/
inductive SearchPhase where
  | notStarted
  | sampling
  | refining
  | finished
deriving DecidableEq

/-- The phase as messages name it. -/
def SearchPhase.text : SearchPhase → String
  | .notStarted => "reading the list size"
  | .sampling => "sampling approximate hints"
  | .refining => "refining the insert position"
  | .finished => "finishing"

/-- The phases in their order. -/
def SearchPhase.all : List SearchPhase := [.notStarted, .sampling, .refining, .finished]

end Cdp
