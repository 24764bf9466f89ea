import Cdp.Chain.Tables

/-!
# Tables that stand still

A chain of tables uses up its queues and keeps a journal. Where neither matters, the tables answer
as they are: `standing` is the handler without a state of its own, and its answers to reads are the
same at every block.
-/

set_option autoImplicit false

namespace Cdp.Tables

/-- Tables of a protocol without collateral and without Troves. -/
def bare : Tables where
  block := ⟨100, 1000000⟩
  baseRate := .zero
  lastFeeOperationTime := 0
  whitelist := []
  troves := .empty
  totals := .empty
  activePool := ⟨.zero, .empty⟩
  defaultPool := ⟨.zero, .empty⟩
  sorted := []
  size := none
  position := none
  samples := []
  redemption := ⟨.zero, .zero, .zero⟩
  gas := []
  outcomes := []
  outages := []

/-- The answer to a request of tables that never change. -/
def reply (t : Tables) (r : Chain.Request) : Except ChainError (Chain.Answer r) :=
  TableChain.answer ⟨t, 0, []⟩ r

/-- Tables that answer every request as they are and never change. -/
def standing (t : Tables) (r : Chain.Request) :
    StateM Unit (Except ChainError (Chain.Answer r)) := fun w =>
  (TableChain.answer ⟨t, 0, []⟩ r, w)

end Cdp.Tables
