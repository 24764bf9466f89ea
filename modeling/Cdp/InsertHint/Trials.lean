import Cdp.Counter
import Cdp.Policy

/-!
# Sampling effort

A position near the wanted one is found by sampling the list: about `k * sqrt n` samples of a list
of `n` Troves give a Trove a few places away. The number is rounded up, and the samples are split
into requests of limited size.
-/

set_option autoImplicit false

namespace Cdp

/-- Newton's iteration for a square root, from above; it stops when it no longer falls. -/
def newtonRoot (x root candidate : Nat) : Nat :=
  if candidate < root then newtonRoot x candidate ((candidate + x / candidate) / 2)
  else root
termination_by root

/-- The least number whose square is at least `x`. -/
def ceilSqrt (x : Nat) : Nat :=
  if x < 2 then x
  else
    let root := newtonRoot x x (x / 2 + x % 2)
    if root * root < x then root + 1 else root

/-- How hard the search for a position tries; both numbers are at least one. -/
structure HintFinder where
  trialsFactor : UInt64
  maxTrialsPerCall : UInt64
  trialsFactor_pos : 0 < trialsFactor.toNat
  maxTrialsPerCall_pos : 0 < maxTrialsPerCall.toNat

namespace HintFinder

/-- A number, or one in place of zero. -/
def atLeastOne (n : UInt64) : UInt64 := if n = 0 then 1 else n

theorem atLeastOne_pos (n : UInt64) : 0 < (atLeastOne n).toNat := by
  rw [atLeastOne]
  split
  · decide
  · rename_i h
    exact Nat.pos_of_ne_zero fun e => h (UInt64.toNat_inj.1 e)

/-- A finder with the given numbers; zero counts as one. -/
def make (trialsFactor maxTrialsPerCall : UInt64) : HintFinder where
  trialsFactor := atLeastOne trialsFactor
  maxTrialsPerCall := atLeastOne maxTrialsPerCall
  trialsFactor_pos := atLeastOne_pos trialsFactor
  maxTrialsPerCall_pos := atLeastOne_pos maxTrialsPerCall

/-- The finder of a policy. -/
def ofPolicy (policy : Policy) : HintFinder :=
  make policy.hintTrialsFactor policy.maxTrialsPerCall

/-- The largest number that the product of the factor and the list size may reach. -/
def productLimit : Nat := Nat.pow 2 128 - 1

/-- The number of samples for a list size, rounded up. -/
def totalTrials (finder : HintFinder) (listSize : UInt64) : UInt64 :=
  let square := min (finder.trialsFactor.toNat * finder.trialsFactor.toNat) productLimit
  Counter.clamp (ceilSqrt (min (square * listSize.toNat) productLimit))

/-- A request takes some of what remains, as the cap is at least one. -/
theorem toNat_sub_batch_lt (finder : HintFinder) {remaining : UInt64} (h : remaining ≠ 0) :
    (remaining - min remaining finder.maxTrialsPerCall).toNat < remaining.toNat := by
  have hcap := finder.maxTrialsPerCall_pos
  have hpos : 0 < remaining.toNat := Nat.pos_of_ne_zero fun e => h (UInt64.toNat_inj.1 e)
  change (remaining - if remaining ≤ finder.maxTrialsPerCall then remaining else _).toNat < _
  split
  · rw [UInt64.sub_self]
    exact hpos
  · rename_i hmore
    have hle := Nat.le_of_not_le fun hle => hmore (UInt64.le_iff_toNat_le.2 hle)
    rw [UInt64.toNat_sub_of_le _ _ (UInt64.le_iff_toNat_le.2 hle)]
    exact Nat.sub_lt hpos hcap

/-- The samples of each request: each takes as many of those that remain as it may. -/
def trialBatches (finder : HintFinder) (remaining : UInt64) : List UInt64 :=
  if _h : remaining = 0 then []
  else
    let batch := min remaining finder.maxTrialsPerCall
    batch :: finder.trialBatches (remaining - batch)
termination_by remaining.toNat
decreasing_by exact toNat_sub_batch_lt finder ‹remaining ≠ 0›

theorem trialBatches_zero (finder : HintFinder) : finder.trialBatches 0 = [] := by
  rw [trialBatches, dif_pos rfl]

theorem trialBatches_eq_cons (finder : HintFinder) {remaining : UInt64} (h : remaining ≠ 0) :
    finder.trialBatches remaining =
      min remaining finder.maxTrialsPerCall ::
        finder.trialBatches (remaining - min remaining finder.maxTrialsPerCall) := by
  rw [trialBatches, dif_neg h]

end HintFinder

end Cdp
