import Cdp.InsertHint.Trials
import Mathlib.Analysis.Real.Sqrt
import Mathlib.Data.Nat.Sqrt

/-!
# The sampling effort

The number of samples is the least whole number from `k * sqrt n` on, or the largest counter where
that number is larger, and the requests have exactly so many samples in all
(`effort_exact`). They are as many full requests as fit, and one for the rest
(`trialBatches_eq`).

Newton's iteration falls from above onto the whole part of the root: a candidate is never below it
(`sqrt_le_average`), and a candidate above it is followed by a smaller one (`average_lt`). The
rounding up is then stated as the adjunction `ceilSqrt_le_iff`, from which everything else follows,
also where the products stop at their limit.

The products stop at the largest number of 128 bits, but the sums of the iteration do not.
`boundedTrials?` is the same computation with a check behind each operation that could leave these
bits, and no check ever fails (`boundedTrials?_eq`).
-/

set_option autoImplicit false

namespace Cdp

/-! ## Newton's iteration -/

/-- The mean of a guess and its quotient is not below the root. -/
theorem sqrt_le_average {x guess : Nat} (hguess : 0 < guess) :
    x.sqrt ≤ (guess + x / guess) / 2 := by
  have hroot : x.sqrt * x.sqrt ≤ x := Nat.sqrt_le x
  have hquotient : 2 * x.sqrt - guess ≤ x / guess := by
    rw [Nat.le_div_iff_mul_le hguess]
    rcases Nat.le_total (2 * x.sqrt) guess with hle | hle
    · rw [Nat.sub_eq_zero_of_le hle, Nat.zero_mul]
      exact Nat.zero_le x
    · zify [hle] at hroot ⊢
      nlinarith [sq_nonneg ((x.sqrt : ℤ) - guess)]
  omega

/-- The mean falls while the guess is above the root. -/
theorem average_lt {x guess : Nat} (h : x.sqrt < guess) : (guess + x / guess) / 2 < guess := by
  have hquotient : x / guess < guess := Nat.div_lt_of_lt_mul (Nat.sqrt_lt.1 h)
  omega

/-- The iteration ends at the whole part of the root: no candidate is below it, and it stops only
there. -/
theorem newtonRoot_eq_sqrt {x root candidate : Nat} (hx : 0 < x) (habove : x.sqrt ≤ candidate)
    (hstop : root ≤ candidate → root = x.sqrt) : newtonRoot x root candidate = x.sqrt := by
  fun_induction newtonRoot x root candidate with
  | case1 root candidate hlt ih =>
    have hpos : 0 < candidate := Nat.lt_of_lt_of_le (Nat.sqrt_pos.2 hx) habove
    apply ih (sqrt_le_average hpos)
    intro hle
    rcases Nat.eq_or_lt_of_le habove with heq | hgt
    · exact heq.symm
    · exact absurd (average_lt hgt) (Nat.not_lt.2 hle)
  | case2 root candidate hge => exact hstop (Nat.not_lt.1 hge)

theorem sqrt_le_half {x : Nat} (hx : 0 < x) : x.sqrt ≤ x / 2 + x % 2 := by
  have haverage := sqrt_le_average (x := x) hx
  rw [Nat.div_self hx] at haverage
  omega

/-- The first candidate is a half, rounded up. -/
theorem newtonRoot_start {x : Nat} (hx : 2 ≤ x) :
    newtonRoot x x (x / 2 + x % 2) = x.sqrt := by
  have hpos : 0 < x := by omega
  apply newtonRoot_eq_sqrt hpos (sqrt_le_half hpos)
  omega

/-- Rounding the root up is adjoint to squaring. -/
theorem ceilSqrt_le_iff {x t : Nat} : ceilSqrt x ≤ t ↔ x ≤ t ^ 2 := by
  rw [ceilSqrt, Nat.pow_two]
  split
  · rename_i hsmall
    -- zero and one are their own roots
    have hself : x * x = x := by
      have hcases : x = 0 ∨ x = 1 := by omega
      rcases hcases with rfl | rfl <;> rfl
    rw [← Nat.mul_self_le_mul_self_iff, hself]
  · rename_i hlarge
    have hroot : x.sqrt * x.sqrt ≤ x := Nat.sqrt_le x
    rw [newtonRoot_start (Nat.not_lt.1 hlarge)]
    dsimp only
    split
    · rename_i hsquare
      rw [Nat.succ_le_iff, Nat.sqrt_lt]
      constructor
      · exact Nat.le_of_lt
      · intro hle
        refine Nat.lt_of_le_of_ne hle fun heq => ?_
        rw [heq, Nat.sqrt_eq] at hsquare
        exact Nat.lt_irrefl _ hsquare
    · rename_i hsquare
      obtain hx : x.sqrt * x.sqrt = x := Nat.le_antisymm hroot (Nat.not_lt.1 hsquare)
      rw [← Nat.mul_self_le_mul_self_iff, hx]

/-! ## In 128 bits -/

/-- A number that fits. -/
def fitting? (n : Nat) : Option Nat := if n ≤ HintFinder.productLimit then some n else none

/-- A quotient, unless the divisor is zero. -/
def quotient? (n divisor : Nat) : Option Nat := if divisor = 0 then none else some (n / divisor)

/-- Newton's iteration with a check behind each operation that could leave the range. -/
def boundedRoot? (x root candidate : Nat) : Option Nat :=
  if candidate < root then do
    let quotient ← quotient? x candidate
    let sum ← fitting? (candidate + quotient)
    boundedRoot? x candidate (sum / 2)
  else some root
termination_by root

/-- The root rounded up, with checks. -/
def boundedCeilSqrt? (x : Nat) : Option Nat :=
  if x < 2 then some x
  else do
    let half ← fitting? (x / 2 + x % 2)
    let root ← boundedRoot? x x half
    let square ← fitting? (root * root)
    if square < x then fitting? (root + 1) else some root

theorem fitting?_eq_some {n : Nat} (h : n ≤ HintFinder.productLimit) : fitting? n = some n :=
  if_pos h

/-- The sum of a candidate and its quotient fits: a candidate is at most half of the number, and so
is the quotient, but for the candidate one. -/
theorem sum_le_productLimit {x candidate : Nat} (hx : x ≤ HintFinder.productLimit)
    (hpos : 0 < candidate) (habove : x.sqrt ≤ candidate) (hhalf : candidate ≤ x / 2 + x % 2) :
    candidate + x / candidate ≤ HintFinder.productLimit := by
  rcases Nat.eq_or_lt_of_le hpos with hone | hmore
  · obtain rfl : candidate = 1 := hone.symm
    have hsmall : x < 2 * 2 := Nat.sqrt_lt.1 (Nat.lt_succ_of_le habove)
    have hlimit : 4 ≤ HintFinder.productLimit := by decide
    rw [Nat.div_one]
    omega
  · have hquotient : x / candidate ≤ x / 2 := Nat.div_le_div_left hmore (by decide)
    omega

theorem boundedRoot?_eq {x root candidate : Nat} (hx : 0 < x) (hfit : x ≤ HintFinder.productLimit)
    (habove : x.sqrt ≤ candidate) (hhalf : candidate < root → candidate ≤ x / 2 + x % 2) :
    boundedRoot? x root candidate = some (newtonRoot x root candidate) := by
  fun_induction newtonRoot x root candidate with
  | case1 root candidate hlt ih =>
    have hpos : 0 < candidate := Nat.lt_of_lt_of_le (Nat.sqrt_pos.2 hx) habove
    have hsum := sum_le_productLimit hfit hpos habove (hhalf hlt)
    have hquotient : quotient? x candidate = some (x / candidate) := if_neg (Nat.ne_of_gt hpos)
    rw [boundedRoot?, if_pos hlt]
    simp only [Option.bind_eq_bind, hquotient, fitting?_eq_some hsum, Option.bind_some]
    apply ih (sqrt_le_average hpos)
    exact fun hnext => Nat.le_trans (Nat.le_of_lt hnext) (hhalf hlt)
  | case2 root candidate hge => rw [boundedRoot?, if_neg hge]

theorem boundedCeilSqrt?_eq {x : Nat} (hfit : x ≤ HintFinder.productLimit) :
    boundedCeilSqrt? x = some (ceilSqrt x) := by
  rw [boundedCeilSqrt?, ceilSqrt]
  split
  · rfl
  · rename_i hlarge
    have htwo : 2 ≤ x := Nat.not_lt.1 hlarge
    have hsquare : x.sqrt * x.sqrt ≤ HintFinder.productLimit := Nat.le_trans (Nat.sqrt_le x) hfit
    have hnext : x.sqrt + 1 ≤ HintFinder.productLimit :=
      Nat.le_trans (Nat.sqrt_lt_self htwo) hfit
    have hpos : 0 < x := by omega
    have hhalf : x / 2 + x % 2 ≤ HintFinder.productLimit := by omega
    have hroot := boundedRoot?_eq hpos hfit (sqrt_le_half hpos) fun _ : _ < x => Nat.le_refl _
    rw [newtonRoot_start htwo] at hroot ⊢
    simp only [Option.bind_eq_bind, fitting?_eq_some hhalf, hroot, fitting?_eq_some hsquare,
      Option.bind_some]
    split
    · exact fitting?_eq_some hnext
    · rfl

namespace HintFinder

variable {finder : HintFinder} {size total : UInt64}

/-- The number of samples as a machine with 128 bits counts it: products stop at the limit, and
every other operation has to fit. -/
def boundedTrials? (finder : HintFinder) (listSize : UInt64) : Option UInt64 :=
  let square := min (finder.trialsFactor.toNat * finder.trialsFactor.toNat) productLimit
  (boundedCeilSqrt? (min (square * listSize.toNat) productLimit)).map Counter.clamp

theorem boundedTrials?_eq : finder.boundedTrials? size = some (finder.totalTrials size) := by
  rw [boundedTrials?, boundedCeilSqrt?_eq (Nat.min_le_right _ _)]
  rfl

/-! ## The number of samples -/

/-- The square of the factor never reaches the limit, and beyond the limit of the product the root
is no counter any more. -/
theorem toNat_totalTrials :
    (finder.totalTrials size).toNat =
      min (ceilSqrt (finder.trialsFactor.toNat ^ 2 * size.toNat)) (UInt64.size - 1) := by
  have hfactor : finder.trialsFactor.toNat ≤ UInt64.size - 1 :=
    Nat.le_pred_of_lt (UInt64.toNat_lt _)
  have hlargest : (UInt64.size - 1) ^ 2 < productLimit := by decide
  have hsquare : finder.trialsFactor.toNat ^ 2 ≤ productLimit :=
    Nat.le_trans (Nat.pow_le_pow_left hfactor 2) (Nat.le_of_lt hlargest)
  rw [totalTrials, Counter.toNat_clamp, ← Nat.pow_two, Nat.min_eq_left hsquare]
  apply eq_of_forall_ge_iff
  intro t
  rw [min_le_iff, min_le_iff, ceilSqrt_le_iff, ceilSqrt_le_iff, min_le_iff]
  constructor
  · rintro ((hproduct | hlimit) | hle)
    · exact Or.inl hproduct
    · -- the limit of the product is beyond the square of every counter
      refine Or.inr (Nat.le_of_not_lt fun hlt => ?_)
      have hsquare := Nat.pow_le_pow_left (Nat.le_of_lt hlt) 2
      omega
    · exact Or.inr hle
  · rintro (hproduct | hle)
    · exact Or.inl (Or.inl hproduct)
    · exact Or.inr hle

theorem ceil_eq_ceilSqrt (factor count : Nat) :
    ⌈(factor : ℝ) * √(count : ℝ)⌉₊ = ceilSqrt (factor ^ 2 * count) := by
  apply eq_of_forall_ge_iff
  intro t
  have hroot : (factor : ℝ) * √(count : ℝ) = √((factor : ℝ) ^ 2 * count) := by
    rw [Real.sqrt_mul (sq_nonneg _), Real.sqrt_sq (Nat.cast_nonneg factor)]
  rw [Nat.ceil_le, hroot, Real.sqrt_le_left (Nat.cast_nonneg t), ceilSqrt_le_iff]
  exact_mod_cast Iff.rfl

/-! ## The requests -/

/-- Parts of a number, none of them empty or above the cap, and all but the last of them full. -/
structure Splits (cap total : UInt64) (parts : List UInt64) : Prop where
  sum_eq : (parts.map UInt64.toNat).sum = total.toNat
  bounds : ∀ part ∈ parts, 1 ≤ part ∧ part ≤ cap
  full : ∀ part ∈ parts.dropLast, part = cap

/-- One more part in front, which is full unless nothing is left behind it. -/
theorem Splits.cons {cap total part : UInt64} {rest : List UInt64} (hpart : 1 ≤ part)
    (hcap : part ≤ cap) (htotal : part ≤ total) (hfull : part ≠ total → part = cap)
    (hrest : Splits cap (total - part) rest) : Splits cap total (part :: rest) := by
  have hleft : (total - part).toNat = total.toNat - part.toNat := UInt64.toNat_sub_of_le _ _ htotal
  have hle : part.toNat ≤ total.toNat := htotal
  have hsum := hrest.sum_eq
  constructor
  case sum_eq =>
    rw [List.map_cons, List.sum_cons]
    omega
  case bounds => exact List.forall_mem_cons.2 ⟨⟨hpart, hcap⟩, hrest.bounds⟩
  case full =>
    cases rest with
    | nil => exact nofun
    | cons next rest =>
      have hnext : 1 ≤ next.toNat := (hrest.bounds next List.mem_cons_self).1
      rw [List.map_cons, List.sum_cons] at hsum
      rw [List.dropLast_cons_cons, List.forall_mem_cons]
      refine ⟨hfull ?_, hrest.full⟩
      rintro rfl
      omega

/-- Without the recursion: as many full requests as fit, and the rest. -/
theorem trialBatches_eq (finder : HintFinder) (total : UInt64) :
    finder.trialBatches total =
      List.replicate (total.toNat / finder.maxTrialsPerCall.toNat) finder.maxTrialsPerCall ++
        if total % finder.maxTrialsPerCall = 0 then [] else [total % finder.maxTrialsPerCall] := by
  have hcap := finder.maxTrialsPerCall_pos
  fun_induction trialBatches finder total with
  | case1 => simp
  | case2 total hzero batch ih =>
    rcases Nat.lt_or_ge total.toNat finder.maxTrialsPerCall.toNat with hlt | hge
    · have hmin : batch = total := by
        apply UInt64.toNat_inj.1
        rw [UInt64.toNat_min, Nat.min_eq_left (Nat.le_of_lt hlt)]
      have hmod : total % finder.maxTrialsPerCall = total := by
        apply UInt64.toNat_inj.1
        rw [UInt64.toNat_mod, Nat.mod_eq_of_lt hlt]
      rw [hmin, UInt64.sub_self, trialBatches_zero, Nat.div_eq_of_lt hlt, hmod, if_neg hzero]
      rfl
    · have hmin : batch = finder.maxTrialsPerCall := by
        apply UInt64.toNat_inj.1
        rw [UInt64.toNat_min, Nat.min_eq_right hge]
      have hleft : (total - finder.maxTrialsPerCall).toNat =
          total.toNat - finder.maxTrialsPerCall.toNat := UInt64.toNat_sub_of_le _ _ hge
      have hmod : (total - finder.maxTrialsPerCall) % finder.maxTrialsPerCall =
          total % finder.maxTrialsPerCall := by
        apply UInt64.toNat_inj.1
        rw [UInt64.toNat_mod, UInt64.toNat_mod, hleft, ← Nat.mod_eq_sub_mod hge]
      rw [ih, hmin, hleft, hmod, Nat.div_eq_sub_div hcap hge, List.replicate_succ]
      rfl

/-- The induction is on what is left, which every request lowers. -/
theorem splits_trialBatches (finder : HintFinder) (total : UInt64) :
    Splits finder.maxTrialsPerCall total (finder.trialBatches total) := by
  fun_induction trialBatches finder total with
  | case1 => exact ⟨rfl, nofun, nofun⟩
  | case2 total hzero batch ih =>
    have hcap := finder.maxTrialsPerCall_pos
    have hpos : 0 < total.toNat := Nat.pos_of_ne_zero fun h => hzero (UInt64.toNat_inj.1 h)
    have hmin : batch.toNat = min total.toNat finder.maxTrialsPerCall.toNat := UInt64.toNat_min ..
    have hpart : 1 ≤ batch.toNat := by omega
    have hle : batch.toNat ≤ total.toNat := by omega
    refine .cons hpart ?_ hle (fun hne => ?_) ih
    · rw [UInt64.le_iff_toNat_le]
      omega
    · rw [Ne, ← UInt64.toNat_inj] at hne
      apply UInt64.toNat_inj.1
      omega

/-- The effort of a search is exact, for every finder, list size and number of samples. The number
of samples is `k * sqrt n` rounded up, the least whole number whose square is at least `k ^ 2 * n`,
or the largest counter where that is smaller; numbers of 128 bits are enough to compute it. The
requests have as many samples in all as they are asked for, each of them has at least one and at
most as many as the cap allows, and all but the last have as many as that. -/
theorem effort_exact (finder : HintFinder) (size total : UInt64) :
    (∃ trials : Nat, trials = ⌈(finder.trialsFactor.toNat : ℝ) * √(size.toNat : ℝ)⌉₊ ∧
        IsLeast {t | finder.trialsFactor.toNat ^ 2 * size.toNat ≤ t ^ 2} trials ∧
        (finder.totalTrials size).toNat = min trials (UInt64.size - 1)) ∧
      finder.boundedTrials? size = some (finder.totalTrials size) ∧
      Splits finder.maxTrialsPerCall total (finder.trialBatches total) := by
  refine ⟨⟨_, rfl, ?_, ?_⟩, boundedTrials?_eq, splits_trialBatches finder total⟩
  · rw [ceil_eq_ceilSqrt]
    constructor
    · exact ceilSqrt_le_iff.1 (Nat.le_refl _)
    · exact fun t ht => ceilSqrt_le_iff.2 ht
  · rw [ceil_eq_ceilSqrt, toNat_totalTrials]

end HintFinder

end Cdp
