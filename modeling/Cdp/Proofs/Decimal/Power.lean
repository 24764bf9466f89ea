import Cdp.Decimal.Power
import Cdp.Protocol

/-!
# Powers and order

Repeated squaring rounds every product, and neighbouring exponents go through different products: an
exponent and its successor share every square, and their products first differ where the successor
takes the square after a run of ones and the exponent takes the squares of that run. Which of the
two powers is the larger is therefore settled by the ascent alone, by how each square compares with
the product of the squares before it (`powLoop_succ_rel`).

The rounded product is monotone, so this comparison is the same after every step. The squares stay
below the products for a decimal up to one (`decays_iff_le_one`), whose powers fall with the
exponent, and above them for a decimal from one on, whose powers rise. Exponents above the cap share
one power, and products that would leave the range of words stop at infinity, which nothing exceeds.
The main statement `pow_ordered` puts the two together with the order of the bases.
-/

set_option autoImplicit false

namespace Cdp.Decimal

/-! ## The rounded product -/

theorem toNat_roundedMul (x y : Word) :
    (roundedMul x y).toNat =
      if x.toNat * y.toNat + scale / 2 < Word.size then (x.toNat * y.toNat + scale / 2) / scale
      else Word.size - 1 := by
  have hscale : (x.toNat * y.toNat + scale / 2) / scale ≤ x.toNat * y.toNat + scale / 2 :=
    Nat.div_le_self _ _
  by_cases hsum : x.toNat * y.toNat + scale / 2 < Word.size
  · have hproduct : x.toNat * y.toNat < Word.size := by omega
    rw [if_pos hsum, roundedMul, Word.ofNat?, dif_pos hproduct, Option.bind_some, Word.ofNat?,
      dif_pos hsum, Option.bind_some, Word.ofNat?, dif_pos (Nat.lt_of_le_of_lt hscale hsum)]
    rfl
  · rw [if_neg hsum, roundedMul, Word.ofNat?]
    by_cases hproduct : x.toNat * y.toNat < Word.size
    · rw [dif_pos hproduct, Option.bind_some, Word.ofNat?, dif_neg hsum]
      rfl
    · rw [dif_neg hproduct]
      rfl

theorem roundedMul_mono {x x' y y' : Word} (hx : x ≤ x') (hy : y ≤ y') :
    roundedMul x y ≤ roundedMul x' y' := by
  have hproduct : x.toNat * y.toNat ≤ x'.toNat * y'.toNat := Nat.mul_le_mul hx hy
  have hquotient : (x.toNat * y.toNat + scale / 2) / scale ≤
      (x'.toNat * y'.toNat + scale / 2) / scale := Nat.div_le_div_right (by omega)
  have hle : (roundedMul x y).toNat ≤ Word.size - 1 := Word.toNat_le_max _
  rw [Word.le_def, toNat_roundedMul x' y']
  split
  · rename_i hsum
    rw [toNat_roundedMul, if_pos (by omega)]
    exact hquotient
  · exact hle

theorem roundedMul_one {x : Word} (hx : x ≤ one.raw) : roundedMul x one.raw = x := by
  have hx' : x.toNat ≤ scale := hx
  have hsum : x.toNat * scale + scale / 2 < Word.size := by
    simp only [scale, Word.size] at hx' ⊢
    omega
  apply Word.ext
  rw [toNat_roundedMul]
  show (if x.toNat * scale + scale / 2 < Word.size then (x.toNat * scale + scale / 2) / scale
    else Word.size - 1) = x.toNat
  rw [if_pos hsum]
  simp only [scale]
  omega

/-! ## One pass of repeated squaring -/

theorem powLoop_one (x y : Word) : powLoop x y 1 = roundedMul x y := by
  rw [powLoop, if_pos (Nat.le_refl 1)]

theorem powLoop_even (x y : Word) {m : Nat} (hm : 1 ≤ m) :
    powLoop x y (2 * m) = powLoop (roundedMul x x) y m := by
  rw [powLoop, if_neg (by omega), if_pos (by omega), Nat.mul_div_cancel_left m (by decide)]

theorem powLoop_odd (x y : Word) {m : Nat} (hm : 1 ≤ m) :
    powLoop x y (2 * m + 1) = powLoop (roundedMul x x) (roundedMul x y) m := by
  rw [powLoop, if_neg (by omega), if_neg (by omega), Nat.add_sub_cancel,
    Nat.mul_div_cancel_left m (by decide)]

/-- Repeated squaring takes the binary digits of an exponent from the last one on, and ends at the
first one. -/
@[elab_as_elim]
theorem exponent_induction {motive : (n : Nat) → 1 ≤ n → Prop} (one : motive 1 (Nat.le_refl 1))
    (even : ∀ m (hm : 1 ≤ m), motive m hm → motive (2 * m) (by omega))
    (odd : ∀ m (hm : 1 ≤ m), motive m hm → motive (2 * m + 1) (by omega)) (n : Nat)
    (hn : 1 ≤ n) : motive n hn := by
  induction n using Nat.strongRecOn with
  | _ n ih =>
    rcases Nat.lt_or_ge 1 n with h | h
    · obtain ⟨m, rfl | rfl⟩ : ∃ m, n = 2 * m ∨ n = 2 * m + 1 := ⟨n / 2, by omega⟩
      · have hm : 1 ≤ m := by omega
        exact even m hm (ih m (by omega) hm)
      · have hm : 1 ≤ m := by omega
        exact odd m hm (ih m (by omega) hm)
    · obtain rfl : n = 1 := by omega
      exact one

section Related

variable {R : Word → Word → Prop}

/-- A relation that the rounded product keeps is kept by every pass. -/
theorem powLoop_rel
    (hmul : ∀ {x x' y y'}, R x x' → R y y' → R (roundedMul x y) (roundedMul x' y'))
    {x x' y y' : Word} (hx : R x x') (hy : R y y') {n : Nat} (hn : 1 ≤ n) :
    R (powLoop x y n) (powLoop x' y' n) := by
  induction n, hn using exponent_induction generalizing x x' y y' with
  | one =>
    rw [powLoop_one, powLoop_one]
    exact hmul hx hy
  | even m hm ih =>
    rw [powLoop_even x y hm, powLoop_even x' y' hm]
    exact ih (hmul hx hx) hy
  | odd m hm ih =>
    rw [powLoop_odd x y hm, powLoop_odd x' y' hm]
    exact ih (hmul hx hx) (hmul hx hy)

/-! ## The ascent -/

/-- The square after `t` steps, and the product of the squares before it. -/
def ascent (d : Decimal) : Nat → Word × Word
  | 0 => (d.raw, one.raw)
  | t + 1 =>
    (roundedMul (ascent d t).1 (ascent d t).1, roundedMul (ascent d t).1 (ascent d t).2)

/-- From the same square on, the power of the successor of an exponent and that of the exponent are
related as every square and the product before it are. The exponent has the squares of `t` ones set
aside, its successor none: what the two carried over differs in every bit below. -/
theorem powLoop_succ_rel (hrefl : ∀ x, R x x)
    (hmul : ∀ {x x' y y'}, R x x' → R y y' → R (roundedMul x y) (roundedMul x' y'))
    {d : Decimal} (hd : ∀ t, R (roundedMul (ascent d t).1 one.raw) (ascent d t).2) {n : Nat}
    (hn : 1 ≤ n) (t : Nat) :
    R (powLoop (ascent d t).1 one.raw (n + 1)) (powLoop (ascent d t).1 (ascent d t).2 n) := by
  induction n, hn using exponent_induction generalizing t with
  | one =>
    have hsucc : powLoop (ascent d t).1 one.raw (2 * 1) =
        roundedMul (ascent d (t + 1)).1 one.raw := by
      rw [powLoop_even _ _ (Nat.le_refl 1), powLoop_one]
      rfl
    have hself : powLoop (ascent d t).1 (ascent d t).2 1 = (ascent d (t + 1)).2 :=
      powLoop_one _ _
    rw [hself]
    exact hsucc ▸ hd (t + 1)
  | even m hm ih =>
    -- the successor takes this square, and the carry ends here
    rw [powLoop_odd _ _ hm, powLoop_even _ _ hm]
    exact powLoop_rel hmul (hrefl _) (hd t) hm
  | odd m hm ih =>
    -- the exponent takes this square, and the carry goes on
    rw [show 2 * m + 1 + 1 = 2 * (m + 1) by omega, powLoop_even _ _ (by omega),
      powLoop_odd _ _ hm]
    exact ih (t + 1)

/-- The powers of neighbouring exponents are related as every square and the product before it. -/
theorem pow_succ_rel (hrefl : ∀ x, R x x)
    (hmul : ∀ {x x' y y'}, R x x' → R y y' → R (roundedMul x y) (roundedMul x' y'))
    {d : Decimal} (hd : ∀ t, R (roundedMul (ascent d t).1 one.raw) (ascent d t).2) (n : Nat) :
    R (d.pow (n + 1)).raw (d.pow n).raw := by
  by_cases hcap : maxExponent ≤ n
  · rw [pow, pow, Nat.min_eq_right hcap, Nat.min_eq_right (by omega)]
    exact hrefl _
  · rw [pow, pow, Nat.min_eq_left (by omega), Nat.min_eq_left (by omega)]
    by_cases hn : n = 0
    · subst hn
      rw [if_neg (by omega), if_pos rfl, powLoop_one]
      exact hd 0
    · rw [if_neg (by omega), if_neg hn]
      exact powLoop_succ_rel hrefl hmul hd (by omega) 0

end Related

/-! ## Decimals up to one -/

/-- No square of the ascent exceeds the product of the squares before it. -/
def Decays (d : Decimal) : Prop := ∀ t, (ascent d t).1 ≤ (ascent d t).2

/-- Squares and products are compared anew only at the start, where the product is one. -/
theorem decays_iff_le_one {d : Decimal} : d.Decays ↔ d ≤ one := by
  constructor
  · intro hd
    exact hd 0
  · intro h t
    induction t with
    | zero => exact h
    | succ t ih => exact roundedMul_mono (Nat.le_refl _) ih

theorem Decays.snd_le_one {d : Decimal} (hd : d.Decays) (t : Nat) :
    (ascent d t).2 ≤ one.raw := by
  induction t with
  | zero => exact Nat.le_refl _
  | succ t ih =>
    have hfst : (ascent d t).1 ≤ one.raw := Nat.le_trans (hd t) ih
    have hle := roundedMul_mono hfst ih
    rwa [roundedMul_one (Nat.le_refl _)] at hle

theorem Decays.fst_le_one {d : Decimal} (hd : d.Decays) (t : Nat) :
    (ascent d t).1 ≤ one.raw :=
  Nat.le_trans (hd t) (hd.snd_le_one t)

theorem pow_succ_le {d : Decimal} (hd : d.Decays) (n : Nat) : d.pow (n + 1) ≤ d.pow n := by
  have hsquare : ∀ t, roundedMul (ascent d t).1 one.raw ≤ (ascent d t).2 := by
    intro t
    rw [roundedMul_one (hd.fst_le_one t)]
    exact hd t
  exact pow_succ_rel (fun _ => Nat.le_refl _) roundedMul_mono hsquare n

/-- Powers of a decimal that decays fall with the exponent. -/
theorem pow_antitone {d : Decimal} (hd : d.Decays) {m n : Nat} (h : m ≤ n) :
    d.pow n ≤ d.pow m := by
  induction h with
  | refl => exact Nat.le_refl _
  | step _ ih => exact Nat.le_trans (pow_succ_le hd _) ih

theorem pow_le_one {d : Decimal} (hd : d.Decays) (n : Nat) : d.pow n ≤ one :=
  pow_antitone hd (Nat.zero_le n)

/-- The factor by which the base rate shrinks in a minute. -/
theorem minuteDecayFactor_decays : Protocol.minuteDecayFactor.Decays :=
  decays_iff_le_one.2 (by decide)

/-! ## Decimals from one on -/

/-- A product with one is the factor, or it has stopped at the largest word. -/
theorem le_roundedMul_one (x : Word) : x ≤ roundedMul x one.raw := by
  have hone : one.raw.toNat = scale := rfl
  rw [Word.le_def, toNat_roundedMul, hone]
  split
  · simp only [scale]
    omega
  · exact Word.toNat_le_max x

/-- From one on, no product of squares exceeds the square after them. -/
theorem snd_ascent_le_fst {d : Decimal} (h : one ≤ d) (t : Nat) :
    (ascent d t).2 ≤ (ascent d t).1 := by
  induction t with
  | zero => exact h
  | succ t ih => exact roundedMul_mono (Nat.le_refl _) ih

theorem pow_le_succ {d : Decimal} (h : one ≤ d) (n : Nat) : d.pow n ≤ d.pow (n + 1) := by
  have hsquare : ∀ t, (ascent d t).2 ≤ roundedMul (ascent d t).1 one.raw := fun t =>
    Nat.le_trans (snd_ascent_le_fst h t) (le_roundedMul_one _)
  exact pow_succ_rel (fun _ => Nat.le_refl _) (R := fun x y => y ≤ x) roundedMul_mono hsquare n

theorem pow_monotone {d : Decimal} (hd : one ≤ d) {m n : Nat} (h : m ≤ n) :
    d.pow m ≤ d.pow n := by
  induction h with
  | refl => exact Nat.le_refl _
  | step _ ih => exact Nat.le_trans ih (pow_le_succ hd _)

/-! ## All decimals -/

theorem powLoop_mono {x x' y y' : Word} (hx : x ≤ x') (hy : y ≤ y') {n : Nat} (hn : 1 ≤ n) :
    powLoop x y n ≤ powLoop x' y' n :=
  powLoop_rel roundedMul_mono hx hy hn

theorem pow_mono_base {x y : Decimal} (h : x ≤ y) (n : Nat) : x.pow n ≤ y.pow n := by
  rw [pow, pow]
  split
  · exact Nat.le_refl _
  · exact powLoop_mono (n := min n maxExponent) h (Nat.le_refl _) (by omega)

/-- Powers of a decimal up to one fall with the exponent and do not exceed one, powers of a decimal
from one on rise with the exponent, and powers with the same exponent are ordered as their bases
are. There is no bound on the bases or the exponents. -/
theorem pow_ordered (x : Decimal) (m : Nat) :
    (x ≤ one → x.pow m ≤ one ∧ ∀ n, m ≤ n → x.pow n ≤ x.pow m) ∧
      (one ≤ x → ∀ n, m ≤ n → x.pow m ≤ x.pow n) ∧
      ∀ y, x ≤ y → x.pow m ≤ y.pow m := by
  refine ⟨?_, ?_, ?_⟩
  · intro hx
    have hdecays := decays_iff_le_one.2 hx
    exact ⟨pow_le_one hdecays m, fun n hmn => pow_antitone hdecays hmn⟩
  · intro hx n hmn
    exact pow_monotone hx hmn
  · intro y hxy
    exact pow_mono_base hxy m

/-- The exponents 1023 and 1024, and 127 and 128, share no product, and the 256th power of two has
stopped at infinity. -/
theorem carries_ordered :
    Protocol.minuteDecayFactor ≤ one ∧
      Protocol.minuteDecayFactor.pow 1024 ≤ Protocol.minuteDecayFactor.pow 1023 ∧
      Protocol.minuteDecayFactor.pow 1023 ≤ one ∧
      one ≤ ofUInt64 2 ∧ (ofUInt64 2).pow 127 ≤ (ofUInt64 2).pow 128 ∧
      (ofUInt64 2).pow 128 ≤ (ofUInt64 2).pow 256 ∧ (ofUInt64 2).pow 256 = infinity ∧
      ofUInt64 2 ≤ ofUInt64 3 ∧ (ofUInt64 2).pow 127 ≤ (ofUInt64 3).pow 127 := by
  have hfactor : Protocol.minuteDecayFactor ≤ one := by decide
  have htwo : one ≤ ofUInt64 2 := by decide
  have hthree : ofUInt64 2 ≤ ofUInt64 3 := by decide
  obtain ⟨hbound, hfall⟩ := (pow_ordered Protocol.minuteDecayFactor 1023).1 hfactor
  have hrise := (pow_ordered (ofUInt64 2) 127).2.1 htwo
  have hstop := (pow_ordered (ofUInt64 2) 128).2.1 htwo
  have hbase := (pow_ordered (ofUInt64 2) 127).2.2
  exact ⟨hfactor, hfall 1024 (by decide), hbound, htwo, hrise 128 (by decide),
    hstop 256 (by decide), by decide +kernel, hthree, hbase _ hthree⟩

end Cdp.Decimal
