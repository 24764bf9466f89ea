import Cdp.Proofs.Decimal.Capped
import Cdp.Proofs.Decimal.Grammar
import Cdp.Proofs.Decimal.Units

/-!
# Where infinity comes from

Infinity is the largest word, an ordinary value of the type. Arithmetic on finite decimals never
reaches it, except where a number other than zero is divided by zero: a sum that would be the
largest word is refused, a difference is no larger than the minuend, a product is divided by the
scale, and the scaled numerator of a quotient is even while the largest word is odd.

Two ways into the type let it through. The largest word as an amount of a token with eighteen places
becomes infinity, and so does the numeral that denotes the largest word, though neither of them
names it (`infinity_arises_iff`).
-/

set_option autoImplicit false

namespace Cdp.Decimal

variable {a b : Decimal}

/-! ## Arithmetic -/

theorem checkedAdd_ne_infinity (ha : a < infinity) (hb : b < infinity) :
    checkedAdd a b ≠ some infinity := by
  intro h
  rcases eq_infinity_of_checkedAdd h with rfl | rfl
  · exact Nat.lt_irrefl _ ha
  · exact Nat.lt_irrefl _ hb

theorem checkedSub_ne_infinity (ha : a < infinity) : checkedSub a b ≠ some infinity := by
  intro h
  exact absurd (le_of_checkedSub h) (Nat.not_le.2 ha)

theorem checkedMul_ne_infinity (ha : a < infinity) (hb : b < infinity) :
    checkedMul a b ≠ some infinity := by
  intro h
  exact Nat.lt_irrefl _ (checkedMul_lt_infinity ha hb h)

theorem checkedDiv_zero (a : Decimal) :
    checkedDiv a zero = some (if a.isZero then zero else infinity) := by
  rw [checkedDiv, isZero_iff.2 rfl, if_pos rfl]

theorem checkedDiv_eq_infinity_iff (ha : a < infinity) (hb : b < infinity) :
    checkedDiv a b = some infinity ↔ b = zero ∧ a ≠ zero := by
  cases hzero : b.isZero with
  | true =>
    obtain rfl := isZero_iff.1 hzero
    rw [checkedDiv_zero]
    by_cases ha0 : a = zero
    · subst ha0
      decide
    · have hne : ¬a.isZero = true := fun h => ha0 (isZero_iff.1 h)
      simp [hne, ha0]
  | false =>
    constructor
    · intro h
      have hlt := checkedDiv_lt_infinity ha hb (isZero_eq_false_iff.1 hzero) h
      exact absurd hlt (Nat.lt_irrefl _)
    · rintro ⟨rfl, -⟩
      cases hzero

/-! ## Numerals -/

/-- A numeral reads as infinity where it denotes the largest word, in raw units. -/
theorem parse_numeral_eq_infinity_iff {text : String} {whole fraction : List Char}
    (h : Numeral (Text.trim text.toList) whole fraction) :
    parse text = .ok infinity ↔
      fraction.length ≤ 18 ∧ numeralRaw whole fraction = 2 ^ 256 - 1 := by
  have hlargest : (infinity.rawNat : ℚ) = 2 ^ 256 - 1 := by norm_num [rawNat_infinity]
  constructor
  · intro hparse
    have hreads : Reads (Text.trim text.toList) (.ok infinity) := hparse ▸ reads_parseTrimmed _
    obtain ⟨hname, -⟩ := h.unsigned
    cases hreads with
    | infinity name =>
      rw [namesInfinity_iff.2 name] at hname
      cases hname
    | numeral shape places value =>
      -- the text is cut at its point in one way only
      have hcut := (numeral_iff.1 h).1.symm.trans (numeral_iff.1 shape).1
      cases hcut
      exact ⟨places, value.symm.trans hlargest⟩
  · rintro ⟨hplaces, hvalue⟩
    exact (Reads.numeral h hplaces (hlargest.trans hvalue.symm)).eq

/-- Of finite decimals, amounts of tokens and numerals, exactly these become infinity: a number
other than zero that is divided by zero, the largest word in units of a token with eighteen places,
and a numeral with at most eighteen digits after the point that denotes the largest word. -/
theorem infinity_arises_iff (a b : Decimal) (units : Word) (decimals : UInt8) (text : String)
    (whole fraction : List Char) :
    (a < infinity → b < infinity →
      checkedAdd a b ≠ some infinity ∧ checkedSub a b ≠ some infinity ∧
        checkedMul a b ≠ some infinity ∧
        (checkedDiv a b = some infinity ↔ b = zero ∧ a ≠ zero)) ∧
    (ofUnits units decimals = .ok infinity ↔ decimals.toNat = 18 ∧ units = .max) ∧
    (Numeral (Text.trim text.toList) whole fraction →
      (parse text = .ok infinity ↔
        fraction.length ≤ 18 ∧ numeralRaw whole fraction = 2 ^ 256 - 1)) := by
  refine ⟨?_, ofUnits_eq_infinity_iff, ?_⟩
  · intro ha hb
    exact ⟨checkedAdd_ne_infinity ha hb, checkedSub_ne_infinity ha, checkedMul_ne_infinity ha hb,
      checkedDiv_eq_infinity_iff ha hb⟩
  · intro h
    exact parse_numeral_eq_infinity_iff h

/-- The whole part of the largest word, in units of one, and the eighteen digits after its point. -/
def largestWhole : String := "115792089237316195423570985008687907853269984665640564039457"

def largestFraction : String := "584007913129639935"

def largestNumeral : String := largestWhole ++ "." ++ largestFraction

theorem largestNumeral_shape :
    Numeral (Text.trim largestNumeral.toList) largestWhole.toList largestFraction.toList := by
  rw [numeral_iff]
  refine ⟨by decide, ?_, ?_, by decide⟩
  · exact List.all_eq_true.1 (by decide)
  · exact List.all_eq_true.1 (by decide)

theorem largestNumeral_value :
    numeralRaw largestWhole.toList largestFraction.toList = 2 ^ 256 - 1 := by
  have hraw : rawOfDigits largestWhole.toList largestFraction.toList = 2 ^ 256 - 1 := by decide
  rw [← cast_rawOfDigits _ (by decide), hraw]
  norm_num

/-- One by zero is infinite, their sum is not, and the largest word becomes infinite both as an
amount and as a numeral. -/
theorem largestNumeral_arises :
    one < infinity ∧ zero < infinity ∧ checkedDiv one zero = some infinity ∧
      checkedAdd one zero ≠ some infinity ∧ ofUnits .max 18 = .ok infinity ∧
      Numeral (Text.trim largestNumeral.toList) largestWhole.toList largestFraction.toList ∧
      parse largestNumeral = .ok infinity := by
  have hone : one < infinity := by decide
  have hzero : zero < infinity := by decide
  obtain ⟨harithmetic, hunits, hnumeral⟩ := infinity_arises_iff one zero .max 18 largestNumeral
    largestWhole.toList largestFraction.toList
  obtain ⟨hadd, -, -, hdiv⟩ := harithmetic hone hzero
  refine ⟨hone, hzero, hdiv.2 ⟨rfl, by decide⟩, hadd, hunits.2 ⟨rfl, rfl⟩, largestNumeral_shape, ?_⟩
  exact (hnumeral largestNumeral_shape).2 ⟨by decide, largestNumeral_value⟩

/-- Neither an amount of a token nor a numeral keeps clear of infinity. -/
theorem largestWord_becomes_infinite :
    (¬∀ (units : Word) (decimals : UInt8), ofUnits units decimals ≠ .ok infinity) ∧
      ¬∀ (text : String) (whole fraction : List Char),
        Numeral (Text.trim text.toList) whole fraction → parse text ≠ .ok infinity := by
  constructor
  · intro hnever
    exact hnever .max 18 (by decide)
  · intro hnever
    apply hnever largestNumeral _ _ largestNumeral_shape
    exact (parse_numeral_eq_infinity_iff largestNumeral_shape).2 ⟨by decide, largestNumeral_value⟩

end Cdp.Decimal
