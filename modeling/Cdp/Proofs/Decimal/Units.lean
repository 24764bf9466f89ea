import Cdp.Decimal.Units
import Cdp.Proofs.Decimal.Order
import Mathlib.Algebra.Order.Ring.Nat
import Mathlib.Data.Nat.Prime.Basic

/-!
# Units and back

Both conversions test one relation between an amount in units and a decimal, a product with a power
of ten (`Converts`), so each undoes the other: an amount in units that has a decimal is the number
of units of that decimal, whatever the number of places of its token (`toUnits_ofUnits`), and an
amount that has units is the decimal of those units (`ofUnits_toUnits`). The one exception is the
largest word of a token with eighteen places, which turns into infinity.

The power of ten between the scales wraps around for tokens with many places, but it stays positive
and even, and nothing else is needed of it for the way there and back. Whether the amounts on both
sides are the same is another question: up to ninety-five places they are, beyond them only a zero
is (`units_exact_iff`).
-/

set_option autoImplicit false

namespace Cdp.Decimal

variable {units : Word} {decimals : UInt8} {d : Decimal}

/-! ## The power between the scales -/

theorem toNat_powerOfTen (exponent : Nat) :
    (powerOfTen exponent).toNat = 10 ^ exponent % Word.size := rfl

theorem toNat_powerOfTen_of_le {exponent : Nat} (h : exponent ≤ 77) :
    (powerOfTen exponent).toNat = 10 ^ exponent := by
  have hlt : 10 ^ 77 < Word.size := by decide
  rw [toNat_powerOfTen]
  apply Nat.mod_eq_of_lt
  exact Nat.lt_of_le_of_lt (Nat.pow_le_pow_right (by decide) h) hlt

theorem two_dvd_powerOfTen (exponent : Nat) (h : exponent ≠ 0) :
    2 ∣ (powerOfTen exponent).toNat := by
  have hten : 2 ∣ 10 ^ exponent := dvd_pow (by decide) h
  rw [toNat_powerOfTen]
  exact (Nat.dvd_mod_iff (by decide)).2 hten

theorem powerOfTen_pos (exponent : Nat) (h : exponent < 256) :
    0 < (powerOfTen exponent).toNat := by
  rw [toNat_powerOfTen, Nat.pos_iff_ne_zero, Ne, ← Nat.dvd_iff_mod_eq_zero]
  intro hdvd
  have hsize : Word.size = 2 ^ 256 := by decide
  have hsplit : 10 ^ exponent = 2 ^ exponent * 5 ^ exponent := Nat.mul_pow 2 5 exponent
  have hcoprime : Nat.Coprime (2 ^ 256) (5 ^ exponent) := Nat.Coprime.pow _ _ (by decide)
  rw [hsize, hsplit] at hdvd
  have hle := (Nat.pow_dvd_pow_iff_le_right (by decide)).1 (hcoprime.dvd_of_dvd_mul_right hdvd)
  omega

/-! ## What the conversions test -/

/-- An amount in the units of a token with `decimals` places against a decimal, as both conversions
compare them: the one with fewer places is multiplied. -/
def Converts (units : Word) (decimals : UInt8) (d : Decimal) : Prop :=
  if decimals.toNat ≤ places then
    d.rawNat = units.toNat * (powerOfTen (places - decimals.toNat)).toNat
  else units.toNat = d.rawNat * (powerOfTen (decimals.toNat - places)).toNat

/-- A quotient that is given without a remainder only is the other factor. -/
theorem quotient_eq_ok_iff {α ε : Type} (value : α → Nat) {n divisor : Nat} {e : ε} {a b : α}
    (hext : value a = value b → a = b) (ha : value a = n / divisor) (hpos : 0 < divisor) :
    (if n % divisor ≠ 0 then .error e else .ok a : Except ε α) = .ok b ↔
      n = value b * divisor := by
  split
  · rename_i hmod
    refine ⟨nofun, ?_⟩
    rintro rfl
    exact absurd (Nat.mul_mod_left _ _) hmod
  · rename_i hmod
    rw [Except.ok.injEq]
    constructor
    · rintro rfl
      rw [ha, Nat.div_mul_cancel (Nat.dvd_of_mod_eq_zero (Decidable.not_not.1 hmod))]
    · rintro rfl
      apply hext
      rw [ha, Nat.mul_div_cancel _ hpos]

theorem ofUnits_eq_ok_iff : ofUnits units decimals = .ok d ↔ Converts units decimals d := by
  have hlt := decimals.toNat_lt
  rw [ofUnits, Converts]
  split
  · rw [@eq_comm Nat d.rawNat, ← ofRaw?_eq_some_iff]
    split
    · rename_i hraw
      simp [hraw]
    · rename_i hraw
      simp [hraw]
  · have hpos := powerOfTen_pos (decimals.toNat - places) (by omega)
    exact quotient_eq_ok_iff rawNat ext rfl hpos

/-- Infinity has no units, whatever the token. -/
theorem lt_infinity_of_toUnits (h : d.toUnits decimals = .ok units) : d < infinity := by
  apply isInfinite_eq_false_iff.1
  cases hinfinite : d.isInfinite with
  | false => rfl
  | true =>
    rw [toUnits, hinfinite, if_pos rfl] at h
    cases h

theorem toUnits_of_finite (hd : d < infinity) :
    d.toUnits decimals = .ok units ↔ Converts units decimals d := by
  rw [toUnits, isInfinite_eq_false_iff.2 hd, if_neg Bool.false_ne_true, Converts]
  split
  · have hpos := powerOfTen_pos (places - decimals.toNat) (by simp only [places]; omega)
    exact quotient_eq_ok_iff Word.toNat Word.ext rfl hpos
  · rw [@eq_comm Nat units.toNat, ← Word.ofNat?_eq_some_iff]
    split
    · rename_i hword
      simp [hword]
    · rename_i hword
      simp [hword]

/-- The units of a decimal are those that the other conversion would take, and infinity has none. -/
theorem toUnits_eq_ok_iff :
    d.toUnits decimals = .ok units ↔ d < infinity ∧ Converts units decimals d := by
  constructor
  · intro h
    have hd := lt_infinity_of_toUnits h
    exact ⟨hd, (toUnits_of_finite hd).1 h⟩
  · rintro ⟨hd, h⟩
    exact (toUnits_of_finite hd).2 h

/-- Zero is zero units of every token. -/
theorem toUnits_zero (decimals : UInt8) : zero.toUnits decimals = .ok .zero := by
  have hraw : zero.rawNat = 0 := rfl
  have hword : Word.zero.toNat = 0 := rfl
  rw [toUnits_eq_ok_iff, Converts, hraw, hword]
  refine ⟨by decide, ?_⟩
  split
  · exact (Nat.zero_mul _).symm
  · exact (Nat.zero_mul _).symm

/-! ## There and back -/

theorem isInfinite_eq_false_of_two_dvd (h : 2 ∣ d.rawNat) : d.isInfinite = false := by
  rw [isInfinite, beq_eq_false_iff_ne]
  simp only [Word.size]
  omega

/-- An amount that units turn into is not infinite. -/
theorem isInfinite_ofUnits (h : ofUnits units decimals = .ok d)
    (hmax : decimals.toNat = places → units ≠ .max) : d.isInfinite = false := by
  have hlt := decimals.toNat_lt
  rw [ofUnits_eq_ok_iff, Converts] at h
  split at h
  · by_cases heq : decimals.toNat = places
    · -- the scales agree, and only the largest word is infinite
      have hone : (powerOfTen (places - decimals.toNat)).toNat = 1 := by rw [heq]; rfl
      rw [hone, Nat.mul_one] at h
      rw [isInfinite, beq_eq_false_iff_ne, h]
      exact fun hw => hmax heq (Word.ext hw)
    · -- the power of ten is even, and the raw value of infinity is odd
      have hne : places - decimals.toNat ≠ 0 := by omega
      exact isInfinite_eq_false_of_two_dvd (h ▸ (two_dvd_powerOfTen _ hne).mul_left _)
  · -- a word is at least twice the decimal
    have hdvd := two_dvd_powerOfTen (decimals.toNat - places) (by omega)
    have hpos := powerOfTen_pos (decimals.toNat - places) (by omega)
    have hdouble := Nat.mul_le_mul_left d.rawNat (Nat.le_of_dvd hpos hdvd)
    have hunits := units.toNat_lt
    rw [isInfinite, beq_eq_false_iff_ne]
    simp only [Word.size] at hunits ⊢
    omega

/-- An amount in units that has a decimal is the number of units of that decimal. -/
theorem toUnits_ofUnits (h : ofUnits units decimals = .ok d)
    (hmax : decimals.toNat = places → units ≠ .max) : d.toUnits decimals = .ok units := by
  rw [toUnits_eq_ok_iff]
  exact ⟨isInfinite_eq_false_iff.1 (isInfinite_ofUnits h hmax), ofUnits_eq_ok_iff.1 h⟩

/-- An amount that has units is the decimal of those units. Nothing is rounded on the way: the
division leaves no remainder, and the multiplication does not leave the range of words. -/
theorem ofUnits_toUnits (h : d.toUnits decimals = .ok units) : ofUnits units decimals = .ok d :=
  ofUnits_eq_ok_iff.2 (toUnits_eq_ok_iff.1 h).2

/-- The largest word of a token with eighteen places is the one amount that turns into infinity. -/
theorem ofUnits_eq_infinity_iff :
    ofUnits units decimals = .ok infinity ↔ decimals.toNat = 18 ∧ units = .max := by
  constructor
  · intro h
    by_contra hother
    have hfinite := isInfinite_ofUnits h fun heq hmax => hother ⟨heq, hmax⟩
    exact absurd hfinite (by decide)
  · rintro ⟨heq, rfl⟩
    have hplaces : decimals.toNat ≤ places := Nat.le_of_eq heq
    rw [ofUnits_eq_ok_iff, Converts, if_pos hplaces, heq]
    rfl

/-! ## The same amount -/

/-- A decimal and an amount in the units of a token are the same finite number. -/
def SameAmount (units : Word) (decimals : UInt8) (d : Decimal) : Prop :=
  d < infinity ∧ d.rawNat * 10 ^ decimals.toNat = units.toNat * 10 ^ 18

/-- What the power of ten between the scales is taken for, beyond eighteen places. -/
def wrappedPower (decimals : UInt8) : Nat := 10 ^ (decimals.toNat - 18) % 2 ^ 256

/-- As long as no power of ten wraps around, the conversions compare the numbers themselves. -/
theorem converts_iff_of_le (h : decimals.toNat ≤ 95) :
    Converts units decimals d ↔ d.rawNat * 10 ^ decimals.toNat = units.toNat * 10 ^ 18 := by
  rw [Converts]
  split
  · rename_i hplaces
    have hsplit : 10 ^ 18 = 10 ^ (places - decimals.toNat) * 10 ^ decimals.toNat := by
      rw [← Nat.pow_add, Nat.sub_add_cancel hplaces, places]
    rw [toNat_powerOfTen_of_le (by simp only [places]; omega), hsplit, ← Nat.mul_assoc,
      Nat.mul_left_inj (Nat.pow_pos (by decide)).ne']
  · rename_i hplaces
    have hsplit : 10 ^ decimals.toNat = 10 ^ (decimals.toNat - places) * 10 ^ 18 := by
      rw [← Nat.pow_add, ← places, Nat.sub_add_cancel (Nat.le_of_not_le hplaces)]
    rw [toNat_powerOfTen_of_le (by simp only [places]; omega), hsplit, ← Nat.mul_assoc,
      Nat.mul_left_inj (by decide), eq_comm]

/-- Beyond ninety-five places a word holds no whole unit of the last decimal place. -/
theorem sameAmount_iff_of_lt (h : 95 < decimals.toNat) :
    SameAmount units decimals d ↔ units = .zero ∧ d = zero := by
  constructor
  · rintro ⟨-, hsame⟩
    have hsplit : 10 ^ decimals.toNat = 10 ^ (decimals.toNat - 18) * 10 ^ 18 := by
      rw [← Nat.pow_add, Nat.sub_add_cancel (by omega)]
    rw [hsplit, ← Nat.mul_assoc, Nat.mul_left_inj (by decide)] at hsame
    have hpower : Word.size ≤ 10 ^ (decimals.toNat - 18) := by
      calc Word.size ≤ 10 ^ 78 := by decide
        _ ≤ 10 ^ (decimals.toNat - 18) := Nat.pow_le_pow_right (by decide) (by omega)
    have hzero : d.rawNat = 0 := by
      by_contra hne
      have hle := Nat.le_mul_of_pos_left (10 ^ (decimals.toNat - 18)) (Nat.pos_of_ne_zero hne)
      have hunits := units.toNat_lt
      omega
    rw [hzero, Nat.zero_mul] at hsame
    exact ⟨Word.ext hsame.symm, ext hzero⟩
  · rintro ⟨rfl, rfl⟩
    refine ⟨by decide, ?_⟩
    rw [rawNat_zero, Word.toNat_zero, Nat.zero_mul, Nat.zero_mul]

theorem converts_iff_of_lt (h : 95 < decimals.toNat) :
    Converts units decimals d ↔ units.toNat = d.rawNat * wrappedPower decimals := by
  rw [Converts, if_neg (by simp only [places]; omega)]
  rfl

theorem wrappedPower_pos (h : 95 < decimals.toNat) : 0 < wrappedPower decimals := by
  have hlt := decimals.toNat_lt
  exact powerOfTen_pos (decimals.toNat - 18) (by omega)

/-- Where an amount in units is converted exactly: to the decimal that is the same number if there
is one, and refused otherwise. It is not for the largest word of a token with eighteen places, which
becomes infinity, and for a multiple of the wrapped power of a token with more than ninety-five
places, which becomes a decimal that is not the same number. -/
theorem ofUnits_exact_iff (units : Word) (decimals : UInt8) :
    (∀ d, ofUnits units decimals = .ok d ↔ SameAmount units decimals d) ↔
      ¬(decimals.toNat = 18 ∧ units = .max) ∧
        ¬(95 < decimals.toNat ∧ units ≠ .zero ∧ wrappedPower decimals ∣ units.toNat) := by
  constructor
  · intro hexact
    constructor
    · intro hmax
      obtain ⟨hfinite, -⟩ := (hexact infinity).1 (ofUnits_eq_infinity_iff.2 hmax)
      exact Nat.lt_irrefl _ hfinite
    · rintro ⟨hmany, hne, quotient, hquotient⟩
      -- the quotient is a word, so the code answers with it
      have hle := Nat.le_mul_of_pos_left quotient (wrappedPower_pos hmany)
      have hword : quotient < Word.size := by
        have hunits := units.toNat_lt
        omega
      have hconverts : Converts units decimals ⟨⟨quotient, hword⟩⟩ := by
        rw [converts_iff_of_lt hmany, hquotient, Nat.mul_comm]
        rfl
      have hsame := (hexact _).1 (ofUnits_eq_ok_iff.2 hconverts)
      exact hne ((sameAmount_iff_of_lt hmany).1 hsame).1
  · rintro ⟨hmax, hwrapped⟩ d
    rw [ofUnits_eq_ok_iff]
    rcases Nat.lt_or_ge 95 decimals.toNat with hmany | hfew
    · rw [sameAmount_iff_of_lt hmany, converts_iff_of_lt hmany]
      constructor
      · intro h
        have hzero : units = .zero := by
          by_contra hne
          exact hwrapped ⟨hmany, hne, d.rawNat, h.trans (Nat.mul_comm _ _)⟩
        subst hzero
        rcases Nat.mul_eq_zero.1 h.symm with hd | hpower
        · exact ⟨rfl, ext hd⟩
        · exact absurd hpower (wrappedPower_pos hmany).ne'
      · rintro ⟨rfl, rfl⟩
        exact (Nat.zero_mul _).symm
    · rw [converts_iff_of_le hfew, SameAmount, iff_and_self]
      intro hsame
      rcases lt_infinity_or_eq d with hd | rfl
      · exact hd
      · have hconverts := (converts_iff_of_le hfew).2 hsame
        exact absurd (ofUnits_eq_infinity_iff.1 (ofUnits_eq_ok_iff.2 hconverts)) hmax

/-- Where a decimal is expressed in units exactly, and refused if it has none: everywhere, but for a
decimal other than zero whose product with the wrapped power of a token with more than ninety-five
places is a word. -/
theorem toUnits_exact_iff (d : Decimal) (decimals : UInt8) :
    (∀ units, d.toUnits decimals = .ok units ↔ SameAmount units decimals d) ↔
      ¬(95 < decimals.toNat ∧ d < infinity ∧ d ≠ zero ∧
        d.rawNat * wrappedPower decimals < Word.size) := by
  constructor
  · rintro hexact ⟨hmany, hd, hne, hword⟩
    have hconverts : Converts ⟨_, hword⟩ decimals d := (converts_iff_of_lt hmany).2 rfl
    have hsame := (hexact _).1 (toUnits_eq_ok_iff.2 ⟨hd, hconverts⟩)
    exact hne ((sameAmount_iff_of_lt hmany).1 hsame).2
  · intro hwrapped units
    rw [toUnits_eq_ok_iff]
    rcases Nat.lt_or_ge 95 decimals.toNat with hmany | hfew
    · rw [sameAmount_iff_of_lt hmany, converts_iff_of_lt hmany]
      constructor
      · rintro ⟨hd, h⟩
        have hzero : d = zero := by
          by_contra hne
          exact hwrapped ⟨hmany, hd, hne, h ▸ units.toNat_lt⟩
        subst hzero
        rw [rawNat_zero, Nat.zero_mul] at h
        exact ⟨Word.ext h, rfl⟩
      · rintro ⟨rfl, rfl⟩
        exact ⟨by decide, (Nat.zero_mul _).symm⟩
    · rw [converts_iff_of_le hfew, SameAmount]

/-- Conversions are exact or refused up to ninety-five places, the largest word with eighteen of
them apart. Beyond that they are where the wrapped power of ten refuses them or the amount is zero,
and nowhere else. -/
theorem units_exact_iff (units : Word) (d : Decimal) (decimals : UInt8) :
    ((∀ c, ofUnits units decimals = .ok c ↔ SameAmount units decimals c) ↔
      ¬(decimals.toNat = 18 ∧ units = .max) ∧
        ¬(95 < decimals.toNat ∧ units ≠ .zero ∧ wrappedPower decimals ∣ units.toNat)) ∧
    ((∀ w, d.toUnits decimals = .ok w ↔ SameAmount w decimals d) ↔
      ¬(95 < decimals.toNat ∧ d < infinity ∧ d ≠ zero ∧
        d.rawNat * wrappedPower decimals < Word.size)) :=
  ⟨ofUnits_exact_iff units decimals, toUnits_exact_iff d decimals⟩

/-- It is not true that every conversion is exact or refused: with ninety-six places the power
between the scales wraps around, and as many units as it is taken for turn into the last decimal
place. -/
theorem ninetySixPlaces_not_exact :
    ¬∀ (units : Word) (decimals : UInt8) (d : Decimal),
      (ofUnits units decimals = .ok d ↔ SameAmount units decimals d) ∧
        (d.toUnits decimals = .ok units ↔ SameAmount units decimals d) := by
  intro hexact
  have hunit : ofUnits (powerOfTen 78) 96 = .ok ⟨⟨1, by decide⟩⟩ := by decide
  obtain ⟨-, hsame⟩ := (hexact _ _ _).1.1 hunit
  exact absurd hsame (by decide)

end Cdp.Decimal
