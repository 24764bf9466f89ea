import Cdp.Json.TroveForms
import Cdp.Proofs.Decimal.Grammar
import Cdp.Proofs.Decimal.Order
import Mathlib.Algebra.Order.Ring.Nat

/-!
# Writing and reading

What is written for a decimal reads back as the decimal, and what is written with a number of places
reads back as the decimal cut off there (`text_reads_back`). Both sides are compared at a numeral: a
whole part, and digits after the point that stand for a raw value once they are filled up with zeros
(`parse_joinPoint`). Leaving out zeros at the end keeps that value (`filled_dropTrailingZeros`), and
keeping the first digits takes off its remainder by the power of ten that is left out
(`filled_take`).
-/

set_option autoImplicit false

namespace Cdp.Decimal

/-! ## Digits -/

theorem isDigit_of_core {c : Char} (h : c.isDigit = true) : isDigit c = true := by
  rw [isDigit_iff]
  simp only [Char.isDigit, Bool.and_eq_true, decide_eq_true_eq, ge_iff_le,
    UInt32.le_iff_toNat_le] at h
  exact h

theorem digits_toDigits (n : Nat) : Digits (Nat.toDigits 10 n) := fun _ hc =>
  isDigit_of_core (Nat.isDigit_of_mem_toDigits (by decide) (by decide) hc)

theorem digits_append {cs ds : List Char} : Digits (cs ++ ds) ↔ Digits cs ∧ Digits ds :=
  List.forall_mem_append

/-- The number that digits denote has no more digits. -/
theorem ofDigitChars_lt {cs : List Char} (h : Digits cs) :
    Nat.ofDigitChars 10 cs 0 < 10 ^ cs.length := by
  induction cs with
  | nil => exact Nat.zero_lt_one
  | cons c rest ih =>
    obtain ⟨hc, hrest⟩ := List.forall_mem_cons.1 h
    obtain ⟨-, hhigh⟩ := isDigit_iff.1 hc
    have hih := ih hrest
    have hfirst : digitNumber c ≤ 9 := Nat.sub_le_of_le_add hhigh
    rw [ofDigitChars_first, List.length_cons, Nat.pow_succ]
    -- nine of the largest place and a smaller rest stay below the next place
    have hdigit : 10 ^ rest.length * digitNumber c ≤ 10 ^ rest.length * 9 :=
      Nat.mul_le_mul_left _ hfirst
    omega

/-! ## Digits after the point -/

/-- The raw value of digits after the point, filled up with zeros. -/
def filled (fraction : List Char) : Nat :=
  Nat.ofDigitChars 10 fraction 0 * 10 ^ (places - fraction.length)

theorem filled_of_length {cs : List Char} (h : cs.length = places) :
    filled cs = Nat.ofDigitChars 10 cs 0 := by
  rw [filled, h, Nat.sub_self, Nat.pow_zero, Nat.mul_one]

theorem filled_append_zeros {cs : List Char} {k : Nat}
    (h : (cs ++ List.replicate k '0').length ≤ places) :
    filled (cs ++ List.replicate k '0') = filled cs := by
  rw [List.length_append, List.length_replicate] at h
  have hplaces : places - cs.length = k + (places - (cs.length + k)) := by omega
  rw [filled, filled, Nat.ofDigitChars_append, Nat.ofDigitChars_replicate_zero, List.length_append,
    List.length_replicate, hplaces, Nat.pow_add, Nat.mul_comm (10 ^ k), Nat.mul_assoc]

theorem dropTrailingZeros_append (cs : List Char) :
    ∃ k, cs = dropTrailingZeros cs ++ List.replicate k '0' := by
  induction cs with
  | nil => exact ⟨0, rfl⟩
  | cons c rest ih =>
    obtain ⟨k, hk⟩ := ih
    rw [dropTrailingZeros]
    split
    · -- everything behind was zeros, so a zero in this place goes too
      rename_i hnil
      rw [hnil, List.nil_append] at hk
      split
      · rename_i hzero
        exact ⟨k + 1, by rw [hk, hzero]; rfl⟩
      · exact ⟨k, by rw [hk]; rfl⟩
    · exact ⟨k, by rw [List.cons_append, ← hk]⟩

theorem filled_dropTrailingZeros {cs : List Char} (h : cs.length ≤ places) :
    filled (dropTrailingZeros cs) = filled cs := by
  obtain ⟨k, hk⟩ := dropTrailingZeros_append cs
  rw [hk] at h
  rw [← filled_append_zeros h, ← hk]

/-- The digits that are left out denote the remainder. -/
theorem filled_take {cs : List Char} (hcs : Digits cs) (hlength : cs.length = places) {p : Nat}
    (hp : p ≤ places) : filled (cs.take p) = filled cs - filled cs % 10 ^ (places - p) := by
  have hcut := List.take_append_drop p cs
  have htake : (cs.take p).length = p := by
    rw [List.length_take, hlength, Nat.min_eq_left hp]
  have hdrop : (cs.drop p).length = places - p := by
    rw [List.length_drop, hlength]
  have hrest : Nat.ofDigitChars 10 (cs.drop p) 0 < 10 ^ (places - p) := by
    rw [← hdrop]
    exact ofDigitChars_lt (digits_append.1 (hcut ▸ hcs)).2
  -- the digits that stay count units of the first place that is left out
  have hvalue : filled cs = 10 ^ (places - p) * Nat.ofDigitChars 10 (cs.take p) 0 +
      Nat.ofDigitChars 10 (cs.drop p) 0 := by
    rw [filled_of_length hlength, ← hdrop, ← Nat.ofDigitChars_eq_ofDigitChars_zero,
      ← Nat.ofDigitChars_append, hcut]
  rw [hvalue, Nat.mul_add_mod, Nat.mod_eq_of_lt hrest, Nat.add_sub_cancel, filled, htake,
    Nat.mul_comm]

/-! ## Reading a numeral -/

theorem numeral_joinPoint (whole : Nat) {fraction : List Char} (h : Digits fraction) :
    Numeral (joinPoint whole fraction) (Nat.toDigits 10 whole) fraction := by
  have hne : Nat.toDigits 10 whole ≠ [] := Nat.toDigits_ne_nil
  rw [joinPoint]
  split
  · rename_i hempty
    rw [List.isEmpty_iff.1 hempty]
    exact .plain (digits_toDigits whole) hne
  · exact .pointed (digits_toDigits whole) h (Or.inl hne)

theorem not_isBlank_of_isDigit {c : Char} (h : isDigit c = true) : Text.isBlank c = false := by
  obtain ⟨hlow, hhigh⟩ := isDigit_iff.1 h
  simp [Text.isBlank]
  omega

theorem trim_joinPoint {whole : Nat} {fraction : List Char} (h : Digits fraction) :
    Text.trim (joinPoint whole fraction) = joinPoint whole fraction := by
  apply Text.trim_eq_self
  have hwhole : ∀ c ∈ Nat.toDigits 10 whole, Text.isBlank c = false := fun c hc =>
    not_isBlank_of_isDigit (digits_toDigits whole c hc)
  rw [joinPoint]
  split
  · exact hwhole
  · rw [List.forall_mem_append, List.forall_mem_cons]
    exact ⟨hwhole, by decide, fun c hc => not_isBlank_of_isDigit (h c hc)⟩

/-- A numeral reads as the decimal whose raw value its parts stand for. -/
theorem parse_joinPoint {whole : Nat} {fraction : List Char} {d : Decimal}
    (hdigits : Digits fraction) (hlength : fraction.length ≤ places)
    (hraw : whole * scale + filled fraction = d.rawNat) :
    parse (String.ofList (joinPoint whole fraction)) = .ok d := by
  have hvalue : rawOfDigits (Nat.toDigits 10 whole) fraction = d.rawNat := by
    rw [rawOfDigits, Nat.ofDigitChars_ten_toDigits]
    exact hraw
  have hplaces : ¬18 < fraction.length := Nat.not_lt.2 hlength
  rw [parse, String.toList_ofList, trim_joinPoint hdigits,
    parseTrimmed_numeral (numeral_joinPoint whole hdigits), if_neg hplaces, hvalue,
    ofRaw?_eq_some_iff.2 rfl]

/-! ## What is written -/

theorem length_fractionDigits {n : Nat} (h : n < scale) : (fractionDigits n).length = places := by
  have hle : (Nat.toDigits 10 n).length ≤ places :=
    (Nat.length_toDigits_le_iff (by decide) (by decide)).2 h
  rw [fractionDigits, List.length_append, List.length_replicate, Nat.sub_add_cancel hle]

theorem digits_fractionDigits (n : Nat) : Digits (fractionDigits n) := by
  rw [fractionDigits, digits_append]
  constructor
  · intro c hc
    rw [List.eq_of_mem_replicate hc]
    rfl
  · exact digits_toDigits n

theorem filled_fractionDigits {n : Nat} (h : n < scale) : filled (fractionDigits n) = n := by
  rw [filled_of_length (length_fractionDigits h), fractionDigits, Nat.ofDigitChars_append,
    Nat.ofDigitChars_replicate_zero, Nat.mul_zero, Nat.ofDigitChars_ten_toDigits]

theorem parse_toText (d : Decimal) : parse d.toText = .ok d := by
  rcases lt_infinity_or_eq d with hd | rfl
  · have hscale : d.rawNat % scale < scale := Nat.mod_lt _ (by decide)
    have hlength := length_fractionDigits hscale
    obtain ⟨k, hk⟩ := dropTrailingZeros_append (fractionDigits (d.rawNat % scale))
    have hdigits := digits_fractionDigits (d.rawNat % scale)
    have hkept : (dropTrailingZeros (fractionDigits (d.rawNat % scale))).length ≤ places := by
      have hsum := congrArg List.length hk
      rw [hlength, List.length_append] at hsum
      omega
    rw [toText, chars, isInfinite_eq_false_iff.2 hd, if_neg Bool.false_ne_true]
    apply parse_joinPoint
    · exact (digits_append.1 (hk ▸ hdigits)).1
    · exact hkept
    · rw [filled_dropTrailingZeros (Nat.le_of_eq hlength), filled_fractionDigits hscale,
        Nat.div_add_mod']
  · rfl

/-- The decimal with all places from `p` on set to zero. -/
def cutOff (d : Decimal) (p : Nat) : Decimal :=
  ⟨⟨d.rawNat - d.rawNat % 10 ^ (places - min p places),
    Nat.lt_of_le_of_lt (Nat.sub_le _ _) d.rawNat_lt⟩⟩

theorem parse_toTextWith {d : Decimal} (hd : d < infinity) (p : Nat) :
    parse (d.toTextWith p) = .ok (d.cutOff p) := by
  have hscale : d.rawNat % scale < scale := Nat.mod_lt _ (by decide)
  have hlength := length_fractionDigits hscale
  have hdigits := digits_fractionDigits (d.rawNat % scale)
  have hp : min p places ≤ places := Nat.min_le_right _ _
  rw [toTextWith, chars, isInfinite_eq_false_iff.2 hd, if_neg Bool.false_ne_true]
  apply parse_joinPoint
  · exact fun c hc => hdigits c (List.mem_of_mem_take hc)
  · rw [List.length_take, hlength]
    exact Nat.min_le_right _ _
  · -- the unit of the last place divides the scale, so the whole part leaves no remainder
    have hdvd : 10 ^ (places - min p places) ∣ scale := Nat.pow_dvd_pow 10 (Nat.sub_le _ _)
    have hmod : d.rawNat % scale % 10 ^ (places - min p places) =
        d.rawNat % 10 ^ (places - min p places) := Nat.mod_mod_of_dvd _ hdvd
    have hle : d.rawNat % 10 ^ (places - min p places) ≤ d.rawNat % scale :=
      hmod ▸ Nat.mod_le _ _
    rw [filled_take hdigits hlength hp, filled_fractionDigits hscale, hmod,
      ← Nat.add_sub_assoc hle, Nat.div_add_mod']
    rfl

/-- Every decimal is read back from its text and from its form in data, so no two decimals share a
text, and a finite decimal that is written with a number of places is read back cut off toward zero
at that place, or as it is from the last place on. -/
theorem text_reads_back :
    (∀ d : Decimal, parse d.toText = .ok d ∧ JsonRead.read (write d) = some d) ∧
      Function.Injective toText ∧
      ∀ d : Decimal, d < infinity → ∀ p : Nat, ∃ c : Decimal, parse (d.toTextWith p) = .ok c ∧
        c.rawNat = d.rawNat - d.rawNat % 10 ^ (18 - min p 18) := by
  refine ⟨fun d => ⟨parse_toText d, ?_⟩, ?_, ?_⟩
  · show (parse d.toText).toOption = some d
    rw [parse_toText]
    rfl
  · intro a b hab
    have hparse := parse_toText a
    rw [hab, parse_toText] at hparse
    exact (Except.ok.inj hparse).symm
  · intro d hd p
    exact ⟨d.cutOff p, parse_toTextWith hd p, rfl⟩

/-- The largest finite decimal. -/
def largestFinite : Decimal := ⟨⟨Word.size - 2, by decide⟩⟩

/-- The last fifteen places are cut off, and no digit is lost without a number of places. -/
theorem largestFinite_reads_back :
    parse largestFinite.toText = .ok largestFinite ∧ JsonRead.read (write largestFinite) =
        some largestFinite ∧
      largestFinite < infinity ∧ largestFinite.rawNat % 10 ^ 15 = 7913129639934 ∧
      ∃ c : Decimal, parse (largestFinite.toTextWith 3) = .ok c ∧
        c.rawNat = Word.size - 2 - 7913129639934 := by
  obtain ⟨hreads, -, hcut⟩ := text_reads_back
  obtain ⟨htext, hdata⟩ := hreads largestFinite
  have hfinite : largestFinite < infinity := by decide
  obtain ⟨c, hc, hraw⟩ := hcut largestFinite hfinite 3
  exact ⟨htext, hdata, hfinite, by decide, c, hc, hraw⟩

end Cdp.Decimal
