import Cdp.Decimal.Basic

/-!
# Checked arithmetic and order

On finite decimals the checked operations are the operations on raw values with a bound on the
result (`checkedAdd_eq_some_iff`, `checkedMul_eq_some_iff`), and they are monotone: with smaller
operands an operation that had a result has one again, and a smaller one. Infinity is outside of
these statements, because it absorbs what would overflow beside it.
-/

set_option autoImplicit false

namespace Cdp.Decimal

variable {a a' b b' c : Decimal}

theorem rawNat_mk {n : Nat} (h : n < Word.size) : (⟨⟨n, h⟩⟩ : Decimal).rawNat = n := rfl

@[simp] theorem rawNat_zero : zero.rawNat = 0 := rfl

@[simp] theorem rawNat_one : one.rawNat = scale := rfl

@[simp] theorem rawNat_infinity : infinity.rawNat = Word.size - 1 := rfl

theorem le_refl (a : Decimal) : a ≤ a := Nat.le_refl _

theorem le_trans (h : a ≤ b) (k : b ≤ c) : a ≤ c := Nat.le_trans h k

theorem zero_le (a : Decimal) : zero ≤ a := Nat.zero_le _

theorem le_infinity (a : Decimal) : a ≤ infinity := Word.toNat_le_max a.raw

theorem min_le_min_right (h : a ≤ b) (c : Decimal) : min a c ≤ min b c := by
  rw [min_def, min_def]
  simp only [le_def] at h ⊢
  split <;> split <;> omega

theorem min_le_right (a b : Decimal) : min a b ≤ b := by
  rw [min_def]
  split
  · assumption
  · exact le_refl b

theorem le_min (hab : a ≤ b) (hac : a ≤ c) : a ≤ min b c := by
  rw [min_def]
  split
  · exact hab
  · exact hac

theorem isInfinite_eq_false_iff : a.isInfinite = false ↔ a < infinity := by
  have hlt := a.rawNat_lt
  rw [lt_def, rawNat_infinity, isInfinite, beq_eq_false_iff_ne]
  omega

theorem isZero_eq_false_iff : a.isZero = false ↔ 0 < a.rawNat := by
  rw [isZero, beq_eq_false_iff_ne]
  omega

theorem lt_infinity_of_le (h : a ≤ b) (hb : b < infinity) : a < infinity :=
  Nat.lt_of_le_of_lt h hb

theorem lt_infinity_or_eq (a : Decimal) : a < infinity ∨ a = infinity := by
  rw [← isInfinite_eq_false_iff, ← isInfinite_iff]
  cases a.isInfinite <;> simp

/-! ## Sums -/

theorem checkedAdd_eq_some_iff (ha : a < infinity) (hb : b < infinity) :
    checkedAdd a b = some c ↔ a.rawNat + b.rawNat = c.rawNat ∧ c < infinity := by
  rw [checkedAdd, isInfinite_eq_false_iff.2 ha, isInfinite_eq_false_iff.2 hb, Bool.or_self,
    if_neg (by decide), Option.filter_eq_some_iff, ofRaw?_eq_some_iff, Bool.not_eq_true',
    isInfinite_eq_false_iff]

theorem checkedAdd_infinity (a : Decimal) : checkedAdd a infinity = some infinity := by
  rw [checkedAdd, isInfinite_iff.2 rfl, Bool.or_true, if_pos rfl]

theorem infinity_checkedAdd (a : Decimal) : checkedAdd infinity a = some infinity := by
  rw [checkedAdd, isInfinite_iff.2 rfl, Bool.true_or, if_pos rfl]

theorem checkedAdd_zero (a : Decimal) : checkedAdd a zero = some a := by
  rcases lt_infinity_or_eq a with ha | rfl
  · exact (checkedAdd_eq_some_iff ha (by decide)).2 ⟨Nat.add_zero _, ha⟩
  · rfl

theorem checkedAdd_mono (ha : a ≤ a') (hb : b ≤ b') (ha' : a' < infinity) (hb' : b' < infinity)
    {c' : Decimal} (h : checkedAdd a' b' = some c') : ∃ c, checkedAdd a b = some c ∧ c ≤ c' := by
  obtain ⟨hsum, hc'⟩ := (checkedAdd_eq_some_iff ha' hb').1 h
  have hle : a.rawNat + b.rawNat ≤ c'.rawNat := by
    rw [← hsum]
    exact Nat.add_le_add ha hb
  refine ⟨⟨⟨a.rawNat + b.rawNat, Nat.lt_of_le_of_lt hle c'.rawNat_lt⟩⟩, ?_, hle⟩
  rw [checkedAdd_eq_some_iff (lt_infinity_of_le ha ha') (lt_infinity_of_le hb hb')]
  exact ⟨rfl, Nat.lt_of_le_of_lt hle hc'⟩

/-- A smaller finite second part gives a sum again, and a smaller one, whatever the first is. -/
theorem checkedAdd_mono_right (hb : b ≤ b') (hb' : b' < infinity) {c' : Decimal}
    (h : checkedAdd a b' = some c') : ∃ c, checkedAdd a b = some c ∧ c ≤ c' := by
  rcases lt_infinity_or_eq a with ha | rfl
  · exact checkedAdd_mono (le_refl a) hb ha hb' h
  · rw [infinity_checkedAdd] at h ⊢
    cases h
    exact ⟨infinity, rfl, le_refl _⟩

theorem le_of_checkedAdd (h : checkedAdd a b = some c) : a ≤ c := by
  rcases lt_infinity_or_eq a with ha | rfl
  · rcases lt_infinity_or_eq b with hb | rfl
    · obtain ⟨hsum, -⟩ := (checkedAdd_eq_some_iff ha hb).1 h
      rw [le_def, ← hsum]
      exact Nat.le_add_right _ _
    · rw [checkedAdd_infinity] at h
      cases h
      exact le_infinity a
  · rw [infinity_checkedAdd] at h
    cases h
    exact le_refl _

/-- A finite sum has finite parts. -/
theorem rawNat_checkedAdd (h : checkedAdd a b = some c) (hc : c < infinity) :
    a.rawNat + b.rawNat = c.rawNat := by
  rcases lt_infinity_or_eq a with ha | rfl
  · rcases lt_infinity_or_eq b with hb | rfl
    · exact ((checkedAdd_eq_some_iff ha hb).1 h).1
    · rw [checkedAdd_infinity] at h
      cases h
      exact absurd hc (Nat.lt_irrefl _)
  · rw [infinity_checkedAdd] at h
    cases h
    exact absurd hc (Nat.lt_irrefl _)

/-! ## Differences -/

theorem checkedSub_eq_some_iff (ha : a < infinity) :
    checkedSub a b = some c ↔ b ≤ a ∧ c.rawNat = a.rawNat - b.rawNat := by
  rw [checkedSub, isInfinite_eq_false_iff.2 ha, Bool.false_and, if_neg (by decide)]
  constructor
  · intro h
    split at h
    · rename_i hle
      exact ⟨hle, (ofRaw?_eq_some_iff.1 h).symm⟩
    · cases h
  · rintro ⟨hle, hc⟩
    rw [if_pos (le_def.1 hle)]
    exact ofRaw?_eq_some_iff.2 hc.symm

theorem rawNat_saturatingSub (ha : a < infinity) (b : Decimal) :
    (saturatingSub a b).rawNat = a.rawNat - b.rawNat := by
  rw [saturatingSub, checkedSub, isInfinite_eq_false_iff.2 ha, Bool.false_and,
    if_neg (by decide)]
  split
  · rename_i hle
    cases hraw : ofRaw? (a.rawNat - b.rawNat) with
    | some c => exact (ofRaw?_eq_some_iff.1 hraw).symm
    | none =>
      have hsize := ofRaw?_eq_none_iff.1 hraw
      have hlt := a.rawNat_lt
      omega
  · rename_i hle
    show 0 = a.rawNat - b.rawNat
    omega

theorem saturatingSub_le (a b : Decimal) : saturatingSub a b ≤ a := by
  rcases lt_infinity_or_eq a with ha | rfl
  · rw [le_def, rawNat_saturatingSub ha]
    exact Nat.sub_le _ _
  · exact le_infinity _

/-! ## Products -/

theorem checkedMul_eq_some_iff (ha : a < infinity) (hb : b < infinity) :
    checkedMul a b = some c ↔
      a.rawNat * b.rawNat < Word.size ∧ c.rawNat = a.rawNat * b.rawNat / scale := by
  by_cases hzero : a.isZero || b.isZero
  · have hproduct : a.rawNat * b.rawNat = 0 := by
      rcases Bool.or_eq_true_iff.1 hzero with h | h <;> rw [isZero_iff] at h <;> subst h <;> simp
    rw [checkedMul, if_pos hzero, hproduct, Option.some.injEq]
    constructor
    · rintro rfl
      exact ⟨by decide, rfl⟩
    · rintro ⟨-, h⟩
      exact (ext (h.trans (Nat.zero_div _))).symm
  · rw [checkedMul, if_neg hzero, isInfinite_eq_false_iff.2 ha, isInfinite_eq_false_iff.2 hb,
      Bool.or_self, if_neg (by decide)]
    simp only [Option.bind_eq_some_iff, Word.ofNat?_eq_some_iff, ofRaw?_eq_some_iff]
    constructor
    · rintro ⟨w, hw, hc⟩
      exact ⟨hw ▸ w.toNat_lt, by rw [← hc, hw]⟩
    · rintro ⟨hlt, hc⟩
      exact ⟨⟨_, hlt⟩, rfl, hc.symm⟩

theorem checkedMul_comm (a b : Decimal) : checkedMul a b = checkedMul b a := by
  rw [checkedMul, checkedMul, Bool.or_comm, Bool.or_comm a.isInfinite, Nat.mul_comm]

theorem checkedMul_infinity (a : Decimal) :
    checkedMul a infinity = some (if a.isZero then zero else infinity) := by
  rw [checkedMul, show infinity.isZero = false from rfl, Bool.or_false, isInfinite_iff.2 rfl,
    Bool.or_true, if_pos rfl]
  split <;> rfl

theorem checkedMul_lt_infinity (ha : a < infinity) (hb : b < infinity)
    (h : checkedMul a b = some c) : c < infinity := by
  obtain ⟨hlt, hc⟩ := (checkedMul_eq_some_iff ha hb).1 h
  rw [lt_def, rawNat_infinity, hc]
  simp only [scale, Word.size] at hlt ⊢
  omega

/-- A smaller finite factor gives a product again, and a smaller one. -/
theorem checkedMul_mono_left (ha : a ≤ a') (ha' : a' < infinity) {c' : Decimal}
    (h : checkedMul a' b = some c') : ∃ c, checkedMul a b = some c ∧ c ≤ c' := by
  have hfin := lt_infinity_of_le ha ha'
  rcases lt_infinity_or_eq b with hb | rfl
  · obtain ⟨hlt, hc'⟩ := (checkedMul_eq_some_iff ha' hb).1 h
    have hle : a.rawNat * b.rawNat ≤ a'.rawNat * b.rawNat := Nat.mul_le_mul_right _ ha
    have hdiv : a.rawNat * b.rawNat / scale ≤ a.rawNat * b.rawNat := Nat.div_le_self _ _
    refine ⟨⟨⟨a.rawNat * b.rawNat / scale, by omega⟩⟩, ?_, ?_⟩
    · rw [checkedMul_eq_some_iff hfin hb]
      exact ⟨Nat.lt_of_le_of_lt hle hlt, rfl⟩
    · rw [le_def, hc']
      exact Nat.div_le_div_right hle
  · rw [checkedMul_infinity] at h ⊢
    cases h
    refine ⟨_, rfl, ?_⟩
    by_cases hzero : a.isZero
    · rw [if_pos hzero]
      exact zero_le _
    · have hpos : 0 < a.rawNat := isZero_eq_false_iff.1 (Bool.eq_false_iff.2 hzero)
      have hpos' : a'.isZero = false := isZero_eq_false_iff.2 (Nat.lt_of_lt_of_le hpos ha)
      rw [if_neg hzero, hpos', if_neg (by decide)]
      exact le_refl _

/-! ## Quotients -/

theorem checkedDiv_eq_some_iff (ha : a < infinity) (hb : b < infinity) (hpos : 0 < b.rawNat) :
    checkedDiv a b = some c ↔
      a.rawNat * scale < Word.size ∧ c.rawNat = a.rawNat * scale / b.rawNat := by
  rw [checkedDiv, isZero_eq_false_iff.2 hpos, isInfinite_eq_false_iff.2 ha,
    isInfinite_eq_false_iff.2 hb, if_neg (by decide), if_neg (by decide), if_neg (by decide)]
  simp only [Option.bind_eq_some_iff, Word.ofNat?_eq_some_iff, ofRaw?_eq_some_iff]
  constructor
  · rintro ⟨w, hw, hc⟩
    exact ⟨hw ▸ w.toNat_lt, by rw [← hc, hw]⟩
  · rintro ⟨hlt, hc⟩
    exact ⟨⟨_, hlt⟩, rfl, hc.symm⟩

/-- The scaled numerator ends in zeros, so it stays below the largest word. -/
theorem checkedDiv_lt_infinity (ha : a < infinity) (hb : b < infinity) (hpos : 0 < b.rawNat)
    (h : checkedDiv a b = some c) : c < infinity := by
  obtain ⟨hlt, hc⟩ := (checkedDiv_eq_some_iff ha hb hpos).1 h
  have hle : c.rawNat ≤ a.rawNat * scale := by
    rw [hc]
    exact Nat.div_le_self _ _
  rw [lt_def, rawNat_infinity]
  simp only [scale, Word.size] at hlt hle ⊢
  omega

/-- A smaller finite number gives a quotient again, and a smaller one. -/
theorem checkedDiv_mono_left (ha : a ≤ a') (ha' : a' < infinity) (hb : b < infinity)
    (hpos : 0 < b.rawNat) {c' : Decimal} (h : checkedDiv a' b = some c') :
    ∃ c, checkedDiv a b = some c ∧ c ≤ c' := by
  obtain ⟨hlt, hc'⟩ := (checkedDiv_eq_some_iff ha' hb hpos).1 h
  have hscaled : a.rawNat * scale ≤ a'.rawNat * scale := Nat.mul_le_mul_right _ ha
  have hle : a.rawNat * scale / b.rawNat ≤ c'.rawNat := by
    rw [hc']
    exact Nat.div_le_div_right hscaled
  refine ⟨⟨⟨a.rawNat * scale / b.rawNat, Nat.lt_of_le_of_lt hle c'.rawNat_lt⟩⟩, ?_, hle⟩
  rw [checkedDiv_eq_some_iff (lt_infinity_of_le ha ha') hb hpos]
  exact ⟨Nat.lt_of_le_of_lt hscaled hlt, rfl⟩

theorem checkedDiv_of_infinite (hpos : 0 < b.rawNat) : checkedDiv infinity b = some infinity := by
  rw [checkedDiv, isZero_eq_false_iff.2 hpos, if_neg (by decide), isInfinite_iff.2 rfl, if_pos rfl]

theorem checkedDiv_infinity (ha : a < infinity) : checkedDiv a infinity = some zero := by
  rw [checkedDiv, isInfinite_eq_false_iff.2 ha]
  rfl

/-- Only a finite number has a finite quotient. -/
theorem lt_infinity_of_checkedDiv (hpos : 0 < b.rawNat) (h : checkedDiv a b = some c)
    (hc : c < infinity) : a < infinity := by
  rcases lt_infinity_or_eq a with ha | rfl
  · exact ha
  · rw [checkedDiv_of_infinite hpos] at h
    cases h
    exact absurd hc (Nat.lt_irrefl _)

end Cdp.Decimal
