import Cdp.Proofs.Attempt
import Cdp.Proofs.Decimal.Order
import Mathlib.Algebra.Ring.Nat

/-!
# Infinity as the largest value

Infinity has the largest raw value, and what meets it becomes infinite. So where a sum exists,
infinite parts included, it is the sum of the raw values, capped at that of infinity
(`rawNat_checkedAdd_eq`, `rawNat_sum_eq`). In the same way products and quotients that exist are
monotone over all decimals, and not over the finite ones alone.
-/

set_option autoImplicit false

namespace Cdp.Decimal

variable {a a' b c c' d d' : Decimal}

theorem rawNat_le_infinity (a : Decimal) : a.rawNat ≤ infinity.rawNat := le_infinity a

/-! ## Sums -/

/-- Only an infinite part makes a sum infinite. -/
theorem eq_infinity_of_checkedAdd (h : checkedAdd a b = some infinity) :
    a = infinity ∨ b = infinity := by
  rcases lt_infinity_or_eq a with ha | ha
  · rcases lt_infinity_or_eq b with hb | hb
    · exact absurd ((checkedAdd_eq_some_iff ha hb).1 h).2 (Nat.lt_irrefl _)
    · exact Or.inr hb
  · exact Or.inl ha

theorem rawNat_checkedAdd_eq (h : checkedAdd a b = some c) :
    c.rawNat = min (a.rawNat + b.rawNat) infinity.rawNat := by
  rcases lt_infinity_or_eq c with hc | rfl
  · rw [rawNat_checkedAdd h hc, Nat.min_eq_left (rawNat_le_infinity c)]
  · rcases eq_infinity_of_checkedAdd h with rfl | rfl
    · rw [Nat.min_eq_right (Nat.le_add_right _ _)]
    · rw [Nat.min_eq_right (Nat.le_add_left _ _)]

/-- The second part is no more than the sum either. -/
theorem le_of_checkedAdd_right (h : checkedAdd a b = some c) : b ≤ c := by
  have hbound := rawNat_le_infinity b
  rw [le_def, rawNat_checkedAdd_eq h]
  omega

theorem rawNat_foldlM_add_eq {ds : List Decimal} (h : ds.foldlM add a = .ok c) :
    c.rawNat = min (a.rawNat + (ds.map rawNat).sum) infinity.rawNat := by
  refine foldlM_eq_ok_induct
    (P := fun done c => c.rawNat = min (a.rawNat + (done.map rawNat).sum) infinity.rawNat) ?_ ?_ h
  · exact (Nat.min_eq_left (rawNat_le_infinity a)).symm
  · intro done d c c' _ hdone hstep
    rw [rawNat_checkedAdd_eq (add_eq_ok_iff.1 hstep), hdone, List.map_append, List.sum_append]
    simp only [List.map_cons, List.map_nil, List.sum_cons, List.sum_nil]
    omega

theorem rawNat_sum_eq {ds : List Decimal} (h : sum ds = .ok c) :
    c.rawNat = min (ds.map rawNat).sum infinity.rawNat := by
  rw [rawNat_foldlM_add_eq h, rawNat_zero, Nat.zero_add]

theorem le_of_checkedSub (h : checkedSub a b = some c) : c ≤ a := by
  rcases lt_infinity_or_eq a with ha | rfl
  · obtain ⟨-, hraw⟩ := (checkedSub_eq_some_iff ha).1 h
    rw [le_def, hraw]
    exact Nat.sub_le _ _
  · exact le_infinity c

theorem checkedSub_self (a : Decimal) : checkedSub a a = some zero := by
  rcases lt_infinity_or_eq a with ha | rfl
  · exact (checkedSub_eq_some_iff ha).2 ⟨le_refl a, (Nat.sub_self _).symm⟩
  · rfl

theorem infinity_checkedSub (hb : b < infinity) : checkedSub infinity b = some infinity := by
  rw [checkedSub, isInfinite_eq_false_iff.2 hb]
  rfl

/-- Two differences in a row add up to the whole one. -/
theorem checkedAdd_checkedSub {x y z : Decimal} (hx : checkedSub b a = some x)
    (hy : checkedSub c b = some y) (hz : checkedSub c a = some z) : checkedAdd x y = some z := by
  rcases lt_infinity_or_eq c with hc | rfl
  · obtain ⟨hbc, hyraw⟩ := (checkedSub_eq_some_iff hc).1 hy
    obtain ⟨-, hzraw⟩ := (checkedSub_eq_some_iff hc).1 hz
    obtain ⟨hab, hxraw⟩ := (checkedSub_eq_some_iff (lt_infinity_of_le hbc hc)).1 hx
    rw [le_def] at hab hbc
    rw [lt_def] at hc
    have hxfinite : x < infinity := by
      rw [lt_def]
      omega
    have hyfinite : y < infinity := by
      rw [lt_def]
      omega
    rw [checkedAdd_eq_some_iff hxfinite hyfinite, lt_def]
    omega
  · -- the step from a finite number to infinity is infinite, and so is the whole difference
    rcases lt_infinity_or_eq b with hb | rfl
    · have ha := lt_infinity_of_le ((checkedSub_eq_some_iff hb).1 hx).1 hb
      rw [infinity_checkedSub hb] at hy
      rw [infinity_checkedSub ha] at hz
      cases hy
      rw [checkedAdd_infinity, hz]
    · rw [checkedSub_self] at hy
      cases hy
      rw [checkedAdd_zero, ← hx, hz]

/-! ## Products -/

theorem checkedMul_zero (a : Decimal) : checkedMul a zero = some zero := by
  rw [checkedMul, isZero_iff.2 rfl, Bool.or_true, if_pos rfl]

/-- Only zero has a finite product with infinity. -/
theorem eq_zero_of_checkedMul_infinity (h : checkedMul a infinity = some c) (hc : c < infinity) :
    a = zero ∧ c = zero := by
  rw [checkedMul_infinity] at h
  split at h
  · rename_i hzero
    exact ⟨isZero_iff.1 hzero, (Option.some.inj h).symm⟩
  · cases h
    exact absurd hc (Nat.lt_irrefl _)

/-- The larger of two factors has the larger product, infinite or not. -/
theorem checkedMul_le (ha : a ≤ a') (h : checkedMul a b = some c) (h' : checkedMul a' b = some c') :
    c ≤ c' := by
  rcases lt_infinity_or_eq a' with hfinite | rfl
  · obtain ⟨d, hd, hle⟩ := checkedMul_mono_left ha hfinite h'
    obtain rfl : c = d := Option.some.inj (h.symm.trans hd)
    exact hle
  · rw [checkedMul_comm, checkedMul_infinity] at h'
    cases hzero : b.isZero with
    | true =>
      rw [isZero_iff.1 hzero, checkedMul_zero] at h
      cases h
      exact zero_le _
    | false =>
      rw [hzero, if_neg Bool.false_ne_true] at h'
      cases h'
      exact le_infinity _

section Parts

variable {s x y z : Decimal} (hd : checkedAdd a b = some d) (hx : checkedMul s a = some x)
  (hy : checkedMul s b = some y) (hz : checkedMul s d = some z)

include hd hx hy hz

/-- The products with the parts of a sum are part of the product with it. -/
theorem le_of_checkedMul_checkedAdd : x ≤ z ∧ y ≤ z := by
  rw [checkedMul_comm] at hx hy hz
  exact ⟨checkedMul_le (le_of_checkedAdd hd) hx hz, checkedMul_le (le_of_checkedAdd_right hd) hy hz⟩

/-- Where infinity is a factor, the product with a sum is nothing, or one with its parts is infinite
too. -/
theorem checkedMul_checkedAdd_of_infinite (hends : s = infinity ∨ d = infinity) :
    z = zero ∨ x = infinity ∨ y = infinity := by
  rcases hends with rfl | rfl
  · rw [checkedMul_comm] at hx hy hz
    rcases lt_infinity_or_eq x with hxfinite | rfl
    · rcases lt_infinity_or_eq y with hyfinite | rfl
      · obtain ⟨rfl, rfl⟩ := eq_zero_of_checkedMul_infinity hx hxfinite
        obtain ⟨rfl, -⟩ := eq_zero_of_checkedMul_infinity hy hyfinite
        rw [checkedAdd_zero] at hd
        cases hd
        exact Or.inl (Option.some.inj (hz.symm.trans hx))
      · exact Or.inr (Or.inr rfl)
    · exact Or.inr (Or.inl rfl)
  · -- the product with the infinite part is the whole one
    rcases lt_infinity_or_eq z with hzfinite | rfl
    · exact Or.inl (eq_zero_of_checkedMul_infinity hz hzfinite).2
    · rcases eq_infinity_of_checkedAdd hd with rfl | rfl
      · exact Or.inr (Or.inl (Option.some.inj (hx.symm.trans hz)))
      · exact Or.inr (Or.inr (Option.some.inj (hy.symm.trans hz)))

/-- The product with a sum is the sum of the products, capped at infinity, or a raw unit more. -/
theorem rawNat_checkedMul_checkedAdd :
    min (x.rawNat + y.rawNat) infinity.rawNat ≤ z.rawNat ∧
      z.rawNat ≤ x.rawNat + y.rawNat + 1 := by
  obtain ⟨hxz, hyz⟩ := le_of_checkedMul_checkedAdd hd hx hy hz
  rw [le_def] at hxz hyz
  by_cases hends : s = infinity ∨ d = infinity
  · have hbound := rawNat_le_infinity z
    rcases checkedMul_checkedAdd_of_infinite hd hx hy hz hends with rfl | rfl | rfl
    · rw [rawNat_zero] at hxz hyz ⊢
      omega
    · omega
    · omega
  · obtain ⟨hs, hdfinite⟩ := not_or.1 hends
    have hs := (lt_infinity_or_eq s).resolve_right hs
    have hdfinite := (lt_infinity_or_eq d).resolve_right hdfinite
    have hsum := rawNat_checkedAdd hd hdfinite
    have ha := lt_infinity_of_le (le_of_checkedAdd hd) hdfinite
    have hb := lt_infinity_of_le (le_of_checkedAdd_right hd) hdfinite
    rw [((checkedMul_eq_some_iff hs ha).1 hx).2, ((checkedMul_eq_some_iff hs hb).1 hy).2,
      ((checkedMul_eq_some_iff hs hdfinite).1 hz).2, ← hsum, Nat.mul_add]
    simp only [scale]
    omega

end Parts

/-! ## Quotients -/

/-- A larger number over a smaller divisor is a larger quotient, infinite or not. -/
theorem checkedDiv_le (ha : a ≤ a') (hd : d' ≤ d) (hpos : 0 < d'.rawNat)
    (h : checkedDiv a d = some c) (h' : checkedDiv a' d' = some c') : c ≤ c' := by
  have hposd : 0 < d.rawNat := Nat.lt_of_lt_of_le hpos hd
  rcases lt_infinity_or_eq a' with ha' | rfl
  · have hfinite := lt_infinity_of_le ha ha'
    rcases lt_infinity_or_eq d with hdfinite | rfl
    · obtain ⟨-, hraw⟩ := (checkedDiv_eq_some_iff hfinite hdfinite hposd).1 h
      obtain ⟨-, hraw'⟩ :=
        (checkedDiv_eq_some_iff ha' (lt_infinity_of_le hd hdfinite) hpos).1 h'
      rw [le_def, hraw, hraw']
      exact Nat.div_le_div (Nat.mul_le_mul_right _ ha) hd (Nat.ne_of_gt hpos)
    · rw [checkedDiv_infinity hfinite] at h
      cases h
      exact zero_le _
  · rw [checkedDiv_of_infinite hpos] at h'
    cases h'
    exact le_infinity _

theorem rawNat_mulDiv (hpos : 0 < d.rawNat) : (mulDiv a b d).rawNat =
    if a.rawNat * b.rawNat < Word.size then a.rawNat * b.rawNat / d.rawNat
    else infinity.rawNat := by
  rw [mulDiv, isZero_eq_false_iff.2 hpos, if_neg Bool.false_ne_true]
  split
  · rename_i hlt
    have hword : Word.ofNat? (a.rawNat * b.rawNat) = some ⟨_, hlt⟩ :=
      Word.ofNat?_eq_some_iff.2 rfl
    have hraw : a.rawNat * b.rawNat / d.rawNat < Word.size :=
      Nat.lt_of_le_of_lt (Nat.div_le_self _ _) hlt
    have hquotient : ofRaw? (a.rawNat * b.rawNat / d.rawNat) = some ⟨⟨_, hraw⟩⟩ :=
      ofRaw?_eq_some_iff.2 rfl
    rw [hword, Option.bind_some, hquotient]
    rfl
  · rename_i hlt
    rw [Word.ofNat?_eq_none_iff.2 (Nat.not_lt.1 hlt)]
    rfl

/-- The same for a quotient of a product that is cut off once. -/
theorem mulDiv_le (ha : a ≤ a') (hd : d' ≤ d) (hpos : 0 < d'.rawNat) :
    mulDiv a b d ≤ mulDiv a' b d' := by
  have hproduct : a.rawNat * b.rawNat ≤ a'.rawNat * b.rawNat := Nat.mul_le_mul_right _ ha
  have hbound := rawNat_le_infinity (mulDiv a b d)
  rw [le_def, rawNat_mulDiv hpos]
  split
  · rename_i hlt
    rw [rawNat_mulDiv (Nat.lt_of_lt_of_le hpos hd), if_pos (Nat.lt_of_le_of_lt hproduct hlt)]
    exact Nat.div_le_div hproduct hd (Nat.ne_of_gt hpos)
  · exact hbound

end Cdp.Decimal
