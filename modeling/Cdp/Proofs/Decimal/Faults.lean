import Cdp.Proofs.Attempt
import Cdp.Proofs.Decimal.Order

/-!
# Operators that break off

A decimal operator breaks off where its exact result, or the scaled numerator of a quotient, leaves
the range of words. Infinite operands never make it do so: they absorb what they meet. A sum of a
list breaks off where the amounts before the first infinite one are too much together
(`sum_breaks_iff`).
-/

set_option autoImplicit false

namespace Cdp.Decimal

variable {a b c : Decimal} {fault : Fault}

/-- An operation that gives one raw value under a condition, and nothing else, gives nothing where
the condition fails. -/
theorem eq_none_iff_of_some_iff {o : Option Decimal} {P : Prop} {n : Nat} (hn : P → n < Word.size)
    (h : ∀ c, o = some c ↔ P ∧ c.rawNat = n) : o = none ↔ ¬P := by
  rw [Option.eq_none_iff_forall_ne_some]
  constructor
  · intro hnone hP
    exact hnone ⟨⟨n, hn hP⟩⟩ ((h _).2 ⟨hP, rfl⟩)
  · intro hP c hc
    exact hP ((h c).1 hc).1

/-- Two finite amounts are too much together. -/
theorem checkedAdd_eq_none_iff :
    checkedAdd a b = none ↔ a < infinity ∧ b < infinity ∧ Word.size - 1 ≤ a.rawNat + b.rawNat := by
  rcases lt_infinity_or_eq a with ha | rfl
  · rcases lt_infinity_or_eq b with hb | rfl
    · have hsome : ∀ c, checkedAdd a b = some c ↔
          a.rawNat + b.rawNat < Word.size - 1 ∧ c.rawNat = a.rawNat + b.rawNat := by
        intro c
        rw [checkedAdd_eq_some_iff ha hb, lt_def, rawNat_infinity]
        constructor
        · rintro ⟨hsum, hc⟩
          exact ⟨hsum ▸ hc, hsum.symm⟩
        · rintro ⟨hlt, hc⟩
          exact ⟨hc.symm, hc ▸ hlt⟩
      rw [eq_none_iff_of_some_iff (fun h => Nat.lt_of_lt_of_le h (Nat.sub_le _ _)) hsome,
        Nat.not_lt]
      exact ⟨fun h => ⟨ha, hb, h⟩, fun h => h.2.2⟩
    · rw [checkedAdd_infinity]
      exact ⟨nofun, fun h => absurd h.2.1 (Nat.lt_irrefl _)⟩
  · rw [infinity_checkedAdd]
    exact ⟨nofun, fun h => absurd h.1 (Nat.lt_irrefl _)⟩

/-- The subtrahend is the larger. -/
theorem checkedSub_eq_none_iff : checkedSub a b = none ↔ a < b := by
  rcases lt_infinity_or_eq a with ha | rfl
  · have hword : b ≤ a → a.rawNat - b.rawNat < Word.size := fun _ =>
      Nat.lt_of_le_of_lt (Nat.sub_le _ _) a.rawNat_lt
    rw [eq_none_iff_of_some_iff hword fun c => checkedSub_eq_some_iff ha, le_def, lt_def,
      Nat.not_le]
  · -- infinity less infinity is zero, and less anything else it is infinity
    constructor
    · intro h
      rw [checkedSub] at h
      split at h
      · cases h
      · rw [if_pos (le_def.1 (le_infinity b))] at h
        have hsize := ofRaw?_eq_none_iff.1 h
        have hlt := infinity.rawNat_lt
        omega
    · intro h
      exact absurd h (Nat.not_lt.2 (le_infinity b))

theorem exists_checkedSub (h : b ≤ a) : ∃ c, checkedSub a b = some c := by
  cases hsub : checkedSub a b with
  | none => exact absurd (checkedSub_eq_none_iff.1 hsub) (Nat.not_lt.2 h)
  | some c => exact ⟨c, rfl⟩

theorem exists_sub_eq_ok (h : b ≤ a) : ∃ c, a.sub b = .ok c :=
  (exists_checkedSub h).imp fun _ => sub_eq_ok_iff.2

/-- The product of the raw values of two finite amounts does not fit a word. -/
theorem checkedMul_eq_none_iff :
    checkedMul a b = none ↔ a < infinity ∧ b < infinity ∧ Word.size ≤ a.rawNat * b.rawNat := by
  rcases lt_infinity_or_eq b with hb | rfl
  · rcases lt_infinity_or_eq a with ha | rfl
    · rw [eq_none_iff_of_some_iff (fun h => Nat.lt_of_le_of_lt (Nat.div_le_self _ _) h)
        fun c => checkedMul_eq_some_iff ha hb, Nat.not_lt]
      exact ⟨fun h => ⟨ha, hb, h⟩, fun h => h.2.2⟩
    · rw [checkedMul_comm, checkedMul_infinity]
      exact ⟨nofun, fun h => absurd h.1 (Nat.lt_irrefl _)⟩
  · rw [checkedMul_infinity]
    exact ⟨nofun, fun h => absurd h.2.1 (Nat.lt_irrefl _)⟩

/-- The scaled numerator of a quotient of finite numbers does not fit a word. -/
theorem checkedDiv_eq_none_iff (hpos : 0 < b.rawNat) :
    checkedDiv a b = none ↔ a < infinity ∧ b < infinity ∧ Word.size ≤ a.rawNat * scale := by
  rcases lt_infinity_or_eq a with ha | rfl
  · rcases lt_infinity_or_eq b with hb | rfl
    · rw [eq_none_iff_of_some_iff (fun h => Nat.lt_of_le_of_lt (Nat.div_le_self _ _) h)
        fun c => checkedDiv_eq_some_iff ha hb hpos, Nat.not_lt]
      exact ⟨fun h => ⟨ha, hb, h⟩, fun h => h.2.2⟩
    · rw [checkedDiv_infinity ha]
      exact ⟨nofun, fun h => absurd h.2.1 (Nat.lt_irrefl _)⟩
  · rw [checkedDiv_of_infinite hpos]
    exact ⟨nofun, fun h => absurd h.1 (Nat.lt_irrefl _)⟩

/-! ## Operators

Where each operator breaks off, and what is known of its value. -/

section Operators

variable {ε : Type}

theorem ends_add : Attempt.Ends (a < infinity ∧ b < infinity ∧ Word.size - 1 ≤ a.rawNat + b.rawNat)
    (fun c => checkedAdd a b = some c) (Attempt.ofFaulty (a.add b) : Attempt ε Decimal) :=
  (Attempt.ends_faulty fun _ h => checkedAdd_eq_none_iff.1 (guard_eq_error_iff.1 h).1).mono id
    fun _ _ => add_eq_ok_iff.1

theorem ends_sub : Attempt.Ends (a < b) (fun c => checkedSub a b = some c)
    (Attempt.ofFaulty (a.sub b) : Attempt ε Decimal) :=
  (Attempt.ends_faulty fun _ h => checkedSub_eq_none_iff.1 (guard_eq_error_iff.1 h).1).mono id
    fun _ _ => sub_eq_ok_iff.1

theorem ends_mul : Attempt.Ends (a < infinity ∧ b < infinity ∧ Word.size ≤ a.rawNat * b.rawNat)
    (fun c => checkedMul a b = some c) (Attempt.ofFaulty (a.mul b) : Attempt ε Decimal) :=
  (Attempt.ends_faulty fun _ h => checkedMul_eq_none_iff.1 (guard_eq_error_iff.1 h).1).mono id
    fun _ _ => mul_eq_ok_iff.1

theorem ends_div (hpos : 0 < b.rawNat) :
    Attempt.Ends (a < infinity ∧ b < infinity ∧ Word.size ≤ a.rawNat * scale)
      (fun c => checkedDiv a b = some c) (Attempt.ofFaulty (a.div b) : Attempt ε Decimal) :=
  (Attempt.ends_faulty fun _ h =>
      (checkedDiv_eq_none_iff hpos).1 (guard_eq_error_iff.1 h).1).mono id
    fun _ _ => div_eq_ok_iff.1

end Operators

/-! ## Sums of lists -/

/-- The raw sum of a list up to its first infinite amount, which absorbs all that follow. -/
def sumToInfinity : List Decimal → Nat
  | [] => 0
  | d :: rest => if d.isInfinite then 0 else d.rawNat + sumToInfinity rest

/-- From infinity on, a sum stays infinite. -/
theorem foldlM_add_infinity (ds : List Decimal) : ds.foldlM add infinity = .ok infinity := by
  induction ds with
  | nil => rfl
  | cons d rest ih =>
    rw [List.foldlM_cons, add, infinity_checkedAdd]
    exact ih

theorem foldlM_add_breaks_iff {ds : List Decimal} (ha : a < infinity) :
    (∃ fault, ds.foldlM add a = .error fault) ↔
      Word.size - 1 ≤ a.rawNat + sumToInfinity ds := by
  induction ds generalizing a with
  | nil =>
    constructor
    · rintro ⟨fault, h⟩
      cases h
    · intro h
      exact absurd ha (Nat.not_lt.2 h)
  | cons d rest ih =>
    rw [List.foldlM_cons, sumToInfinity]
    rcases lt_infinity_or_eq d with hd | rfl
    · rw [isInfinite_eq_false_iff.2 hd, if_neg Bool.false_ne_true]
      cases hsum : checkedAdd a d with
      | none =>
        obtain ⟨-, -, hle⟩ := checkedAdd_eq_none_iff.1 hsum
        constructor
        · intro _
          omega
        · intro _
          exact ⟨.sum a d, bind_eq_error_iff.2 (Or.inl (guard_eq_error_iff.2 ⟨hsum, rfl⟩))⟩
      | some c =>
        obtain ⟨hraw, hc⟩ := (checkedAdd_eq_some_iff ha hd).1 hsum
        rw [← Nat.add_assoc, hraw, ← ih hc, add, hsum]
        rfl
    · rw [isInfinite_iff.2 rfl, if_pos rfl, add, checkedAdd_infinity]
      constructor
      · rintro ⟨fault, h⟩
        have hok : rest.foldlM add infinity = .error fault := h
        rw [foldlM_add_infinity] at hok
        cases hok
      · intro h
        exact absurd ha (Nat.not_lt.2 h)

/-- A sum breaks off where the amounts before the first infinite one are too much together. -/
theorem sum_breaks_iff {ds : List Decimal} :
    (∃ fault, sum ds = .error fault) ↔ Word.size - 1 ≤ sumToInfinity ds := by
  rw [sum, foldlM_add_breaks_iff (by decide), rawNat_zero, Nat.zero_add]

end Cdp.Decimal
