import Cdp.Attempt

/-!
# Counters

Block numbers, timestamps, amounts of gas, nonces and counts are 64-bit numbers. A sum or product
that does not fit either faults or stops at the largest counter, as the operation's name says.
-/

set_option autoImplicit false

namespace Cdp.Counter

/-- The counter of a number, or a fault. -/
def ofNat (n : Nat) : Except Fault UInt64 :=
  if n < UInt64.size then .ok (UInt64.ofNat n) else .error .counter

def add (a b : UInt64) : Except Fault UInt64 := ofNat (a.toNat + b.toNat)

def mul (a b : UInt64) : Except Fault UInt64 := ofNat (a.toNat * b.toNat)

/-- The counter of a number, or the largest counter. -/
def clamp (n : Nat) : UInt64 := UInt64.ofNat (min n (UInt64.size - 1))

def saturatingAdd (a b : UInt64) : UInt64 := clamp (a.toNat + b.toNat)

/-- The difference, or zero where it would be negative. -/
def saturatingSub (a b : UInt64) : UInt64 := UInt64.ofNat (a.toNat - b.toNat)

theorem ofNat_eq_ok_iff {n : Nat} {c : UInt64} : ofNat n = .ok c ↔ n = c.toNat := by
  by_cases h : n < UInt64.size
  · rw [ofNat, if_pos h]
    constructor
    · intro e
      cases e
      exact (UInt64.toNat_ofNat_of_lt' h).symm
    · rintro rfl
      rw [UInt64.ofNat_toNat]
  · rw [ofNat, if_neg h]
    constructor
    · intro e
      cases e
    · rintro rfl
      exact absurd c.toNat_lt h

theorem toNat_clamp (n : Nat) : (clamp n).toNat = min n (UInt64.size - 1) :=
  UInt64.toNat_ofNat_of_lt' (Nat.lt_of_le_of_lt (Nat.min_le_right _ _) (by decide))

theorem toNat_saturatingSub (a b : UInt64) : (saturatingSub a b).toNat = a.toNat - b.toNat :=
  UInt64.toNat_ofNat_of_lt' (Nat.lt_of_le_of_lt (Nat.sub_le _ _) a.toNat_lt)

end Cdp.Counter
