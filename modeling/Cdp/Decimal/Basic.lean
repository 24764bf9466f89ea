import Cdp.Word

/-!
# Decimals

A decimal is an unsigned number with eighteen digits after the point, kept as the word that the
contracts use for it: the number times `Decimal.scale`. The largest word stands for infinity, the
value of a ratio whose denominator is zero. Products and quotients are cut off toward zero.

The checked operations answer `none` where the result does not fit a word. Infinity absorbs what it
meets, except that zero times infinity is zero and a finite number divided by infinity is zero.
-/

set_option autoImplicit false

namespace Cdp

/-- An unsigned number with eighteen decimal places, or infinity. -/
structure Decimal where
  raw : Word
deriving DecidableEq

namespace Decimal

/-- Digits after the point. -/
def places : Nat := 18

/-- The raw value of one, a one and eighteen zeros. -/
abbrev scale : Nat := 1000000000000000000

def zero : Decimal := ⟨.zero⟩
def one : Decimal := ⟨⟨scale, by decide⟩⟩

/-- The value of a ratio with denominator zero. -/
def infinity : Decimal := ⟨.max⟩

instance : Inhabited Decimal := ⟨zero⟩

/-- The raw value as a natural number. -/
def rawNat (d : Decimal) : Nat := d.raw.toNat

theorem ext {a b : Decimal} (h : a.rawNat = b.rawNat) : a = b := by
  cases a
  cases b
  exact congrArg Decimal.mk (Word.ext h)

theorem rawNat_lt (d : Decimal) : d.rawNat < Word.size := d.raw.toNat_lt

/-- The decimal with a raw value, if the value fits a word. -/
def ofRaw? (n : Nat) : Option Decimal := (Word.ofNat? n).map Decimal.mk

theorem ofRaw?_eq_some_iff {n : Nat} {d : Decimal} : ofRaw? n = some d ↔ n = d.rawNat := by
  simp only [ofRaw?, Option.map_eq_some_iff, Word.ofNat?_eq_some_iff]
  constructor
  · rintro ⟨w, rfl, rfl⟩
    rfl
  · intro h
    exact ⟨d.raw, h, rfl⟩

theorem ofRaw?_eq_none_iff {n : Nat} : ofRaw? n = none ↔ Word.size ≤ n := by
  simp only [ofRaw?, Option.map_eq_none_iff, Word.ofNat?_eq_none_iff]

/-- A whole number; every 64-bit count fits. -/
def ofUInt64 (n : UInt64) : Decimal :=
  ⟨⟨n.toNat * scale, by
    have := n.toNat_lt
    simp only [scale, Word.size]
    omega⟩⟩

/-- A number of thousandths. -/
def thousandths (n : UInt8) : Decimal :=
  ⟨⟨n.toNat * scale / 1000, by
    have := n.toNat_lt
    simp only [scale, Word.size]
    omega⟩⟩

def isZero (d : Decimal) : Bool := d.rawNat == 0

def isInfinite (d : Decimal) : Bool := d.rawNat == Word.size - 1

theorem isZero_iff {d : Decimal} : d.isZero = true ↔ d = zero := by
  rw [isZero, beq_iff_eq]
  exact ⟨fun h => ext h, fun h => h ▸ rfl⟩

theorem isInfinite_iff {d : Decimal} : d.isInfinite = true ↔ d = infinity := by
  rw [isInfinite, beq_iff_eq]
  exact ⟨fun h => ext h, fun h => h ▸ rfl⟩

/-! ## Order -/

instance : LT Decimal := ⟨fun a b => a.rawNat < b.rawNat⟩
instance : LE Decimal := ⟨fun a b => a.rawNat ≤ b.rawNat⟩
instance (a b : Decimal) : Decidable (a < b) := inferInstanceAs (Decidable (a.rawNat < b.rawNat))
instance (a b : Decimal) : Decidable (a ≤ b) := inferInstanceAs (Decidable (a.rawNat ≤ b.rawNat))
instance : Ord Decimal := ⟨fun a b => compare a.rawNat b.rawNat⟩
instance : Min Decimal := ⟨fun a b => if a ≤ b then a else b⟩
instance : Max Decimal := ⟨fun a b => if a ≤ b then b else a⟩

theorem lt_def {a b : Decimal} : a < b ↔ a.rawNat < b.rawNat := Iff.rfl

theorem le_def {a b : Decimal} : a ≤ b ↔ a.rawNat ≤ b.rawNat := Iff.rfl

theorem min_def (a b : Decimal) : min a b = if a ≤ b then a else b := rfl

/-! ## Checked arithmetic -/

/-- The sum, unless it reaches the raw value of infinity. -/
def checkedAdd (a b : Decimal) : Option Decimal :=
  if a.isInfinite || b.isInfinite then some infinity
  else (ofRaw? (a.rawNat + b.rawNat)).filter fun sum => !sum.isInfinite

/-- The difference, unless it is negative. -/
def checkedSub (a b : Decimal) : Option Decimal :=
  if a.isInfinite && !b.isInfinite then some infinity
  else if b.rawNat ≤ a.rawNat then ofRaw? (a.rawNat - b.rawNat)
  else none

/-- The difference, or zero where it would be negative. -/
def saturatingSub (a b : Decimal) : Decimal := (checkedSub a b).getD zero

/-- The product, unless the product of the raw values leaves the range of words. -/
def checkedMul (a b : Decimal) : Option Decimal :=
  if a.isZero || b.isZero then some zero
  else if a.isInfinite || b.isInfinite then some infinity
  else (Word.ofNat? (a.rawNat * b.rawNat)).bind fun product => ofRaw? (product.toNat / scale)

/-- The quotient, unless the scaled numerator leaves the range of words. A non-zero number divided
by zero is infinity. -/
def checkedDiv (a b : Decimal) : Option Decimal :=
  if b.isZero then some (if a.isZero then zero else infinity)
  else if a.isInfinite then some infinity
  else if b.isInfinite then some zero
  else (Word.ofNat? (a.rawNat * scale)).bind fun scaled => ofRaw? (scaled.toNat / b.rawNat)

/-- `a * b / c` with a single cut-off at the end; infinity where the product of the raw values
leaves the range of words. -/
def mulDiv (a b c : Decimal) : Decimal :=
  if c.isZero then (if a.isZero || b.isZero then zero else infinity)
  else ((Word.ofNat? (a.rawNat * b.rawNat)).bind fun product =>
    ofRaw? (product.toNat / c.rawNat)).getD infinity

/-- The distance of the raw values. -/
def absDiff (a b : Decimal) : Decimal :=
  if b ≤ a then ⟨⟨a.rawNat - b.rawNat, Nat.lt_of_le_of_lt (Nat.sub_le _ _) a.rawNat_lt⟩⟩
  else ⟨⟨b.rawNat - a.rawNat, Nat.lt_of_le_of_lt (Nat.sub_le _ _) b.rawNat_lt⟩⟩

end Decimal

end Cdp
