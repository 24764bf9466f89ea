/-!
# Words

A word is a 256-bit unsigned integer, the only integer that contracts exchange. Arithmetic on
words is arithmetic on natural numbers followed by one of three ways back into range:
`Word.ofNat?` refuses a number that does not fit, `Word.clamp` stops at the largest word and
`Word.wrap` reduces modulo the number of words.
-/

set_option autoImplicit false

namespace Cdp

/-- The number of words, two to the power of 256. -/
abbrev Word.size : Nat := 0x10000000000000000000000000000000000000000000000000000000000000000

/-- A 256-bit unsigned integer. -/
structure Word where
  toNat : Nat
  toNat_lt : toNat < Word.size
deriving DecidableEq

namespace Word

theorem ext {a b : Word} (h : a.toNat = b.toNat) : a = b := by
  cases a
  cases b
  cases h
  rfl

theorem ext_iff {a b : Word} : a = b ↔ a.toNat = b.toNat :=
  ⟨fun h => h ▸ rfl, ext⟩

/-- The word zero. -/
def zero : Word := ⟨0, by decide⟩

/-- The largest word, all bits set. -/
def max : Word := ⟨size - 1, by decide⟩

instance : Inhabited Word := ⟨zero⟩

/-- The word of a number, if the number fits. -/
def ofNat? (n : Nat) : Option Word :=
  if h : n < size then some ⟨n, h⟩ else none

/-- The word of a number, or the largest word if the number does not fit. -/
def clamp (n : Nat) : Word := (ofNat? n).getD max

/-- The word of a number modulo the number of words. -/
def wrap (n : Nat) : Word := ⟨n % size, Nat.mod_lt _ (by decide)⟩

/-- A 64-bit counter as a word. -/
def ofUInt64 (n : UInt64) : Word :=
  ⟨n.toNat, Nat.lt_of_lt_of_le n.toNat_lt (by decide)⟩

/-- Whether the word is zero. -/
def isZero (w : Word) : Bool := w.toNat == 0

instance : LT Word := ⟨fun a b => a.toNat < b.toNat⟩
instance : LE Word := ⟨fun a b => a.toNat ≤ b.toNat⟩
instance (a b : Word) : Decidable (a < b) := inferInstanceAs (Decidable (a.toNat < b.toNat))
instance (a b : Word) : Decidable (a ≤ b) := inferInstanceAs (Decidable (a.toNat ≤ b.toNat))
instance : Min Word := ⟨fun a b => if a ≤ b then a else b⟩
instance : Max Word := ⟨fun a b => if a ≤ b then b else a⟩

theorem lt_def {a b : Word} : a < b ↔ a.toNat < b.toNat := Iff.rfl

theorem le_def {a b : Word} : a ≤ b ↔ a.toNat ≤ b.toNat := Iff.rfl

theorem ofNat?_eq_some_iff {n : Nat} {w : Word} : ofNat? n = some w ↔ n = w.toNat := by
  constructor
  · intro h
    by_cases hn : n < size
    · rw [ofNat?, dif_pos hn] at h
      cases h
      rfl
    · rw [ofNat?, dif_neg hn] at h
      cases h
  · rintro rfl
    rw [ofNat?, dif_pos w.toNat_lt]

theorem ofNat?_eq_none_iff {n : Nat} : ofNat? n = none ↔ size ≤ n := by
  by_cases hn : n < size
  · rw [ofNat?, dif_pos hn]
    exact ⟨(nomatch ·), fun h => absurd hn (Nat.not_lt.2 h)⟩
  · rw [ofNat?, dif_neg hn]
    exact ⟨fun _ => Nat.not_lt.1 hn, fun _ => rfl⟩

@[simp] theorem toNat_zero : zero.toNat = 0 := rfl

theorem toNat_le_max (w : Word) : w.toNat ≤ max.toNat := Nat.le_pred_of_lt w.toNat_lt

end Word

end Cdp
