/-!
# Blanks

A blank is a character with the Unicode property `White_Space`. Amounts may be written with blanks
before and after them, which `trim` removes.
-/

set_option autoImplicit false

namespace Cdp.Text

/-- Whether a character has the property `White_Space`. -/
def isBlank (c : Char) : Bool :=
  let code := c.toNat
  (9 ≤ code && code ≤ 13) || code == 0x20 || code == 0x85 || code == 0xa0 || code == 0x1680 ||
    (0x2000 ≤ code && code ≤ 0x200a) || code == 0x2028 || code == 0x2029 || code == 0x202f ||
    code == 0x205f || code == 0x3000

/-- The text without the blanks at its end. -/
def trimRight : List Char → List Char
  | [] => []
  | c :: rest =>
    match trimRight rest with
    | [] => if isBlank c then [] else [c]
    | kept => c :: kept

/-- The text without the blanks at its two ends. -/
def trim (cs : List Char) : List Char := trimRight (cs.dropWhile isBlank)

theorem trimRight_eq_self {cs : List Char} (h : ∀ c ∈ cs, isBlank c = false) :
    trimRight cs = cs := by
  induction cs with
  | nil => rfl
  | cons c rest ih =>
    rw [trimRight, ih fun d hd => h d (List.mem_cons_of_mem c hd)]
    cases rest with
    | nil => simp [h c]
    | cons d tail => rfl

/-- Text without blanks is not changed. -/
theorem trim_eq_self {cs : List Char} (h : ∀ c ∈ cs, isBlank c = false) : trim cs = cs := by
  have hdrop : cs.dropWhile isBlank = cs := by
    cases cs with
    | nil => rfl
    | cons c rest => simp [h c]
  rw [trim, hdrop, trimRight_eq_self h]

end Cdp.Text
