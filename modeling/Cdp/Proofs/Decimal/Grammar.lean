import Cdp.Decimal.Parse
import Mathlib.Algebra.Order.Field.Rat
import Mathlib.Tactic.FieldSimp
import Mathlib.Tactic.Ring

/-!
# What is read as a decimal

A text is read without the blanks around it (`Text.trims_trim`). What is left is read if it is a
name of infinity or a numeral: digits, at most one point among them, at least one digit and at most
eighteen digits after the point. `Reads` is this grammar, with the cause for every other text, and
reading gives exactly what the grammar says (`parse_iff_reads`).

The grammar takes the number of a numeral digit by digit, as a rational number. The raw value is
that number times the scale, without any rounding (`cast_rawOfDigits`).
-/

set_option autoImplicit false

namespace Cdp

/-! ## Blanks around a text -/

namespace Text

/-- The text without the blanks around it: only blanks are left out, at the two ends, and what is
left neither starts nor ends with one. -/
structure Trims (cs kept : List Char) : Prop where
  around : ∃ front back, cs = front ++ kept ++ back ∧ (∀ c ∈ front, isBlank c = true) ∧
    ∀ c ∈ back, isBlank c = true
  start : ∀ c ∈ kept.head?, isBlank c = false
  stop : ∀ c ∈ kept.getLast?, isBlank c = false

theorem trimRight_append (cs : List Char) :
    ∃ back, cs = trimRight cs ++ back ∧ ∀ c ∈ back, isBlank c = true := by
  induction cs with
  | nil => exact ⟨[], rfl, nofun⟩
  | cons c rest ih =>
    obtain ⟨back, hrest, hback⟩ := ih
    rw [trimRight]
    split
    · -- only blanks follow, so a blank in this place goes too
      rename_i hnil
      rw [hnil, List.nil_append] at hrest
      subst hrest
      split
      · rename_i hblank
        exact ⟨c :: rest, rfl, List.forall_mem_cons.2 ⟨hblank, hback⟩⟩
      · exact ⟨rest, rfl, hback⟩
    · exact ⟨back, by rw [List.cons_append, ← hrest], hback⟩

theorem getLast?_trimRight (cs : List Char) : ∀ c ∈ (trimRight cs).getLast?, isBlank c = false := by
  induction cs with
  | nil =>
    intro d hd
    cases hd
  | cons c rest ih =>
    rw [trimRight]
    split
    · split
      · intro d hd
        cases hd
      · rename_i hblank
        intro d hd
        cases hd
        exact Bool.eq_false_iff.2 hblank
    · rename_i hne
      obtain ⟨d, tail, hkept⟩ := List.exists_cons_of_ne_nil hne
      rw [hkept] at ih ⊢
      rwa [List.getLast?_cons_cons]

theorem trims_trim (cs : List Char) : Trims cs (trim cs) := by
  obtain ⟨back, hcut, hback⟩ := trimRight_append (cs.dropWhile isBlank)
  constructor
  case around =>
    refine ⟨cs.takeWhile isBlank, back, ?_, List.all_eq_true.1 List.all_takeWhile, hback⟩
    rw [trim, List.append_assoc, ← hcut, List.takeWhile_append_dropWhile]
  case start =>
    -- what is kept starts where the blanks in front end
    intro c hc
    have hhead : (cs.dropWhile isBlank).head? = some c := by
      rw [hcut, List.head?_append]
      exact Option.or_eq_some_iff.2 (Or.inl hc)
    have hnot := List.head?_dropWhile_not isBlank cs
    rw [hhead] at hnot
    simpa using hnot
  case stop => exact getLast?_trimRight _

end Text

namespace Decimal

/-! ## The grammar -/

/-- All characters are digits. -/
def Digits (cs : List Char) : Prop := ∀ c ∈ cs, isDigit c = true

theorem isDigit_iff {c : Char} : isDigit c = true ↔ 48 ≤ c.toNat ∧ c.toNat ≤ 57 := by
  rw [isDigit, Bool.and_eq_true, decide_eq_true_iff, decide_eq_true_iff, Char.le_def, Char.le_def,
    UInt32.le_iff_toNat_le, UInt32.le_iff_toNat_le]
  rfl

/-- The sign of infinity, or its name, each letter of it small or capital. -/
def InfinityName (t : List Char) : Prop :=
  t = ['∞'] ∨ List.Forall₂ (fun c letter => c = letter ∨ c = letter.toUpper) t "infinity".toList

/-- A text that consists of digits, with at most one point and at least one digit, and the digits
before and after its point. -/
inductive Numeral : (t whole fraction : List Char) → Prop where
  | plain {whole : List Char} (digits : Digits whole) (some_digit : whole ≠ []) :
    Numeral whole whole []
  | pointed {whole fraction : List Char} (whole_digits : Digits whole)
    (fraction_digits : Digits fraction) (some_digit : whole ≠ [] ∨ fraction ≠ []) :
    Numeral (whole ++ '.' :: fraction) whole fraction

/-- The number of a digit. -/
def digitNumber (c : Char) : Nat := c.toNat - '0'.toNat

/-- The number that digits before the point denote: each counts units of its place. -/
def wholeNumber : List Char → ℚ
  | [] => 0
  | c :: rest => digitNumber c * 10 ^ rest.length + wholeNumber rest

/-- The number that digits after the point denote: each counts tenths of the place before it. -/
def fractionNumber : List Char → ℚ
  | [] => 0
  | c :: rest => (digitNumber c + fractionNumber rest) / 10

/-- The number that a numeral denotes, in raw units. -/
def numeralRaw (whole fraction : List Char) : ℚ :=
  (wholeNumber whole + fractionNumber fraction) * 10 ^ 18

/-- What a text without blanks around it is read as: infinity, or a number whose raw value fits a
word. For every other text it is refused with one of four causes: a minus sign comes before the
shape, the shape before the number of places and the places before the size. -/
inductive Reads (t : List Char) : Except DecimalError Decimal → Prop where
  | infinity (name : InfinityName t) : Reads t (.ok infinity)
  | numeral {whole fraction : List Char} {d : Decimal} (shape : Numeral t whole fraction)
    (places : fraction.length ≤ 18) (value : (d.rawNat : ℚ) = numeralRaw whole fraction) :
    Reads t (.ok d)
  | negative (sign : t.head? = some '-') : Reads t (.error (.negative (String.ofList t)))
  | malformed (sign : t.head? ≠ some '-') (name : ¬InfinityName t)
    (shape : ∀ whole fraction, ¬Numeral t whole fraction) :
    Reads t (.error (.malformed (String.ofList t)))
  | tooPrecise {whole fraction : List Char} (shape : Numeral t whole fraction)
    (places : 18 < fraction.length) : Reads t (.error (.tooPrecise fraction.length))
  | overflow {whole fraction : List Char} (shape : Numeral t whole fraction)
    (places : fraction.length ≤ 18) (size : 2 ^ 256 - 1 < numeralRaw whole fraction) :
    Reads t (.error .overflow)

variable {t whole fraction : List Char}

/-! ## Names of infinity -/

/-- A letter whose capital is a letter from A to Z, thirty-two places before it. -/
def isSmall (letter : Char) : Bool :=
  'A' ≤ letter.toUpper && letter.toUpper ≤ 'Z' && letter.toNat == letter.toUpper.toNat + 32

/-- Exactly the small and the capital form of a letter become the small one. -/
theorem lowerAscii_eq_iff {c letter : Char} (h : isSmall letter = true) :
    lowerAscii c = letter ↔ c = letter ∨ c = letter.toUpper := by
  have hbounds : ∀ d : Char, 'A' ≤ d ∧ d ≤ 'Z' ↔ 65 ≤ d.toNat ∧ d.toNat ≤ 90 := by
    intro d
    rw [Char.le_def, Char.le_def, UInt32.le_iff_toNat_le, UInt32.le_iff_toNat_le]
    rfl
  rw [isSmall, Bool.and_eq_true, Bool.and_eq_true, decide_eq_true_iff, decide_eq_true_iff,
    beq_iff_eq, hbounds] at h
  obtain ⟨hcapital, hsmall⟩ := h
  rw [lowerAscii]
  split
  · rename_i hc
    rw [Bool.and_eq_true, decide_eq_true_iff, decide_eq_true_iff, hbounds] at hc
    have hvalid : (c.toNat + 32).isValidChar := Or.inl (by omega)
    have hmoved : (Char.ofNat (c.toNat + 32)).toNat = c.toNat + 32 := by
      rw [Char.ofNat, dif_pos hvalid]
      rfl
    rw [← Char.toNat_inj, ← Char.toNat_inj, ← Char.toNat_inj, hmoved]
    omega
  · rename_i hc
    rw [Bool.and_eq_true, decide_eq_true_iff, decide_eq_true_iff, hbounds] at hc
    rw [← Char.toNat_inj, ← Char.toNat_inj]
    omega

theorem map_lowerAscii_eq_iff {letters : List Char} (h : letters.all isSmall = true) :
    t.map lowerAscii = letters ↔
      List.Forall₂ (fun c letter => c = letter ∨ c = letter.toUpper) t letters := by
  induction letters generalizing t with
  | nil => rw [List.map_eq_nil_iff, List.forall₂_nil_right_iff]
  | cons letter rest ih =>
    rw [List.all_cons, Bool.and_eq_true] at h
    cases t with
    | nil => simp
    | cons c tail =>
      rw [List.map_cons, List.cons.injEq, List.forall₂_cons, ih h.2, lowerAscii_eq_iff h.1]

theorem namesInfinity_iff : namesInfinity t = true ↔ InfinityName t := by
  rw [namesInfinity, Bool.or_eq_true, beq_iff_eq, beq_iff_eq, InfinityName,
    map_lowerAscii_eq_iff (by decide)]

theorem not_namesInfinity_of_isDigit {c : Char} (rest : List Char) (h : isDigit c = true) :
    namesInfinity (c :: rest) = false := by
  obtain ⟨hlow, hhigh⟩ := isDigit_iff.1 h
  have hlower : lowerAscii c = c := by
    rw [lowerAscii, if_neg]
    rw [Bool.and_eq_true, decide_eq_true_iff, Char.le_def, UInt32.le_iff_toNat_le]
    rintro ⟨hA, -⟩
    have hA' : 65 ≤ c.toNat := hA
    omega
  -- the sign and the name of infinity start with other characters
  have hsign : c ≠ '∞' := by
    rintro rfl
    cases h
  have hname : c ≠ 'i' := by
    rintro rfl
    cases h
  simp [namesInfinity, hlower, hsign, hname]

theorem not_namesInfinity_of_sign (h : t.head? = some '-') : namesInfinity t = false := by
  obtain ⟨rest, rfl⟩ := List.head?_eq_some_iff.1 h
  simp [namesInfinity, lowerAscii]

/-! ## Numerals -/

theorem splitPoint_of_digits {cs : List Char} (h : Digits cs) : splitPoint cs = (cs, []) := by
  induction cs with
  | nil => rfl
  | cons c rest ih =>
    obtain ⟨hc, hrest⟩ := List.forall_mem_cons.1 h
    have hpoint : c ≠ '.' := by
      rintro rfl
      cases hc
    rw [splitPoint, if_neg hpoint, ih hrest]

theorem splitPoint_append {cs rest : List Char} (h : Digits cs) :
    splitPoint (cs ++ '.' :: rest) = (cs, rest) := by
  induction cs with
  | nil => rfl
  | cons c tail ih =>
    obtain ⟨hc, htail⟩ := List.forall_mem_cons.1 h
    have hpoint : c ≠ '.' := by
      rintro rfl
      cases hc
    rw [List.cons_append, splitPoint, if_neg hpoint, ih htail]

theorem splitPoint_eq (t : List Char) :
    t = (splitPoint t).1 ∧ (splitPoint t).2 = [] ∨
      t = (splitPoint t).1 ++ '.' :: (splitPoint t).2 := by
  induction t with
  | nil => exact Or.inl ⟨rfl, rfl⟩
  | cons c rest ih =>
    rw [splitPoint]
    split
    · rename_i hpoint
      exact Or.inr (by rw [hpoint]; rfl)
    · rcases ih with ⟨hwhole, hnone⟩ | hcut
      · exact Or.inl ⟨congrArg (c :: ·) hwhole, hnone⟩
      · exact Or.inr (congrArg (c :: ·) hcut)

/-- A numeral is cut at its point, and its parts are all that is asked of the shape. -/
theorem numeral_iff : Numeral t whole fraction ↔
    splitPoint t = (whole, fraction) ∧ Digits whole ∧ Digits fraction ∧
      (whole ≠ [] ∨ fraction ≠ []) := by
  constructor
  · intro h
    cases h with
    | plain digits some_digit =>
      exact ⟨splitPoint_of_digits digits, digits, nofun, Or.inl some_digit⟩
    | pointed whole_digits fraction_digits some_digit =>
      exact ⟨splitPoint_append whole_digits, whole_digits, fraction_digits, some_digit⟩
  · rintro ⟨hsplit, hwhole, hfraction, hsome⟩
    have hcut := splitPoint_eq t
    rw [hsplit] at hcut
    rcases hcut with ⟨rfl, rfl⟩ | rfl
    · exact .plain hwhole (hsome.resolve_right (absurd rfl))
    · exact .pointed hwhole hfraction hsome

/-- A numeral starts with a digit or with a point. -/
theorem Numeral.exists_cons (h : Numeral t whole fraction) :
    ∃ c rest, t = c :: rest ∧ (isDigit c = true ∨ c = '.') := by
  cases h with
  | plain digits some_digit =>
    obtain ⟨c, rest, rfl⟩ := List.exists_cons_of_ne_nil some_digit
    exact ⟨c, rest, rfl, Or.inl (digits c List.mem_cons_self)⟩
  | pointed whole_digits _ _ =>
    cases whole with
    | nil => exact ⟨'.', fraction, rfl, Or.inr rfl⟩
    | cons c rest =>
      exact ⟨c, rest ++ '.' :: fraction, rfl, Or.inl (whole_digits c List.mem_cons_self)⟩

/-- So it neither names infinity nor has a sign. -/
theorem Numeral.unsigned (h : Numeral t whole fraction) :
    namesInfinity t = false ∧ t.head? ≠ some '-' := by
  obtain ⟨c, rest, rfl, hdigit | rfl⟩ := h.exists_cons
  · refine ⟨not_namesInfinity_of_isDigit rest hdigit, ?_⟩
    rintro ⟨⟩
    cases hdigit
  · exact ⟨by simp [namesInfinity, lowerAscii], nofun⟩

/-! ## Values -/

/-- The first digit counts units of its place. -/
theorem ofDigitChars_first (c : Char) (rest : List Char) :
    Nat.ofDigitChars 10 (c :: rest) 0 =
      10 ^ rest.length * digitNumber c + Nat.ofDigitChars 10 rest 0 := by
  rw [Nat.ofDigitChars_cons, Nat.mul_zero, Nat.zero_add,
    Nat.ofDigitChars_eq_ofDigitChars_zero, digitNumber]

theorem wholeNumber_eq (cs : List Char) : wholeNumber cs = (Nat.ofDigitChars 10 cs 0 : ℚ) := by
  induction cs with
  | nil => rfl
  | cons c rest ih =>
    rw [wholeNumber, ih, ofDigitChars_first]
    push_cast
    ring

theorem fractionNumber_eq (cs : List Char) :
    fractionNumber cs = (Nat.ofDigitChars 10 cs 0 : ℚ) / 10 ^ cs.length := by
  induction cs with
  | nil => simp [fractionNumber]
  | cons c rest ih =>
    rw [fractionNumber, ih, ofDigitChars_first, List.length_cons]
    push_cast
    field_simp
    ring

/-- The raw value of digits is the number that they denote, in raw units. -/
theorem cast_rawOfDigits (whole : List Char) (hplaces : fraction.length ≤ 18) :
    (rawOfDigits whole fraction : ℚ) = numeralRaw whole fraction := by
  have hpower : (10 : ℚ) ^ 18 = 10 ^ fraction.length * 10 ^ (places - fraction.length) := by
    rw [← pow_add, places, Nat.add_sub_cancel' hplaces]
  calc (rawOfDigits whole fraction : ℚ)
      = Nat.ofDigitChars 10 whole 0 * 10 ^ 18 +
          Nat.ofDigitChars 10 fraction 0 * 10 ^ (places - fraction.length) := by
        rw [rawOfDigits, Nat.pow_eq]
        push_cast
        norm_num
    _ = numeralRaw whole fraction := by
        rw [numeralRaw, wholeNumber_eq, fractionNumber_eq, hpower]
        field_simp

/-- A raw value leaves the range of words where the number does. -/
theorem size_le_rawOfDigits_iff (whole : List Char) (hplaces : fraction.length ≤ 18) :
    Word.size ≤ rawOfDigits whole fraction ↔ (2 : ℚ) ^ 256 - 1 < numeralRaw whole fraction := by
  have hsize : (Word.size : ℚ) = 2 ^ 256 := by norm_num [Word.size]
  rw [← cast_rawOfDigits whole hplaces, ← hsize, sub_lt_iff_lt_add]
  norm_cast
  exact Nat.lt_succ_iff.symm

/-! ## Reading -/

/-- A numeral is refused for its places, then for its size. -/
theorem parseTrimmed_numeral (h : Numeral t whole fraction) : parseTrimmed t =
    if 18 < fraction.length then .error (.tooPrecise fraction.length)
    else match ofRaw? (rawOfDigits whole fraction) with
      | some d => .ok d
      | none => .error .overflow := by
  obtain ⟨hname, hsign⟩ := h.unsigned
  obtain ⟨hsplit, hwhole, hfraction, hsome⟩ := numeral_iff.1 h
  have hempty : (whole.isEmpty && fraction.isEmpty) = false := by
    rw [Bool.and_eq_false_iff, List.isEmpty_eq_false_iff, List.isEmpty_eq_false_iff]
    exact hsome
  have hdigits : (whole.all isDigit && fraction.all isDigit) = true := by
    rw [Bool.and_eq_true, List.all_eq_true, List.all_eq_true]
    exact ⟨hwhole, hfraction⟩
  rw [parseTrimmed, hname, if_neg Bool.false_ne_true, if_neg hsign, hsplit]
  dsimp only
  rw [hempty, if_neg Bool.false_ne_true, hdigits, Bool.not_true, if_neg Bool.false_ne_true]
  rfl

/-- A text that is neither infinity nor signed nor a numeral is refused for its shape. -/
theorem parseTrimmed_malformed (hname : namesInfinity t = false) (hsign : t.head? ≠ some '-')
    (hshape : ∀ whole fraction, ¬Numeral t whole fraction) :
    parseTrimmed t = .error (.malformed (String.ofList t)) := by
  rw [parseTrimmed, hname, if_neg Bool.false_ne_true, if_neg hsign]
  rcases hsplit : splitPoint t with ⟨whole, fraction⟩
  dsimp only
  split
  · rfl
  rename_i hsome
  rw [Bool.and_eq_true, List.isEmpty_iff, List.isEmpty_iff, not_and_or] at hsome
  split
  · rfl
  · rename_i hdigits
    rw [Bool.not_eq_true', Bool.not_eq_false, Bool.and_eq_true, List.all_eq_true,
      List.all_eq_true] at hdigits
    exact absurd (numeral_iff.2 ⟨hsplit, hdigits.1, hdigits.2, hsome⟩) (hshape whole fraction)

/-- What is read is what the grammar says. -/
theorem reads_parseTrimmed (t : List Char) : Reads t (parseTrimmed t) := by
  cases hname : namesInfinity t with
  | true =>
    rw [parseTrimmed, hname, if_pos rfl]
    exact .infinity (namesInfinity_iff.1 hname)
  | false =>
    by_cases hsign : t.head? = some '-'
    · rw [parseTrimmed, hname, if_neg Bool.false_ne_true, if_pos hsign]
      exact .negative hsign
    by_cases hshape : ∃ whole fraction, Numeral t whole fraction
    · obtain ⟨whole, fraction, hshape⟩ := hshape
      rw [parseTrimmed_numeral hshape]
      split
      · rename_i hplaces
        exact .tooPrecise hshape hplaces
      · rename_i hplaces
        have hle : fraction.length ≤ 18 := Nat.not_lt.1 hplaces
        cases hraw : ofRaw? (rawOfDigits whole fraction) with
        | some d =>
          refine .numeral hshape hle ?_
          rw [← cast_rawOfDigits whole hle, ofRaw?_eq_some_iff.1 hraw]
        | none =>
          exact .overflow hshape hle
            ((size_le_rawOfDigits_iff whole hle).1 (ofRaw?_eq_none_iff.1 hraw))
    · have hnone : ∀ whole fraction, ¬Numeral t whole fraction :=
        fun whole fraction h => hshape ⟨whole, fraction, h⟩
      rw [parseTrimmed_malformed hname hsign hnone]
      exact .malformed hsign (fun h => by rw [namesInfinity_iff.2 h] at hname; cases hname) hnone

/-- The grammar leaves no choice. -/
theorem Reads.eq {result : Except DecimalError Decimal} (h : Reads t result) :
    parseTrimmed t = result := by
  cases h with
  | infinity name =>
    rw [parseTrimmed, namesInfinity_iff.2 name, if_pos rfl]
  | @numeral whole fraction d shape places value =>
    rw [← cast_rawOfDigits whole places, Nat.cast_inj] at value
    rw [parseTrimmed_numeral shape, if_neg (Nat.not_lt.2 places), ofRaw?_eq_some_iff.2 value.symm]
  | negative sign =>
    rw [parseTrimmed, not_namesInfinity_of_sign sign, if_neg Bool.false_ne_true, if_pos sign]
  | malformed sign name shape =>
    exact parseTrimmed_malformed (Bool.eq_false_iff.2 fun h => name (namesInfinity_iff.1 h)) sign
      shape
  | tooPrecise shape places =>
    rw [parseTrimmed_numeral shape, if_pos places]
  | @overflow whole fraction shape places size =>
    have hnone := ofRaw?_eq_none_iff.2 ((size_le_rawOfDigits_iff whole places).2 size)
    rw [parseTrimmed_numeral shape, if_neg (Nat.not_lt.2 places), hnone]

/-- A text is read without the blanks around it, and as what the grammar says, value and cause
included. -/
theorem parse_iff_reads (text : String) :
    ∃ t, Text.Trims text.toList t ∧ ∀ result, parse text = result ↔ Reads t result := by
  refine ⟨Text.trim text.toList, Text.trims_trim _, fun result => ⟨?_, Reads.eq⟩⟩
  rintro rfl
  exact reads_parseTrimmed _

/-- The minus sign comes before the name of infinity. -/
example : parse " -Infinity" = .error (.negative "-Infinity") := by decide

example : parse "00.050\t" = .ok (.thousandths 50) := by decide

end Decimal

end Cdp
