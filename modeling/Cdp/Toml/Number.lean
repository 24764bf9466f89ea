import Cdp.Json.Basic
import Cdp.Toml.Scan

/-!
# Numbers and times

A whole number has a sign of 64 bits; it is written in decimal digits without leading zeros, or
after a marker in hexadecimal, octal or binary digits. A number with a fraction or an exponent is
kept exactly. Digits may be joined by single underscores. Dates and times are checked against the
calendar.
-/

set_option autoImplicit false

namespace Cdp.Toml

def isDigit (c : Char) : Bool := '0' ≤ c && c ≤ '9'

/-- The value of digits in a base up to sixteen. -/
def valueOf (base : Nat) (digits : List Char) : Nat :=
  digits.foldl (fun n c => base * n + (Hex.digit? c).getD 0) 0

/-- Digits joined by single underscores. -/
def digitGroups (p : Char → Bool) : Scan (List Char) := do
  let first ← Scan.satisfy p
  let others ← Scan.many ((do
    Scan.exactly "_"
    Scan.satisfy p) <|> Scan.satisfy p)
  return first :: others

/-! ## Whole numbers -/

/-- Digits after a marker of their base. -/
def markedNumber (marker : String) (base : Nat) (p : Char → Bool) : Scan Int := do
  Scan.exactly marker
  let digits ← digitGroups p
  return (valueOf base digits : Nat)

/-- Whether a sign is a minus. -/
def sign : Scan Bool :=
  (fun _ => true) <$> Scan.exactly "-" <|> (fun _ => false) <$> Scan.exactly "+" <|> pure false

/-- Decimal digits without leading zeros. -/
def plainDigits : Scan (List Char) := do
  let digits ← digitGroups isDigit
  Scan.check (digits.length = 1 || digits.head? != some '0')
  return digits

def decimalNumber : Scan Int := do
  let negative ← sign
  let digits ← plainDigits
  let n : Int := (valueOf 10 digits : Nat)
  return if negative then -n else n

/-- The number of signed 64-bit integers below zero. -/
def signBound : Int := 9223372036854775808

/-- A whole number of 64 bits with a sign. -/
def wholeNumber : Scan Json := do
  let n ← markedNumber "0x" 16 (fun c => (Hex.digit? c).isSome) <|>
    markedNumber "0o" 8 (fun c => '0' ≤ c && c ≤ '7') <|>
    markedNumber "0b" 2 (fun c => c = '0' || c = '1') <|> decimalNumber
  Scan.check (-signBound ≤ n && n < signBound)
  return .integer n

/-! ## Fractions -/

def fractionPart : Scan (List Char) := do
  Scan.exactly "."
  digitGroups isDigit

def exponentPart : Scan Int := do
  Scan.exactly "e" <|> Scan.exactly "E"
  let negative ← sign
  let digits ← digitGroups isDigit
  let n : Int := (valueOf 10 digits : Nat)
  return if negative then -n else n

/-- The least number that rounds to a binary fraction of 64 bits without a finite value. -/
def overflowBound : Nat := Nat.pow 2 1024 - Nat.pow 2 970

/-- Whether a mantissa times a power of ten is beyond all finite values. -/
def overflows (mantissa : Nat) (exponent : Int) : Bool :=
  if mantissa = 0 then false
  else
    let magnitude : Int := (Nat.toDigits 10 mantissa).length + exponent
    if 320 < magnitude then true
    else if magnitude < 300 then false
    else if 0 ≤ exponent then overflowBound ≤ mantissa * Nat.pow 10 exponent.toNat
    else overflowBound * Nat.pow 10 (-exponent).toNat ≤ mantissa

/-- A number with a fraction or an exponent. One that is too large is refused if it is positive, and
has no value if it is negative. -/
def fractionOf (negative : Bool) (mantissa : Nat) (exponent : Int) : Option Json :=
  if overflows mantissa exponent then if negative then some .null else none
  else
    let m : Int := if negative then -mantissa else mantissa
    if 0 ≤ exponent then
      some (.fraction (if mantissa = 0 then 0 else m * Nat.pow 10 exponent.toNat) 0)
    else some (.fraction m (-exponent).toNat)

def finiteFraction : Scan Json := do
  let negative ← sign
  let whole ← plainDigits
  let places ← (some <$> fractionPart) <|> pure none
  let exponent ←
    match places with
    | some _ => exponentPart <|> pure 0
    | none => exponentPart
  let fraction := places.getD []
  StateT.lift (fractionOf negative (valueOf 10 (whole ++ fraction)) (exponent - fraction.length))

/-- The names of the values that no number has; they are read as null. -/
def namedFraction : Scan Json := do
  let _ ← sign
  Scan.exactly "inf" <|> Scan.exactly "nan"
  return .null

def fraction : Scan Json := finiteFraction <|> namedFraction

/-! ## Dates and times -/

/-- A number of `count` digits in a range. -/
def fixedDigits (count low high : Nat) : Scan Nat := do
  let digits ← (List.range count).mapM fun _ => Scan.satisfy isDigit
  let n := valueOf 10 digits
  Scan.check (low ≤ n && n ≤ high)
  return n

def isLeapYear (year : Nat) : Bool := year % 4 = 0 && (year % 100 != 0 || year % 400 = 0)

def daysOfMonth (year month : Nat) : Nat :=
  if month = 2 then (if isLeapYear year then 29 else 28)
  else if month = 4 || month = 6 || month = 9 || month = 11 then 30
  else 31

def date : Scan Unit := do
  let year ← fixedDigits 4 0 9999
  Scan.exactly "-"
  let month ← fixedDigits 2 1 12
  Scan.exactly "-"
  let _ ← fixedDigits 2 1 (daysOfMonth year month)

def timeOfDay : Scan Unit := do
  let _ ← fixedDigits 2 0 23
  Scan.exactly ":"
  let _ ← fixedDigits 2 0 59
  Scan.exactly ":"
  let _ ← fixedDigits 2 0 60
  let _ ← Scan.optional? (do
    Scan.exactly "."
    Scan.some1 (Scan.satisfy isDigit))

def zoneOffset : Scan Unit :=
  Scan.exactly "Z" <|> Scan.exactly "z" <|> (do
    Scan.exactly "+" <|> Scan.exactly "-"
    let _ ← fixedDigits 2 0 23
    Scan.exactly ":"
    let _ ← fixedDigits 2 0 59)

def dateTime : Scan Unit := do
  date
  let _ ← Scan.optional? (do
    Scan.exactly "T" <|> Scan.exactly "t" <|> Scan.exactly " "
    timeOfDay
    Scan.optional? zoneOffset)

/-- A date or time as an object with its text. -/
def moment : Scan Json := fun s =>
  ((dateTime <|> timeOfDay) s).map fun result =>
    let taken := s.take (s.length - result.2.length)
    (.object [("datetime", .string (String.ofList taken))], result.2)

end Cdp.Toml
