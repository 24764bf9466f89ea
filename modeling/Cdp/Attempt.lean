import Cdp.Decimal.Print

/-!
# Attempts

A computation can end early in two ways. It is refused with a cause that the caller is told about,
or it breaks off with a fault because arithmetic that has no refusal of its own left its range.
`Attempt ε α` keeps the two apart, so that the absence of faults can be stated.
-/

set_option autoImplicit false

namespace Cdp

/-- Arithmetic that left its range. -/
inductive Fault where
  | sum (a b : Decimal)
  | difference (a b : Decimal)
  | product (a b : Decimal)
  | quotient (a b : Decimal)
  /-- A 64-bit counter overflowed. -/
  | counter
  /-- More places were asked for than a text can be asked to have. -/
  | precision
deriving DecidableEq

/-- The wording of a fault; those that do not come from decimal arithmetic have none. -/
def Fault.message? : Fault → Option String
  | .sum a b => some ("decimal addition overflow: " ++ a.toText ++ " + " ++ b.toText)
  | .difference a b => some ("decimal subtraction underflow: " ++ a.toText ++ " - " ++ b.toText)
  | .product a b => some ("decimal multiplication overflow: " ++ a.toText ++ " * " ++ b.toText)
  | .quotient a b => some ("decimal division overflow: " ++ a.toText ++ " / " ++ b.toText)
  | .counter | .precision => none

/-- How a computation ended early. -/
inductive Failure (ε : Type) where
  | refused (cause : ε)
  | broken (fault : Fault)
deriving DecidableEq

/-- A computation that is refused with a cause in `ε`, breaks off with a fault, or succeeds. -/
abbrev Attempt (ε α : Type) := Except (Failure ε) α

/-- The same end with another kind of cause. -/
def Failure.map {ε δ : Type} (f : ε → δ) : Failure ε → Failure δ
  | .refused cause => .refused (f cause)
  | .broken fault => .broken fault

namespace Attempt

variable {ε α : Type}

/-- Refuses with a cause. -/
def refuse (cause : ε) : Attempt ε α := .error (.refused cause)

/-- The value of an option, or a refusal. -/
def ofOption (cause : ε) : Option α → Attempt ε α
  | some a => .ok a
  | none => refuse cause

/-- A computation that can only be refused. -/
def ofExcept {δ : Type} (cause : δ → ε) : Except δ α → Attempt ε α
  | .ok a => .ok a
  | .error e => refuse (cause e)

/-- A computation that can only break off. -/
def ofFaulty : Except Fault α → Attempt ε α
  | .ok a => .ok a
  | .error fault => .error (.broken fault)

/-- The same computation with another kind of cause. -/
def mapCause {δ : Type} (f : δ → ε) : Attempt δ α → Attempt ε α
  | .ok a => .ok a
  | .error failure => .error (failure.map f)

end Attempt

instance {ε : Type} : MonadLift (Except Fault) (Except (Failure ε)) := ⟨Attempt.ofFaulty⟩

/-- The value of an option, or a fault. -/
def Fault.guard {α : Type} (fault : Fault) : Option α → Except Fault α
  | some a => .ok a
  | none => .error fault

namespace Decimal

/-! ## Operators

The operators are the checked operations with a fault in place of `none`. -/

def add (a b : Decimal) : Except Fault Decimal := (Fault.sum a b).guard (checkedAdd a b)
def sub (a b : Decimal) : Except Fault Decimal := (Fault.difference a b).guard (checkedSub a b)
def mul (a b : Decimal) : Except Fault Decimal := (Fault.product a b).guard (checkedMul a b)
def div (a b : Decimal) : Except Fault Decimal := (Fault.quotient a b).guard (checkedDiv a b)

/-- The most places that a text can be asked to have. -/
def maxPrecision : Nat := 65535

/-- A decimal as text, cut off to a number of places where one is given. -/
def format (d : Decimal) : Option UInt64 → Except Fault String
  | none => .ok d.toText
  | some precision =>
    if precision.toNat ≤ maxPrecision then .ok (d.toTextWith precision.toNat)
    else .error .precision

/-- The sum of a list, from left to right. -/
def sum (ds : List Decimal) : Except Fault Decimal := ds.foldlM add zero

end Decimal

end Cdp
