import Cdp.Decimal.Parse
import Cdp.Json.ErrorForms

/-!
# Fields with causes

Requests and tables are objects whose fields are read one by one, in an order that decides which of
two flaws is reported. A decimal that stands by itself in a field is refused with the cause that its
text gives; every other value has the form of its type or it does not.
-/

set_option autoImplicit false

namespace Cdp

/-- Why a value is not read. -/
inductive Misread where
  /-- The value does not have the form of its type, or is missing. -/
  | form
  /-- The text of a decimal is refused. -/
  | decimal (cause : DecimalError)
deriving DecidableEq

instance : JsonWrite Misread where
  write
    | .form => Json.bareFailure "Json"
    | .decimal cause => write cause

namespace Json

/-- The value of a field of an object; null stands for none. -/
def given? (j : Json) (name : String) : Option Json :=
  match j with
  | .object fields =>
    match field? name fields with
    | some .null => none
    | other => other
  | _ => none

/-- A value of a type. -/
def decode (α : Type) [JsonRead α] (j : Json) : Except Misread α :=
  match JsonRead.read j with
  | some a => .ok a
  | none => .error .form

/-- A decimal that stands by itself. -/
def decodeDecimal : Json → Except Misread Decimal
  | .string text => (Decimal.parse text).mapError .decimal
  | _ => .error .form

/-- Refuses what is no object. -/
def requireObject : Json → Except Misread Unit
  | .object _ => .ok ()
  | _ => .error .form

/-- The items of a list. -/
def decodeItems : Json → Except Misread (List Json)
  | .array items => .ok items
  | _ => .error .form

/-- A field that may be left out, read in a given way. -/
def partWith {α : Type} (decoder : Json → Except Misread α) (j : Json) (name : String) :
    Except Misread (Option α) :=
  match j.given? name with
  | some v => some <$> decoder v
  | none => .ok none

/-- A value that must not be left out. -/
def present {α : Type} : Option α → Except Misread α
  | some a => .ok a
  | none => .error .form

/-- A field that may be left out. -/
def part? (α : Type) [JsonRead α] (j : Json) (name : String) : Except Misread (Option α) :=
  j.partWith (decode α) name

/-- A field that must be there. -/
def part (α : Type) [JsonRead α] (j : Json) (name : String) : Except Misread α :=
  j.part? α name >>= present

/-- A decimal that may be left out. -/
def decimalPart? (j : Json) (name : String) : Except Misread (Option Decimal) :=
  j.partWith decodeDecimal name

/-- A decimal that must be there. -/
def decimalPart (j : Json) (name : String) : Except Misread Decimal :=
  j.decimalPart? name >>= present

/-- The items of a list that may be left out. -/
def itemsPart (j : Json) (name : String) : Except Misread (List Json) :=
  (·.getD []) <$> j.partWith decodeItems name

end Json

end Cdp
