import Cdp.Error
import Cdp.Json.Basic

/-!
# Failures as data

A failure is an object with a lasting name for its cause and the cause's wording. The name of a
cause of another kind is that cause's own name. A fault has no cause, and its wording if it has
one.
-/

set_option autoImplicit false

namespace Cdp

def DecimalError.name : DecimalError → String
  | .malformed _ => "Decimal.Parse"
  | .negative _ => "Decimal.Negative"
  | .tooPrecise _ => "Decimal.TooPrecise"
  | .lossy _ _ => "Decimal.LossyConversion"
  | .overflow => "Decimal.Overflow"
  | .infinite => "Decimal.Infinite"

def TroveError.name : TroveError → String
  | .belowMinimumDebt _ _ => "Trove.BelowMinimumDebt"
  | .insufficientCollateral _ _ _ => "Trove.InsufficientCollateral"
  | .repayExceedsDebt _ _ => "Trove.RepayExceedsDebt"
  | .missingPrice _ => "Trove.MissingPriceData"
  | .missingTotals _ => "Trove.MissingRedistributionData"
  | .staleTotals _ => "Trove.StaleRedistributionTotals"
  | .notOpen _ => "Trove.TroveNotOpen"
  | .invalidAmount _ => "Trove.InvalidAmount"
  | .duplicateCollateral _ => "Trove.DuplicateCollateral"
  | .invalidParams _ => "Trove.InvalidParams"
  | .invalidLeverage _ _ => "Trove.InvalidLeverage"

def ChainError.name : ChainError → String
  | .transport _ => "Chain.Transport"
  | .undecodable _ => "Chain.Decode"
  | .reverted _ => "Chain.Reverted"
  | .notFound _ => "Chain.NotFound"

def Error.name : Error → String
  | .invalidParams _ => "InvalidParams"
  | .unknownCollateral _ => "UnknownCollateral"
  | .trove cause => cause.name
  | .amount cause => cause.name
  | .debtDecay _ _ => "DebtDecayBelowMinimum"
  | .redemptionTooLow _ => "RedemptionAmountTooLow"
  | .redemptionNotTruncated => "RedemptionNotTruncated"
  | .hintLookup _ _ => "HintLookupFailed"
  | .missingPrice _ => "MissingPriceData"
  | .chain cause => cause.name

/-- A failure with its wording. -/
def Json.failure (name message : String) : Json :=
  .object [("error", .string name), ("message", .string message)]

/-- A failure without a wording. -/
def Json.bareFailure (name : String) : Json := .object [("error", .string name)]

instance : JsonWrite DecimalError := ⟨fun e => Json.failure e.name e.message⟩
instance : JsonWrite TroveError := ⟨fun e => Json.failure e.name e.message⟩
instance : JsonWrite ChainError := ⟨fun e => Json.failure e.name e.message⟩
instance : JsonWrite Error := ⟨fun e => Json.failure e.name e.message⟩

instance : JsonWrite Fault where
  write fault :=
    match fault.message? with
    | some message => Json.failure "Panic" message
    | none => Json.bareFailure "Panic"

instance {ε : Type} [JsonWrite ε] : JsonWrite (Failure ε) where
  write
    | .refused cause => write cause
    | .broken fault => write fault

end Cdp
