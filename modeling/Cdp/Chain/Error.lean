import Cdp.Chain.Basic
import Cdp.Decimal.Error

/-!
# Failed requests

A request to the chain fails in transport, because its answer cannot be decoded, because the call
was reverted, or because what it asks for does not exist.
-/

set_option autoImplicit false

namespace Cdp

/-- What could not be decoded. -/
inductive Undecodable where
  /-- Bytes that do not have the layout of a function's results or an event. -/
  | layout (signature : String)
  /-- A status code without a meaning. -/
  | statusCode (code : UInt8)
  /-- A status that does not fit a byte. -/
  | wideStatus (status : Word)
  /-- An operation code without a meaning, in the event of the given signature. -/
  | operationCode (signature : String) (code : UInt8)
  /-- Lists of tokens and amounts that differ in length. -/
  | unevenArrays (tokens amounts : Nat)
  /-- The same of a Trove's collateral. -/
  | unevenCollateral
  | unknownCollateral (kind : Address)
  | amount (cause : DecimalError)
  /-- A count that does not fit a counter. -/
  | wideCount (what : String) (count : Word)
  /-- A cached pool balance that cannot be expressed in units. -/
  | poolBalance (cause : DecimalError)
  | other (what reason : String)
deriving DecidableEq

/-- What was not found. -/
inductive Missing where
  | block (tag : BlockTag)
  | replacement (hash : Word)
  | replacementReceipt (hash : Word)
  | troveUpdate (owner : Address)
  | redemption
  | liquidation
  | other (text : String)
deriving DecidableEq

/-- Why a request to the chain failed. -/
inductive ChainError where
  | transport (text : String)
  | undecodable (cause : Undecodable)
  | reverted (text : String)
  | notFound (what : Missing)
deriving DecidableEq

/-- What was being decoded, and the reason why it failed if one is told. -/
def Undecodable.text : Undecodable → String
  | .layout signature => signature
  | .statusCode code => "trove status: unknown status code " ++ toString code.toNat
  | .wideStatus status => "trove status: " ++ status.toDecimalText ++ " exceeds u8"
  | .operationCode signature code => signature ++ ": unknown operation " ++ toString code.toNat
  | .unevenArrays tokens amounts =>
    "collateral arrays: " ++ toString tokens ++ " tokens but " ++ toString amounts ++ " amounts"
  | .unevenCollateral => "getTroveColls: token and amount arrays differ in length"
  | .unknownCollateral kind => "collateral arrays: unknown collateral " ++ kind.toChecksumText
  | .amount cause => "collateral arrays: " ++ cause.message
  | .wideCount what count => what ++ ": " ++ count.toDecimalText ++ " exceeds u64"
  | .poolBalance cause => "pool collateral: invalid amount: " ++ cause.message
  | .other what reason => what ++ ": " ++ reason

def Missing.text : Missing → String
  | .block tag => "block " ++ tag.debugText
  | .replacement hash => "replacement of " ++ hash.toHashText
  | .replacementReceipt hash => "receipt of replacement " ++ hash.toHashText
  | .troveUpdate owner => "TroveUpdated event for " ++ owner.toChecksumText
  | .redemption => "Redemption event"
  | .liquidation => "Liquidation event"
  | .other text => text

/-- The wording of a failure. -/
def ChainError.message : ChainError → String
  | .transport text => "transport error: " ++ text
  | .undecodable cause => "failed to decode " ++ cause.text
  | .reverted text => "call reverted: " ++ text
  | .notFound what => what.text ++ " not found"

end Cdp
