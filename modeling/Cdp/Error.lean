import Cdp.Chain.Error
import Cdp.InsertHint.Basic
import Cdp.Trove.Basic

/-!
# Refused requests

The causes for which reading the protocol's state or preparing a transaction is refused.
-/

set_option autoImplicit false

namespace Cdp

/-- A rule that a request breaks on its own account. -/
inductive RequestFlaw where
  | repayWhileLevering
  | nothingToLiquidate
  | slippage (kind : Address) (maxSlippage : Decimal)
deriving DecidableEq

inductive Error where
  | invalidParams (flaw : RequestFlaw)
  | unknownCollateral (kind : Address)
  | trove (cause : TroveError)
  | amount (cause : DecimalError)
  /-- While the borrowing fee decays, the debt would fall below the minimum. -/
  | debtDecay (minutes : UInt64) (minimum : Decimal)
  | redemptionTooLow (minimum : Decimal)
  | redemptionNotTruncated
  | hintLookup (phase : SearchPhase) (cause : ChainError)
  | missingPrice (kind : Address)
  | chain (cause : ChainError)
deriving DecidableEq

def RequestFlaw.text : RequestFlaw → String
  | .repayWhileLevering => "cannot repay debt while levering up"
  | .nothingToLiquidate => "no Troves to liquidate"
  | .slippage kind maxSlippage => slippageText kind maxSlippage

namespace Error

/-- The wording of a refusal. -/
def message : Error → String
  | .invalidParams flaw => "invalid parameters: " ++ flaw.text
  | .unknownCollateral kind => "collateral " ++ kind.toChecksumText ++ " is not on the whitelist"
  | .trove cause => cause.message
  | .amount cause => "invalid amount: " ++ cause.message
  | .debtDecay minutes minimum =>
    "resulting net debt would fall below the minimum of " ++ minimum.toText ++ " within " ++
      toString minutes.toNat ++ " minutes as the borrowing fee decays"
  | .redemptionTooLow minimum =>
    "redemption amount must be at least " ++ minimum.toText ++ " to redeem from any Trove"
  | .redemptionNotTruncated => "redemption was not truncated, there is nothing to top up"
  | .hintLookup phase cause => "hint lookup failed while " ++ phase.text ++ ": " ++ cause.message
  | .missingPrice kind => "no price data for collateral " ++ kind.toChecksumText
  | .chain cause => cause.message

/-- The wording followed by the wording of the underlying cause, where there is one. -/
def messages : Error → List String
  | .amount cause => [message (.amount cause), cause.message]
  | .hintLookup phase cause => [message (.hintLookup phase cause), cause.message]
  | e => [e.message]

end Error

instance : MonadLift (Except (Failure TroveError)) (Except (Failure Error)) :=
  ⟨Attempt.mapCause .trove⟩

end Cdp
