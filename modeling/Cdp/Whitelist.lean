import Cdp.Error
import Cdp.Decimal.Units
import Cdp.Trove.Leverage

/-!
# The whitelist

The kinds of collateral that the protocol accepts, in the order in which the contracts expect lists
of amounts, with the decimals, price and ratios of each. Callers give amounts as maps; `encode`
turns them into lists of kinds and token units in that order, exactly or not at all.
-/

set_option autoImplicit false

namespace Cdp

/-- What is known of one kind of collateral. -/
structure CollateralInfo where
  decimals : UInt8
  price : Decimal
  safetyRatio : Decimal
  recoveryRatio : Decimal
  wrapped : Bool
deriving DecidableEq

/-- The accepted kinds in their order, and what is known of them. -/
structure Whitelist where
  order : List Address
  info : AddressMap CollateralInfo
deriving DecidableEq

namespace Whitelist

def empty : Whitelist := ⟨[], .empty⟩

/-- Adds an entry; a kind that is already listed keeps its place. -/
def add (w : Whitelist) (kind : Address) (info : CollateralInfo) : Whitelist where
  order := if w.info.contains kind then w.order else w.order ++ [kind]
  info := w.info.insert kind info

/-- The whitelist of a list of entries. -/
def ofEntries (entries : List (Address × CollateralInfo)) : Whitelist :=
  entries.foldl (fun w e => w.add e.1 e.2) empty

def kinds (w : Whitelist) : List Address := w.order

def get? (w : Whitelist) (kind : Address) : Option CollateralInfo := w.info.get? kind

def prices (w : Whitelist) : Prices := w.info.map (·.price)

def safetyRatios (w : Whitelist) : Ratios := w.info.map (·.safetyRatio)

def recoveryRatios (w : Whitelist) : Ratios := w.info.map (·.recoveryRatio)

def decimals (w : Whitelist) : AddressMap UInt8 := w.info.map (·.decimals)

/-- Refuses the first kind that is not on the whitelist. -/
def require (w : Whitelist) (kinds : List Address) : Attempt Error Unit :=
  match kinds.find? fun kind => !w.info.contains kind with
  | some kind => Attempt.refuse (.unknownCollateral kind)
  | none => .ok ()

def decimalsOf (w : Whitelist) (kind : Address) : Attempt Error UInt8 :=
  Attempt.ofOption (.missingPrice kind) ((w.get? kind).map (·.decimals))

/-- An amount in the units of a kind as a decimal. -/
def toDecimal (w : Whitelist) (kind : Address) (units : Word) : Attempt Error Decimal := do
  let decimals ← w.decimalsOf kind
  Attempt.ofExcept .amount (Decimal.ofUnits units decimals)

/-- An amount of a kind in its units. -/
def toUnits (w : Whitelist) (kind : Address) (amount : Decimal) : Attempt Error Word := do
  let decimals ← w.decimalsOf kind
  Attempt.ofExcept .amount (amount.toUnits decimals)

/-- The kinds of a map and its amounts in units, in the order of the whitelist. -/
def encodeInOrder (w : Whitelist) (collaterals : Collaterals) :
    List Address → Attempt Error (List (Address × Word))
  | [] => .ok []
  | kind :: rest =>
    match collaterals.get? kind with
    | none => encodeInOrder w collaterals rest
    | some amount => do
      let units ← w.toUnits kind amount
      let others ← encodeInOrder w collaterals rest
      return (kind, units) :: others

/-- Kinds and amounts in units as parallel lists, in the order of the whitelist. -/
def encode (w : Whitelist) (collaterals : Collaterals) :
    Attempt Error (List Address × List Word) := do
  w.require collaterals.keys
  let pairs ← w.encodeInOrder collaterals w.order
  return pairs.unzip

/-- The values of a list of kinds, with a default where the map has none. -/
def align {α : Type} (kinds : List Address) (values : AddressMap α) (default : α) : List α :=
  kinds.map fun kind => (values.get? kind).getD default

/-- Whether a system with this total is in recovery mode. -/
def isRecoveryMode (w : Whitelist) (total : Trove) : Attempt Error Bool :=
  Attempt.mapCause .trove (total.isBelow w.prices w.recoveryRatios)

/-- Whether a Trove may be liquidated. -/
def isLiquidatable (w : Whitelist) (trove : Trove) : Attempt Error Bool :=
  Attempt.mapCause .trove (trove.isBelow w.prices w.safetyRatios)

end Whitelist

end Cdp
