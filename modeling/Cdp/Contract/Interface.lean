import Cdp.Address
import Cdp.Contract.Encoding

/-!
# Functions and events of the contracts

A function is called with the first four bytes of the hash of its signature and its arguments. An
event is recognised by the hash of its signature, the first topic of its log.
-/

set_option autoImplicit false

namespace Cdp.Contract

/-- The types of arguments and results. -/
inductive ValueType where
  | uint256
  | uint8
  | bool
  | address
  | uint256List
  | addressList
deriving DecidableEq

namespace ValueType

/-- The type as signatures write it. -/
def name : ValueType → String
  | .uint256 => "uint256"
  | .uint8 => "uint8"
  | .bool => "bool"
  | .address => "address"
  | .uint256List => "uint256[]"
  | .addressList => "address[]"

def shape : ValueType → Shape
  | .uint256List | .addressList => .list
  | _ => .word

end ValueType

/-- A name with the types of its parameters. -/
def signatureText (name : String) (parameters : List ValueType) : String :=
  name ++ "(" ++ ",".intercalate (parameters.map ValueType.name) ++ ")"

/-- A function of a contract. -/
structure Function where
  name : String
  parameters : List ValueType
  results : List ValueType

namespace Function

def signature (f : Function) : String := signatureText f.name f.parameters

/-- The four bytes that select the function. -/
def selector (f : Function) : Bytes := (Keccak.digestText f.signature).take 4

/-- The data of a call. -/
def call (f : Function) (arguments : List Value) : Bytes := f.selector ++ encode arguments

/-- Reads the results of a call. -/
def readResults (f : Function) (data : Bytes) : Option (List Value) :=
  decode (f.results.map ValueType.shape) data

end Function

/-- An event of a contract; indexed fields come before the others. -/
structure Event where
  name : String
  indexed : List ValueType
  fields : List ValueType

namespace Event

/-- The types of all fields, the indexed ones first. -/
def signature (e : Event) : String := signatureText e.name (e.indexed ++ e.fields)

/-- The topic that marks the event. -/
def topic (e : Event) : Word := .wrap (natOfBytes (Keccak.digestText e.signature))

end Event

/-! ## Values -/

def Value.address (a : Address) : Value := .word a.toWord
def Value.flag (b : Bool) : Value := .word (if b then ⟨1, by decide⟩ else .zero)
def Value.counter (n : UInt64) : Value := .word (.ofUInt64 n)
def Value.addresses (as : List Address) : Value := .list (as.map Address.toWord)

/-- The low byte of a word. -/
def byteOfWord (w : Word) : UInt8 := UInt8.ofNat (w.toNat % 256)

/-! ## Functions of the borrower operations -/

def openTrove : Function where
  name := "openTrove"
  parameters := [.uint256, .uint256, .address, .address, .addressList, .uint256List]
  results := []

def openTroveLeverUp : Function where
  name := "openTroveLeverUp"
  parameters := [.uint256, .uint256, .address, .address, .addressList, .uint256List, .uint256List,
    .uint256List]
  results := []

def adjustTrove : Function where
  name := "adjustTrove"
  parameters := [.addressList, .uint256List, .addressList, .uint256List, .uint256, .bool, .address,
    .address, .uint256]
  results := []

def adjustTroveLeverUp : Function where
  name := "adjustTroveLeverUp"
  parameters := [.addressList, .uint256List, .uint256List, .uint256List, .addressList, .uint256List,
    .uint256, .bool, .address, .address, .uint256]
  results := []

def closeTrove : Function := ⟨"closeTrove", [], []⟩

def closeTroveUnlever : Function where
  name := "closeTroveUnlever"
  parameters := [.addressList, .uint256List, .uint256List]
  results := []

/-! ## Functions of the Trove manager -/

def getTroveStatus : Function := ⟨"getTroveStatus", [.address], [.uint256]⟩
def getTroveDebt : Function := ⟨"getTroveDebt", [.address], [.uint256]⟩
def getTroveColls : Function := ⟨"getTroveColls", [.address], [.addressList, .uint256List]⟩
def getTroveStake : Function := ⟨"getTroveStake", [.address, .address], [.uint256]⟩
def getRewardSnapshotColl : Function := ⟨"getRewardSnapshotColl", [.address, .address], [.uint256]⟩
def getRewardSnapshotDebt : Function := ⟨"getRewardSnapshotYUSD", [.address, .address], [.uint256]⟩
def getTotalRewardColl : Function := ⟨"getL_Coll", [.address], [.uint256]⟩
def getTotalRewardDebt : Function := ⟨"getL_YUSD", [.address], [.uint256]⟩
def getTroveOwnersCount : Function := ⟨"getTroveOwnersCount", [], [.uint256]⟩
def baseRate : Function := ⟨"baseRate", [], [.uint256]⟩
def lastFeeOperationTime : Function := ⟨"lastFeeOperationTime", [], [.uint256]⟩

def redeemCollateral : Function where
  name := "redeemCollateral"
  parameters := [.uint256, .uint256, .address, .address, .address, .uint256, .uint256]
  results := []

def liquidateTroves : Function := ⟨"liquidateTroves", [.uint256], []⟩
def batchLiquidateTroves : Function := ⟨"batchLiquidateTroves", [.addressList, .address], []⟩

/-! ## Functions of the pools, the whitelist and the sorted list -/

def getPoolDebt : Function := ⟨"getYUSDDebt", [], [.uint256]⟩
def getPoolCollateral : Function := ⟨"getCollateral", [.address], [.uint256]⟩

def getValidCollateral : Function := ⟨"getValidCollateral", [], [.addressList]⟩
def getPrice : Function := ⟨"getPrice", [.address], [.uint256]⟩
def getDecimals : Function := ⟨"getDecimals", [.address], [.uint8]⟩
def getSafetyRatio : Function := ⟨"getSafetyRatio", [.address], [.uint256]⟩
def getRecoveryRatio : Function := ⟨"getRecoveryRatio", [.address], [.uint256]⟩
def isWrapped : Function := ⟨"isWrapped", [.address], [.bool]⟩

def getFirst : Function := ⟨"getFirst", [], [.address]⟩
def getLast : Function := ⟨"getLast", [], [.address]⟩
def getSize : Function := ⟨"getSize", [], [.uint256]⟩
def getNext : Function := ⟨"getNext", [.address], [.address]⟩
def getPrev : Function := ⟨"getPrev", [.address], [.address]⟩

def findInsertPosition : Function where
  name := "findInsertPosition"
  parameters := [.uint256, .address, .address]
  results := [.address, .address]

def getApproxHint : Function where
  name := "getApproxHint"
  parameters := [.uint256, .uint256, .uint256]
  results := [.address, .uint256, .uint256]

def getRedemptionHints : Function where
  name := "getRedemptionHints"
  parameters := [.uint256, .uint256]
  results := [.address, .uint256, .uint256]

/-! ## Events -/

def troveUpdated : Event where
  name := "TroveUpdated"
  indexed := [.address]
  fields := [.uint256, .addressList, .uint256List, .uint8]

def borrowingFeePaid : Event := ⟨"YUSDBorrowingFeePaid", [.address], [.uint256]⟩

def redemption : Event where
  name := "Redemption"
  indexed := []
  fields := [.uint256, .uint256, .uint256, .addressList, .uint256List]

def troveLiquidated : Event := ⟨"TroveLiquidated", [.address], [.uint256, .uint8]⟩

def liquidation : Event where
  name := "Liquidation"
  indexed := []
  fields := [.uint256, .uint256, .addressList, .uint256List]

end Cdp.Contract
