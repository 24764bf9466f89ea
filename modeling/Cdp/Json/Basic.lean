import Cdp.AddressMap

/-!
# Structured data

Values of the data format in which parameters, state and settings are exchanged, and the class of
types with a form in it. A record is an object whose fields are found by name, or an array of the
fields' values in their order; fields that the record does not have are ignored. Reading gives no
reasons: a value has the form of a type or it does not.
-/

set_option autoImplicit false

namespace Cdp

/-- A value of structured data; a fraction is a whole number with a count of decimal places. -/
inductive Json where
  | null
  | bool (b : Bool)
  | integer (n : Int)
  | fraction (mantissa : Int) (places : Nat)
  | string (s : String)
  | array (items : List Json)
  | object (fields : List (String × Json))
deriving Inhabited

/-- The types whose values can be written. -/
class JsonWrite (α : Type) where
  write : α → Json

/-- The types whose values can be read. -/
class JsonRead (α : Type) where
  read : Json → Option α

/-- The types with a form that is both written and read. -/
class JsonForm (α : Type) extends JsonWrite α, JsonRead α

export JsonWrite (write)

namespace Json

/-- The value of a field. -/
def field? (name : String) (fields : List (String × Json)) : Option Json :=
  (fields.find? fun f => f.1 = name).map (·.2)

/-- A whole number from `0` up to a bound. -/
def natBelow? (bound : Nat) : Json → Option Nat
  | .integer n => if 0 ≤ n && n < bound then some n.toNat else none
  | _ => none

/-! ## Records -/

/-- The fields of a record that have not been read yet. -/
inductive Record where
  | named (fields : List (String × Json))
  | positional (items : List Json)

namespace Record

/-- Reads the fields of a record one after another. -/
abbrev Reader := StateT Record Option

/-- Takes the value of a field. In an array it is the next item, so the fields are read in their
order. -/
def take? (name : String) : Reader (Option Json) := fun
  | .named fields => some (field? name fields, .named fields)
  | .positional [] => some (none, .positional [])
  | .positional (item :: rest) => some (some item, .positional rest)

/-- Whether the fields are found by name. -/
def isNamed : Reader Bool := fun
  | .named fields => some (true, .named fields)
  | .positional items => some (false, .positional items)

/-- A field that every value of the record has, with a change made to it before it is read. -/
def requiredAfter {α : Type} [JsonRead α] (change : Json → Json) (name : String) : Reader α := do
  let item ← take? name
  StateT.lift ((item.map change).bind JsonRead.read)

/-- A field that every value of the record has. -/
def required {α : Type} [JsonRead α] (name : String) : Reader α := requiredAfter id name

/-- A field that may be null, or missing from an object. -/
def optional {α : Type} [JsonRead α] (name : String) : Reader (Option α) := do
  let byName ← isNamed
  let item ← take? name
  match item with
  | none => if byName then return none else StateT.lift none
  | some .null => return none
  | some j => some <$> StateT.lift (JsonRead.read j)

/-- A field with a value for its absence, with a change made to it before it is read. -/
def withDefaultAfter {α : Type} [JsonRead α] (change : Json → Json) (name : String)
    (default : α) : Reader α := do
  let item ← take? name
  match item with
  | none => return default
  | some j => StateT.lift (JsonRead.read (change j))

/-- A field with a value for its absence. -/
def withDefault {α : Type} [JsonRead α] (name : String) (default : α) : Reader α :=
  withDefaultAfter id name default

/-- Reads a whole record; an array may have no items left. -/
def read? {α : Type} (reader : Reader α) : Json → Option α
  | .object fields => (reader (.named fields)).map (·.1)
  | .array items =>
    match reader (.positional items) with
    | some (a, .positional []) => some a
    | _ => none
  | _ => none

/-- Reads a record that only objects stand for. -/
def readNamed? {α : Type} (reader : Reader α) : Json → Option α
  | .object fields => (reader (.named fields)).map (·.1)
  | _ => none

end Record

/-- The name of a case without data: a string, or an object with the name and null. -/
def caseName? : Json → Option String
  | .string name => some name
  | .object [(name, .null)] => some name
  | _ => none

end Json

/-! ## Forms of general types -/

instance : JsonForm Bool where
  write := .bool
  read
    | .bool b => some b
    | _ => none

instance : JsonForm String where
  write := .string
  read
    | .string s => some s
    | _ => none

instance : JsonForm UInt8 where
  write n := .integer n.toNat
  read j := (j.natBelow? UInt8.size).map UInt8.ofNat

instance : JsonForm UInt64 where
  write n := .integer n.toNat
  read j := (j.natBelow? UInt64.size).map UInt64.ofNat

instance {α : Type} [JsonWrite α] : JsonWrite (List α) where
  write items := .array (items.map write)

instance {α : Type} [JsonRead α] : JsonRead (List α) where
  read
    | .array items => items.mapM JsonRead.read
    | _ => none

instance {α : Type} [JsonWrite α] : JsonWrite (Option α) where
  write
    | some a => write a
    | none => .null

instance {α : Type} [JsonRead α] : JsonRead (Option α) where
  read
    | .null => some none
    | j => (JsonRead.read j).map some

/-- A pair is an array of two. -/
instance {α β : Type} [JsonWrite α] [JsonWrite β] : JsonWrite (α × β) where
  write p := .array [write p.1, write p.2]

instance {α β : Type} [JsonRead α] [JsonRead β] : JsonRead (α × β) where
  read
    | .array [a, b] => do
      let x ← JsonRead.read a
      let y ← JsonRead.read b
      return (x, y)
    | _ => none

/-- Whether the items behind the bytes of a list may be there: none, or one that is no byte. -/
def Json.endsBytes : List Json → Bool
  | [] => true
  | [item] => (JsonRead.read (α := UInt8) item).isNone
  | _ => false

/-- A fixed number of bytes as a list. -/
def Json.fixedBytes? (count : Nat) (items : List Json) : Option Bytes :=
  if count ≤ items.length && endsBytes (items.drop count) then
    (items.take count).mapM JsonRead.read
  else none

/-- An address is forty hexadecimal digits, or a list of its twenty bytes. -/
def Address.readJson : Json → Option Address
  | .string s => Address.ofText? s
  | .array items => (Json.fixedBytes? 20 items).map fun bytes => .wrap (natOfBytes bytes)
  | _ => none

instance : JsonForm Address where
  write a := .string a.toText
  read := Address.readJson

/-- A map is an object whose names are addresses. -/
instance {α : Type} [JsonWrite α] : JsonWrite (AddressMap α) where
  write m := .object (m.entries.map fun e => (e.1.toText, write e.2))

/-- Reads the entries of a map; a later entry replaces an earlier one of the same address. -/
def AddressMap.readEntries {α : Type} [JsonRead α] (fields : List (String × Json)) :
    Option (AddressMap α) :=
  (fields.mapM fun (f : String × Json) => do
    let key ← Address.ofText? f.1
    let value ← JsonRead.read f.2
    return (key, value)).map AddressMap.ofList

instance {α : Type} [JsonRead α] : JsonRead (AddressMap α) where
  read
    | .object fields => AddressMap.readEntries fields
    | _ => none

end Cdp
