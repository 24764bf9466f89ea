import Cdp.Toml.Number
import Cdp.Toml.Table
import Cdp.Toml.Text

/-!
# Documents

A document is a row of lines: definitions of keys, headers of tables, comments and empty lines. A
definition belongs to the table of the last header before it. Values may be nested to a limited
depth, and keys have a limited number of names.
-/

set_option autoImplicit false

namespace Cdp.Toml

/-- How deep arrays and inline tables may be nested. -/
def maxDepth : Nat := 79

/-! ## Values -/

def flag : Scan Json :=
  (fun _ => .bool true) <$> Scan.exactly "true" <|> (fun _ => .bool false) <$> Scan.exactly "false"

/-- Blanks, line ends and comments inside an array. -/
def arrayGap : Scan Unit := do
  let _ ← Scan.many ((fun _ => ()) <$> Scan.satisfy isBlank <|> newline <|> comment)

/-- An item of an array, with the gaps around it. -/
def arrayItem (value : Scan Json) : Scan Json := do
  arrayGap
  let item ← value
  arrayGap
  return item

/-- An array; a comma may follow its last item. -/
def array (value : Scan Json) : Scan Json := do
  Scan.exactly "["
  let items ← Scan.optional? (Scan.separated1 (arrayItem value) (Scan.exactly ","))
  let _ ← Scan.optional? (do
    Scan.check items.isSome
    Scan.exactly ",")
  arrayGap
  Scan.exactly "]"
  return .array (items.getD [])

/-- A key and its value. -/
def definition (value : Scan Json) : Scan (List String × Json) := do
  let path ← key
  Scan.exactly "="
  blanks
  let item ← value
  return (path, item)

/-- A definition inside an inline table. -/
def inlineDefinition (value : Scan Json) : Scan (List String × Json) := do
  let d ← definition value
  blanks
  return d

/-- A table on one line. -/
def inlineTable (value : Scan Json) : Scan Json := do
  Scan.exactly "\x7b"
  blanks
  let definitions ← Scan.optional? (Scan.separated1 (inlineDefinition value) (Scan.exactly ","))
  Scan.exactly "\x7d"
  let table ← StateT.lift
    ((definitions.getD []).foldlM (fun (t : Table) d => t.define d.1 d.2) Table.empty)
  return table.toJson

/-- A value that has no parts. -/
def scalar : Scan Json := Json.string <$> text <|> flag <|> moment <|> fraction <|> wholeNumber

/-- A value whose arrays and inline tables are nested at most as deep as a bound. -/
def value : Nat → Scan Json
  | 0 => scalar
  | depth + 1 => scalar <|> array (value depth) <|> inlineTable (value depth)

/-! ## Lines -/

inductive Line where
  | blank
  | define (path : List String) (value : Json)
  | header (path : List String)
  | repeatedHeader (path : List String)

def headerLine : Scan Line := do
  Scan.exactly "["
  let path ← key
  Scan.exactly "]"
  return .header path

def repeatedHeaderLine : Scan Line := do
  Scan.exactly "[["
  let path ← key
  Scan.exactly "]]"
  return .repeatedHeader path

def definitionLine : Scan Line := do
  let d ← definition (value maxDepth)
  return .define d.1 d.2

/-- One line with its end. -/
def line : Scan Line := do
  blanks
  let l ← repeatedHeaderLine <|> headerLine <|> definitionLine <|> pure .blank
  lineEnd
  return l

/-! ## Documents -/

/-- A document up to a line. -/
structure State where
  root : Table
  /-- The path of the last header. -/
  current : List String

/-- Takes in a line. -/
def State.add (state : State) : Line → Option State
  | .blank => some state
  | .define path value => do
    let root ← state.root.update false (Table.define path value) state.current
    return { state with root }
  | .header path => do
    let root ← state.root.openHeader path
    return ⟨root, path⟩
  | .repeatedHeader path => do
    let root ← state.root.openRepeated path
    return ⟨root, path⟩

/-- The text without a byte order mark in front. -/
def dropMark : List Char → List Char
  | c :: rest => if c.toNat = 0xfeff then rest else c :: rest
  | [] => []

/-- Reads a document as an object. -/
def parse (text : String) : Option Json :=
  match Scan.repeated line (dropMark text.toList) with
  | (lines, []) => (lines.foldlM State.add ⟨.empty, []⟩).map fun state => state.root.toJson
  | _ => none

end Cdp.Toml
