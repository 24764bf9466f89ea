/-!
# Scanning text

A scanner reads from the front of a text: it fails, or gives a value and the rest of the text. An
alternative starts again where the failed one started. Repetition ends where the repeated scanner
fails or takes nothing, so it always ends.
-/

set_option autoImplicit false

namespace Cdp.Toml

/-- Reads from the front of a text. -/
abbrev Scan := StateT (List Char) Option

namespace Scan

variable {α β : Type}

/-- A character that passes a test. -/
def satisfy (p : Char → Bool) : Scan Char := fun
  | [] => none
  | c :: rest => if p c then some (c, rest) else none

/-- A given text. -/
def exactly (text : String) : Scan Unit := fun s =>
  if text.toList.isPrefixOf s then some ((), s.drop text.length) else none

/-- As many characters as pass a test. -/
def run (p : Char → Bool) : Scan (List Char) := fun s => some (s.takeWhile p, s.dropWhile p)

/-- The end of the text. -/
def atEnd : Scan Unit := fun
  | [] => some ((), [])
  | _ :: _ => none

/-- The values of a scanner that is applied as often as it succeeds and takes something. -/
def repeated (p : Scan α) (s : List Char) : List α × List Char :=
  match p s with
  | none => ([], s)
  | some (a, rest) =>
    if _h : rest.length < s.length then
      let (others, final) := repeated p rest
      (a :: others, final)
    else ([], s)
termination_by s.length

/-- Any number of times. -/
def many (p : Scan α) : Scan (List α) := fun s => some (repeated p s)

/-- At least once. -/
def some1 (p : Scan α) : Scan (List α) := do
  let a ← p
  let others ← many p
  return a :: others

/-- At least once, with something between. -/
def separated1 (p : Scan α) (between : Scan β) : Scan (List α) := do
  let a ← p
  let others ← many (do
    let _ ← between
    p)
  return a :: others

/-- Once or not at all. -/
def optional? (p : Scan α) : Scan (Option α) := (some <$> p) <|> pure none

/-- Goes on only if a test holds. -/
def check (b : Bool) : Scan Unit := if b then pure () else failure

end Scan

/-! ## Blanks, line ends and comments -/

def isBlank (c : Char) : Bool := c = ' ' || c = '\t'

def blanks : Scan Unit := do
  let _ ← Scan.run isBlank

def newline : Scan Unit := Scan.exactly "\n" <|> Scan.exactly "\r\n"

/-- A printable character, a tabulator, or anything beyond ASCII. -/
def isText (c : Char) : Bool := c = '\t' || (' ' ≤ c && c ≤ '~') || 0x80 ≤ c.toNat

def comment : Scan Unit := do
  Scan.exactly "#"
  let _ ← Scan.run isText

/-- The end of a line, with blanks and a comment before it. -/
def lineEnd : Scan Unit := do
  blanks
  let _ ← Scan.optional? comment
  newline <|> Scan.atEnd

end Cdp.Toml
