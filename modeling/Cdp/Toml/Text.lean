import Cdp.Bytes.Hex
import Cdp.Text.CodePoint
import Cdp.Toml.Scan

/-!
# Texts and keys

A text stands between quotation marks, with escapes, or between apostrophes, as it is. Between
three marks it may go over several lines: a line end right after the opening marks is dropped, and
a backslash at the end of a line drops the line end and the blanks behind it. A key is a row of
names joined by points; a name is bare or a text on one line.
-/

set_option autoImplicit false

namespace Cdp.Toml

/-! ## Escapes -/

/-- The character of a code point in `count` hexadecimal digits. -/
def codePoint (count : Nat) : Scan Char := do
  let digits ← (List.range count).mapM fun _ => Scan.satisfy fun c => (Hex.digit? c).isSome
  StateT.lift ((Hex.numberOfDigits? digits).bind Text.charOfCode?)

/-- The character that a letter after a backslash stands for. -/
def escapeLetter? : Char → Option Char
  | 'b' => some '\x08'
  | 't' => some '\t'
  | 'n' => some '\n'
  | 'f' => some '\x0c'
  | 'r' => some '\r'
  | '"' => some '"'
  | '\\' => some '\\'
  | _ => none

def escape : Scan Char := do
  Scan.exactly "\\"
  let letter ← Scan.satisfy fun _ => true
  if letter = 'u' then codePoint 4
  else if letter = 'U' then codePoint 8
  else StateT.lift (escapeLetter? letter)

/-! ## Texts on one line -/

/-- Whether a character stands for itself between quotation marks. -/
def isPlain (c : Char) : Bool := isText c && c != '"' && c != '\\'

/-- Whether a character may stand between apostrophes. -/
def isVerbatim (c : Char) : Bool := isText c && c != '\''

def quotedText : Scan (List Char) := do
  Scan.exactly "\""
  let cs ← Scan.many (Scan.satisfy isPlain <|> escape)
  Scan.exactly "\""
  return cs

def verbatimText : Scan (List Char) := do
  Scan.exactly "'"
  let cs ← Scan.run isVerbatim
  Scan.exactly "'"
  return cs

/-! ## Texts on several lines -/

/-- One or two marks that do not end the text. -/
def innerMarks (mark : Char) : Scan (List Char) := do
  let marks ← Scan.run (· = mark)
  Scan.check (0 < marks.length && marks.length < 3)
  return marks

/-- The three marks at the end of the text, and up to two marks of the text before them. -/
def closingMarks (mark : Char) : Scan (List Char) := fun s =>
  let count := (s.takeWhile (· = mark)).length
  if count < 3 then none
  else
    let inner := min (count - 3) 2
    some (List.replicate inner mark, s.drop (inner + 3))

/-- A backslash at the end of a line, and all blanks and line ends behind it. -/
def continuation : Scan (List Char) := do
  Scan.exactly "\\"
  blanks
  newline
  let _ ← Scan.many ((fun _ => ()) <$> Scan.satisfy isBlank <|> newline)
  return []

def lineBreak : Scan (List Char) := do
  newline
  return ['\n']

/-- The text between three marks, out of pieces. -/
def longText (mark : Char) (piece : Scan (List Char)) : Scan (List Char) := do
  Scan.exactly (String.ofList [mark, mark, mark])
  let _ ← Scan.optional? newline
  let pieces ← Scan.many (piece <|> lineBreak <|> innerMarks mark)
  let final ← closingMarks mark
  return pieces.flatten ++ final

def longQuotedText : Scan (List Char) :=
  longText '"' (continuation <|> (fun c => [c]) <$> (Scan.satisfy isPlain <|> escape))

def longVerbatimText : Scan (List Char) :=
  longText '\'' ((fun c => [c]) <$> Scan.satisfy isVerbatim)

/-- A text of any of the four kinds. -/
def text : Scan String :=
  String.ofList <$> (longQuotedText <|> quotedText <|> longVerbatimText <|> verbatimText)

/-! ## Keys -/

def isBareKey (c : Char) : Bool :=
  ('a' ≤ c && c ≤ 'z') || ('A' ≤ c && c ≤ 'Z') || ('0' ≤ c && c ≤ '9') || c = '-' || c = '_'

def bareKey : Scan (List Char) := Scan.some1 (Scan.satisfy isBareKey)

def keyPart : Scan String := do
  blanks
  let cs ← bareKey <|> quotedText <|> verbatimText
  blanks
  return String.ofList cs

/-- The most names that a key may have. -/
def maxKeyParts : Nat := 79

/-- A row of names joined by points. -/
def key : Scan (List String) := do
  let path ← Scan.separated1 keyPart (Scan.exactly ".")
  Scan.check (path.length ≤ maxKeyParts)
  return path

end Cdp.Toml
