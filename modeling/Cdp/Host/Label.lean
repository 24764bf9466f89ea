import Cdp.Host.Image
import Cdp.Host.Punycode
import Cdp.Text.Composition
import Cdp.Text.Direction
import Cdp.Text.Joining

/-!
# Labels

The parts of a name between its points. A label may be written as it is or encoded, with four
characters in front that say so. It may not begin with a mark, it may have invisible joiners only
where they show an effect, and in a name with text written from right to left every label keeps to
one direction.
-/

set_option autoImplicit false

namespace Cdp.Host

open Text

/-- Whether a character is an ASCII character that no name may have. -/
def isDenied (c : Char) : Bool :=
  c.toNat ≤ 0x20 || c.toNat = 0x7f || "%#/:<>?@[\\]^|".toList.contains c

/-! ## Joiners -/

/-- Whether a joiner may stand between two texts; the text before it has its last character first.
Both joiners may follow a virama; the one that keeps letters apart may also stand between letters
that would join. -/
def joinerFits (c : Char) (before rest : List Char) : Bool :=
  if c.toNat = 0x200d then before.head?.any isVirama
  else if c.toNat = 0x200c then
    before.head?.any isVirama ||
      ((before.dropWhile isNonspacing).head?.any joinsNext &&
        (rest.dropWhile isNonspacing).head?.any joinsPrevious)
  else true

/-- Whether all joiners of a text may stand where they stand. -/
def joinersFit : List Char → List Char → Bool
  | _, [] => true
  | before, c :: rest => joinerFits c before rest && joinersFit (c :: before) rest

/-! ## Direction -/

/-- Whether a label is written from right to left or has digits that are. -/
def hasRightToLeft (label : List Char) : Bool :=
  label.any fun c => direction c = .rightToLeft || direction c = .arabicNumber

/-- The direction of the last character that is no mark. -/
def lastDirection? (ds : List Direction) : Option Direction :=
  (ds.reverse.dropWhile (· = .mark)).head?

/-- Whether a label keeps to the direction of its first character. -/
def keepsDirection (label : List Char) : Bool :=
  let ds := label.map direction
  match ds with
  | [] => true
  | .rightToLeft :: _ =>
    !ds.contains .leftToRight &&
      !(ds.contains .europeanNumber && ds.contains .arabicNumber) &&
      lastDirection? ds != some .neutral
  | .leftToRight :: _ =>
    !ds.contains .rightToLeft && !ds.contains .arabicNumber &&
      lastDirection? ds != some .neutral
  | _ => false

/-! ## Labels -/

/-- The label that a written label stands for. What is encoded has to need it. -/
def decodeLabel? (label : List Char) : Option (List Char) :=
  if "xn--".toList.isPrefixOf label then do
    let decoded ← Punycode.decode? (label.drop 4)
    if decoded.any (fun c => 0x80 ≤ c.toNat) && decoded.all isStable && isComposed decoded then
      some decoded
    else none
  else some label

/-- Whether a label may be part of a name. -/
def isLabel (label : List Char) : Bool :=
  !label.any isDenied && !label.head?.any isMark && joinersFit [] label

end Cdp.Host
