import Cdp.Text.CodePoint

/-!
# Composition

Some pairs of a character and a mark have a character of their own that stands for both. Text is
composed if it has that character instead of the pair.
-/

set_option autoImplicit false

namespace Cdp.Text

/-- Marks by code point, and the characters that each composes with, capital letters left out. -/
def composing : List (Nat × String) := [
  (0x300, "aeinouwyâêôüăēōơưαεηιουωϊϋеиἀἁἐἑἠἡἰἱὀὁὐὑὠὡ"),
  (0x301, "acegiklmnoprsuwyzâåæçêïôõøüăēōũơưαεηιουωϊϋгкἀἁἐἑἠἡἰἱὀὁὐὑὠὡ"),
  (0x302, "aceghijosuwyzạẹọ"),
  (0x303, "aeinouvyâêôăơư"),
  (0x304, "aegiouyäæõöüǫȧȯαιυиуḷṛ"),
  (0x306, "aegiouȩαιυаежиуạ"),
  (0x307, "abcdefghmnoprstwxyzśšṣ"),
  (0x308, "aehiotuwxyõūιυаежзиоучыэіәө"),
  (0x309, "aeiouyâêôăơư"),
  (0x30a, "auwy"),
  (0x30b, "ouу"),
  (0x30c, "acdeghijklnorstuzüʒ"),
  (0x30f, "aeioruѵ"),
  (0x311, "aeioru"),
  (0x313, "αεηιορυω"),
  (0x314, "αεηιορυω"),
  (0x31b, "ou"),
  (0x323, "abdehiklmnorstuvwyzơư"),
  (0x324, "u"),
  (0x325, "a"),
  (0x326, "st"),
  (0x327, "cdeghklnrst"),
  (0x328, "aeiou"),
  (0x32d, "delntu"),
  (0x32e, "h"),
  (0x330, "eiu"),
  (0x331, "bdhklnrtz"),
  (0x338, "<=>←→↔⇐⇒⇔∃∈∋∣∥∼≃≅≈≍≡≤≥≲≳≶≷≺≻≼≽⊂⊃⊆⊇⊑⊒⊢⊨⊩⊫⊲⊳⊴⊵"),
  (0x342, "αηιυωϊϋἀἁἠἡἰἱὐὑὠὡ"),
  (0x653, "ا"),
  (0x654, "اويہےە"),
  (0x655, "ا"),
  (0x93c, "नरळ"),
  (0x9be, "\u09c7"),
  (0x9d7, "\u09c7"),
  (0xb3e, "\u0b47"),
  (0xb56, "\u0b47"),
  (0xb57, "\u0b47"),
  (0xbbe, "\u0bc6\u0bc7"),
  (0xbd7, "ஒ\u0bc6"),
  (0xc56, "\u0c46"),
  (0xcc2, "\u0cc6"),
  (0xcd5, "\u0cbf\u0cc6\u0cca"),
  (0xcd6, "\u0cc6"),
  (0xd3e, "\u0d46\u0d47"),
  (0xd57, "\u0d46"),
  (0xdca, "\u0dd9\u0ddc"),
  (0xdcf, "\u0dd9"),
  (0xddf, "\u0dd9"),
  (0x102e, "ဥ"),
  (0x1b35, "ᬅᬇᬉᬋᬍᬑ\u1b3a\u1b3c\u1b3e\u1b3f\u1b42"),
  (0x3099, "うかきくけこさしすせそたちつてとはひふへほゝウカキクケコサシスセソタチツテトハヒフヘホワヰヱヲヽ"),
  (0x309a, "はひふへほハヒフヘホ"),
  (0x110ba, "𑂙𑂛𑂥"),
  (0x11127, "𑄱𑄲"),
  (0x1133e, "𑍇"),
  (0x11357, "𑍇"),
  (0x114b0, "𑒹"),
  (0x114ba, "𑒹"),
  (0x114bd, "𑒹"),
  (0x115af, "𑖸𑖹"),
  (0x11930, "𑤵")]

/-- Whether two conjoining letters of Hangul compose: two letters to a syllable, or a syllable
without a final letter and that letter. -/
def composesHangul (a b : Nat) : Bool :=
  (0x1100 ≤ a && a ≤ 0x1112 && 0x1161 ≤ b && b ≤ 0x1175) ||
    (0xac00 ≤ a && a ≤ 0xd7a3 && (a - 0xac00) % 28 == 0 && 0x11a8 ≤ b && b ≤ 0x11c2)

/-- Whether a character stands for a pair of characters. -/
def composes (a b : Char) : Bool :=
  composesHangul a.toNat b.toNat ||
    composing.any fun entry => entry.1 == b.toNat && entry.2.toList.contains a

/-- Whether no two neighbours in a text compose. -/
def isComposed : List Char → Bool
  | a :: b :: rest => !composes a b && isComposed (b :: rest)
  | _ => true

end Cdp.Text
