import Cdp.Text.Mark

/-!
# Directions

The direction in which a character is written. Marks follow the character before them; digits,
signs and punctuation have no strong direction. A character that stands for others is written as
they are.
-/

set_option autoImplicit false

namespace Cdp.Text

inductive Direction where
  | leftToRight
  | rightToLeft
  /-- A digit that is written from left to right in text of either direction. -/
  | europeanNumber
  /-- A digit that belongs to text written from right to left. -/
  | arabicNumber
  | neutral
  | mark
deriving DecidableEq

/-- Ranges of characters written from right to left; code points between two of them that have no
character of another direction are filled in. -/
def rightToLeft : List (Nat × Nat) := [
  (0x590, 0x5ff), (0x608, 0x608), (0x60b, 0x60b), (0x60d, 0x60d), (0x61b, 0x64a), (0x66d, 0x6d5),
  (0x6e5, 0x6e6), (0x6ee, 0x6ef), (0x6fa, 0x7f5), (0x7fa, 0x8c9), (0x200f, 0x200f),
  (0x2135, 0x2138), (0xfb1d, 0xfc5d), (0xfc64, 0xfd3d), (0xfd50, 0xfdce), (0xfdf0, 0xfdfc),
  (0xfe71, 0xfe71), (0xfe73, 0xfe73), (0xfe75, 0xfe75), (0xfe77, 0xfe77), (0xfe79, 0xfe79),
  (0xfe7b, 0xfe7b), (0xfe7d, 0xfe7d), (0xfe7f, 0xfefe), (0x10800, 0x1091e), (0x10920, 0x10b38),
  (0x10b40, 0x10d2f), (0x10d3a, 0x10e5f), (0x10e7f, 0x10fff), (0x1e800, 0x1eeef),
  (0x1eef2, 0x1efff)]

/-- Ranges of European digits and fractions. -/
def europeanNumbers : List (Nat × Nat) := [
  (0x30, 0x39), (0xbc, 0xbe), (0x6f0, 0x6f9), (0x2150, 0x215f), (0x2189, 0x2189), (0x2488, 0x249b),
  (0x102e1, 0x102fb), (0x1f100, 0x1f100)]

/-- Ranges of Arabic digits. -/
def arabicNumbers : List (Nat × Nat) := [
  (0x660, 0x669), (0x66b, 0x66c), (0x10d30, 0x10d39), (0x10e60, 0x10e7e)]

/-- Ranges of characters without a strong direction, filled in likewise. -/
def neutrals : List (Nat × Nat) := [
  (0x0, 0x8), (0xe, 0x1b), (0x21, 0x2f), (0x3a, 0x60), (0x7b, 0xa7), (0xa9, 0xae), (0xb0, 0xb1),
  (0xb6, 0xb7), (0xbb, 0xbb), (0xbf, 0xbf), (0xd7, 0xd7), (0xf7, 0xf7), (0x2b9, 0x2ba),
  (0x2c2, 0x2cf), (0x2d2, 0x2d7), (0x2de, 0x2df), (0x2e5, 0x2ed), (0x2ef, 0x2ff), (0x374, 0x375),
  (0x387, 0x387), (0x3f6, 0x3f6), (0x58a, 0x58f), (0x606, 0x607), (0x609, 0x60a), (0x60c, 0x60c),
  (0x60e, 0x60f), (0x66a, 0x66a), (0x6de, 0x6de), (0x6e9, 0x6e9), (0x7f6, 0x7f9), (0x9f2, 0x9f3),
  (0x9fb, 0x9fb), (0xaf1, 0xaf1), (0xbf3, 0xbfa), (0xc78, 0xc7e), (0xe3f, 0xe3f), (0xf3a, 0xf3d),
  (0x1390, 0x1399), (0x1400, 0x1400), (0x169b, 0x169c), (0x17db, 0x17db), (0x17f0, 0x180e),
  (0x1940, 0x1945), (0x19de, 0x19ff), (0x200b, 0x2016), (0x2018, 0x203d), (0x203f, 0x208b),
  (0x20a0, 0x20cf), (0x2104, 0x2104), (0x2108, 0x2108), (0x2114, 0x2125), (0x2127, 0x2129),
  (0x212e, 0x212e), (0x213a, 0x213a), (0x2140, 0x214d), (0x218a, 0x2335), (0x237b, 0x2394),
  (0x2396, 0x2426), (0x2440, 0x26ab), (0x26ad, 0x27ff), (0x2900, 0x2b95), (0x2b97, 0x2bff),
  (0x2ce5, 0x2cea), (0x2cf9, 0x2cff), (0x2e00, 0x2e9e), (0x2ea0, 0x2ef2), (0x2ff0, 0x3004),
  (0x3008, 0x3020), (0x3030, 0x3030), (0x3036, 0x3037), (0x303d, 0x303f), (0x30a0, 0x30a0),
  (0x30fb, 0x30fb), (0x31c0, 0x31e3), (0x4dc0, 0x4dff), (0xa490, 0xa4c6), (0xa60d, 0xa60f),
  (0xa673, 0xa67f), (0xa700, 0xa721), (0xa788, 0xa788), (0xa828, 0xa82b), (0xa838, 0xa839),
  (0xa874, 0xa877), (0xab6a, 0xab6b), (0xfd3e, 0xfd4f), (0xfdcf, 0xfdef), (0xfdfd, 0xfe46),
  (0xfe51, 0xfe5e), (0xfeff, 0xff65), (0xffe0, 0xffe2), (0xffe4, 0xffff), (0x10101, 0x10101),
  (0x10140, 0x1018c), (0x10190, 0x101a0), (0x1091f, 0x1091f), (0x10b39, 0x10b3f),
  (0x11052, 0x11065), (0x11660, 0x1166c), (0x11fd5, 0x11ff1), (0x16fe2, 0x16fe2),
  (0x1bca0, 0x1bca3), (0x1d173, 0x1d17a), (0x1d1e9, 0x1d245), (0x1d300, 0x1d356),
  (0x1d6c1, 0x1d6c1), (0x1d6db, 0x1d6db), (0x1d6fb, 0x1d6fb), (0x1d715, 0x1d715),
  (0x1d735, 0x1d735), (0x1d74f, 0x1d74f), (0x1d76f, 0x1d76f), (0x1d789, 0x1d789),
  (0x1d7a9, 0x1d7a9), (0x1d7c3, 0x1d7c3), (0x1e2ff, 0x1e2ff), (0x1eef0, 0x1f10f),
  (0x1f12f, 0x1f12f), (0x1f16d, 0x1f16f), (0x1f1ad, 0x1f1ad), (0x1f260, 0x1f6d7),
  (0x1f6dc, 0x1f776), (0x1f77b, 0x1f8b1), (0x1f900, 0x1fa53), (0x1fa60, 0x1fa88),
  (0x1fa90, 0x1fabd), (0x1fabf, 0x1fac5), (0x1face, 0x1fadb), (0x1fae0, 0x1fae8),
  (0x1faf0, 0x1fbca), (0x1fffe, 0x1ffff), (0x2fffe, 0x2ffff), (0x3fffe, 0x10ffff)]

/-- The direction of a character. -/
def direction (c : Char) : Direction :=
  let code := c.toNat
  if isNonspacing c then .mark
  else if inRanges europeanNumbers code then .europeanNumber
  else if inRanges arabicNumbers code then .arabicNumber
  else if inRanges rightToLeft code then .rightToLeft
  else if inRanges neutrals code then .neutral
  else .leftToRight

end Cdp.Text
