import Cdp.Text.Unassigned

/-!
# Images of characters

A name of a host may be written with characters that only stand for others: capital letters,
letters and digits in other shapes, characters that are never shown. Every character has an image
in the characters that names are made of, or is refused.

Of an image only what may decide on a name is kept: an ASCII character, a number, a mark at the
front. Another character with an image stands for itself, and is written in its direction.
-/

set_option autoImplicit false

namespace Cdp.Host

open Text

/-- Ranges of assigned characters that no name may have. -/
def excluded : List (Nat × Nat) := [
  (0x80, 0x9f), (0x600, 0x605), (0x61c, 0x61c), (0x6dd, 0x6dd), (0x70f, 0x70f), (0x890, 0x891),
  (0x8e2, 0x8e2), (0x1680, 0x1680), (0x200e, 0x200f), (0x2024, 0x2026), (0x2028, 0x202e),
  (0x2066, 0x2069), (0x2488, 0x249b), (0x2ff0, 0x2fff), (0x31ef, 0x31ef), (0x33c2, 0x33c2),
  (0x33c7, 0x33c7), (0x33d8, 0x33d8), (0xfe12, 0xfe12), (0xfe19, 0xfe19), (0xfe30, 0xfe30),
  (0xfe52, 0xfe52), (0xfff9, 0xfffd), (0x110bd, 0x110bd), (0x110cd, 0x110cd), (0x13430, 0x1343f),
  (0x1f100, 0x1f100), (0xe0001, 0xe0001), (0xe0020, 0xe007f)]

/-- Ranges of characters whose image is a space, or has an ASCII character that no name may have
beside others. -/
def spaced : List (Nat × Nat) := [
  (0xa0, 0xa0), (0xa8, 0xa8), (0xaf, 0xaf), (0xb4, 0xb4), (0xb8, 0xb8), (0x2d8, 0x2dd),
  (0x37a, 0x37a), (0x384, 0x385), (0x1fbd, 0x1fbd), (0x1fbf, 0x1fc1), (0x1fcd, 0x1fcf),
  (0x1fdd, 0x1fdf), (0x1fed, 0x1fee), (0x1ffd, 0x1ffe), (0x2000, 0x200a), (0x2017, 0x2017),
  (0x202f, 0x202f), (0x203e, 0x203e), (0x2047, 0x2049), (0x205f, 0x205f), (0x2100, 0x2101),
  (0x2105, 0x2106), (0x2a74, 0x2a74), (0x3000, 0x3000), (0x309b, 0x309c), (0xfc5e, 0xfc63),
  (0xfdfa, 0xfdfb), (0xfe49, 0xfe4c), (0xfe70, 0xfe70), (0xfe72, 0xfe72), (0xfe74, 0xfe74),
  (0xfe76, 0xfe76), (0xfe78, 0xfe78), (0xfe7a, 0xfe7a), (0xfe7c, 0xfe7c), (0xfe7e, 0xfe7e),
  (0xffe3, 0xffe3)]

/-- Ranges of characters without an image. -/
def dropped : List (Nat × Nat) := [
  (0xad, 0xad), (0x34f, 0x34f), (0x115f, 0x1160), (0x17b4, 0x17b5), (0x180b, 0x180f),
  (0x200b, 0x200b), (0x2060, 0x2064), (0x206a, 0x206f), (0x3164, 0x3164), (0xfe00, 0xfe0f),
  (0xfeff, 0xfeff), (0xffa0, 0xffa0), (0x1bca0, 0x1bca3), (0x1d173, 0x1d17a), (0xe0100, 0xe01ef)]

/-- Runs of characters with ASCII images: the first code point, the length and the first image. -/
def asciiImages : List (Nat × Nat × Char) := [
  (0x41, 26, 'a'), (0xaa, 1, 'a'), (0xb2, 2, '2'), (0xb9, 1, '1'), (0xba, 1, 'o'), (0x17f, 1, 's'),
  (0x2b0, 1, 'h'), (0x2b2, 1, 'j'), (0x2b3, 1, 'r'), (0x2b7, 1, 'w'), (0x2b8, 1, 'y'),
  (0x2e1, 1, 'l'), (0x2e2, 1, 's'), (0x2e3, 1, 'x'), (0x37e, 1, ';'), (0x1d2c, 1, 'a'),
  (0x1d2e, 1, 'b'), (0x1d30, 2, 'd'), (0x1d33, 8, 'g'), (0x1d3c, 1, 'o'), (0x1d3e, 1, 'p'),
  (0x1d3f, 1, 'r'), (0x1d40, 2, 't'), (0x1d42, 1, 'w'), (0x1d43, 1, 'a'), (0x1d47, 1, 'b'),
  (0x1d48, 2, 'd'), (0x1d4d, 1, 'g'), (0x1d4f, 1, 'k'), (0x1d50, 1, 'm'), (0x1d52, 1, 'o'),
  (0x1d56, 1, 'p'), (0x1d57, 2, 't'), (0x1d5b, 1, 'v'), (0x1d62, 1, 'i'), (0x1d63, 1, 'r'),
  (0x1d64, 2, 'u'), (0x1d9c, 1, 'c'), (0x1da0, 1, 'f'), (0x1dbb, 1, 'z'), (0x1fef, 1, '\x60'),
  (0x2070, 1, '0'), (0x2071, 1, 'i'), (0x2074, 6, '4'), (0x207a, 1, '+'), (0x207c, 1, '='),
  (0x207d, 2, '('), (0x207f, 1, 'n'), (0x2080, 10, '0'), (0x208a, 1, '+'), (0x208c, 1, '='),
  (0x208d, 2, '('), (0x2090, 1, 'a'), (0x2091, 1, 'e'), (0x2092, 1, 'o'), (0x2093, 1, 'x'),
  (0x2095, 1, 'h'), (0x2096, 4, 'k'), (0x209a, 1, 'p'), (0x209b, 2, 's'), (0x2102, 1, 'c'),
  (0x210a, 2, 'g'), (0x210c, 1, 'h'), (0x210d, 1, 'h'), (0x210e, 1, 'h'), (0x2110, 1, 'i'),
  (0x2111, 1, 'i'), (0x2112, 1, 'l'), (0x2113, 1, 'l'), (0x2115, 1, 'n'), (0x2119, 3, 'p'),
  (0x211c, 1, 'r'), (0x211d, 1, 'r'), (0x2124, 1, 'z'), (0x2128, 1, 'z'), (0x212a, 1, 'k'),
  (0x212c, 2, 'b'), (0x212f, 1, 'e'), (0x2130, 2, 'e'), (0x2133, 1, 'm'), (0x2134, 1, 'o'),
  (0x2139, 1, 'i'), (0x2145, 1, 'd'), (0x2146, 2, 'd'), (0x2148, 2, 'i'), (0x2160, 1, 'i'),
  (0x2164, 1, 'v'), (0x2169, 1, 'x'), (0x216c, 1, 'l'), (0x216d, 2, 'c'), (0x216f, 1, 'm'),
  (0x2170, 1, 'i'), (0x2174, 1, 'v'), (0x2179, 1, 'x'), (0x217c, 1, 'l'), (0x217d, 2, 'c'),
  (0x217f, 1, 'm'), (0x2460, 9, '1'), (0x24b6, 26, 'a'), (0x24d0, 26, 'a'), (0x24ea, 1, '0'),
  (0x2c7c, 1, 'j'), (0x2c7d, 1, 'v'), (0x3002, 1, '.'), (0xa7f1, 1, 's'), (0xa7f2, 1, 'c'),
  (0xa7f3, 1, 'f'), (0xa7f4, 1, 'q'), (0xfb29, 1, '+'), (0xfe10, 1, ','), (0xfe13, 2, ':'),
  (0xfe15, 1, '!'), (0xfe16, 1, '?'), (0xfe33, 1, '_'), (0xfe34, 1, '_'), (0xfe35, 2, '('),
  (0xfe37, 1, '\x7b'), (0xfe38, 1, '\x7d'), (0xfe47, 1, '['), (0xfe48, 1, ']'), (0xfe4d, 1, '_'),
  (0xfe4e, 1, '_'), (0xfe4f, 1, '_'), (0xfe50, 1, ','), (0xfe54, 1, ';'), (0xfe55, 1, ':'),
  (0xfe56, 1, '?'), (0xfe57, 1, '!'), (0xfe59, 2, '('), (0xfe5b, 1, '\x7b'), (0xfe5c, 1, '\x7d'),
  (0xfe5f, 1, '#'), (0xfe60, 1, '&'), (0xfe61, 2, '*'), (0xfe63, 1, '-'), (0xfe64, 1, '<'),
  (0xfe65, 1, '>'), (0xfe66, 1, '='), (0xfe68, 1, '\\'), (0xfe69, 2, '$'), (0xfe6b, 1, '@'),
  (0xff01, 32, '!'), (0xff21, 26, 'a'), (0xff3b, 36, '['), (0xff61, 1, '.'), (0x107a5, 1, 'q'),
  (0x1ccd6, 26, 'a'), (0x1ccf0, 10, '0'), (0x1d400, 26, 'a'), (0x1d41a, 26, 'a'),
  (0x1d434, 26, 'a'), (0x1d44e, 7, 'a'), (0x1d456, 18, 'i'), (0x1d468, 26, 'a'), (0x1d482, 26, 'a'),
  (0x1d49c, 1, 'a'), (0x1d49e, 2, 'c'), (0x1d4a2, 1, 'g'), (0x1d4a5, 2, 'j'), (0x1d4a9, 4, 'n'),
  (0x1d4ae, 8, 's'), (0x1d4b6, 4, 'a'), (0x1d4bb, 1, 'f'), (0x1d4bd, 7, 'h'), (0x1d4c5, 11, 'p'),
  (0x1d4d0, 26, 'a'), (0x1d4ea, 26, 'a'), (0x1d504, 2, 'a'), (0x1d507, 4, 'd'), (0x1d50d, 8, 'j'),
  (0x1d516, 7, 's'), (0x1d51e, 26, 'a'), (0x1d538, 2, 'a'), (0x1d53b, 4, 'd'), (0x1d540, 5, 'i'),
  (0x1d546, 1, 'o'), (0x1d54a, 7, 's'), (0x1d552, 26, 'a'), (0x1d56c, 26, 'a'), (0x1d586, 26, 'a'),
  (0x1d5a0, 26, 'a'), (0x1d5ba, 26, 'a'), (0x1d5d4, 26, 'a'), (0x1d5ee, 26, 'a'),
  (0x1d608, 26, 'a'), (0x1d622, 26, 'a'), (0x1d63c, 26, 'a'), (0x1d656, 26, 'a'),
  (0x1d670, 26, 'a'), (0x1d68a, 26, 'a'), (0x1d7ce, 10, '0'), (0x1d7d8, 10, '0'),
  (0x1d7e2, 10, '0'), (0x1d7ec, 10, '0'), (0x1d7f6, 10, '0'), (0x1f12b, 1, 'c'), (0x1f12c, 1, 'r'),
  (0x1f130, 26, 'a'), (0x1fbf0, 10, '0')]

/-- Runs of numbers in circles: the first code point, the length and the first number. -/
def circledNumbers : List (Nat × Nat × Nat) := [
  (0x2469, 11, 10), (0x3251, 15, 21), (0x32b1, 15, 36)]

/-- The images that begin with a mark although their characters do not, or the other way round, and
those that change the direction. -/
def singleImages : List (Nat × List Nat) := [
  (0x345, [0x3b9]), (0xe33, [0xe4d, 0xe32]), (0xeb3, [0xecd, 0xeb2]), (0x2135, [0x5d0]),
  (0x2136, [0x5d1]), (0x2137, [0x5d2]), (0x2138, [0x5d3]), (0xff9e, [0x3099]), (0xff9f, [0x309a])]

/-- Ranges of characters with images; code points between two of them that names do not have are
filled in. -/
def replaced : List (Nat × Nat) := [
  (0x41, 0x5a), (0xa0, 0xa0), (0xa8, 0xa8), (0xaa, 0xaa), (0xaf, 0xaf), (0xb2, 0xb5), (0xb8, 0xba),
  (0xbc, 0xbe), (0xc0, 0xd6), (0xd8, 0xde), (0x132, 0x134), (0x136, 0x136), (0x13f, 0x141),
  (0x149, 0x14a), (0x178, 0x179), (0x181, 0x182), (0x184, 0x184), (0x186, 0x187), (0x189, 0x18b),
  (0x18e, 0x191), (0x193, 0x194), (0x196, 0x198), (0x19c, 0x19d), (0x19f, 0x1a0), (0x1a2, 0x1a2),
  (0x1a4, 0x1a4), (0x1a6, 0x1a7), (0x1a9, 0x1a9), (0x1ac, 0x1ac), (0x1ae, 0x1af), (0x1b1, 0x1b3),
  (0x1b5, 0x1b5), (0x1b7, 0x1b8), (0x1bc, 0x1bc), (0x1c4, 0x1cd), (0x1f1, 0x1f4), (0x1f6, 0x1f8),
  (0x23a, 0x23b), (0x23d, 0x23e), (0x241, 0x241), (0x243, 0x246), (0x2b0, 0x2b8), (0x2d8, 0x2dd),
  (0x2e0, 0x2e4), (0x340, 0x341), (0x343, 0x345), (0x37a, 0x37a), (0x37e, 0x38f), (0x391, 0x3ab),
  (0x3cf, 0x3d6), (0x3f0, 0x3f2), (0x3f4, 0x3f5), (0x3f7, 0x3f7), (0x3f9, 0x3fa), (0x3fd, 0x42f),
  (0x4c0, 0x4c1), (0x531, 0x556), (0x587, 0x587), (0x675, 0x678), (0x958, 0x95f), (0x9dc, 0x9df),
  (0xa33, 0xa33), (0xa36, 0xa36), (0xa59, 0xa5b), (0xa5e, 0xa5e), (0xb5c, 0xb5d), (0xe33, 0xe33),
  (0xeb3, 0xeb3), (0xedc, 0xedd), (0xf0c, 0xf0c), (0xf43, 0xf43), (0xf4d, 0xf4d), (0xf52, 0xf52),
  (0xf57, 0xf57), (0xf5c, 0xf5c), (0xf69, 0xf69), (0xf73, 0xf73), (0xf75, 0xf79), (0xf81, 0xf81),
  (0xf93, 0xf93), (0xf9d, 0xf9d), (0xfa2, 0xfa2), (0xfa7, 0xfa7), (0xfac, 0xfac), (0xfb9, 0xfb9),
  (0x10a0, 0x10cd), (0x10fc, 0x10fc), (0x13f8, 0x13fd), (0x1c80, 0x1c89), (0x1c90, 0x1cbf),
  (0x1d2c, 0x1d2e), (0x1d30, 0x1d3a), (0x1d3c, 0x1d4d), (0x1d4f, 0x1d6a), (0x1d78, 0x1d78),
  (0x1d9b, 0x1dbf), (0x1e9a, 0x1e9b), (0x1f08, 0x1f0f), (0x1f18, 0x1f1d), (0x1f28, 0x1f2f),
  (0x1f38, 0x1f3f), (0x1f48, 0x1f4d), (0x1f59, 0x1f5f), (0x1f68, 0x1f6f), (0x1f7d, 0x1faf),
  (0x1fb2, 0x1fb4), (0x1fb7, 0x1fc4), (0x1fc7, 0x1fcf), (0x1fd3, 0x1fd3), (0x1fd8, 0x1fdf),
  (0x1fe3, 0x1fe3), (0x1fe8, 0x1ff4), (0x1ff7, 0x200a), (0x2011, 0x2011), (0x2017, 0x2017),
  (0x202f, 0x202f), (0x2033, 0x2034), (0x2036, 0x2037), (0x203c, 0x203c), (0x203e, 0x203e),
  (0x2047, 0x2049), (0x2057, 0x2057), (0x205f, 0x209c), (0x20a8, 0x20a8), (0x2100, 0x2103),
  (0x2105, 0x2107), (0x2109, 0x2113), (0x2115, 0x2116), (0x2119, 0x211d), (0x2120, 0x2122),
  (0x212a, 0x212d), (0x212f, 0x2139), (0x213b, 0x2140), (0x2145, 0x2149), (0x2150, 0x217f),
  (0x2183, 0x2183), (0x2189, 0x2189), (0x222c, 0x222d), (0x222f, 0x2230), (0x2329, 0x232a),
  (0x2460, 0x24ea), (0x2a0c, 0x2a0c), (0x2a74, 0x2a76), (0x2adc, 0x2adc), (0x2c00, 0x2c2f),
  (0x2c60, 0x2c60), (0x2c62, 0x2c64), (0x2c6d, 0x2c70), (0x2c72, 0x2c72), (0x2c75, 0x2c75),
  (0x2c7c, 0x2c80), (0x2ceb, 0x2ceb), (0x2ced, 0x2ced), (0x2cf2, 0x2cf2), (0x2d6f, 0x2d6f),
  (0x2e9f, 0x2e9f), (0x2ef3, 0x3000), (0x3002, 0x3002), (0x3036, 0x3036), (0x3038, 0x303a),
  (0x309b, 0x309c), (0x309f, 0x309f), (0x30ff, 0x30ff), (0x3131, 0x318e), (0x3192, 0x319f),
  (0x3200, 0x3247), (0x3250, 0x327e), (0x3280, 0x33ff), (0xa69c, 0xa69d), (0xa779, 0xa779),
  (0xa77b, 0xa77b), (0xa77d, 0xa77e), (0xa78b, 0xa78b), (0xa78d, 0xa78d), (0xa790, 0xa790),
  (0xa792, 0xa792), (0xa7aa, 0xa7ae), (0xa7b0, 0xa7b4), (0xa7c4, 0xa7c7), (0xa7c9, 0xa7c9),
  (0xa7cb, 0xa7cc), (0xa7dc, 0xa7f5), (0xa7f8, 0xa7f9), (0xab5c, 0xab5f), (0xab69, 0xab69),
  (0xab70, 0xabbf), (0xf900, 0xfa0d), (0xfa10, 0xfa10), (0xfa12, 0xfa12), (0xfa15, 0xfa1e),
  (0xfa20, 0xfa20), (0xfa22, 0xfa22), (0xfa25, 0xfa26), (0xfa2a, 0xfb1d), (0xfb1f, 0xfbb1),
  (0xfbd3, 0xfd3d), (0xfd50, 0xfd8f), (0xfd92, 0xfdc7), (0xfdf0, 0xfdfc), (0xfe10, 0xfe18),
  (0xfe31, 0xfe44), (0xfe47, 0xfe72), (0xfe74, 0xffee), (0x10400, 0x10427), (0x104b0, 0x104d3),
  (0x10570, 0x10595), (0x10781, 0x107ba), (0x10c80, 0x10cb2), (0x10d50, 0x10d65),
  (0x118a0, 0x118bf), (0x16e40, 0x16e5f), (0x16ea0, 0x16eb8), (0x1ccd6, 0x1ccf9),
  (0x1d15e, 0x1d164), (0x1d1bb, 0x1d1c0), (0x1d400, 0x1d7ff), (0x1e030, 0x1e06d),
  (0x1e900, 0x1e921), (0x1ee00, 0x1eebb), (0x1f101, 0x1f10a), (0x1f110, 0x1f12e),
  (0x1f130, 0x1f14f), (0x1f16a, 0x1f16c), (0x1f190, 0x1f190), (0x1f200, 0x1f251),
  (0x1fbf0, 0x1fbf9), (0x2f800, 0x2fa1d)]

/-- Ranges in which every second character, the first and the last among them, has an image. -/
def replacedAlternately : List (Nat × Nat) := [
  (0x100, 0x130), (0x139, 0x13d), (0x143, 0x147), (0x14c, 0x176), (0x17b, 0x17f), (0x1cf, 0x1db),
  (0x1de, 0x1ee), (0x1fa, 0x232), (0x248, 0x24e), (0x370, 0x376), (0x3d8, 0x3ee), (0x460, 0x480),
  (0x48a, 0x4be), (0x4c3, 0x4cd), (0x4d0, 0x52e), (0x1e00, 0x1e94), (0x1e9e, 0x1efe),
  (0x1f71, 0x1f7b), (0x2124, 0x2128), (0x2c67, 0x2c6b), (0x2c82, 0x2ce2), (0xa640, 0xa66c),
  (0xa680, 0xa69a), (0xa722, 0xa72e), (0xa732, 0xa770), (0xa780, 0xa786), (0xa796, 0xa7a8),
  (0xa7b6, 0xa7c2), (0xa7ce, 0xa7da)]

/-- The value at the place of a code point in the first run that has it. -/
def inRuns? {α : Type} (runs : List (Nat × Nat × α)) (code : Nat) : Option (α × Nat) :=
  (runs.find? fun r => r.1 ≤ code && code < r.1 + r.2.1).map fun r => (r.2.2, code - r.1)

/-- Whether a character has an image other than itself. -/
def isReplaced (c : Char) : Bool :=
  let code := c.toNat
  inRanges replaced code ||
    replacedAlternately.any fun r => r.1 ≤ code && code ≤ r.2 && (code - r.1) % 2 == 0

/-- Whether no name may have a character, nor its image. -/
def isRefused (c : Char) : Bool :=
  isUnassigned c || inRanges excluded c.toNat || inRanges spaced c.toNat

/-- The image of a character that is not refused. -/
def imageOf (c : Char) : List Char :=
  let code := c.toNat
  if inRanges dropped code then []
  else
    match inRuns? asciiImages code with
    | some (first, place) => [Char.ofNat (first.toNat + place)]
    | none =>
      match inRuns? circledNumbers code with
      | some (first, place) => Nat.toDigits 10 (first + place)
      | none =>
        match singleImages.find? fun e => e.1 == code with
        | some e => e.2.map Char.ofNat
        | none => [c]

/-- The image of a character, or none if it is refused. -/
def image? (c : Char) : Option (List Char) := if isRefused c then none else some (imageOf c)

/-- Whether a character of a name is its own image. -/
def isStable (c : Char) : Bool :=
  !isRefused c && !inRanges dropped c.toNat && !isReplaced c

end Cdp.Host
