import CredentialSync.Text.Hidden

/-!
# Letters and digits

The characters of which words and numbers are made in any script: letters, letter-like numbers and
marks, and digits.
-/

namespace CredentialSync.Text.Alphanumeric

/-- Where letters and digits begin or end from 0x0 on. -/
def early : List Nat := [
  0x30, 0x3a, 0x41, 0x5b, 0x61, 0x7b, 0xaa, 0xab, 0xb2, 0xb4, 0xb5, 0xb6, 0xb9, 0xbb, 0xbc, 0xbf,
  0xc0, 0xd7, 0xd8, 0xf7, 0xf8, 0x2c2, 0x2c6, 0x2d2, 0x2e0, 0x2e5, 0x2ec, 0x2ed, 0x2ee, 0x2ef,
  0x345, 0x346, 0x363, 0x375, 0x376, 0x37e, 0x37f, 0x384, 0x386, 0x387, 0x388, 0x3f6, 0x3f7,
  0x482, 0x48a, 0x55a, 0x560, 0x589, 0x5b0, 0x5be, 0x5bf, 0x5c0, 0x5c1, 0x5c3, 0x5c4, 0x5c6,
  0x5c7, 0x5f3, 0x610, 0x61b, 0x620, 0x658, 0x659, 0x66a, 0x66e, 0x6d4, 0x6d5, 0x6dd, 0x6e1,
  0x6e9, 0x6ed, 0x6fd, 0x6ff, 0x700, 0x710, 0x740, 0x74d, 0x7eb, 0x7f4, 0x7f6, 0x7fa, 0x7fd,
  0x800, 0x818, 0x81a, 0x82d, 0x840, 0x859, 0x860, 0x888, 0x889, 0x890, 0x897, 0x898, 0x8a0,
  0x8ca, 0x8d4, 0x8e0, 0x8e3, 0x8ea, 0x8f0, 0x93c, 0x93d, 0x94d, 0x94e, 0x951, 0x955, 0x964,
  0x966, 0x970, 0x971, 0x9bc, 0x9bd, 0x9cd, 0x9ce, 0x9f2, 0x9f4, 0x9fa, 0x9fc, 0x9fd, 0xa01,
  0xa3c, 0xa3e, 0xa4d, 0xa51, 0xa76, 0xa81, 0xabc, 0xabd, 0xacd, 0xad0, 0xaf0, 0xaf9, 0xafd,
  0xb01, 0xb3c, 0xb3d, 0xb4d, 0xb56, 0xb70, 0xb71, 0xbcd, 0xbd0, 0xbf3, 0xc00, 0xc3c, 0xc3d,
  0xc4d, 0xc55, 0xc77, 0xc78, 0xc7f, 0xc80, 0xc84, 0xc85, 0xcbc, 0xcbd, 0xccd, 0xcd5, 0xd3b,
  0xd3d, 0xd4d, 0xd4e, 0xd4f, 0xd54, 0xd79, 0xd7a, 0xdca, 0xdcf, 0xdf4, 0xe01, 0xe3f, 0xe40,
  0xe47, 0xe4d, 0xe4e, 0xe50, 0xe5a, 0xe81, 0xeba, 0xebb, 0xec8, 0xecd, 0xece, 0xed0, 0xf01,
  0xf20, 0xf34, 0xf40, 0xf84, 0xf88, 0xfbe]

/-- Where letters and digits begin or end from 0x1000 on. -/
def later : List Nat := [
  0x1000, 0x1037, 0x1038, 0x1039, 0x103b, 0x104a, 0x1050, 0x109e, 0x10a0, 0x10fb, 0x10fc, 0x135d,
  0x1369, 0x1390, 0x13a0, 0x1400, 0x1401, 0x166d, 0x166f, 0x1680, 0x1681, 0x169b, 0x16a0, 0x16eb,
  0x16ee, 0x1714, 0x171f, 0x1734, 0x1740, 0x17b4, 0x17b6, 0x17c9, 0x17d7, 0x17d8, 0x17dc, 0x17dd,
  0x17e0, 0x1800, 0x1810, 0x1939, 0x1946, 0x19de, 0x1a00, 0x1a1e, 0x1a20, 0x1a60, 0x1a61, 0x1a75,
  0x1a80, 0x1aa0, 0x1aa7, 0x1aa8, 0x1abf, 0x1ac1, 0x1acc, 0x1acf, 0x1b00, 0x1b34, 0x1b35, 0x1b44,
  0x1b45, 0x1b4e, 0x1b50, 0x1b5a, 0x1b80, 0x1baa, 0x1bac, 0x1be6, 0x1be7, 0x1bf2, 0x1c00, 0x1c37,
  0x1c40, 0x1c7e, 0x1c80, 0x1cc0, 0x1ce9, 0x1ced, 0x1cee, 0x1cf4, 0x1cf5, 0x1cf7, 0x1cfa, 0x1dc0,
  0x1dd3, 0x1df5, 0x1e00, 0x1fbd, 0x1fbe, 0x1fbf, 0x1fc2, 0x1fcd, 0x1fd0, 0x1fdd, 0x1fe0, 0x1fed,
  0x1ff2, 0x1ffd, 0x2070, 0x207a, 0x207f, 0x208a, 0x2090, 0x20a0, 0x2102, 0x2103, 0x2107, 0x2108,
  0x210a, 0x2114, 0x2115, 0x2116, 0x2119, 0x211e, 0x2124, 0x2125, 0x2126, 0x2127, 0x2128, 0x2129,
  0x212a, 0x212e, 0x212f, 0x213a, 0x213c, 0x2140, 0x2145, 0x214a, 0x214e, 0x214f, 0x2150, 0x218a,
  0x2460, 0x249c, 0x24b6, 0x2500, 0x2776, 0x2794, 0x2c00, 0x2ce5, 0x2ceb, 0x2cef, 0x2cf2, 0x2cf9,
  0x2cfd, 0x2cfe, 0x2d00, 0x2d70, 0x2d80, 0x2e00, 0x2e2f, 0x2e30, 0x3005, 0x3008, 0x3021, 0x302a,
  0x3031, 0x3036, 0x3038, 0x303d, 0x3041, 0x3099, 0x309d, 0x30a0, 0x30a1, 0x30fb, 0x30fc, 0x3190,
  0x3192, 0x3196, 0x31a0, 0x31c0, 0x31f0, 0x3200, 0x3220, 0x322a, 0x3248, 0x3250, 0x3251, 0x3260,
  0x3280, 0x328a, 0x32b1, 0x32c0, 0x3400, 0x4dc0, 0x4e00, 0xa490, 0xa4d0, 0xa4fe, 0xa500, 0xa60d,
  0xa610, 0xa66f, 0xa674, 0xa67c, 0xa67f, 0xa6f0, 0xa717, 0xa720, 0xa722, 0xa789, 0xa78b, 0xa806,
  0xa807, 0xa828, 0xa830, 0xa836, 0xa840, 0xa874, 0xa880, 0xa8c4, 0xa8c5, 0xa8ce, 0xa8d0, 0xa8e0,
  0xa8f2, 0xa8f8, 0xa8fb, 0xa8fc, 0xa8fd, 0xa92b, 0xa930, 0xa953, 0xa960, 0xa9b3, 0xa9b4, 0xa9c0,
  0xa9cf, 0xa9de, 0xa9e0, 0xaa5c, 0xaa60, 0xaa77, 0xaa7a, 0xaabf, 0xaac0, 0xaac1, 0xaac2, 0xaade,
  0xaae0, 0xaaf0, 0xaaf2, 0xaaf6, 0xab01, 0xab5b, 0xab5c, 0xab6a, 0xab70, 0xabeb, 0xabf0, 0xfb29,
  0xfb2a, 0xfbb2, 0xfbd3, 0xfd3e, 0xfd50, 0xfd90, 0xfd92, 0xfdc8, 0xfdf0, 0xfdfc, 0xfe70, 0xfeff,
  0xff10, 0xff1a, 0xff21, 0xff3b, 0xff41, 0xff5b, 0xff66, 0xffe0]

/-- Where letters and digits begin or end from 0x10000 on. -/
def far : List Nat := [
  0x10000, 0x10100, 0x10107, 0x10137, 0x10140, 0x10179, 0x1018a, 0x1018c, 0x10280, 0x102e0,
  0x102e1, 0x1039f, 0x103a0, 0x103d0, 0x103d1, 0x1056f, 0x10570, 0x10857, 0x10858, 0x10877,
  0x10879, 0x1091f, 0x10920, 0x1093f, 0x10940, 0x10a38, 0x10a40, 0x10a50, 0x10a60, 0x10a7f,
  0x10a80, 0x10ac8, 0x10ac9, 0x10ae5, 0x10aeb, 0x10af0, 0x10b00, 0x10b39, 0x10b40, 0x10b99,
  0x10ba9, 0x10d6a, 0x10d6f, 0x10d8e, 0x10e60, 0x10ead, 0x10eb0, 0x10ed0, 0x10efa, 0x10efd,
  0x10f00, 0x10f46, 0x10f51, 0x10f55, 0x10f70, 0x10f82, 0x10fb0, 0x11046, 0x11052, 0x11070,
  0x11071, 0x1107f, 0x11080, 0x110b9, 0x110c2, 0x110cd, 0x110d0, 0x11133, 0x11136, 0x11140,
  0x11144, 0x11173, 0x11176, 0x111c0, 0x111c1, 0x111c5, 0x111ce, 0x111db, 0x111dc, 0x111dd,
  0x111e1, 0x11235, 0x11237, 0x11238, 0x1123e, 0x112a9, 0x112b0, 0x112e9, 0x112f0, 0x1133b,
  0x1133d, 0x1134d, 0x11350, 0x11366, 0x11380, 0x113ce, 0x113d1, 0x113d2, 0x113d3, 0x113d4,
  0x11400, 0x11442, 0x11443, 0x11446, 0x11447, 0x1144b, 0x11450, 0x1145a, 0x1145f, 0x114c2,
  0x114c4, 0x114c6, 0x114c7, 0x115bf, 0x115d8, 0x1163f, 0x11640, 0x11641, 0x11644, 0x11660,
  0x11680, 0x116b6, 0x116b8, 0x116b9, 0x116c0, 0x1172b, 0x11730, 0x1173c, 0x11740, 0x11839,
  0x118a0, 0x1193d, 0x1193f, 0x11943, 0x11950, 0x119e0, 0x119e1, 0x119e2, 0x119e3, 0x11a33,
  0x11a35, 0x11a3f, 0x11a50, 0x11a98, 0x11a9d, 0x11a9e, 0x11ab0, 0x11b00, 0x11b60, 0x11be1,
  0x11bf0, 0x11c3f, 0x11c40, 0x11c41, 0x11c50, 0x11c70, 0x11c72, 0x11d42, 0x11d43, 0x11d44,
  0x11d46, 0x11d97, 0x11d98, 0x11ef7, 0x11f00, 0x11f41, 0x11f50, 0x11f5a, 0x11fb0, 0x11fd5,
  0x12000, 0x12470, 0x12480, 0x12ff1, 0x13000, 0x13430, 0x13441, 0x13447, 0x13460, 0x1612f,
  0x16130, 0x16a6e, 0x16a70, 0x16af0, 0x16b00, 0x16b30, 0x16b40, 0x16b44, 0x16b50, 0x16d6d,
  0x16d70, 0x16e97, 0x16ea0, 0x16fe2, 0x16fe3, 0x16fe4, 0x16ff0, 0x1bc9c, 0x1bc9e, 0x1bc9f,
  0x1ccf0, 0x1ccfa, 0x1d2c0, 0x1d300, 0x1d360, 0x1d6c1, 0x1d6c2, 0x1d6db, 0x1d6dc, 0x1d6fb,
  0x1d6fc, 0x1d715, 0x1d716, 0x1d735, 0x1d736, 0x1d74f, 0x1d750, 0x1d76f, 0x1d770, 0x1d789,
  0x1d78a, 0x1d7a9, 0x1d7aa, 0x1d7c3, 0x1d7c4, 0x1d800, 0x1df00, 0x1e130, 0x1e137, 0x1e14f,
  0x1e290, 0x1e2ae, 0x1e2c0, 0x1e2ec, 0x1e2f0, 0x1e2ff, 0x1e4d0, 0x1e4ec, 0x1e4f0, 0x1e5ee,
  0x1e5f0, 0x1e5ff, 0x1e6c0, 0x1e8d0, 0x1e900, 0x1e944, 0x1e947, 0x1e948, 0x1e94b, 0x1e95e,
  0x1ec71, 0x1ecac, 0x1ecad, 0x1ecb0, 0x1ecb1, 0x1ed2e, 0x1ed2f, 0x1eef0, 0x1f100, 0x1f10d,
  0x1f130, 0x1f14a, 0x1f150, 0x1f16a, 0x1f170, 0x1f18a, 0x1fbf0, 0x1fbfa, 0x20000, 0xe0001]

/-- Where letters and digits begin or end, block by block. Code points without a character count to
either side. -/
def boundaries : Boundaries := [(0x1000, early), (0x10000, later), (0x110000, far)]

/-- Whether a character is a letter or a digit. -/
def isAlphanumeric (c : Char) : Bool := boundaries.contains c.toNat && !Hidden.isUnprintable c

end CredentialSync.Text.Alphanumeric
