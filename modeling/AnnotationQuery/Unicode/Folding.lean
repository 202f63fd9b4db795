import AnnotationQuery.Unicode.CodeSet

/-!
# Case folding

Characters that differ by case alone, in the sense of simple case folding in version 16 of the
Unicode standard. Of the characters that fold together the one with the least code point leads the
others.

* `CodeSet.folded`: a set with all characters that fold together with a member.
-/

namespace AnnotationQuery.Unicode

/-- Leaders with one character that follows them, in runs: the first leader, the number of leaders,
the distance between neighbours, and the character that follows the first leader. -/
def foldRuns : List (Nat × Nat × Nat × Nat) :=
  [(0x41, 26, 1, 0x61), (0x4B, 1, 1, 0x212A), (0x53, 1, 1, 0x17F), (0xB5, 1, 1, 0x39C),
   (0xB5, 1, 1, 0x3BC), (0xC0, 23, 1, 0xE0), (0xC5, 1, 1, 0x212B), (0xD8, 7, 1, 0xF8),
   (0xDF, 1, 1, 0x1E9E), (0xFF, 1, 1, 0x178), (0x100, 24, 2, 0x101), (0x132, 3, 2, 0x133),
   (0x139, 8, 2, 0x13A), (0x14A, 23, 2, 0x14B), (0x179, 3, 2, 0x17A), (0x180, 1, 1, 0x243),
   (0x181, 1, 1, 0x253), (0x182, 2, 2, 0x183), (0x186, 1, 1, 0x254), (0x187, 1, 1, 0x188),
   (0x189, 2, 1, 0x256), (0x18B, 1, 1, 0x18C), (0x18E, 1, 1, 0x1DD), (0x18F, 1, 1, 0x259),
   (0x190, 1, 1, 0x25B), (0x191, 1, 1, 0x192), (0x193, 1, 1, 0x260), (0x194, 1, 1, 0x263),
   (0x195, 1, 1, 0x1F6), (0x196, 1, 1, 0x269), (0x197, 1, 1, 0x268), (0x198, 1, 1, 0x199),
   (0x19A, 1, 1, 0x23D), (0x19B, 1, 1, 0xA7DC), (0x19C, 1, 1, 0x26F), (0x19D, 1, 1, 0x272),
   (0x19E, 1, 1, 0x220), (0x19F, 1, 1, 0x275), (0x1A0, 3, 2, 0x1A1), (0x1A6, 1, 1, 0x280),
   (0x1A7, 1, 1, 0x1A8), (0x1A9, 1, 1, 0x283), (0x1AC, 1, 1, 0x1AD), (0x1AE, 1, 1, 0x288),
   (0x1AF, 1, 1, 0x1B0), (0x1B1, 2, 1, 0x28A), (0x1B3, 2, 2, 0x1B4), (0x1B7, 1, 1, 0x292),
   (0x1B8, 1, 1, 0x1B9), (0x1BC, 1, 1, 0x1BD), (0x1BF, 1, 1, 0x1F7), (0x1C4, 1, 1, 0x1C5),
   (0x1C4, 1, 1, 0x1C6), (0x1C7, 1, 1, 0x1C8), (0x1C7, 1, 1, 0x1C9), (0x1CA, 1, 1, 0x1CB),
   (0x1CA, 1, 1, 0x1CC), (0x1CD, 8, 2, 0x1CE), (0x1DE, 9, 2, 0x1DF), (0x1F1, 1, 1, 0x1F2),
   (0x1F1, 1, 1, 0x1F3), (0x1F4, 1, 1, 0x1F5), (0x1F8, 20, 2, 0x1F9), (0x222, 9, 2, 0x223),
   (0x23A, 1, 1, 0x2C65), (0x23B, 1, 1, 0x23C), (0x23E, 1, 1, 0x2C66), (0x23F, 2, 1, 0x2C7E),
   (0x241, 1, 1, 0x242), (0x244, 1, 1, 0x289), (0x245, 1, 1, 0x28C), (0x246, 5, 2, 0x247),
   (0x250, 1, 1, 0x2C6F), (0x251, 1, 1, 0x2C6D), (0x252, 1, 1, 0x2C70), (0x25C, 1, 1, 0xA7AB),
   (0x261, 1, 1, 0xA7AC), (0x264, 1, 1, 0xA7CB), (0x265, 1, 1, 0xA78D), (0x266, 1, 1, 0xA7AA),
   (0x26A, 1, 1, 0xA7AE), (0x26B, 1, 1, 0x2C62), (0x26C, 1, 1, 0xA7AD), (0x271, 1, 1, 0x2C6E),
   (0x27D, 1, 1, 0x2C64), (0x282, 1, 1, 0xA7C5), (0x287, 1, 1, 0xA7B1), (0x29D, 1, 1, 0xA7B2),
   (0x29E, 1, 1, 0xA7B0), (0x345, 1, 1, 0x399), (0x345, 1, 1, 0x3B9), (0x345, 1, 1, 0x1FBE),
   (0x370, 2, 2, 0x371), (0x376, 1, 1, 0x377), (0x37B, 3, 1, 0x3FD), (0x37F, 1, 1, 0x3F3),
   (0x386, 1, 1, 0x3AC), (0x388, 3, 1, 0x3AD), (0x38C, 1, 1, 0x3CC), (0x38E, 2, 1, 0x3CD),
   (0x390, 1, 1, 0x1FD3), (0x391, 8, 1, 0x3B1), (0x392, 1, 1, 0x3D0), (0x395, 1, 1, 0x3F5),
   (0x398, 1, 1, 0x3D1), (0x398, 1, 1, 0x3F4), (0x39A, 2, 1, 0x3BA), (0x39A, 1, 1, 0x3F0),
   (0x39D, 5, 1, 0x3BD), (0x3A0, 1, 1, 0x3D6), (0x3A1, 1, 1, 0x3F1), (0x3A3, 1, 1, 0x3C2),
   (0x3A3, 9, 1, 0x3C3), (0x3A6, 1, 1, 0x3D5), (0x3A9, 1, 1, 0x2126), (0x3B0, 1, 1, 0x1FE3),
   (0x3CF, 1, 1, 0x3D7), (0x3D8, 12, 2, 0x3D9), (0x3F2, 1, 1, 0x3F9), (0x3F7, 1, 1, 0x3F8),
   (0x3FA, 1, 1, 0x3FB), (0x400, 16, 1, 0x450), (0x410, 15, 1, 0x430), (0x412, 1, 1, 0x1C80),
   (0x414, 1, 1, 0x1C81), (0x41E, 1, 1, 0x1C82), (0x41F, 12, 1, 0x43F), (0x421, 2, 1, 0x1C83),
   (0x422, 1, 1, 0x1C85), (0x42A, 1, 1, 0x1C86), (0x42B, 5, 1, 0x44B), (0x460, 17, 2, 0x461),
   (0x462, 1, 1, 0x1C87), (0x48A, 27, 2, 0x48B), (0x4C0, 1, 1, 0x4CF), (0x4C1, 7, 2, 0x4C2),
   (0x4D0, 48, 2, 0x4D1), (0x531, 38, 1, 0x561), (0x10A0, 38, 1, 0x2D00), (0x10C7, 1, 1, 0x2D27),
   (0x10CD, 1, 1, 0x2D2D), (0x10D0, 43, 1, 0x1C90), (0x10FD, 3, 1, 0x1CBD),
   (0x13A0, 80, 1, 0xAB70), (0x13F0, 6, 1, 0x13F8), (0x1C88, 1, 1, 0xA64A), (0x1C88, 1, 1, 0xA64B),
   (0x1C89, 1, 1, 0x1C8A), (0x1D79, 1, 1, 0xA77D), (0x1D7D, 1, 1, 0x2C63), (0x1D8E, 1, 1, 0xA7C6),
   (0x1E00, 75, 2, 0x1E01), (0x1E60, 1, 1, 0x1E9B), (0x1EA0, 48, 2, 0x1EA1),
   (0x1F00, 8, 1, 0x1F08), (0x1F10, 6, 1, 0x1F18), (0x1F20, 8, 1, 0x1F28), (0x1F30, 8, 1, 0x1F38),
   (0x1F40, 6, 1, 0x1F48), (0x1F51, 4, 2, 0x1F59), (0x1F60, 8, 1, 0x1F68), (0x1F70, 2, 1, 0x1FBA),
   (0x1F72, 4, 1, 0x1FC8), (0x1F76, 2, 1, 0x1FDA), (0x1F78, 2, 1, 0x1FF8), (0x1F7A, 2, 1, 0x1FEA),
   (0x1F7C, 2, 1, 0x1FFA), (0x1F80, 8, 1, 0x1F88), (0x1F90, 8, 1, 0x1F98), (0x1FA0, 8, 1, 0x1FA8),
   (0x1FB0, 2, 1, 0x1FB8), (0x1FB3, 1, 1, 0x1FBC), (0x1FC3, 1, 1, 0x1FCC), (0x1FD0, 2, 1, 0x1FD8),
   (0x1FE0, 2, 1, 0x1FE8), (0x1FE5, 1, 1, 0x1FEC), (0x1FF3, 1, 1, 0x1FFC), (0x2132, 1, 1, 0x214E),
   (0x2160, 16, 1, 0x2170), (0x2183, 1, 1, 0x2184), (0x24B6, 26, 1, 0x24D0),
   (0x2C00, 48, 1, 0x2C30), (0x2C60, 1, 1, 0x2C61), (0x2C67, 3, 2, 0x2C68), (0x2C72, 1, 1, 0x2C73),
   (0x2C75, 1, 1, 0x2C76), (0x2C80, 50, 2, 0x2C81), (0x2CEB, 2, 2, 0x2CEC), (0x2CF2, 1, 1, 0x2CF3),
   (0xA640, 5, 2, 0xA641), (0xA64C, 17, 2, 0xA64D), (0xA680, 14, 2, 0xA681),
   (0xA722, 7, 2, 0xA723), (0xA732, 31, 2, 0xA733), (0xA779, 2, 2, 0xA77A), (0xA77E, 5, 2, 0xA77F),
   (0xA78B, 1, 1, 0xA78C), (0xA790, 2, 2, 0xA791), (0xA794, 1, 1, 0xA7C4), (0xA796, 10, 2, 0xA797),
   (0xA7B3, 1, 1, 0xAB53), (0xA7B4, 8, 2, 0xA7B5), (0xA7C7, 2, 2, 0xA7C8), (0xA7CC, 1, 1, 0xA7CD),
   (0xA7D0, 1, 1, 0xA7D1), (0xA7D6, 3, 2, 0xA7D7), (0xA7F5, 1, 1, 0xA7F6), (0xFB05, 1, 1, 0xFB06),
   (0xFF21, 26, 1, 0xFF41), (0x10400, 40, 1, 0x10428), (0x104B0, 36, 1, 0x104D8),
   (0x10570, 11, 1, 0x10597), (0x1057C, 15, 1, 0x105A3), (0x1058C, 7, 1, 0x105B3),
   (0x10594, 2, 1, 0x105BB), (0x10C80, 51, 1, 0x10CC0), (0x10D50, 22, 1, 0x10D70),
   (0x118A0, 32, 1, 0x118C0), (0x16E40, 32, 1, 0x16E60), (0x1E900, 34, 1, 0x1E922)]

/-- The leaders, each with one character that follows it. -/
def foldPairs : List (Nat × Nat) :=
  foldRuns.flatMap fun (leader, count, step, follower) =>
    (List.range count).map fun i => (leader + i * step, follower + i * step)

namespace CodeSet

/-- The set with the leaders of its members. -/
def withLeaders (s : CodeSet) : CodeSet :=
  s.union (ofRanges ((foldPairs.filter fun p => s.contains p.2).map fun p => ⟨p.1, p.1⟩))

/-- The set with the followers of its members. -/
def withFollowers (s : CodeSet) : CodeSet :=
  s.union (ofRanges ((foldPairs.filter fun p => s.contains p.1).map fun p => ⟨p.2, p.2⟩))

/-- The set with all characters that fold together with a member. -/
def folded (s : CodeSet) : CodeSet :=
  s.withLeaders.withFollowers

/-- The set with both cases of every ASCII letter in it. -/
def asciiFolded (s : CodeSet) : CodeSet :=
  let lower := (s.inter (interval 0x41 0x5A)).ranges.map fun r => ⟨r.first + 32, r.last + 32⟩
  let upper := (s.inter (interval 0x61 0x7A)).ranges.map fun r => ⟨r.first - 32, r.last - 32⟩
  ofRanges (s.ranges ++ lower ++ upper)

end CodeSet

/-- The characters that fold together with another one. -/
def foldable : CodeSet :=
  .ofRanges (foldPairs.flatMap fun (leader, follower) => [⟨leader, leader⟩, ⟨follower, follower⟩])

end AnnotationQuery.Unicode
