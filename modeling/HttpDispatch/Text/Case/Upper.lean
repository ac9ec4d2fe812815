import HttpDispatch.Text.Case.Run

/-!
# Upper case

The Unicode upper-case mapping, without regard to language.  Most characters that have an
upper case have a single one, at a fixed distance over a whole run of characters; the runs are
listed here by their first character.  A hundred more, ligatures and letters whose accents
have no capital of their own, become two or three characters.
-/

namespace HttpDispatch.Text

/-- The characters whose upper case is one other character. -/
def upperRuns : List CaseRun := [
  ⟨0x61, 0x41, 26, 1⟩, ⟨0xB5, 0x39C, 1, 1⟩, ⟨0xE0, 0xC0, 23, 1⟩, ⟨0xF8, 0xD8, 7, 1⟩,
  ⟨0xFF, 0x178, 1, 1⟩, ⟨0x101, 0x100, 24, 2⟩, ⟨0x131, 0x49, 1, 1⟩, ⟨0x133, 0x132, 3, 2⟩,
  ⟨0x13A, 0x139, 8, 2⟩, ⟨0x14B, 0x14A, 23, 2⟩, ⟨0x17A, 0x179, 3, 2⟩, ⟨0x17F, 0x53, 1, 1⟩,
  ⟨0x180, 0x243, 1, 1⟩, ⟨0x183, 0x182, 2, 2⟩, ⟨0x188, 0x187, 1, 1⟩, ⟨0x18C, 0x18B, 1, 1⟩,
  ⟨0x192, 0x191, 1, 1⟩, ⟨0x195, 0x1F6, 1, 1⟩, ⟨0x199, 0x198, 1, 1⟩, ⟨0x19A, 0x23D, 1, 1⟩,
  ⟨0x19B, 0xA7DC, 1, 1⟩, ⟨0x19E, 0x220, 1, 1⟩, ⟨0x1A1, 0x1A0, 3, 2⟩, ⟨0x1A8, 0x1A7, 1, 1⟩,
  ⟨0x1AD, 0x1AC, 1, 1⟩, ⟨0x1B0, 0x1AF, 1, 1⟩, ⟨0x1B4, 0x1B3, 2, 2⟩, ⟨0x1B9, 0x1B8, 1, 1⟩,
  ⟨0x1BD, 0x1BC, 1, 1⟩, ⟨0x1BF, 0x1F7, 1, 1⟩, ⟨0x1C5, 0x1C4, 1, 1⟩, ⟨0x1C6, 0x1C4, 1, 1⟩,
  ⟨0x1C8, 0x1C7, 1, 1⟩, ⟨0x1C9, 0x1C7, 1, 1⟩, ⟨0x1CB, 0x1CA, 1, 1⟩, ⟨0x1CC, 0x1CA, 1, 1⟩,
  ⟨0x1CE, 0x1CD, 8, 2⟩, ⟨0x1DD, 0x18E, 1, 1⟩, ⟨0x1DF, 0x1DE, 9, 2⟩, ⟨0x1F2, 0x1F1, 1, 1⟩,
  ⟨0x1F3, 0x1F1, 1, 1⟩, ⟨0x1F5, 0x1F4, 1, 1⟩, ⟨0x1F9, 0x1F8, 20, 2⟩, ⟨0x223, 0x222, 9, 2⟩,
  ⟨0x23C, 0x23B, 1, 1⟩, ⟨0x23F, 0x2C7E, 2, 1⟩, ⟨0x242, 0x241, 1, 1⟩, ⟨0x247, 0x246, 5, 2⟩,
  ⟨0x250, 0x2C6F, 1, 1⟩, ⟨0x251, 0x2C6D, 1, 1⟩, ⟨0x252, 0x2C70, 1, 1⟩, ⟨0x253, 0x181, 1, 1⟩,
  ⟨0x254, 0x186, 1, 1⟩, ⟨0x256, 0x189, 2, 1⟩, ⟨0x259, 0x18F, 1, 1⟩, ⟨0x25B, 0x190, 1, 1⟩,
  ⟨0x25C, 0xA7AB, 1, 1⟩, ⟨0x260, 0x193, 1, 1⟩, ⟨0x261, 0xA7AC, 1, 1⟩, ⟨0x263, 0x194, 1, 1⟩,
  ⟨0x264, 0xA7CB, 1, 1⟩, ⟨0x265, 0xA78D, 1, 1⟩, ⟨0x266, 0xA7AA, 1, 1⟩, ⟨0x268, 0x197, 1, 1⟩,
  ⟨0x269, 0x196, 1, 1⟩, ⟨0x26A, 0xA7AE, 1, 1⟩, ⟨0x26B, 0x2C62, 1, 1⟩, ⟨0x26C, 0xA7AD, 1, 1⟩,
  ⟨0x26F, 0x19C, 1, 1⟩, ⟨0x271, 0x2C6E, 1, 1⟩, ⟨0x272, 0x19D, 1, 1⟩, ⟨0x275, 0x19F, 1, 1⟩,
  ⟨0x27D, 0x2C64, 1, 1⟩, ⟨0x280, 0x1A6, 1, 1⟩, ⟨0x282, 0xA7C5, 1, 1⟩, ⟨0x283, 0x1A9, 1, 1⟩,
  ⟨0x287, 0xA7B1, 1, 1⟩, ⟨0x288, 0x1AE, 1, 1⟩, ⟨0x289, 0x244, 1, 1⟩, ⟨0x28A, 0x1B1, 2, 1⟩,
  ⟨0x28C, 0x245, 1, 1⟩, ⟨0x292, 0x1B7, 1, 1⟩, ⟨0x29D, 0xA7B2, 1, 1⟩, ⟨0x29E, 0xA7B0, 1, 1⟩,
  ⟨0x345, 0x399, 1, 1⟩, ⟨0x371, 0x370, 2, 2⟩, ⟨0x377, 0x376, 1, 1⟩, ⟨0x37B, 0x3FD, 3, 1⟩,
  ⟨0x3AC, 0x386, 1, 1⟩, ⟨0x3AD, 0x388, 3, 1⟩, ⟨0x3B1, 0x391, 17, 1⟩, ⟨0x3C2, 0x3A3, 1, 1⟩,
  ⟨0x3C3, 0x3A3, 9, 1⟩, ⟨0x3CC, 0x38C, 1, 1⟩, ⟨0x3CD, 0x38E, 2, 1⟩, ⟨0x3D0, 0x392, 1, 1⟩,
  ⟨0x3D1, 0x398, 1, 1⟩, ⟨0x3D5, 0x3A6, 1, 1⟩, ⟨0x3D6, 0x3A0, 1, 1⟩, ⟨0x3D7, 0x3CF, 1, 1⟩,
  ⟨0x3D9, 0x3D8, 12, 2⟩, ⟨0x3F0, 0x39A, 1, 1⟩, ⟨0x3F1, 0x3A1, 1, 1⟩, ⟨0x3F2, 0x3F9, 1, 1⟩,
  ⟨0x3F3, 0x37F, 1, 1⟩, ⟨0x3F5, 0x395, 1, 1⟩, ⟨0x3F8, 0x3F7, 1, 1⟩, ⟨0x3FB, 0x3FA, 1, 1⟩,
  ⟨0x430, 0x410, 32, 1⟩, ⟨0x450, 0x400, 16, 1⟩, ⟨0x461, 0x460, 17, 2⟩, ⟨0x48B, 0x48A, 27, 2⟩,
  ⟨0x4C2, 0x4C1, 7, 2⟩, ⟨0x4CF, 0x4C0, 1, 1⟩, ⟨0x4D1, 0x4D0, 48, 2⟩, ⟨0x561, 0x531, 38, 1⟩,
  ⟨0x10D0, 0x1C90, 43, 1⟩, ⟨0x10FD, 0x1CBD, 3, 1⟩, ⟨0x13F8, 0x13F0, 6, 1⟩, ⟨0x1C80, 0x412, 1, 1⟩,
  ⟨0x1C81, 0x414, 1, 1⟩, ⟨0x1C82, 0x41E, 1, 1⟩, ⟨0x1C83, 0x421, 2, 1⟩, ⟨0x1C85, 0x422, 1, 1⟩,
  ⟨0x1C86, 0x42A, 1, 1⟩, ⟨0x1C87, 0x462, 1, 1⟩, ⟨0x1C88, 0xA64A, 1, 1⟩, ⟨0x1C8A, 0x1C89, 1, 1⟩,
  ⟨0x1D79, 0xA77D, 1, 1⟩, ⟨0x1D7D, 0x2C63, 1, 1⟩, ⟨0x1D8E, 0xA7C6, 1, 1⟩, ⟨0x1E01, 0x1E00, 75, 2⟩,
  ⟨0x1E9B, 0x1E60, 1, 1⟩, ⟨0x1EA1, 0x1EA0, 48, 2⟩, ⟨0x1F00, 0x1F08, 8, 1⟩, ⟨0x1F10, 0x1F18, 6, 1⟩,
  ⟨0x1F20, 0x1F28, 8, 1⟩, ⟨0x1F30, 0x1F38, 8, 1⟩, ⟨0x1F40, 0x1F48, 6, 1⟩, ⟨0x1F51, 0x1F59, 4, 2⟩,
  ⟨0x1F60, 0x1F68, 8, 1⟩, ⟨0x1F70, 0x1FBA, 2, 1⟩, ⟨0x1F72, 0x1FC8, 4, 1⟩, ⟨0x1F76, 0x1FDA, 2, 1⟩,
  ⟨0x1F78, 0x1FF8, 2, 1⟩, ⟨0x1F7A, 0x1FEA, 2, 1⟩, ⟨0x1F7C, 0x1FFA, 2, 1⟩, ⟨0x1FB0, 0x1FB8, 2, 1⟩,
  ⟨0x1FBE, 0x399, 1, 1⟩, ⟨0x1FD0, 0x1FD8, 2, 1⟩, ⟨0x1FE0, 0x1FE8, 2, 1⟩, ⟨0x1FE5, 0x1FEC, 1, 1⟩,
  ⟨0x214E, 0x2132, 1, 1⟩, ⟨0x2170, 0x2160, 16, 1⟩, ⟨0x2184, 0x2183, 1, 1⟩, ⟨0x24D0, 0x24B6, 26, 1⟩,
  ⟨0x2C30, 0x2C00, 48, 1⟩, ⟨0x2C61, 0x2C60, 1, 1⟩, ⟨0x2C65, 0x23A, 1, 1⟩, ⟨0x2C66, 0x23E, 1, 1⟩,
  ⟨0x2C68, 0x2C67, 3, 2⟩, ⟨0x2C73, 0x2C72, 1, 1⟩, ⟨0x2C76, 0x2C75, 1, 1⟩, ⟨0x2C81, 0x2C80, 50, 2⟩,
  ⟨0x2CEC, 0x2CEB, 2, 2⟩, ⟨0x2CF3, 0x2CF2, 1, 1⟩, ⟨0x2D00, 0x10A0, 38, 1⟩, ⟨0x2D27, 0x10C7, 1, 1⟩,
  ⟨0x2D2D, 0x10CD, 1, 1⟩, ⟨0xA641, 0xA640, 23, 2⟩, ⟨0xA681, 0xA680, 14, 2⟩, ⟨0xA723, 0xA722, 7, 2⟩,
  ⟨0xA733, 0xA732, 31, 2⟩, ⟨0xA77A, 0xA779, 2, 2⟩, ⟨0xA77F, 0xA77E, 5, 2⟩, ⟨0xA78C, 0xA78B, 1, 1⟩,
  ⟨0xA791, 0xA790, 2, 2⟩, ⟨0xA794, 0xA7C4, 1, 1⟩, ⟨0xA797, 0xA796, 10, 2⟩, ⟨0xA7B5, 0xA7B4, 8, 2⟩,
  ⟨0xA7C8, 0xA7C7, 2, 2⟩, ⟨0xA7CD, 0xA7CC, 8, 2⟩, ⟨0xA7F6, 0xA7F5, 1, 1⟩, ⟨0xAB53, 0xA7B3, 1, 1⟩,
  ⟨0xAB70, 0x13A0, 80, 1⟩, ⟨0xFF41, 0xFF21, 26, 1⟩, ⟨0x10428, 0x10400, 40, 1⟩, ⟨0x104D8, 0x104B0, 36, 1⟩,
  ⟨0x10597, 0x10570, 11, 1⟩, ⟨0x105A3, 0x1057C, 15, 1⟩, ⟨0x105B3, 0x1058C, 7, 1⟩, ⟨0x105BB, 0x10594, 2, 1⟩,
  ⟨0x10CC0, 0x10C80, 51, 1⟩, ⟨0x10D70, 0x10D50, 22, 1⟩, ⟨0x118C0, 0x118A0, 32, 1⟩, ⟨0x16E60, 0x16E40, 32, 1⟩,
  ⟨0x16EBB, 0x16EA0, 25, 1⟩, ⟨0x1E922, 0x1E900, 34, 1⟩]

/-- The characters whose upper case is several characters. -/
def upperExpansions : List (Nat × List Nat) := [
  (0xDF, [0x53, 0x53]), (0x149, [0x2BC, 0x4E]), (0x1F0, [0x4A, 0x30C]),
  (0x390, [0x399, 0x308, 0x301]), (0x3B0, [0x3A5, 0x308, 0x301]), (0x587, [0x535, 0x552]),
  (0x1E96, [0x48, 0x331]), (0x1E97, [0x54, 0x308]), (0x1E98, [0x57, 0x30A]),
  (0x1E99, [0x59, 0x30A]), (0x1E9A, [0x41, 0x2BE]), (0x1F50, [0x3A5, 0x313]),
  (0x1F52, [0x3A5, 0x313, 0x300]), (0x1F54, [0x3A5, 0x313, 0x301]), (0x1F56, [0x3A5, 0x313, 0x342]),
  (0x1F80, [0x1F08, 0x399]), (0x1F81, [0x1F09, 0x399]), (0x1F82, [0x1F0A, 0x399]),
  (0x1F83, [0x1F0B, 0x399]), (0x1F84, [0x1F0C, 0x399]), (0x1F85, [0x1F0D, 0x399]),
  (0x1F86, [0x1F0E, 0x399]), (0x1F87, [0x1F0F, 0x399]), (0x1F88, [0x1F08, 0x399]),
  (0x1F89, [0x1F09, 0x399]), (0x1F8A, [0x1F0A, 0x399]), (0x1F8B, [0x1F0B, 0x399]),
  (0x1F8C, [0x1F0C, 0x399]), (0x1F8D, [0x1F0D, 0x399]), (0x1F8E, [0x1F0E, 0x399]),
  (0x1F8F, [0x1F0F, 0x399]), (0x1F90, [0x1F28, 0x399]), (0x1F91, [0x1F29, 0x399]),
  (0x1F92, [0x1F2A, 0x399]), (0x1F93, [0x1F2B, 0x399]), (0x1F94, [0x1F2C, 0x399]),
  (0x1F95, [0x1F2D, 0x399]), (0x1F96, [0x1F2E, 0x399]), (0x1F97, [0x1F2F, 0x399]),
  (0x1F98, [0x1F28, 0x399]), (0x1F99, [0x1F29, 0x399]), (0x1F9A, [0x1F2A, 0x399]),
  (0x1F9B, [0x1F2B, 0x399]), (0x1F9C, [0x1F2C, 0x399]), (0x1F9D, [0x1F2D, 0x399]),
  (0x1F9E, [0x1F2E, 0x399]), (0x1F9F, [0x1F2F, 0x399]), (0x1FA0, [0x1F68, 0x399]),
  (0x1FA1, [0x1F69, 0x399]), (0x1FA2, [0x1F6A, 0x399]), (0x1FA3, [0x1F6B, 0x399]),
  (0x1FA4, [0x1F6C, 0x399]), (0x1FA5, [0x1F6D, 0x399]), (0x1FA6, [0x1F6E, 0x399]),
  (0x1FA7, [0x1F6F, 0x399]), (0x1FA8, [0x1F68, 0x399]), (0x1FA9, [0x1F69, 0x399]),
  (0x1FAA, [0x1F6A, 0x399]), (0x1FAB, [0x1F6B, 0x399]), (0x1FAC, [0x1F6C, 0x399]),
  (0x1FAD, [0x1F6D, 0x399]), (0x1FAE, [0x1F6E, 0x399]), (0x1FAF, [0x1F6F, 0x399]),
  (0x1FB2, [0x1FBA, 0x399]), (0x1FB3, [0x391, 0x399]), (0x1FB4, [0x386, 0x399]),
  (0x1FB6, [0x391, 0x342]), (0x1FB7, [0x391, 0x342, 0x399]), (0x1FBC, [0x391, 0x399]),
  (0x1FC2, [0x1FCA, 0x399]), (0x1FC3, [0x397, 0x399]), (0x1FC4, [0x389, 0x399]),
  (0x1FC6, [0x397, 0x342]), (0x1FC7, [0x397, 0x342, 0x399]), (0x1FCC, [0x397, 0x399]),
  (0x1FD2, [0x399, 0x308, 0x300]), (0x1FD3, [0x399, 0x308, 0x301]), (0x1FD6, [0x399, 0x342]),
  (0x1FD7, [0x399, 0x308, 0x342]), (0x1FE2, [0x3A5, 0x308, 0x300]), (0x1FE3, [0x3A5, 0x308, 0x301]),
  (0x1FE4, [0x3A1, 0x313]), (0x1FE6, [0x3A5, 0x342]), (0x1FE7, [0x3A5, 0x308, 0x342]),
  (0x1FF2, [0x1FFA, 0x399]), (0x1FF3, [0x3A9, 0x399]), (0x1FF4, [0x38F, 0x399]),
  (0x1FF6, [0x3A9, 0x342]), (0x1FF7, [0x3A9, 0x342, 0x399]), (0x1FFC, [0x3A9, 0x399]),
  (0xFB00, [0x46, 0x46]), (0xFB01, [0x46, 0x49]), (0xFB02, [0x46, 0x4C]),
  (0xFB03, [0x46, 0x46, 0x49]), (0xFB04, [0x46, 0x46, 0x4C]), (0xFB05, [0x53, 0x54]),
  (0xFB06, [0x53, 0x54]), (0xFB13, [0x544, 0x546]), (0xFB14, [0x544, 0x535]),
  (0xFB15, [0x544, 0x53B]), (0xFB16, [0x54E, 0x546]), (0xFB17, [0x544, 0x53D])]

end HttpDispatch.Text
