/-!
ASCII forms. The compatibility decomposition of a character may hold ASCII characters, as that of an
accented letter holds the letter; they are what is left of the character in ASCII. The tables are
those of Unicode 14.
-/

namespace Walkthrough.Text

/-- Runs of characters with one ASCII character each: the first one, how many they are, the step
between their ASCII characters, and the first of these. -/
def asciiRuns : List (Nat × Nat × Nat × Nat) :=
  [(0xA0, 1, 1, 32), (0xA8, 1, 1, 32), (0xAA, 1, 1, 97), (0xAF, 1, 1, 32), (0xB2, 2, 1, 50),
   (0xB4, 1, 1, 32), (0xB8, 1, 1, 32), (0xB9, 1, 1, 49), (0xBA, 1, 1, 111), (0xC0, 6, 0, 65),
   (0xC7, 1, 1, 67), (0xC8, 4, 0, 69), (0xCC, 4, 0, 73), (0xD1, 2, 1, 78), (0xD3, 4, 0, 79),
   (0xD9, 4, 0, 85), (0xDD, 1, 1, 89), (0xE0, 6, 0, 97), (0xE7, 1, 1, 99), (0xE8, 4, 0, 101),
   (0xEC, 4, 0, 105), (0xF1, 2, 1, 110), (0xF3, 4, 0, 111), (0xF9, 4, 0, 117), (0xFD, 1, 1, 121),
   (0xFF, 1, 1, 121), (0x100, 1, 1, 65), (0x101, 1, 1, 97), (0x102, 1, 1, 65), (0x103, 1, 1, 97),
   (0x104, 1, 1, 65), (0x105, 1, 1, 97), (0x106, 1, 1, 67), (0x107, 1, 1, 99), (0x108, 1, 1, 67),
   (0x109, 1, 1, 99), (0x10A, 1, 1, 67), (0x10B, 1, 1, 99), (0x10C, 1, 1, 67), (0x10D, 1, 1, 99),
   (0x10E, 1, 1, 68), (0x10F, 1, 1, 100), (0x112, 1, 1, 69), (0x113, 1, 1, 101),
   (0x114, 1, 1, 69), (0x115, 1, 1, 101), (0x116, 1, 1, 69), (0x117, 1, 1, 101),
   (0x118, 1, 1, 69), (0x119, 1, 1, 101), (0x11A, 1, 1, 69), (0x11B, 1, 1, 101),
   (0x11C, 1, 1, 71), (0x11D, 1, 1, 103), (0x11E, 1, 1, 71), (0x11F, 1, 1, 103),
   (0x120, 1, 1, 71), (0x121, 1, 1, 103), (0x122, 1, 1, 71), (0x123, 1, 1, 103),
   (0x124, 1, 1, 72), (0x125, 1, 1, 104), (0x128, 1, 1, 73), (0x129, 1, 1, 105),
   (0x12A, 1, 1, 73), (0x12B, 1, 1, 105), (0x12C, 1, 1, 73), (0x12D, 1, 1, 105),
   (0x12E, 1, 1, 73), (0x12F, 1, 1, 105), (0x130, 1, 1, 73), (0x134, 1, 1, 74),
   (0x135, 1, 1, 106), (0x136, 1, 1, 75), (0x137, 1, 1, 107), (0x139, 1, 1, 76),
   (0x13A, 1, 1, 108), (0x13B, 1, 1, 76), (0x13C, 1, 1, 108), (0x13D, 1, 1, 76),
   (0x13E, 1, 1, 108), (0x13F, 1, 1, 76), (0x140, 1, 1, 108), (0x143, 1, 1, 78),
   (0x144, 1, 1, 110), (0x145, 1, 1, 78), (0x146, 1, 1, 110), (0x147, 1, 1, 78),
   (0x148, 2, 0, 110), (0x14C, 1, 1, 79), (0x14D, 1, 1, 111), (0x14E, 1, 1, 79),
   (0x14F, 1, 1, 111), (0x150, 1, 1, 79), (0x151, 1, 1, 111), (0x154, 1, 1, 82),
   (0x155, 1, 1, 114), (0x156, 1, 1, 82), (0x157, 1, 1, 114), (0x158, 1, 1, 82),
   (0x159, 1, 1, 114), (0x15A, 1, 1, 83), (0x15B, 1, 1, 115), (0x15C, 1, 1, 83),
   (0x15D, 1, 1, 115), (0x15E, 1, 1, 83), (0x15F, 1, 1, 115), (0x160, 1, 1, 83),
   (0x161, 1, 1, 115), (0x162, 1, 1, 84), (0x163, 1, 1, 116), (0x164, 1, 1, 84),
   (0x165, 1, 1, 116), (0x168, 1, 1, 85), (0x169, 1, 1, 117), (0x16A, 1, 1, 85),
   (0x16B, 1, 1, 117), (0x16C, 1, 1, 85), (0x16D, 1, 1, 117), (0x16E, 1, 1, 85),
   (0x16F, 1, 1, 117), (0x170, 1, 1, 85), (0x171, 1, 1, 117), (0x172, 1, 1, 85),
   (0x173, 1, 1, 117), (0x174, 1, 1, 87), (0x175, 1, 1, 119), (0x176, 1, 1, 89),
   (0x177, 1, 1, 121), (0x178, 2, 1, 89), (0x17A, 1, 1, 122), (0x17B, 1, 1, 90),
   (0x17C, 1, 1, 122), (0x17D, 1, 1, 90), (0x17E, 1, 1, 122), (0x17F, 1, 1, 115),
   (0x1A0, 1, 1, 79), (0x1A1, 1, 1, 111), (0x1AF, 1, 1, 85), (0x1B0, 1, 1, 117),
   (0x1CD, 1, 1, 65), (0x1CE, 1, 1, 97), (0x1CF, 1, 1, 73), (0x1D0, 1, 1, 105), (0x1D1, 1, 1, 79),
   (0x1D2, 1, 1, 111), (0x1D3, 1, 1, 85), (0x1D4, 1, 1, 117), (0x1D5, 1, 1, 85),
   (0x1D6, 1, 1, 117), (0x1D7, 1, 1, 85), (0x1D8, 1, 1, 117), (0x1D9, 1, 1, 85),
   (0x1DA, 1, 1, 117), (0x1DB, 1, 1, 85), (0x1DC, 1, 1, 117), (0x1DE, 1, 1, 65),
   (0x1DF, 1, 1, 97), (0x1E0, 1, 1, 65), (0x1E1, 1, 1, 97), (0x1E6, 1, 1, 71), (0x1E7, 1, 1, 103),
   (0x1E8, 1, 1, 75), (0x1E9, 1, 1, 107), (0x1EA, 1, 1, 79), (0x1EB, 1, 1, 111),
   (0x1EC, 1, 1, 79), (0x1ED, 1, 1, 111), (0x1F0, 1, 1, 106), (0x1F4, 1, 1, 71),
   (0x1F5, 1, 1, 103), (0x1F8, 1, 1, 78), (0x1F9, 1, 1, 110), (0x1FA, 1, 1, 65),
   (0x1FB, 1, 1, 97), (0x200, 1, 1, 65), (0x201, 1, 1, 97), (0x202, 1, 1, 65), (0x203, 1, 1, 97),
   (0x204, 1, 1, 69), (0x205, 1, 1, 101), (0x206, 1, 1, 69), (0x207, 1, 1, 101),
   (0x208, 1, 1, 73), (0x209, 1, 1, 105), (0x20A, 1, 1, 73), (0x20B, 1, 1, 105),
   (0x20C, 1, 1, 79), (0x20D, 1, 1, 111), (0x20E, 1, 1, 79), (0x20F, 1, 1, 111),
   (0x210, 1, 1, 82), (0x211, 1, 1, 114), (0x212, 1, 1, 82), (0x213, 1, 1, 114),
   (0x214, 1, 1, 85), (0x215, 1, 1, 117), (0x216, 1, 1, 85), (0x217, 1, 1, 117),
   (0x218, 1, 1, 83), (0x219, 1, 1, 115), (0x21A, 1, 1, 84), (0x21B, 1, 1, 116),
   (0x21E, 1, 1, 72), (0x21F, 1, 1, 104), (0x226, 1, 1, 65), (0x227, 1, 1, 97), (0x228, 1, 1, 69),
   (0x229, 1, 1, 101), (0x22A, 1, 1, 79), (0x22B, 1, 1, 111), (0x22C, 1, 1, 79),
   (0x22D, 1, 1, 111), (0x22E, 1, 1, 79), (0x22F, 1, 1, 111), (0x230, 1, 1, 79),
   (0x231, 1, 1, 111), (0x232, 1, 1, 89), (0x233, 1, 1, 121), (0x2B0, 1, 1, 104),
   (0x2B2, 1, 1, 106), (0x2B3, 1, 1, 114), (0x2B7, 1, 1, 119), (0x2B8, 1, 1, 121),
   (0x2D8, 6, 0, 32), (0x2E1, 1, 1, 108), (0x2E2, 1, 1, 115), (0x2E3, 1, 1, 120),
   (0x37A, 1, 1, 32), (0x37E, 1, 1, 59), (0x384, 2, 0, 32), (0x1D2C, 1, 1, 65),
   (0x1D2E, 1, 1, 66), (0x1D30, 2, 1, 68), (0x1D33, 8, 1, 71), (0x1D3C, 1, 1, 79),
   (0x1D3E, 1, 1, 80), (0x1D3F, 1, 1, 82), (0x1D40, 2, 1, 84), (0x1D42, 1, 1, 87),
   (0x1D43, 1, 1, 97), (0x1D47, 1, 1, 98), (0x1D48, 2, 1, 100), (0x1D4D, 1, 1, 103),
   (0x1D4F, 1, 1, 107), (0x1D50, 1, 1, 109), (0x1D52, 1, 1, 111), (0x1D56, 1, 1, 112),
   (0x1D57, 2, 1, 116), (0x1D5B, 1, 1, 118), (0x1D62, 1, 1, 105), (0x1D63, 1, 1, 114),
   (0x1D64, 2, 1, 117), (0x1D9C, 1, 1, 99), (0x1DA0, 1, 1, 102), (0x1DBB, 1, 1, 122),
   (0x1E00, 1, 1, 65), (0x1E01, 1, 1, 97), (0x1E02, 1, 1, 66), (0x1E03, 1, 1, 98),
   (0x1E04, 1, 1, 66), (0x1E05, 1, 1, 98), (0x1E06, 1, 1, 66), (0x1E07, 1, 1, 98),
   (0x1E08, 1, 1, 67), (0x1E09, 1, 1, 99), (0x1E0A, 1, 1, 68), (0x1E0B, 1, 1, 100),
   (0x1E0C, 1, 1, 68), (0x1E0D, 1, 1, 100), (0x1E0E, 1, 1, 68), (0x1E0F, 1, 1, 100),
   (0x1E10, 1, 1, 68), (0x1E11, 1, 1, 100), (0x1E12, 1, 1, 68), (0x1E13, 1, 1, 100),
   (0x1E14, 1, 1, 69), (0x1E15, 1, 1, 101), (0x1E16, 1, 1, 69), (0x1E17, 1, 1, 101),
   (0x1E18, 1, 1, 69), (0x1E19, 1, 1, 101), (0x1E1A, 1, 1, 69), (0x1E1B, 1, 1, 101),
   (0x1E1C, 1, 1, 69), (0x1E1D, 1, 1, 101), (0x1E1E, 1, 1, 70), (0x1E1F, 1, 1, 102),
   (0x1E20, 1, 1, 71), (0x1E21, 1, 1, 103), (0x1E22, 1, 1, 72), (0x1E23, 1, 1, 104),
   (0x1E24, 1, 1, 72), (0x1E25, 1, 1, 104), (0x1E26, 1, 1, 72), (0x1E27, 1, 1, 104),
   (0x1E28, 1, 1, 72), (0x1E29, 1, 1, 104), (0x1E2A, 1, 1, 72), (0x1E2B, 1, 1, 104),
   (0x1E2C, 1, 1, 73), (0x1E2D, 1, 1, 105), (0x1E2E, 1, 1, 73), (0x1E2F, 1, 1, 105),
   (0x1E30, 1, 1, 75), (0x1E31, 1, 1, 107), (0x1E32, 1, 1, 75), (0x1E33, 1, 1, 107),
   (0x1E34, 1, 1, 75), (0x1E35, 1, 1, 107), (0x1E36, 1, 1, 76), (0x1E37, 1, 1, 108),
   (0x1E38, 1, 1, 76), (0x1E39, 1, 1, 108), (0x1E3A, 1, 1, 76), (0x1E3B, 1, 1, 108),
   (0x1E3C, 1, 1, 76), (0x1E3D, 1, 1, 108), (0x1E3E, 1, 1, 77), (0x1E3F, 1, 1, 109),
   (0x1E40, 1, 1, 77), (0x1E41, 1, 1, 109), (0x1E42, 1, 1, 77), (0x1E43, 1, 1, 109),
   (0x1E44, 1, 1, 78), (0x1E45, 1, 1, 110), (0x1E46, 1, 1, 78), (0x1E47, 1, 1, 110),
   (0x1E48, 1, 1, 78), (0x1E49, 1, 1, 110), (0x1E4A, 1, 1, 78), (0x1E4B, 1, 1, 110),
   (0x1E4C, 1, 1, 79), (0x1E4D, 1, 1, 111), (0x1E4E, 1, 1, 79), (0x1E4F, 1, 1, 111),
   (0x1E50, 1, 1, 79), (0x1E51, 1, 1, 111), (0x1E52, 1, 1, 79), (0x1E53, 1, 1, 111),
   (0x1E54, 1, 1, 80), (0x1E55, 1, 1, 112), (0x1E56, 1, 1, 80), (0x1E57, 1, 1, 112),
   (0x1E58, 1, 1, 82), (0x1E59, 1, 1, 114), (0x1E5A, 1, 1, 82), (0x1E5B, 1, 1, 114),
   (0x1E5C, 1, 1, 82), (0x1E5D, 1, 1, 114), (0x1E5E, 1, 1, 82), (0x1E5F, 1, 1, 114),
   (0x1E60, 1, 1, 83), (0x1E61, 1, 1, 115), (0x1E62, 1, 1, 83), (0x1E63, 1, 1, 115),
   (0x1E64, 1, 1, 83), (0x1E65, 1, 1, 115), (0x1E66, 1, 1, 83), (0x1E67, 1, 1, 115),
   (0x1E68, 1, 1, 83), (0x1E69, 1, 1, 115), (0x1E6A, 1, 1, 84), (0x1E6B, 1, 1, 116),
   (0x1E6C, 1, 1, 84), (0x1E6D, 1, 1, 116), (0x1E6E, 1, 1, 84), (0x1E6F, 1, 1, 116),
   (0x1E70, 1, 1, 84), (0x1E71, 1, 1, 116), (0x1E72, 1, 1, 85), (0x1E73, 1, 1, 117),
   (0x1E74, 1, 1, 85), (0x1E75, 1, 1, 117), (0x1E76, 1, 1, 85), (0x1E77, 1, 1, 117),
   (0x1E78, 1, 1, 85), (0x1E79, 1, 1, 117), (0x1E7A, 1, 1, 85), (0x1E7B, 1, 1, 117),
   (0x1E7C, 1, 1, 86), (0x1E7D, 1, 1, 118), (0x1E7E, 1, 1, 86), (0x1E7F, 1, 1, 118),
   (0x1E80, 1, 1, 87), (0x1E81, 1, 1, 119), (0x1E82, 1, 1, 87), (0x1E83, 1, 1, 119),
   (0x1E84, 1, 1, 87), (0x1E85, 1, 1, 119), (0x1E86, 1, 1, 87), (0x1E87, 1, 1, 119),
   (0x1E88, 1, 1, 87), (0x1E89, 1, 1, 119), (0x1E8A, 1, 1, 88), (0x1E8B, 1, 1, 120),
   (0x1E8C, 1, 1, 88), (0x1E8D, 1, 1, 120), (0x1E8E, 1, 1, 89), (0x1E8F, 1, 1, 121),
   (0x1E90, 1, 1, 90), (0x1E91, 1, 1, 122), (0x1E92, 1, 1, 90), (0x1E93, 1, 1, 122),
   (0x1E94, 1, 1, 90), (0x1E95, 1, 1, 122), (0x1E96, 1, 1, 104), (0x1E97, 1, 1, 116),
   (0x1E98, 1, 1, 119), (0x1E99, 1, 1, 121), (0x1E9A, 1, 1, 97), (0x1E9B, 1, 1, 115),
   (0x1EA0, 1, 1, 65), (0x1EA1, 1, 1, 97), (0x1EA2, 1, 1, 65), (0x1EA3, 1, 1, 97),
   (0x1EA4, 1, 1, 65), (0x1EA5, 1, 1, 97), (0x1EA6, 1, 1, 65), (0x1EA7, 1, 1, 97),
   (0x1EA8, 1, 1, 65), (0x1EA9, 1, 1, 97), (0x1EAA, 1, 1, 65), (0x1EAB, 1, 1, 97),
   (0x1EAC, 1, 1, 65), (0x1EAD, 1, 1, 97), (0x1EAE, 1, 1, 65), (0x1EAF, 1, 1, 97),
   (0x1EB0, 1, 1, 65), (0x1EB1, 1, 1, 97), (0x1EB2, 1, 1, 65), (0x1EB3, 1, 1, 97),
   (0x1EB4, 1, 1, 65), (0x1EB5, 1, 1, 97), (0x1EB6, 1, 1, 65), (0x1EB7, 1, 1, 97),
   (0x1EB8, 1, 1, 69), (0x1EB9, 1, 1, 101), (0x1EBA, 1, 1, 69), (0x1EBB, 1, 1, 101),
   (0x1EBC, 1, 1, 69), (0x1EBD, 1, 1, 101), (0x1EBE, 1, 1, 69), (0x1EBF, 1, 1, 101),
   (0x1EC0, 1, 1, 69), (0x1EC1, 1, 1, 101), (0x1EC2, 1, 1, 69), (0x1EC3, 1, 1, 101),
   (0x1EC4, 1, 1, 69), (0x1EC5, 1, 1, 101), (0x1EC6, 1, 1, 69), (0x1EC7, 1, 1, 101),
   (0x1EC8, 1, 1, 73), (0x1EC9, 1, 1, 105), (0x1ECA, 1, 1, 73), (0x1ECB, 1, 1, 105),
   (0x1ECC, 1, 1, 79), (0x1ECD, 1, 1, 111), (0x1ECE, 1, 1, 79), (0x1ECF, 1, 1, 111),
   (0x1ED0, 1, 1, 79), (0x1ED1, 1, 1, 111), (0x1ED2, 1, 1, 79), (0x1ED3, 1, 1, 111),
   (0x1ED4, 1, 1, 79), (0x1ED5, 1, 1, 111), (0x1ED6, 1, 1, 79), (0x1ED7, 1, 1, 111),
   (0x1ED8, 1, 1, 79), (0x1ED9, 1, 1, 111), (0x1EDA, 1, 1, 79), (0x1EDB, 1, 1, 111),
   (0x1EDC, 1, 1, 79), (0x1EDD, 1, 1, 111), (0x1EDE, 1, 1, 79), (0x1EDF, 1, 1, 111),
   (0x1EE0, 1, 1, 79), (0x1EE1, 1, 1, 111), (0x1EE2, 1, 1, 79), (0x1EE3, 1, 1, 111),
   (0x1EE4, 1, 1, 85), (0x1EE5, 1, 1, 117), (0x1EE6, 1, 1, 85), (0x1EE7, 1, 1, 117),
   (0x1EE8, 1, 1, 85), (0x1EE9, 1, 1, 117), (0x1EEA, 1, 1, 85), (0x1EEB, 1, 1, 117),
   (0x1EEC, 1, 1, 85), (0x1EED, 1, 1, 117), (0x1EEE, 1, 1, 85), (0x1EEF, 1, 1, 117),
   (0x1EF0, 1, 1, 85), (0x1EF1, 1, 1, 117), (0x1EF2, 1, 1, 89), (0x1EF3, 1, 1, 121),
   (0x1EF4, 1, 1, 89), (0x1EF5, 1, 1, 121), (0x1EF6, 1, 1, 89), (0x1EF7, 1, 1, 121),
   (0x1EF8, 1, 1, 89), (0x1EF9, 1, 1, 121), (0x1FBD, 1, 1, 32), (0x1FBF, 3, 0, 32),
   (0x1FCD, 3, 0, 32), (0x1FDD, 3, 0, 32), (0x1FED, 2, 0, 32), (0x1FEF, 1, 1, 96),
   (0x1FFD, 2, 0, 32), (0x2000, 11, 0, 32), (0x2017, 1, 1, 32), (0x2024, 1, 1, 46),
   (0x202F, 1, 1, 32), (0x203E, 1, 1, 32), (0x205F, 1, 1, 32), (0x2070, 1, 1, 48),
   (0x2071, 1, 1, 105), (0x2074, 6, 1, 52), (0x207A, 1, 1, 43), (0x207C, 1, 1, 61),
   (0x207D, 2, 1, 40), (0x207F, 1, 1, 110), (0x2080, 10, 1, 48), (0x208A, 1, 1, 43),
   (0x208C, 1, 1, 61), (0x208D, 2, 1, 40), (0x2090, 1, 1, 97), (0x2091, 1, 1, 101),
   (0x2092, 1, 1, 111), (0x2093, 1, 1, 120), (0x2095, 1, 1, 104), (0x2096, 4, 1, 107),
   (0x209A, 1, 1, 112), (0x209B, 2, 1, 115), (0x2102, 2, 0, 67), (0x2109, 1, 1, 70),
   (0x210A, 1, 1, 103), (0x210B, 3, 0, 72), (0x210E, 1, 1, 104), (0x2110, 2, 0, 73),
   (0x2112, 1, 1, 76), (0x2113, 1, 1, 108), (0x2115, 1, 1, 78), (0x2119, 3, 1, 80),
   (0x211C, 2, 0, 82), (0x2124, 1, 1, 90), (0x2128, 1, 1, 90), (0x212A, 1, 1, 75),
   (0x212B, 3, 1, 65), (0x212F, 1, 1, 101), (0x2130, 2, 1, 69), (0x2133, 1, 1, 77),
   (0x2134, 1, 1, 111), (0x2139, 1, 1, 105), (0x2145, 1, 1, 68), (0x2146, 2, 1, 100),
   (0x2148, 2, 1, 105), (0x215F, 1, 1, 49), (0x2160, 1, 1, 73), (0x2164, 1, 1, 86),
   (0x2169, 1, 1, 88), (0x216C, 1, 1, 76), (0x216D, 2, 1, 67), (0x216F, 1, 1, 77),
   (0x2170, 1, 1, 105), (0x2174, 1, 1, 118), (0x2179, 1, 1, 120), (0x217C, 1, 1, 108),
   (0x217D, 2, 1, 99), (0x217F, 1, 1, 109), (0x2260, 1, 1, 61), (0x226E, 1, 1, 60),
   (0x226F, 1, 1, 62), (0x2460, 9, 1, 49), (0x24B6, 26, 1, 65), (0x24D0, 26, 1, 97),
   (0x24EA, 1, 1, 48), (0x2C7C, 1, 1, 106), (0x2C7D, 1, 1, 86), (0x3000, 1, 1, 32),
   (0x309B, 2, 0, 32), (0x32C0, 9, 1, 49), (0x3358, 10, 1, 48), (0x3382, 1, 1, 65),
   (0x338C, 1, 1, 70), (0x338D, 1, 1, 103), (0x3395, 1, 1, 108), (0x339B, 1, 1, 109),
   (0x33B2, 1, 1, 115), (0x33B6, 1, 1, 86), (0x33BC, 1, 1, 87), (0x33C0, 1, 1, 107),
   (0x33C1, 1, 1, 77), (0x33E0, 9, 1, 49), (0xA7F2, 1, 1, 67), (0xA7F3, 1, 1, 70),
   (0xA7F4, 1, 1, 81), (0xFB29, 1, 1, 43), (0xFC5E, 6, 0, 32), (0xFDFB, 1, 1, 32),
   (0xFE10, 1, 1, 44), (0xFE13, 2, 1, 58), (0xFE15, 1, 1, 33), (0xFE16, 1, 1, 63),
   (0xFE33, 2, 0, 95), (0xFE35, 2, 1, 40), (0xFE37, 1, 1, 123), (0xFE38, 1, 1, 125),
   (0xFE47, 1, 1, 91), (0xFE48, 1, 1, 93), (0xFE49, 4, 0, 32), (0xFE4D, 3, 0, 95),
   (0xFE50, 1, 1, 44), (0xFE52, 1, 1, 46), (0xFE54, 1, 1, 59), (0xFE55, 1, 1, 58),
   (0xFE56, 1, 1, 63), (0xFE57, 1, 1, 33), (0xFE59, 2, 1, 40), (0xFE5B, 1, 1, 123),
   (0xFE5C, 1, 1, 125), (0xFE5F, 1, 1, 35), (0xFE60, 1, 1, 38), (0xFE61, 2, 1, 42),
   (0xFE63, 1, 1, 45), (0xFE64, 1, 1, 60), (0xFE65, 1, 1, 62), (0xFE66, 1, 1, 61),
   (0xFE68, 1, 1, 92), (0xFE69, 2, 1, 36), (0xFE6B, 1, 1, 64), (0xFE70, 1, 1, 32),
   (0xFE72, 1, 1, 32), (0xFE74, 1, 1, 32), (0xFE76, 1, 1, 32), (0xFE78, 1, 1, 32),
   (0xFE7A, 1, 1, 32), (0xFE7C, 1, 1, 32), (0xFE7E, 1, 1, 32), (0xFF01, 94, 1, 33),
   (0xFFE3, 1, 1, 32), (0x107A5, 1, 1, 113), (0x1D400, 26, 1, 65), (0x1D41A, 26, 1, 97),
   (0x1D434, 26, 1, 65), (0x1D44E, 7, 1, 97), (0x1D456, 18, 1, 105), (0x1D468, 26, 1, 65),
   (0x1D482, 26, 1, 97), (0x1D49C, 1, 1, 65), (0x1D49E, 2, 1, 67), (0x1D4A2, 1, 1, 71),
   (0x1D4A5, 2, 1, 74), (0x1D4A9, 4, 1, 78), (0x1D4AE, 8, 1, 83), (0x1D4B6, 4, 1, 97),
   (0x1D4BB, 1, 1, 102), (0x1D4BD, 7, 1, 104), (0x1D4C5, 11, 1, 112), (0x1D4D0, 26, 1, 65),
   (0x1D4EA, 26, 1, 97), (0x1D504, 2, 1, 65), (0x1D507, 4, 1, 68), (0x1D50D, 8, 1, 74),
   (0x1D516, 7, 1, 83), (0x1D51E, 26, 1, 97), (0x1D538, 2, 1, 65), (0x1D53B, 4, 1, 68),
   (0x1D540, 5, 1, 73), (0x1D546, 1, 1, 79), (0x1D54A, 7, 1, 83), (0x1D552, 26, 1, 97),
   (0x1D56C, 26, 1, 65), (0x1D586, 26, 1, 97), (0x1D5A0, 26, 1, 65), (0x1D5BA, 26, 1, 97),
   (0x1D5D4, 26, 1, 65), (0x1D5EE, 26, 1, 97), (0x1D608, 26, 1, 65), (0x1D622, 26, 1, 97),
   (0x1D63C, 26, 1, 65), (0x1D656, 26, 1, 97), (0x1D670, 26, 1, 65), (0x1D68A, 26, 1, 97),
   (0x1D7CE, 10, 1, 48), (0x1D7D8, 10, 1, 48), (0x1D7E2, 10, 1, 48), (0x1D7EC, 10, 1, 48),
   (0x1D7F6, 10, 1, 48), (0x1F12A, 1, 1, 83), (0x1F12B, 1, 1, 67), (0x1F12C, 1, 1, 82),
   (0x1F130, 26, 1, 65), (0x1FBF0, 10, 1, 48)]

/-- Characters with several ASCII characters. -/
def asciiForms : List (Nat × String) :=
  [(0xBC, "14"), (0xBD, "12"), (0xBE, "34"), (0x132, "IJ"), (0x133, "ij"), (0x1C4, "DZ"),
   (0x1C5, "Dz"), (0x1C6, "dz"), (0x1C7, "LJ"), (0x1C8, "Lj"), (0x1C9, "lj"), (0x1CA, "NJ"),
   (0x1CB, "Nj"), (0x1CC, "nj"), (0x1F1, "DZ"), (0x1F2, "Dz"), (0x1F3, "dz"), (0x2025, ".."),
   (0x2026, "..."), (0x203C, "!!"), (0x2047, "??"), (0x2048, "?!"), (0x2049, "!?"),
   (0x20A8, "Rs"), (0x2100, "a/c"), (0x2101, "a/s"), (0x2105, "c/o"), (0x2106, "c/u"),
   (0x2116, "No"), (0x2120, "SM"), (0x2121, "TEL"), (0x2122, "TM"), (0x213B, "FAX"),
   (0x2150, "17"), (0x2151, "19"), (0x2152, "110"), (0x2153, "13"), (0x2154, "23"),
   (0x2155, "15"), (0x2156, "25"), (0x2157, "35"), (0x2158, "45"), (0x2159, "16"), (0x215A, "56"),
   (0x215B, "18"), (0x215C, "38"), (0x215D, "58"), (0x215E, "78"), (0x2161, "II"),
   (0x2162, "III"), (0x2163, "IV"), (0x2165, "VI"), (0x2166, "VII"), (0x2167, "VIII"),
   (0x2168, "IX"), (0x216A, "XI"), (0x216B, "XII"), (0x2171, "ii"), (0x2172, "iii"),
   (0x2173, "iv"), (0x2175, "vi"), (0x2176, "vii"), (0x2177, "viii"), (0x2178, "ix"),
   (0x217A, "xi"), (0x217B, "xii"), (0x2189, "03"), (0x2469, "10"), (0x246A, "11"),
   (0x246B, "12"), (0x246C, "13"), (0x246D, "14"), (0x246E, "15"), (0x246F, "16"), (0x2470, "17"),
   (0x2471, "18"), (0x2472, "19"), (0x2473, "20"), (0x2474, "(1)"), (0x2475, "(2)"),
   (0x2476, "(3)"), (0x2477, "(4)"), (0x2478, "(5)"), (0x2479, "(6)"), (0x247A, "(7)"),
   (0x247B, "(8)"), (0x247C, "(9)"), (0x247D, "(10)"), (0x247E, "(11)"), (0x247F, "(12)"),
   (0x2480, "(13)"), (0x2481, "(14)"), (0x2482, "(15)"), (0x2483, "(16)"), (0x2484, "(17)"),
   (0x2485, "(18)"), (0x2486, "(19)"), (0x2487, "(20)"), (0x2488, "1."), (0x2489, "2."),
   (0x248A, "3."), (0x248B, "4."), (0x248C, "5."), (0x248D, "6."), (0x248E, "7."), (0x248F, "8."),
   (0x2490, "9."), (0x2491, "10."), (0x2492, "11."), (0x2493, "12."), (0x2494, "13."),
   (0x2495, "14."), (0x2496, "15."), (0x2497, "16."), (0x2498, "17."), (0x2499, "18."),
   (0x249A, "19."), (0x249B, "20."), (0x249C, "(a)"), (0x249D, "(b)"), (0x249E, "(c)"),
   (0x249F, "(d)"), (0x24A0, "(e)"), (0x24A1, "(f)"), (0x24A2, "(g)"), (0x24A3, "(h)"),
   (0x24A4, "(i)"), (0x24A5, "(j)"), (0x24A6, "(k)"), (0x24A7, "(l)"), (0x24A8, "(m)"),
   (0x24A9, "(n)"), (0x24AA, "(o)"), (0x24AB, "(p)"), (0x24AC, "(q)"), (0x24AD, "(r)"),
   (0x24AE, "(s)"), (0x24AF, "(t)"), (0x24B0, "(u)"), (0x24B1, "(v)"), (0x24B2, "(w)"),
   (0x24B3, "(x)"), (0x24B4, "(y)"), (0x24B5, "(z)"), (0x2A74, "::="), (0x2A75, "=="),
   (0x2A76, "==="), (0x3200, "()"), (0x3201, "()"), (0x3202, "()"), (0x3203, "()"),
   (0x3204, "()"), (0x3205, "()"), (0x3206, "()"), (0x3207, "()"), (0x3208, "()"), (0x3209, "()"),
   (0x320A, "()"), (0x320B, "()"), (0x320C, "()"), (0x320D, "()"), (0x320E, "()"), (0x320F, "()"),
   (0x3210, "()"), (0x3211, "()"), (0x3212, "()"), (0x3213, "()"), (0x3214, "()"), (0x3215, "()"),
   (0x3216, "()"), (0x3217, "()"), (0x3218, "()"), (0x3219, "()"), (0x321A, "()"), (0x321B, "()"),
   (0x321C, "()"), (0x321D, "()"), (0x321E, "()"), (0x3220, "()"), (0x3221, "()"), (0x3222, "()"),
   (0x3223, "()"), (0x3224, "()"), (0x3225, "()"), (0x3226, "()"), (0x3227, "()"), (0x3228, "()"),
   (0x3229, "()"), (0x322A, "()"), (0x322B, "()"), (0x322C, "()"), (0x322D, "()"), (0x322E, "()"),
   (0x322F, "()"), (0x3230, "()"), (0x3231, "()"), (0x3232, "()"), (0x3233, "()"), (0x3234, "()"),
   (0x3235, "()"), (0x3236, "()"), (0x3237, "()"), (0x3238, "()"), (0x3239, "()"), (0x323A, "()"),
   (0x323B, "()"), (0x323C, "()"), (0x323D, "()"), (0x323E, "()"), (0x323F, "()"), (0x3240, "()"),
   (0x3241, "()"), (0x3242, "()"), (0x3243, "()"), (0x3250, "PTE"), (0x3251, "21"),
   (0x3252, "22"), (0x3253, "23"), (0x3254, "24"), (0x3255, "25"), (0x3256, "26"), (0x3257, "27"),
   (0x3258, "28"), (0x3259, "29"), (0x325A, "30"), (0x325B, "31"), (0x325C, "32"), (0x325D, "33"),
   (0x325E, "34"), (0x325F, "35"), (0x32B1, "36"), (0x32B2, "37"), (0x32B3, "38"), (0x32B4, "39"),
   (0x32B5, "40"), (0x32B6, "41"), (0x32B7, "42"), (0x32B8, "43"), (0x32B9, "44"), (0x32BA, "45"),
   (0x32BB, "46"), (0x32BC, "47"), (0x32BD, "48"), (0x32BE, "49"), (0x32BF, "50"), (0x32C9, "10"),
   (0x32CA, "11"), (0x32CB, "12"), (0x32CC, "Hg"), (0x32CD, "erg"), (0x32CE, "eV"),
   (0x32CF, "LTD"), (0x3362, "10"), (0x3363, "11"), (0x3364, "12"), (0x3365, "13"),
   (0x3366, "14"), (0x3367, "15"), (0x3368, "16"), (0x3369, "17"), (0x336A, "18"), (0x336B, "19"),
   (0x336C, "20"), (0x336D, "21"), (0x336E, "22"), (0x336F, "23"), (0x3370, "24"),
   (0x3371, "hPa"), (0x3372, "da"), (0x3373, "AU"), (0x3374, "bar"), (0x3375, "oV"),
   (0x3376, "pc"), (0x3377, "dm"), (0x3378, "dm2"), (0x3379, "dm3"), (0x337A, "IU"),
   (0x3380, "pA"), (0x3381, "nA"), (0x3383, "mA"), (0x3384, "kA"), (0x3385, "KB"), (0x3386, "MB"),
   (0x3387, "GB"), (0x3388, "cal"), (0x3389, "kcal"), (0x338A, "pF"), (0x338B, "nF"),
   (0x338E, "mg"), (0x338F, "kg"), (0x3390, "Hz"), (0x3391, "kHz"), (0x3392, "MHz"),
   (0x3393, "GHz"), (0x3394, "THz"), (0x3396, "ml"), (0x3397, "dl"), (0x3398, "kl"),
   (0x3399, "fm"), (0x339A, "nm"), (0x339C, "mm"), (0x339D, "cm"), (0x339E, "km"),
   (0x339F, "mm2"), (0x33A0, "cm2"), (0x33A1, "m2"), (0x33A2, "km2"), (0x33A3, "mm3"),
   (0x33A4, "cm3"), (0x33A5, "m3"), (0x33A6, "km3"), (0x33A7, "ms"), (0x33A8, "ms2"),
   (0x33A9, "Pa"), (0x33AA, "kPa"), (0x33AB, "MPa"), (0x33AC, "GPa"), (0x33AD, "rad"),
   (0x33AE, "rads"), (0x33AF, "rads2"), (0x33B0, "ps"), (0x33B1, "ns"), (0x33B3, "ms"),
   (0x33B4, "pV"), (0x33B5, "nV"), (0x33B7, "mV"), (0x33B8, "kV"), (0x33B9, "MV"), (0x33BA, "pW"),
   (0x33BB, "nW"), (0x33BD, "mW"), (0x33BE, "kW"), (0x33BF, "MW"), (0x33C2, "a.m."),
   (0x33C3, "Bq"), (0x33C4, "cc"), (0x33C5, "cd"), (0x33C6, "Ckg"), (0x33C7, "Co."),
   (0x33C8, "dB"), (0x33C9, "Gy"), (0x33CA, "ha"), (0x33CB, "HP"), (0x33CC, "in"), (0x33CD, "KK"),
   (0x33CE, "KM"), (0x33CF, "kt"), (0x33D0, "lm"), (0x33D1, "ln"), (0x33D2, "log"),
   (0x33D3, "lx"), (0x33D4, "mb"), (0x33D5, "mil"), (0x33D6, "mol"), (0x33D7, "PH"),
   (0x33D8, "p.m."), (0x33D9, "PPM"), (0x33DA, "PR"), (0x33DB, "sr"), (0x33DC, "Sv"),
   (0x33DD, "Wb"), (0x33DE, "Vm"), (0x33DF, "Am"), (0x33E9, "10"), (0x33EA, "11"), (0x33EB, "12"),
   (0x33EC, "13"), (0x33ED, "14"), (0x33EE, "15"), (0x33EF, "16"), (0x33F0, "17"), (0x33F1, "18"),
   (0x33F2, "19"), (0x33F3, "20"), (0x33F4, "21"), (0x33F5, "22"), (0x33F6, "23"), (0x33F7, "24"),
   (0x33F8, "25"), (0x33F9, "26"), (0x33FA, "27"), (0x33FB, "28"), (0x33FC, "29"), (0x33FD, "30"),
   (0x33FE, "31"), (0x33FF, "gal"), (0xFB00, "ff"), (0xFB01, "fi"), (0xFB02, "fl"),
   (0xFB03, "ffi"), (0xFB04, "ffl"), (0xFB05, "st"), (0xFB06, "st"), (0xFDFA, "   "),
   (0xFE19, "..."), (0xFE30, ".."), (0x1F100, "0."), (0x1F101, "0,"), (0x1F102, "1,"),
   (0x1F103, "2,"), (0x1F104, "3,"), (0x1F105, "4,"), (0x1F106, "5,"), (0x1F107, "6,"),
   (0x1F108, "7,"), (0x1F109, "8,"), (0x1F10A, "9,"), (0x1F110, "(A)"), (0x1F111, "(B)"),
   (0x1F112, "(C)"), (0x1F113, "(D)"), (0x1F114, "(E)"), (0x1F115, "(F)"), (0x1F116, "(G)"),
   (0x1F117, "(H)"), (0x1F118, "(I)"), (0x1F119, "(J)"), (0x1F11A, "(K)"), (0x1F11B, "(L)"),
   (0x1F11C, "(M)"), (0x1F11D, "(N)"), (0x1F11E, "(O)"), (0x1F11F, "(P)"), (0x1F120, "(Q)"),
   (0x1F121, "(R)"), (0x1F122, "(S)"), (0x1F123, "(T)"), (0x1F124, "(U)"), (0x1F125, "(V)"),
   (0x1F126, "(W)"), (0x1F127, "(X)"), (0x1F128, "(Y)"), (0x1F129, "(Z)"), (0x1F12D, "CD"),
   (0x1F12E, "WZ"), (0x1F14A, "HV"), (0x1F14B, "MV"), (0x1F14C, "SD"), (0x1F14D, "SS"),
   (0x1F14E, "PPV"), (0x1F14F, "WC"), (0x1F16A, "MC"), (0x1F16B, "MD"), (0x1F16C, "MR"),
   (0x1F190, "DJ")]

/-- What is left of a character in ASCII. -/
def asciiForm (c : Char) : List Char :=
  let n := c.toNat
  if n < 0x80 then [c]
  else
    match asciiRuns.find? fun (first, count, _, _) => first ≤ n && n < first + count with
    | some (first, _, step, target) => [Char.ofNat (target + (n - first) * step)]
    | none => ((asciiForms.lookup n).getD "").toList

def asciiOnly (s : String) : String :=
  String.ofList (s.toList.flatMap asciiForm)

end Walkthrough.Text
