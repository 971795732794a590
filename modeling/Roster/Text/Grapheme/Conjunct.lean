import Roster.Text.Ranges

/-! The Indic_Conjunct_Break property of Unicode 16.0. -/
namespace Roster.Text

inductive ConjunctBreak where
  | none | consonant | extend | linker
  deriving DecidableEq, Repr

namespace ConjunctBreak

def table : CodeTable ConjunctBreak := [
  (0x300, 0x36F, .extend), (0x483, 0x489, .extend), (0x591, 0x5BD, .extend),
  (0x5BF, 0x5BF, .extend), (0x5C1, 0x5C2, .extend), (0x5C4, 0x5C5, .extend),
  (0x5C7, 0x5C7, .extend), (0x610, 0x61A, .extend), (0x64B, 0x65F, .extend),
  (0x670, 0x670, .extend), (0x6D6, 0x6DC, .extend), (0x6DF, 0x6E4, .extend),
  (0x6E7, 0x6E8, .extend), (0x6EA, 0x6ED, .extend), (0x711, 0x711, .extend),
  (0x730, 0x74A, .extend), (0x7A6, 0x7B0, .extend), (0x7EB, 0x7F3, .extend),
  (0x7FD, 0x7FD, .extend), (0x816, 0x819, .extend), (0x81B, 0x823, .extend),
  (0x825, 0x827, .extend), (0x829, 0x82D, .extend), (0x859, 0x85B, .extend),
  (0x897, 0x89F, .extend), (0x8CA, 0x8E1, .extend), (0x8E3, 0x902, .extend),
  (0x915, 0x939, .consonant), (0x93A, 0x93A, .extend), (0x93C, 0x93C, .extend),
  (0x941, 0x948, .extend), (0x94D, 0x94D, .linker), (0x951, 0x957, .extend),
  (0x958, 0x95F, .consonant), (0x962, 0x963, .extend), (0x978, 0x97F, .consonant),
  (0x981, 0x981, .extend), (0x995, 0x9A8, .consonant), (0x9AA, 0x9B0, .consonant),
  (0x9B2, 0x9B2, .consonant), (0x9B6, 0x9B9, .consonant), (0x9BC, 0x9BC, .extend),
  (0x9BE, 0x9BE, .extend), (0x9C1, 0x9C4, .extend), (0x9CD, 0x9CD, .linker),
  (0x9D7, 0x9D7, .extend), (0x9DC, 0x9DD, .consonant), (0x9DF, 0x9DF, .consonant),
  (0x9E2, 0x9E3, .extend), (0x9F0, 0x9F1, .consonant), (0x9FE, 0x9FE, .extend),
  (0xA01, 0xA02, .extend), (0xA3C, 0xA3C, .extend), (0xA41, 0xA42, .extend),
  (0xA47, 0xA48, .extend), (0xA4B, 0xA4D, .extend), (0xA51, 0xA51, .extend),
  (0xA70, 0xA71, .extend), (0xA75, 0xA75, .extend), (0xA81, 0xA82, .extend),
  (0xA95, 0xAA8, .consonant), (0xAAA, 0xAB0, .consonant), (0xAB2, 0xAB3, .consonant),
  (0xAB5, 0xAB9, .consonant), (0xABC, 0xABC, .extend), (0xAC1, 0xAC5, .extend),
  (0xAC7, 0xAC8, .extend), (0xACD, 0xACD, .linker), (0xAE2, 0xAE3, .extend),
  (0xAF9, 0xAF9, .consonant), (0xAFA, 0xAFF, .extend), (0xB01, 0xB01, .extend),
  (0xB15, 0xB28, .consonant), (0xB2A, 0xB30, .consonant), (0xB32, 0xB33, .consonant),
  (0xB35, 0xB39, .consonant), (0xB3C, 0xB3C, .extend), (0xB3E, 0xB3F, .extend),
  (0xB41, 0xB44, .extend), (0xB4D, 0xB4D, .linker), (0xB55, 0xB57, .extend),
  (0xB5C, 0xB5D, .consonant), (0xB5F, 0xB5F, .consonant), (0xB62, 0xB63, .extend),
  (0xB71, 0xB71, .consonant), (0xB82, 0xB82, .extend), (0xBBE, 0xBBE, .extend),
  (0xBC0, 0xBC0, .extend), (0xBCD, 0xBCD, .extend), (0xBD7, 0xBD7, .extend),
  (0xC00, 0xC00, .extend), (0xC04, 0xC04, .extend), (0xC15, 0xC28, .consonant),
  (0xC2A, 0xC39, .consonant), (0xC3C, 0xC3C, .extend), (0xC3E, 0xC40, .extend),
  (0xC46, 0xC48, .extend), (0xC4A, 0xC4C, .extend), (0xC4D, 0xC4D, .linker),
  (0xC55, 0xC56, .extend), (0xC58, 0xC5A, .consonant), (0xC62, 0xC63, .extend),
  (0xC81, 0xC81, .extend), (0xCBC, 0xCBC, .extend), (0xCBF, 0xCC0, .extend),
  (0xCC2, 0xCC2, .extend), (0xCC6, 0xCC8, .extend), (0xCCA, 0xCCD, .extend),
  (0xCD5, 0xCD6, .extend), (0xCE2, 0xCE3, .extend), (0xD00, 0xD01, .extend),
  (0xD15, 0xD3A, .consonant), (0xD3B, 0xD3C, .extend), (0xD3E, 0xD3E, .extend),
  (0xD41, 0xD44, .extend), (0xD4D, 0xD4D, .linker), (0xD57, 0xD57, .extend),
  (0xD62, 0xD63, .extend), (0xD81, 0xD81, .extend), (0xDCA, 0xDCA, .extend),
  (0xDCF, 0xDCF, .extend), (0xDD2, 0xDD4, .extend), (0xDD6, 0xDD6, .extend),
  (0xDDF, 0xDDF, .extend), (0xE31, 0xE31, .extend), (0xE34, 0xE3A, .extend),
  (0xE47, 0xE4E, .extend), (0xEB1, 0xEB1, .extend), (0xEB4, 0xEBC, .extend),
  (0xEC8, 0xECE, .extend), (0xF18, 0xF19, .extend), (0xF35, 0xF35, .extend),
  (0xF37, 0xF37, .extend), (0xF39, 0xF39, .extend), (0xF71, 0xF7E, .extend),
  (0xF80, 0xF84, .extend), (0xF86, 0xF87, .extend), (0xF8D, 0xF97, .extend),
  (0xF99, 0xFBC, .extend), (0xFC6, 0xFC6, .extend), (0x102D, 0x1030, .extend),
  (0x1032, 0x1037, .extend), (0x1039, 0x103A, .extend), (0x103D, 0x103E, .extend),
  (0x1058, 0x1059, .extend), (0x105E, 0x1060, .extend), (0x1071, 0x1074, .extend),
  (0x1082, 0x1082, .extend), (0x1085, 0x1086, .extend), (0x108D, 0x108D, .extend),
  (0x109D, 0x109D, .extend), (0x135D, 0x135F, .extend), (0x1712, 0x1715, .extend),
  (0x1732, 0x1734, .extend), (0x1752, 0x1753, .extend), (0x1772, 0x1773, .extend),
  (0x17B4, 0x17B5, .extend), (0x17B7, 0x17BD, .extend), (0x17C6, 0x17C6, .extend),
  (0x17C9, 0x17D3, .extend), (0x17DD, 0x17DD, .extend), (0x180B, 0x180D, .extend),
  (0x180F, 0x180F, .extend), (0x1885, 0x1886, .extend), (0x18A9, 0x18A9, .extend),
  (0x1920, 0x1922, .extend), (0x1927, 0x1928, .extend), (0x1932, 0x1932, .extend),
  (0x1939, 0x193B, .extend), (0x1A17, 0x1A18, .extend), (0x1A1B, 0x1A1B, .extend),
  (0x1A56, 0x1A56, .extend), (0x1A58, 0x1A5E, .extend), (0x1A60, 0x1A60, .extend),
  (0x1A62, 0x1A62, .extend), (0x1A65, 0x1A6C, .extend), (0x1A73, 0x1A7C, .extend),
  (0x1A7F, 0x1A7F, .extend), (0x1AB0, 0x1ACE, .extend), (0x1B00, 0x1B03, .extend),
  (0x1B34, 0x1B3D, .extend), (0x1B42, 0x1B44, .extend), (0x1B6B, 0x1B73, .extend),
  (0x1B80, 0x1B81, .extend), (0x1BA2, 0x1BA5, .extend), (0x1BA8, 0x1BAD, .extend),
  (0x1BE6, 0x1BE6, .extend), (0x1BE8, 0x1BE9, .extend), (0x1BED, 0x1BED, .extend),
  (0x1BEF, 0x1BF3, .extend), (0x1C2C, 0x1C33, .extend), (0x1C36, 0x1C37, .extend),
  (0x1CD0, 0x1CD2, .extend), (0x1CD4, 0x1CE0, .extend), (0x1CE2, 0x1CE8, .extend),
  (0x1CED, 0x1CED, .extend), (0x1CF4, 0x1CF4, .extend), (0x1CF8, 0x1CF9, .extend),
  (0x1DC0, 0x1DFF, .extend), (0x200D, 0x200D, .extend), (0x20D0, 0x20F0, .extend),
  (0x2CEF, 0x2CF1, .extend), (0x2D7F, 0x2D7F, .extend), (0x2DE0, 0x2DFF, .extend),
  (0x302A, 0x302F, .extend), (0x3099, 0x309A, .extend), (0xA66F, 0xA672, .extend),
  (0xA674, 0xA67D, .extend), (0xA69E, 0xA69F, .extend), (0xA6F0, 0xA6F1, .extend),
  (0xA802, 0xA802, .extend), (0xA806, 0xA806, .extend), (0xA80B, 0xA80B, .extend),
  (0xA825, 0xA826, .extend), (0xA82C, 0xA82C, .extend), (0xA8C4, 0xA8C5, .extend),
  (0xA8E0, 0xA8F1, .extend), (0xA8FF, 0xA8FF, .extend), (0xA926, 0xA92D, .extend),
  (0xA947, 0xA951, .extend), (0xA953, 0xA953, .extend), (0xA980, 0xA982, .extend),
  (0xA9B3, 0xA9B3, .extend), (0xA9B6, 0xA9B9, .extend), (0xA9BC, 0xA9BD, .extend),
  (0xA9C0, 0xA9C0, .extend), (0xA9E5, 0xA9E5, .extend), (0xAA29, 0xAA2E, .extend),
  (0xAA31, 0xAA32, .extend), (0xAA35, 0xAA36, .extend), (0xAA43, 0xAA43, .extend),
  (0xAA4C, 0xAA4C, .extend), (0xAA7C, 0xAA7C, .extend), (0xAAB0, 0xAAB0, .extend),
  (0xAAB2, 0xAAB4, .extend), (0xAAB7, 0xAAB8, .extend), (0xAABE, 0xAABF, .extend),
  (0xAAC1, 0xAAC1, .extend), (0xAAEC, 0xAAED, .extend), (0xAAF6, 0xAAF6, .extend),
  (0xABE5, 0xABE5, .extend), (0xABE8, 0xABE8, .extend), (0xABED, 0xABED, .extend),
  (0xFB1E, 0xFB1E, .extend), (0xFE00, 0xFE0F, .extend), (0xFE20, 0xFE2F, .extend),
  (0xFF9E, 0xFF9F, .extend), (0x101FD, 0x101FD, .extend), (0x102E0, 0x102E0, .extend),
  (0x10376, 0x1037A, .extend), (0x10A01, 0x10A03, .extend), (0x10A05, 0x10A06, .extend),
  (0x10A0C, 0x10A0F, .extend), (0x10A38, 0x10A3A, .extend), (0x10A3F, 0x10A3F, .extend),
  (0x10AE5, 0x10AE6, .extend), (0x10D24, 0x10D27, .extend), (0x10D69, 0x10D6D, .extend),
  (0x10EAB, 0x10EAC, .extend), (0x10EFC, 0x10EFF, .extend), (0x10F46, 0x10F50, .extend),
  (0x10F82, 0x10F85, .extend), (0x11001, 0x11001, .extend), (0x11038, 0x11046, .extend),
  (0x11070, 0x11070, .extend), (0x11073, 0x11074, .extend), (0x1107F, 0x11081, .extend),
  (0x110B3, 0x110B6, .extend), (0x110B9, 0x110BA, .extend), (0x110C2, 0x110C2, .extend),
  (0x11100, 0x11102, .extend), (0x11127, 0x1112B, .extend), (0x1112D, 0x11134, .extend),
  (0x11173, 0x11173, .extend), (0x11180, 0x11181, .extend), (0x111B6, 0x111BE, .extend),
  (0x111C0, 0x111C0, .extend), (0x111C9, 0x111CC, .extend), (0x111CF, 0x111CF, .extend),
  (0x1122F, 0x11231, .extend), (0x11234, 0x11237, .extend), (0x1123E, 0x1123E, .extend),
  (0x11241, 0x11241, .extend), (0x112DF, 0x112DF, .extend), (0x112E3, 0x112EA, .extend),
  (0x11300, 0x11301, .extend), (0x1133B, 0x1133C, .extend), (0x1133E, 0x1133E, .extend),
  (0x11340, 0x11340, .extend), (0x1134D, 0x1134D, .extend), (0x11357, 0x11357, .extend),
  (0x11366, 0x1136C, .extend), (0x11370, 0x11374, .extend), (0x113B8, 0x113B8, .extend),
  (0x113BB, 0x113C0, .extend), (0x113C2, 0x113C2, .extend), (0x113C5, 0x113C5, .extend),
  (0x113C7, 0x113C9, .extend), (0x113CE, 0x113D0, .extend), (0x113D2, 0x113D2, .extend),
  (0x113E1, 0x113E2, .extend), (0x11438, 0x1143F, .extend), (0x11442, 0x11444, .extend),
  (0x11446, 0x11446, .extend), (0x1145E, 0x1145E, .extend), (0x114B0, 0x114B0, .extend),
  (0x114B3, 0x114B8, .extend), (0x114BA, 0x114BA, .extend), (0x114BD, 0x114BD, .extend),
  (0x114BF, 0x114C0, .extend), (0x114C2, 0x114C3, .extend), (0x115AF, 0x115AF, .extend),
  (0x115B2, 0x115B5, .extend), (0x115BC, 0x115BD, .extend), (0x115BF, 0x115C0, .extend),
  (0x115DC, 0x115DD, .extend), (0x11633, 0x1163A, .extend), (0x1163D, 0x1163D, .extend),
  (0x1163F, 0x11640, .extend), (0x116AB, 0x116AB, .extend), (0x116AD, 0x116AD, .extend),
  (0x116B0, 0x116B7, .extend), (0x1171D, 0x1171D, .extend), (0x1171F, 0x1171F, .extend),
  (0x11722, 0x11725, .extend), (0x11727, 0x1172B, .extend), (0x1182F, 0x11837, .extend),
  (0x11839, 0x1183A, .extend), (0x11930, 0x11930, .extend), (0x1193B, 0x1193E, .extend),
  (0x11943, 0x11943, .extend), (0x119D4, 0x119D7, .extend), (0x119DA, 0x119DB, .extend),
  (0x119E0, 0x119E0, .extend), (0x11A01, 0x11A0A, .extend), (0x11A33, 0x11A38, .extend),
  (0x11A3B, 0x11A3E, .extend), (0x11A47, 0x11A47, .extend), (0x11A51, 0x11A56, .extend),
  (0x11A59, 0x11A5B, .extend), (0x11A8A, 0x11A96, .extend), (0x11A98, 0x11A99, .extend),
  (0x11C30, 0x11C36, .extend), (0x11C38, 0x11C3D, .extend), (0x11C3F, 0x11C3F, .extend),
  (0x11C92, 0x11CA7, .extend), (0x11CAA, 0x11CB0, .extend), (0x11CB2, 0x11CB3, .extend),
  (0x11CB5, 0x11CB6, .extend), (0x11D31, 0x11D36, .extend), (0x11D3A, 0x11D3A, .extend),
  (0x11D3C, 0x11D3D, .extend), (0x11D3F, 0x11D45, .extend), (0x11D47, 0x11D47, .extend),
  (0x11D90, 0x11D91, .extend), (0x11D95, 0x11D95, .extend), (0x11D97, 0x11D97, .extend),
  (0x11EF3, 0x11EF4, .extend), (0x11F00, 0x11F01, .extend), (0x11F36, 0x11F3A, .extend),
  (0x11F40, 0x11F42, .extend), (0x11F5A, 0x11F5A, .extend), (0x13440, 0x13440, .extend),
  (0x13447, 0x13455, .extend), (0x1611E, 0x16129, .extend), (0x1612D, 0x1612F, .extend),
  (0x16AF0, 0x16AF4, .extend), (0x16B30, 0x16B36, .extend), (0x16F4F, 0x16F4F, .extend),
  (0x16F8F, 0x16F92, .extend), (0x16FE4, 0x16FE4, .extend), (0x16FF0, 0x16FF1, .extend),
  (0x1BC9D, 0x1BC9E, .extend), (0x1CF00, 0x1CF2D, .extend), (0x1CF30, 0x1CF46, .extend),
  (0x1D165, 0x1D169, .extend), (0x1D16D, 0x1D172, .extend), (0x1D17B, 0x1D182, .extend),
  (0x1D185, 0x1D18B, .extend), (0x1D1AA, 0x1D1AD, .extend), (0x1D242, 0x1D244, .extend),
  (0x1DA00, 0x1DA36, .extend), (0x1DA3B, 0x1DA6C, .extend), (0x1DA75, 0x1DA75, .extend),
  (0x1DA84, 0x1DA84, .extend), (0x1DA9B, 0x1DA9F, .extend), (0x1DAA1, 0x1DAAF, .extend),
  (0x1E000, 0x1E006, .extend), (0x1E008, 0x1E018, .extend), (0x1E01B, 0x1E021, .extend),
  (0x1E023, 0x1E024, .extend), (0x1E026, 0x1E02A, .extend), (0x1E08F, 0x1E08F, .extend),
  (0x1E130, 0x1E136, .extend), (0x1E2AE, 0x1E2AE, .extend), (0x1E2EC, 0x1E2EF, .extend),
  (0x1E4EC, 0x1E4EF, .extend), (0x1E5EE, 0x1E5EF, .extend), (0x1E8D0, 0x1E8D6, .extend),
  (0x1E944, 0x1E94A, .extend), (0x1F3FB, 0x1F3FF, .extend), (0xE0020, 0xE007F, .extend),
  (0xE0100, 0xE01EF, .extend)]

def ofChar (c : Char) : ConjunctBreak := (table.find? c.toNat).getD .none

end ConjunctBreak
end Roster.Text
