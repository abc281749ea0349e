/-!
# Properties beside the general category

The members of some properties that do not follow from the general category, each set as
the list of the code points where membership changes.
-/

namespace EditionGuard.Text.Unicode

/-- Alphabetic characters that are no letters and no numbers like letters. -/
def otherAlphabetic : List Nat := [
  0x345, 0x346, 0x363, 0x370, 0x5B0, 0x5BE, 0x5BF, 0x5C0, 0x5C1, 0x5C3, 0x5C4, 0x5C6, 0x5C7,
  0x5C8, 0x610, 0x61B, 0x64B, 0x658, 0x659, 0x660, 0x670, 0x671, 0x6D6, 0x6DD, 0x6E1, 0x6E5,
  0x6E7, 0x6E9, 0x6ED, 0x6EE, 0x711, 0x712, 0x730, 0x740, 0x7A6, 0x7B1, 0x816, 0x818, 0x81B,
  0x824, 0x825, 0x828, 0x829, 0x82D, 0x897, 0x898, 0x8D4, 0x8E0, 0x8E3, 0x8EA, 0x8F0, 0x904,
  0x93A, 0x93C, 0x93E, 0x94D, 0x94E, 0x950, 0x955, 0x958, 0x962, 0x964, 0x981, 0x984, 0x9BE,
  0x9C5, 0x9C7, 0x9C9, 0x9CB, 0x9CD, 0x9D7, 0x9D8, 0x9E2, 0x9E4, 0xA01, 0xA04, 0xA3E, 0xA43,
  0xA47, 0xA49, 0xA4B, 0xA4D, 0xA51, 0xA52, 0xA70, 0xA72, 0xA75, 0xA76, 0xA81, 0xA84, 0xABE,
  0xAC6, 0xAC7, 0xACA, 0xACB, 0xACD, 0xAE2, 0xAE4, 0xAFA, 0xAFD, 0xB01, 0xB04, 0xB3E, 0xB45,
  0xB47, 0xB49, 0xB4B, 0xB4D, 0xB56, 0xB58, 0xB62, 0xB64, 0xB82, 0xB83, 0xBBE, 0xBC3, 0xBC6,
  0xBC9, 0xBCA, 0xBCD, 0xBD7, 0xBD8, 0xC00, 0xC05, 0xC3E, 0xC45, 0xC46, 0xC49, 0xC4A, 0xC4D,
  0xC55, 0xC57, 0xC62, 0xC64, 0xC81, 0xC84, 0xCBE, 0xCC5, 0xCC6, 0xCC9, 0xCCA, 0xCCD, 0xCD5,
  0xCD7, 0xCE2, 0xCE4, 0xCF3, 0xCF4, 0xD00, 0xD04, 0xD3E, 0xD45, 0xD46, 0xD49, 0xD4A, 0xD4D,
  0xD57, 0xD58, 0xD62, 0xD64, 0xD81, 0xD84, 0xDCF, 0xDD5, 0xDD6, 0xDD7, 0xDD8, 0xDE0, 0xDF2,
  0xDF4, 0xE31, 0xE32, 0xE34, 0xE3B, 0xE4D, 0xE4E, 0xEB1, 0xEB2, 0xEB4, 0xEBA, 0xEBB, 0xEBD,
  0xECD, 0xECE, 0xF71, 0xF84, 0xF8D, 0xF98, 0xF99, 0xFBD, 0x102B, 0x1037, 0x1038, 0x1039,
  0x103B, 0x103F, 0x1056, 0x105A, 0x105E, 0x1061, 0x1062, 0x1065, 0x1067, 0x106E, 0x1071,
  0x1075, 0x1082, 0x108E, 0x108F, 0x1090, 0x109A, 0x109E, 0x1712, 0x1714, 0x1732, 0x1734,
  0x1752, 0x1754, 0x1772, 0x1774, 0x17B6, 0x17C9, 0x1885, 0x1887, 0x18A9, 0x18AA, 0x1920,
  0x192C, 0x1930, 0x1939, 0x1A17, 0x1A1C, 0x1A55, 0x1A5F, 0x1A61, 0x1A75, 0x1ABF, 0x1AC1,
  0x1ACC, 0x1ACF, 0x1B00, 0x1B05, 0x1B35, 0x1B44, 0x1B80, 0x1B83, 0x1BA1, 0x1BAA, 0x1BAC,
  0x1BAE, 0x1BE7, 0x1BF2, 0x1C24, 0x1C37, 0x1DD3, 0x1DF5, 0x24B6, 0x24EA, 0x2DE0, 0x2E00,
  0xA674, 0xA67C, 0xA69E, 0xA6A0, 0xA802, 0xA803, 0xA80B, 0xA80C, 0xA823, 0xA828, 0xA880,
  0xA882, 0xA8B4, 0xA8C4, 0xA8C5, 0xA8C6, 0xA8FF, 0xA900, 0xA926, 0xA92B, 0xA947, 0xA953,
  0xA980, 0xA984, 0xA9B4, 0xA9C0, 0xA9E5, 0xA9E6, 0xAA29, 0xAA37, 0xAA43, 0xAA44, 0xAA4C,
  0xAA4E, 0xAA7B, 0xAA7E, 0xAAB0, 0xAAB1, 0xAAB2, 0xAAB5, 0xAAB7, 0xAAB9, 0xAABE, 0xAABF,
  0xAAEB, 0xAAF0, 0xAAF5, 0xAAF6, 0xABE3, 0xABEB, 0xFB1E, 0xFB1F, 0x10376, 0x1037B, 0x10A01,
  0x10A04, 0x10A05, 0x10A07, 0x10A0C, 0x10A10, 0x10D24, 0x10D28, 0x10D69, 0x10D6A, 0x10EAB,
  0x10EAD, 0x10EFA, 0x10EFD, 0x11000, 0x11003, 0x11038, 0x11046, 0x11073, 0x11075, 0x11080,
  0x11083, 0x110B0, 0x110B9, 0x110C2, 0x110C3, 0x11100, 0x11103, 0x11127, 0x11133, 0x11145,
  0x11147, 0x11180, 0x11183, 0x111B3, 0x111C0, 0x111CE, 0x111D0, 0x1122C, 0x11235, 0x11237,
  0x11238, 0x1123E, 0x1123F, 0x11241, 0x11242, 0x112DF, 0x112E9, 0x11300, 0x11304, 0x1133E,
  0x11345, 0x11347, 0x11349, 0x1134B, 0x1134D, 0x11357, 0x11358, 0x11362, 0x11364, 0x113B8,
  0x113C1, 0x113C2, 0x113C3, 0x113C5, 0x113C6, 0x113C7, 0x113CB, 0x113CC, 0x113CE, 0x11435,
  0x11442, 0x11443, 0x11446, 0x114B0, 0x114C2, 0x115AF, 0x115B6, 0x115B8, 0x115BF, 0x115DC,
  0x115DE, 0x11630, 0x1163F, 0x11640, 0x11641, 0x116AB, 0x116B6, 0x1171D, 0x1172B, 0x1182C,
  0x11839, 0x11930, 0x11936, 0x11937, 0x11939, 0x1193B, 0x1193D, 0x11940, 0x11941, 0x11942,
  0x11943, 0x119D1, 0x119D8, 0x119DA, 0x119E0, 0x119E4, 0x119E5, 0x11A01, 0x11A0B, 0x11A35,
  0x11A3A, 0x11A3B, 0x11A3F, 0x11A51, 0x11A5C, 0x11A8A, 0x11A98, 0x11B60, 0x11B68, 0x11C2F,
  0x11C37, 0x11C38, 0x11C3F, 0x11C92, 0x11CA8, 0x11CA9, 0x11CB7, 0x11D31, 0x11D37, 0x11D3A,
  0x11D3B, 0x11D3C, 0x11D3E, 0x11D3F, 0x11D42, 0x11D43, 0x11D44, 0x11D47, 0x11D48, 0x11D8A,
  0x11D8F, 0x11D90, 0x11D92, 0x11D93, 0x11D97, 0x11EF3, 0x11EF7, 0x11F00, 0x11F02, 0x11F03,
  0x11F04, 0x11F34, 0x11F3B, 0x11F3E, 0x11F41, 0x1611E, 0x1612F, 0x16F4F, 0x16F50, 0x16F51,
  0x16F88, 0x16F8F, 0x16F93, 0x16FF0, 0x16FF2, 0x1BC9E, 0x1BC9F, 0x1E000, 0x1E007, 0x1E008,
  0x1E019, 0x1E01B, 0x1E022, 0x1E023, 0x1E025, 0x1E026, 0x1E02B, 0x1E08F, 0x1E090, 0x1E6E3,
  0x1E6E4, 0x1E6E6, 0x1E6E7, 0x1E6EE, 0x1E6F0, 0x1E6F5, 0x1E6F6, 0x1E947, 0x1E948, 0x1F130,
  0x1F14A, 0x1F150, 0x1F16A, 0x1F170, 0x1F18A]

/-- Small letters of another category. -/
def otherLowercase : List Nat := [
  0xAA, 0xAB, 0xBA, 0xBB, 0x2B0, 0x2B9, 0x2C0, 0x2C2, 0x2E0, 0x2E5, 0x345, 0x346, 0x37A, 0x37B,
  0x10FC, 0x10FD, 0x1D2C, 0x1D6B, 0x1D78, 0x1D79, 0x1D9B, 0x1DC0, 0x2071, 0x2072, 0x207F,
  0x2080, 0x2090, 0x209D, 0x2170, 0x2180, 0x24D0, 0x24EA, 0x2C7C, 0x2C7E, 0xA69C, 0xA69E,
  0xA770, 0xA771, 0xA7F1, 0xA7F5, 0xA7F8, 0xA7FA, 0xAB5C, 0xAB60, 0xAB69, 0xAB6A, 0x10780,
  0x10781, 0x10783, 0x10786, 0x10787, 0x107B1, 0x107B2, 0x107BB, 0x1E030, 0x1E06E]

/-- Capital letters of another category. -/
def otherUppercase : List Nat := [
  0x2160, 0x2170, 0x24B6, 0x24D0, 0x1F130, 0x1F14A, 0x1F150, 0x1F16A, 0x1F170, 0x1F18A]

/-- Characters that extend the one before and are no marks for it. -/
def otherExtend : List Nat := [
  0x9BE, 0x9BF, 0x9D7, 0x9D8, 0xB3E, 0xB3F, 0xB57, 0xB58, 0xBBE, 0xBBF, 0xBD7, 0xBD8, 0xCC0,
  0xCC1, 0xCC2, 0xCC3, 0xCC7, 0xCC9, 0xCCA, 0xCCC, 0xCD5, 0xCD7, 0xD3E, 0xD3F, 0xD57, 0xD58,
  0xDCF, 0xDD0, 0xDDF, 0xDE0, 0x1715, 0x1716, 0x1734, 0x1735, 0x1B35, 0x1B36, 0x1B3B, 0x1B3C,
  0x1B3D, 0x1B3E, 0x1B43, 0x1B45, 0x1BAA, 0x1BAB, 0x1BF2, 0x1BF4, 0x200C, 0x200D, 0x302E,
  0x3030, 0xA953, 0xA954, 0xA9C0, 0xA9C1, 0xFF9E, 0xFFA0, 0x111C0, 0x111C1, 0x11235, 0x11236,
  0x1133E, 0x1133F, 0x1134D, 0x1134E, 0x11357, 0x11358, 0x113B8, 0x113B9, 0x113C2, 0x113C3,
  0x113C5, 0x113C6, 0x113C7, 0x113CA, 0x113CF, 0x113D0, 0x114B0, 0x114B1, 0x114BD, 0x114BE,
  0x115AF, 0x115B0, 0x116B6, 0x116B7, 0x11930, 0x11931, 0x1193D, 0x1193E, 0x11F41, 0x11F42,
  0x16FF0, 0x16FF2, 0x1D165, 0x1D167, 0x1D16D, 0x1D173, 0xE0020, 0xE0080]

def emoji : List Nat := [
  0x23, 0x24, 0x2A, 0x2B, 0x30, 0x3A, 0xA9, 0xAA, 0xAE, 0xAF, 0x203C, 0x203D, 0x2049, 0x204A,
  0x2122, 0x2123, 0x2139, 0x213A, 0x2194, 0x219A, 0x21A9, 0x21AB, 0x231A, 0x231C, 0x2328,
  0x2329, 0x23CF, 0x23D0, 0x23E9, 0x23F4, 0x23F8, 0x23FB, 0x24C2, 0x24C3, 0x25AA, 0x25AC,
  0x25B6, 0x25B7, 0x25C0, 0x25C1, 0x25FB, 0x25FF, 0x2600, 0x2605, 0x260E, 0x260F, 0x2611,
  0x2612, 0x2614, 0x2616, 0x2618, 0x2619, 0x261D, 0x261E, 0x2620, 0x2621, 0x2622, 0x2624,
  0x2626, 0x2627, 0x262A, 0x262B, 0x262E, 0x2630, 0x2638, 0x263B, 0x2640, 0x2641, 0x2642,
  0x2643, 0x2648, 0x2654, 0x265F, 0x2661, 0x2663, 0x2664, 0x2665, 0x2667, 0x2668, 0x2669,
  0x267B, 0x267C, 0x267E, 0x2680, 0x2692, 0x2698, 0x2699, 0x269A, 0x269B, 0x269D, 0x26A0,
  0x26A2, 0x26A7, 0x26A8, 0x26AA, 0x26AC, 0x26B0, 0x26B2, 0x26BD, 0x26BF, 0x26C4, 0x26C6,
  0x26C8, 0x26C9, 0x26CE, 0x26D0, 0x26D1, 0x26D2, 0x26D3, 0x26D5, 0x26E9, 0x26EB, 0x26F0,
  0x26F6, 0x26F7, 0x26FB, 0x26FD, 0x26FE, 0x2702, 0x2703, 0x2705, 0x2706, 0x2708, 0x270E,
  0x270F, 0x2710, 0x2712, 0x2713, 0x2714, 0x2715, 0x2716, 0x2717, 0x271D, 0x271E, 0x2721,
  0x2722, 0x2728, 0x2729, 0x2733, 0x2735, 0x2744, 0x2745, 0x2747, 0x2748, 0x274C, 0x274D,
  0x274E, 0x274F, 0x2753, 0x2756, 0x2757, 0x2758, 0x2763, 0x2765, 0x2795, 0x2798, 0x27A1,
  0x27A2, 0x27B0, 0x27B1, 0x27BF, 0x27C0, 0x2934, 0x2936, 0x2B05, 0x2B08, 0x2B1B, 0x2B1D,
  0x2B50, 0x2B51, 0x2B55, 0x2B56, 0x3030, 0x3031, 0x303D, 0x303E, 0x3297, 0x3298, 0x3299,
  0x329A, 0x1F004, 0x1F005, 0x1F0CF, 0x1F0D0, 0x1F170, 0x1F172, 0x1F17E, 0x1F180, 0x1F18E,
  0x1F18F, 0x1F191, 0x1F19B, 0x1F1E6, 0x1F200, 0x1F201, 0x1F203, 0x1F21A, 0x1F21B, 0x1F22F,
  0x1F230, 0x1F232, 0x1F23B, 0x1F250, 0x1F252, 0x1F300, 0x1F322, 0x1F324, 0x1F394, 0x1F396,
  0x1F398, 0x1F399, 0x1F39C, 0x1F39E, 0x1F3F1, 0x1F3F3, 0x1F3F6, 0x1F3F7, 0x1F4FE, 0x1F4FF,
  0x1F53E, 0x1F549, 0x1F54F, 0x1F550, 0x1F568, 0x1F56F, 0x1F571, 0x1F573, 0x1F57B, 0x1F587,
  0x1F588, 0x1F58A, 0x1F58E, 0x1F590, 0x1F591, 0x1F595, 0x1F597, 0x1F5A4, 0x1F5A6, 0x1F5A8,
  0x1F5A9, 0x1F5B1, 0x1F5B3, 0x1F5BC, 0x1F5BD, 0x1F5C2, 0x1F5C5, 0x1F5D1, 0x1F5D4, 0x1F5DC,
  0x1F5DF, 0x1F5E1, 0x1F5E2, 0x1F5E3, 0x1F5E4, 0x1F5E8, 0x1F5E9, 0x1F5EF, 0x1F5F0, 0x1F5F3,
  0x1F5F4, 0x1F5FA, 0x1F650, 0x1F680, 0x1F6C6, 0x1F6CB, 0x1F6D3, 0x1F6D5, 0x1F6D9, 0x1F6DC,
  0x1F6E6, 0x1F6E9, 0x1F6EA, 0x1F6EB, 0x1F6ED, 0x1F6F0, 0x1F6F1, 0x1F6F3, 0x1F6FD, 0x1F7E0,
  0x1F7EC, 0x1F7F0, 0x1F7F1, 0x1F90C, 0x1F93B, 0x1F93C, 0x1F946, 0x1F947, 0x1FA00, 0x1FA70,
  0x1FA7D, 0x1FA80, 0x1FA8B, 0x1FA8E, 0x1FAC7, 0x1FAC8, 0x1FAC9, 0x1FACD, 0x1FADD, 0x1FADF,
  0x1FAEB, 0x1FAEF, 0x1FAF9]

end EditionGuard.Text.Unicode
