import PortfolioShell.Text.Decomposition.Run

/-!
# Compatibility decompositions: letters

Full compatibility decompositions of Latin, Greek, Cyrillic and the other scripts below U+2000, in ascending order.
-/
namespace PortfolioShell.Text.Decomposition

/-- Runs of Latin, Greek, Cyrillic and the other scripts below U+2000, part 1. -/
def lettersRunsA : List Run := [
  ⟨0xA0, 1, 0, [0x20]⟩, ⟨0xA8, 1, 0, [0x20, 0x308]⟩, ⟨0xAA, 1, 0, [0x61]⟩,
  ⟨0xAF, 1, 0, [0x20, 0x304]⟩, ⟨0xB2, 2, 0, [0x32]⟩, ⟨0xB4, 1, 0, [0x20, 0x301]⟩,
  ⟨0xB5, 1, 0, [0x3BC]⟩, ⟨0xB8, 1, 0, [0x20, 0x327]⟩, ⟨0xB9, 1, 0, [0x31]⟩, ⟨0xBA, 1, 0, [0x6F]⟩,
  ⟨0xBC, 1, 0, [0x31, 0x2044, 0x34]⟩, ⟨0xBD, 1, 0, [0x31, 0x2044, 0x32]⟩,
  ⟨0xBE, 1, 0, [0x33, 0x2044, 0x34]⟩, ⟨0xC0, 4, 1, [0x41, 0x300]⟩, ⟨0xC4, 1, 0, [0x41, 0x308]⟩,
  ⟨0xC5, 1, 0, [0x41, 0x30A]⟩, ⟨0xC7, 1, 0, [0x43, 0x327]⟩, ⟨0xC8, 3, 1, [0x45, 0x300]⟩,
  ⟨0xCB, 1, 0, [0x45, 0x308]⟩, ⟨0xCC, 3, 1, [0x49, 0x300]⟩, ⟨0xCF, 1, 0, [0x49, 0x308]⟩,
  ⟨0xD1, 1, 0, [0x4E, 0x303]⟩, ⟨0xD2, 4, 1, [0x4F, 0x300]⟩, ⟨0xD6, 1, 0, [0x4F, 0x308]⟩,
  ⟨0xD9, 3, 1, [0x55, 0x300]⟩, ⟨0xDC, 1, 0, [0x55, 0x308]⟩, ⟨0xDD, 1, 0, [0x59, 0x301]⟩,
  ⟨0xE0, 4, 1, [0x61, 0x300]⟩, ⟨0xE4, 1, 0, [0x61, 0x308]⟩, ⟨0xE5, 1, 0, [0x61, 0x30A]⟩,
  ⟨0xE7, 1, 0, [0x63, 0x327]⟩, ⟨0xE8, 3, 1, [0x65, 0x300]⟩, ⟨0xEB, 1, 0, [0x65, 0x308]⟩,
  ⟨0xEC, 3, 1, [0x69, 0x300]⟩, ⟨0xEF, 1, 0, [0x69, 0x308]⟩, ⟨0xF1, 1, 0, [0x6E, 0x303]⟩,
  ⟨0xF2, 4, 1, [0x6F, 0x300]⟩, ⟨0xF6, 1, 0, [0x6F, 0x308]⟩, ⟨0xF9, 3, 1, [0x75, 0x300]⟩,
  ⟨0xFC, 1, 0, [0x75, 0x308]⟩, ⟨0xFD, 1, 0, [0x79, 0x301]⟩, ⟨0xFF, 1, 0, [0x79, 0x308]⟩,
  ⟨0x100, 1, 0, [0x41, 0x304]⟩, ⟨0x101, 1, 0, [0x61, 0x304]⟩, ⟨0x102, 1, 0, [0x41, 0x306]⟩,
  ⟨0x103, 1, 0, [0x61, 0x306]⟩, ⟨0x104, 1, 0, [0x41, 0x328]⟩, ⟨0x105, 1, 0, [0x61, 0x328]⟩,
  ⟨0x106, 1, 0, [0x43, 0x301]⟩, ⟨0x107, 1, 0, [0x63, 0x301]⟩, ⟨0x108, 1, 0, [0x43, 0x302]⟩,
  ⟨0x109, 1, 0, [0x63, 0x302]⟩, ⟨0x10A, 1, 0, [0x43, 0x307]⟩, ⟨0x10B, 1, 0, [0x63, 0x307]⟩,
  ⟨0x10C, 1, 0, [0x43, 0x30C]⟩, ⟨0x10D, 1, 0, [0x63, 0x30C]⟩, ⟨0x10E, 1, 0, [0x44, 0x30C]⟩,
  ⟨0x10F, 1, 0, [0x64, 0x30C]⟩, ⟨0x112, 1, 0, [0x45, 0x304]⟩, ⟨0x113, 1, 0, [0x65, 0x304]⟩,
  ⟨0x114, 1, 0, [0x45, 0x306]⟩, ⟨0x115, 1, 0, [0x65, 0x306]⟩, ⟨0x116, 1, 0, [0x45, 0x307]⟩,
  ⟨0x117, 1, 0, [0x65, 0x307]⟩, ⟨0x118, 1, 0, [0x45, 0x328]⟩, ⟨0x119, 1, 0, [0x65, 0x328]⟩,
  ⟨0x11A, 1, 0, [0x45, 0x30C]⟩, ⟨0x11B, 1, 0, [0x65, 0x30C]⟩, ⟨0x11C, 1, 0, [0x47, 0x302]⟩,
  ⟨0x11D, 1, 0, [0x67, 0x302]⟩, ⟨0x11E, 1, 0, [0x47, 0x306]⟩, ⟨0x11F, 1, 0, [0x67, 0x306]⟩,
  ⟨0x120, 1, 0, [0x47, 0x307]⟩, ⟨0x121, 1, 0, [0x67, 0x307]⟩, ⟨0x122, 1, 0, [0x47, 0x327]⟩,
  ⟨0x123, 1, 0, [0x67, 0x327]⟩, ⟨0x124, 1, 0, [0x48, 0x302]⟩, ⟨0x125, 1, 0, [0x68, 0x302]⟩,
  ⟨0x128, 1, 0, [0x49, 0x303]⟩, ⟨0x129, 1, 0, [0x69, 0x303]⟩, ⟨0x12A, 1, 0, [0x49, 0x304]⟩,
  ⟨0x12B, 1, 0, [0x69, 0x304]⟩, ⟨0x12C, 1, 0, [0x49, 0x306]⟩, ⟨0x12D, 1, 0, [0x69, 0x306]⟩,
  ⟨0x12E, 1, 0, [0x49, 0x328]⟩, ⟨0x12F, 1, 0, [0x69, 0x328]⟩, ⟨0x130, 1, 0, [0x49, 0x307]⟩,
  ⟨0x132, 1, 0, [0x49, 0x4A]⟩, ⟨0x133, 1, 0, [0x69, 0x6A]⟩, ⟨0x134, 1, 0, [0x4A, 0x302]⟩,
  ⟨0x135, 1, 0, [0x6A, 0x302]⟩, ⟨0x136, 1, 0, [0x4B, 0x327]⟩, ⟨0x137, 1, 0, [0x6B, 0x327]⟩,
  ⟨0x139, 1, 0, [0x4C, 0x301]⟩, ⟨0x13A, 1, 0, [0x6C, 0x301]⟩, ⟨0x13B, 1, 0, [0x4C, 0x327]⟩,
  ⟨0x13C, 1, 0, [0x6C, 0x327]⟩, ⟨0x13D, 1, 0, [0x4C, 0x30C]⟩, ⟨0x13E, 1, 0, [0x6C, 0x30C]⟩,
  ⟨0x13F, 1, 0, [0x4C, 0xB7]⟩, ⟨0x140, 1, 0, [0x6C, 0xB7]⟩, ⟨0x143, 1, 0, [0x4E, 0x301]⟩,
  ⟨0x144, 1, 0, [0x6E, 0x301]⟩, ⟨0x145, 1, 0, [0x4E, 0x327]⟩, ⟨0x146, 1, 0, [0x6E, 0x327]⟩,
  ⟨0x147, 1, 0, [0x4E, 0x30C]⟩, ⟨0x148, 1, 0, [0x6E, 0x30C]⟩, ⟨0x149, 1, 0, [0x2BC, 0x6E]⟩,
  ⟨0x14C, 1, 0, [0x4F, 0x304]⟩, ⟨0x14D, 1, 0, [0x6F, 0x304]⟩, ⟨0x14E, 1, 0, [0x4F, 0x306]⟩,
  ⟨0x14F, 1, 0, [0x6F, 0x306]⟩, ⟨0x150, 1, 0, [0x4F, 0x30B]⟩, ⟨0x151, 1, 0, [0x6F, 0x30B]⟩,
  ⟨0x154, 1, 0, [0x52, 0x301]⟩, ⟨0x155, 1, 0, [0x72, 0x301]⟩, ⟨0x156, 1, 0, [0x52, 0x327]⟩,
  ⟨0x157, 1, 0, [0x72, 0x327]⟩, ⟨0x158, 1, 0, [0x52, 0x30C]⟩, ⟨0x159, 1, 0, [0x72, 0x30C]⟩,
  ⟨0x15A, 1, 0, [0x53, 0x301]⟩, ⟨0x15B, 1, 0, [0x73, 0x301]⟩, ⟨0x15C, 1, 0, [0x53, 0x302]⟩,
  ⟨0x15D, 1, 0, [0x73, 0x302]⟩, ⟨0x15E, 1, 0, [0x53, 0x327]⟩, ⟨0x15F, 1, 0, [0x73, 0x327]⟩,
  ⟨0x160, 1, 0, [0x53, 0x30C]⟩, ⟨0x161, 1, 0, [0x73, 0x30C]⟩, ⟨0x162, 1, 0, [0x54, 0x327]⟩,
  ⟨0x163, 1, 0, [0x74, 0x327]⟩, ⟨0x164, 1, 0, [0x54, 0x30C]⟩, ⟨0x165, 1, 0, [0x74, 0x30C]⟩,
  ⟨0x168, 1, 0, [0x55, 0x303]⟩, ⟨0x169, 1, 0, [0x75, 0x303]⟩, ⟨0x16A, 1, 0, [0x55, 0x304]⟩,
  ⟨0x16B, 1, 0, [0x75, 0x304]⟩, ⟨0x16C, 1, 0, [0x55, 0x306]⟩, ⟨0x16D, 1, 0, [0x75, 0x306]⟩,
  ⟨0x16E, 1, 0, [0x55, 0x30A]⟩, ⟨0x16F, 1, 0, [0x75, 0x30A]⟩, ⟨0x170, 1, 0, [0x55, 0x30B]⟩,
  ⟨0x171, 1, 0, [0x75, 0x30B]⟩, ⟨0x172, 1, 0, [0x55, 0x328]⟩, ⟨0x173, 1, 0, [0x75, 0x328]⟩,
  ⟨0x174, 1, 0, [0x57, 0x302]⟩, ⟨0x175, 1, 0, [0x77, 0x302]⟩, ⟨0x176, 1, 0, [0x59, 0x302]⟩,
  ⟨0x177, 1, 0, [0x79, 0x302]⟩, ⟨0x178, 1, 0, [0x59, 0x308]⟩, ⟨0x179, 1, 0, [0x5A, 0x301]⟩,
  ⟨0x17A, 1, 0, [0x7A, 0x301]⟩, ⟨0x17B, 1, 0, [0x5A, 0x307]⟩, ⟨0x17C, 1, 0, [0x7A, 0x307]⟩,
  ⟨0x17D, 1, 0, [0x5A, 0x30C]⟩, ⟨0x17E, 1, 0, [0x7A, 0x30C]⟩, ⟨0x17F, 1, 0, [0x73]⟩,
  ⟨0x1A0, 1, 0, [0x4F, 0x31B]⟩, ⟨0x1A1, 1, 0, [0x6F, 0x31B]⟩, ⟨0x1AF, 1, 0, [0x55, 0x31B]⟩,
  ⟨0x1B0, 1, 0, [0x75, 0x31B]⟩, ⟨0x1C4, 1, 0, [0x44, 0x5A, 0x30C]⟩,
  ⟨0x1C5, 1, 0, [0x44, 0x7A, 0x30C]⟩, ⟨0x1C6, 1, 0, [0x64, 0x7A, 0x30C]⟩,
  ⟨0x1C7, 1, 0, [0x4C, 0x4A]⟩, ⟨0x1C8, 1, 0, [0x4C, 0x6A]⟩, ⟨0x1C9, 1, 0, [0x6C, 0x6A]⟩,
  ⟨0x1CA, 1, 0, [0x4E, 0x4A]⟩, ⟨0x1CB, 1, 0, [0x4E, 0x6A]⟩, ⟨0x1CC, 1, 0, [0x6E, 0x6A]⟩,
  ⟨0x1CD, 1, 0, [0x41, 0x30C]⟩, ⟨0x1CE, 1, 0, [0x61, 0x30C]⟩, ⟨0x1CF, 1, 0, [0x49, 0x30C]⟩,
  ⟨0x1D0, 1, 0, [0x69, 0x30C]⟩, ⟨0x1D1, 1, 0, [0x4F, 0x30C]⟩, ⟨0x1D2, 1, 0, [0x6F, 0x30C]⟩,
  ⟨0x1D3, 1, 0, [0x55, 0x30C]⟩, ⟨0x1D4, 1, 0, [0x75, 0x30C]⟩,
  ⟨0x1D5, 1, 0, [0x55, 0x308, 0x304]⟩, ⟨0x1D6, 1, 0, [0x75, 0x308, 0x304]⟩,
  ⟨0x1D7, 1, 0, [0x55, 0x308, 0x301]⟩, ⟨0x1D8, 1, 0, [0x75, 0x308, 0x301]⟩,
  ⟨0x1D9, 1, 0, [0x55, 0x308, 0x30C]⟩, ⟨0x1DA, 1, 0, [0x75, 0x308, 0x30C]⟩,
  ⟨0x1DB, 1, 0, [0x55, 0x308, 0x300]⟩, ⟨0x1DC, 1, 0, [0x75, 0x308, 0x300]⟩,
  ⟨0x1DE, 1, 0, [0x41, 0x308, 0x304]⟩, ⟨0x1DF, 1, 0, [0x61, 0x308, 0x304]⟩,
  ⟨0x1E0, 1, 0, [0x41, 0x307, 0x304]⟩, ⟨0x1E1, 1, 0, [0x61, 0x307, 0x304]⟩,
  ⟨0x1E2, 1, 0, [0xC6, 0x304]⟩, ⟨0x1E3, 1, 0, [0xE6, 0x304]⟩, ⟨0x1E6, 1, 0, [0x47, 0x30C]⟩,
  ⟨0x1E7, 1, 0, [0x67, 0x30C]⟩, ⟨0x1E8, 1, 0, [0x4B, 0x30C]⟩, ⟨0x1E9, 1, 0, [0x6B, 0x30C]⟩,
  ⟨0x1EA, 1, 0, [0x4F, 0x328]⟩, ⟨0x1EB, 1, 0, [0x6F, 0x328]⟩,
  ⟨0x1EC, 1, 0, [0x4F, 0x328, 0x304]⟩, ⟨0x1ED, 1, 0, [0x6F, 0x328, 0x304]⟩,
  ⟨0x1EE, 1, 0, [0x1B7, 0x30C]⟩, ⟨0x1EF, 1, 0, [0x292, 0x30C]⟩, ⟨0x1F0, 1, 0, [0x6A, 0x30C]⟩,
  ⟨0x1F1, 1, 0, [0x44, 0x5A]⟩, ⟨0x1F2, 1, 0, [0x44, 0x7A]⟩, ⟨0x1F3, 1, 0, [0x64, 0x7A]⟩,
  ⟨0x1F4, 1, 0, [0x47, 0x301]⟩, ⟨0x1F5, 1, 0, [0x67, 0x301]⟩, ⟨0x1F8, 1, 0, [0x4E, 0x300]⟩,
  ⟨0x1F9, 1, 0, [0x6E, 0x300]⟩, ⟨0x1FA, 1, 0, [0x41, 0x30A, 0x301]⟩,
  ⟨0x1FB, 1, 0, [0x61, 0x30A, 0x301]⟩, ⟨0x1FC, 1, 0, [0xC6, 0x301]⟩,
  ⟨0x1FD, 1, 0, [0xE6, 0x301]⟩, ⟨0x1FE, 1, 0, [0xD8, 0x301]⟩, ⟨0x1FF, 1, 0, [0xF8, 0x301]⟩,
  ⟨0x200, 1, 0, [0x41, 0x30F]⟩, ⟨0x201, 1, 0, [0x61, 0x30F]⟩, ⟨0x202, 1, 0, [0x41, 0x311]⟩,
  ⟨0x203, 1, 0, [0x61, 0x311]⟩, ⟨0x204, 1, 0, [0x45, 0x30F]⟩, ⟨0x205, 1, 0, [0x65, 0x30F]⟩,
  ⟨0x206, 1, 0, [0x45, 0x311]⟩, ⟨0x207, 1, 0, [0x65, 0x311]⟩, ⟨0x208, 1, 0, [0x49, 0x30F]⟩,
  ⟨0x209, 1, 0, [0x69, 0x30F]⟩, ⟨0x20A, 1, 0, [0x49, 0x311]⟩, ⟨0x20B, 1, 0, [0x69, 0x311]⟩,
  ⟨0x20C, 1, 0, [0x4F, 0x30F]⟩, ⟨0x20D, 1, 0, [0x6F, 0x30F]⟩, ⟨0x20E, 1, 0, [0x4F, 0x311]⟩,
  ⟨0x20F, 1, 0, [0x6F, 0x311]⟩, ⟨0x210, 1, 0, [0x52, 0x30F]⟩, ⟨0x211, 1, 0, [0x72, 0x30F]⟩,
  ⟨0x212, 1, 0, [0x52, 0x311]⟩, ⟨0x213, 1, 0, [0x72, 0x311]⟩, ⟨0x214, 1, 0, [0x55, 0x30F]⟩,
  ⟨0x215, 1, 0, [0x75, 0x30F]⟩, ⟨0x216, 1, 0, [0x55, 0x311]⟩, ⟨0x217, 1, 0, [0x75, 0x311]⟩,
  ⟨0x218, 1, 0, [0x53, 0x326]⟩, ⟨0x219, 1, 0, [0x73, 0x326]⟩, ⟨0x21A, 1, 0, [0x54, 0x326]⟩,
  ⟨0x21B, 1, 0, [0x74, 0x326]⟩, ⟨0x21E, 1, 0, [0x48, 0x30C]⟩, ⟨0x21F, 1, 0, [0x68, 0x30C]⟩,
  ⟨0x226, 1, 0, [0x41, 0x307]⟩, ⟨0x227, 1, 0, [0x61, 0x307]⟩, ⟨0x228, 1, 0, [0x45, 0x327]⟩,
  ⟨0x229, 1, 0, [0x65, 0x327]⟩, ⟨0x22A, 1, 0, [0x4F, 0x308, 0x304]⟩,
  ⟨0x22B, 1, 0, [0x6F, 0x308, 0x304]⟩, ⟨0x22C, 1, 0, [0x4F, 0x303, 0x304]⟩,
  ⟨0x22D, 1, 0, [0x6F, 0x303, 0x304]⟩, ⟨0x22E, 1, 0, [0x4F, 0x307]⟩,
  ⟨0x22F, 1, 0, [0x6F, 0x307]⟩, ⟨0x230, 1, 0, [0x4F, 0x307, 0x304]⟩,
  ⟨0x231, 1, 0, [0x6F, 0x307, 0x304]⟩, ⟨0x232, 1, 0, [0x59, 0x304]⟩,
  ⟨0x233, 1, 0, [0x79, 0x304]⟩, ⟨0x2B0, 1, 0, [0x68]⟩, ⟨0x2B1, 1, 0, [0x266]⟩,
  ⟨0x2B2, 1, 0, [0x6A]⟩, ⟨0x2B3, 1, 0, [0x72]⟩, ⟨0x2B4, 1, 0, [0x279]⟩, ⟨0x2B5, 1, 0, [0x27B]⟩,
  ⟨0x2B6, 1, 0, [0x281]⟩, ⟨0x2B7, 1, 0, [0x77]⟩, ⟨0x2B8, 1, 0, [0x79]⟩,
  ⟨0x2D8, 2, 1, [0x20, 0x306]⟩, ⟨0x2DA, 1, 0, [0x20, 0x30A]⟩, ⟨0x2DB, 1, 0, [0x20, 0x328]⟩,
  ⟨0x2DC, 1, 0, [0x20, 0x303]⟩, ⟨0x2DD, 1, 0, [0x20, 0x30B]⟩, ⟨0x2E0, 1, 0, [0x263]⟩,
  ⟨0x2E1, 1, 0, [0x6C]⟩, ⟨0x2E2, 1, 0, [0x73]⟩, ⟨0x2E3, 1, 0, [0x78]⟩, ⟨0x2E4, 1, 0, [0x295]⟩,
  ⟨0x340, 2, 0, [0x300]⟩, ⟨0x343, 1, 0, [0x313]⟩, ⟨0x344, 1, 0, [0x308, 0x301]⟩,
  ⟨0x374, 1, 0, [0x2B9]⟩, ⟨0x37A, 1, 0, [0x20, 0x345]⟩, ⟨0x37E, 1, 0, [0x3B]⟩,
  ⟨0x384, 1, 0, [0x20, 0x301]⟩, ⟨0x385, 1, 0, [0x20, 0x308, 0x301]⟩,
  ⟨0x386, 1, 0, [0x391, 0x301]⟩, ⟨0x387, 1, 0, [0xB7]⟩, ⟨0x388, 1, 0, [0x395, 0x301]⟩,
  ⟨0x389, 1, 0, [0x397, 0x301]⟩, ⟨0x38A, 1, 0, [0x399, 0x301]⟩, ⟨0x38C, 1, 0, [0x39F, 0x301]⟩,
  ⟨0x38E, 1, 0, [0x3A5, 0x301]⟩, ⟨0x38F, 1, 0, [0x3A9, 0x301]⟩,
  ⟨0x390, 1, 0, [0x3B9, 0x308, 0x301]⟩, ⟨0x3AA, 1, 0, [0x399, 0x308]⟩,
  ⟨0x3AB, 1, 0, [0x3A5, 0x308]⟩, ⟨0x3AC, 1, 0, [0x3B1, 0x301]⟩, ⟨0x3AD, 1, 0, [0x3B5, 0x301]⟩,
  ⟨0x3AE, 1, 0, [0x3B7, 0x301]⟩, ⟨0x3AF, 1, 0, [0x3B9, 0x301]⟩,
  ⟨0x3B0, 1, 0, [0x3C5, 0x308, 0x301]⟩, ⟨0x3CA, 1, 0, [0x3B9, 0x308]⟩,
  ⟨0x3CB, 1, 0, [0x3C5, 0x308]⟩, ⟨0x3CC, 1, 0, [0x3BF, 0x301]⟩, ⟨0x3CD, 1, 0, [0x3C5, 0x301]⟩,
  ⟨0x3CE, 1, 0, [0x3C9, 0x301]⟩, ⟨0x3D0, 1, 0, [0x3B2]⟩, ⟨0x3D1, 1, 0, [0x3B8]⟩,
  ⟨0x3D2, 1, 0, [0x3A5]⟩, ⟨0x3D3, 1, 0, [0x3A5, 0x301]⟩, ⟨0x3D4, 1, 0, [0x3A5, 0x308]⟩,
  ⟨0x3D5, 1, 0, [0x3C6]⟩, ⟨0x3D6, 1, 0, [0x3C0]⟩, ⟨0x3F0, 1, 0, [0x3BA]⟩, ⟨0x3F1, 2, 0, [0x3C1]⟩,
  ⟨0x3F4, 1, 0, [0x398]⟩, ⟨0x3F5, 1, 0, [0x3B5]⟩, ⟨0x3F9, 1, 0, [0x3A3]⟩,
  ⟨0x400, 1, 0, [0x415, 0x300]⟩, ⟨0x401, 1, 0, [0x415, 0x308]⟩, ⟨0x403, 1, 0, [0x413, 0x301]⟩,
  ⟨0x407, 1, 0, [0x406, 0x308]⟩, ⟨0x40C, 1, 0, [0x41A, 0x301]⟩, ⟨0x40D, 1, 0, [0x418, 0x300]⟩,
  ⟨0x40E, 1, 0, [0x423, 0x306]⟩, ⟨0x419, 1, 0, [0x418, 0x306]⟩, ⟨0x439, 1, 0, [0x438, 0x306]⟩,
  ⟨0x450, 1, 0, [0x435, 0x300]⟩, ⟨0x451, 1, 0, [0x435, 0x308]⟩, ⟨0x453, 1, 0, [0x433, 0x301]⟩,
  ⟨0x457, 1, 0, [0x456, 0x308]⟩, ⟨0x45C, 1, 0, [0x43A, 0x301]⟩, ⟨0x45D, 1, 0, [0x438, 0x300]⟩,
  ⟨0x45E, 1, 0, [0x443, 0x306]⟩, ⟨0x476, 2, 0, [0x474, 0x30F]⟩, ⟨0x4C1, 1, 0, [0x416, 0x306]⟩,
  ⟨0x4C2, 1, 0, [0x436, 0x306]⟩, ⟨0x4D0, 1, 0, [0x410, 0x306]⟩, ⟨0x4D1, 1, 0, [0x430, 0x306]⟩,
  ⟨0x4D2, 1, 0, [0x410, 0x308]⟩, ⟨0x4D3, 1, 0, [0x430, 0x308]⟩, ⟨0x4D6, 1, 0, [0x415, 0x306]⟩,
  ⟨0x4D7, 1, 0, [0x435, 0x306]⟩, ⟨0x4DA, 2, 0, [0x4D8, 0x308]⟩, ⟨0x4DC, 1, 0, [0x416, 0x308]⟩,
  ⟨0x4DD, 1, 0, [0x436, 0x308]⟩, ⟨0x4DE, 1, 0, [0x417, 0x308]⟩, ⟨0x4DF, 1, 0, [0x437, 0x308]⟩,
  ⟨0x4E2, 1, 0, [0x418, 0x304]⟩, ⟨0x4E3, 1, 0, [0x438, 0x304]⟩, ⟨0x4E4, 1, 0, [0x418, 0x308]⟩,
  ⟨0x4E5, 1, 0, [0x438, 0x308]⟩, ⟨0x4E6, 1, 0, [0x41E, 0x308]⟩, ⟨0x4E7, 1, 0, [0x43E, 0x308]⟩,
  ⟨0x4EA, 2, 0, [0x4E8, 0x308]⟩, ⟨0x4EC, 1, 0, [0x42D, 0x308]⟩, ⟨0x4ED, 1, 0, [0x44D, 0x308]⟩,
  ⟨0x4EE, 1, 0, [0x423, 0x304]⟩, ⟨0x4EF, 1, 0, [0x443, 0x304]⟩, ⟨0x4F0, 1, 0, [0x423, 0x308]⟩,
  ⟨0x4F1, 1, 0, [0x443, 0x308]⟩, ⟨0x4F2, 1, 0, [0x423, 0x30B]⟩, ⟨0x4F3, 1, 0, [0x443, 0x30B]⟩,
  ⟨0x4F4, 1, 0, [0x427, 0x308]⟩, ⟨0x4F5, 1, 0, [0x447, 0x308]⟩, ⟨0x4F8, 1, 0, [0x42B, 0x308]⟩,
  ⟨0x4F9, 1, 0, [0x44B, 0x308]⟩, ⟨0x587, 1, 0, [0x565, 0x582]⟩, ⟨0x622, 2, 1, [0x627, 0x653]⟩,
  ⟨0x624, 1, 0, [0x648, 0x654]⟩, ⟨0x625, 1, 0, [0x627, 0x655]⟩, ⟨0x626, 1, 0, [0x64A, 0x654]⟩,
  ⟨0x675, 1, 0, [0x627, 0x674]⟩, ⟨0x676, 1, 0, [0x648, 0x674]⟩, ⟨0x677, 1, 0, [0x6C7, 0x674]⟩,
  ⟨0x678, 1, 0, [0x64A, 0x674]⟩, ⟨0x6C0, 1, 0, [0x6D5, 0x654]⟩, ⟨0x6C2, 1, 0, [0x6C1, 0x654]⟩,
  ⟨0x6D3, 1, 0, [0x6D2, 0x654]⟩, ⟨0x929, 1, 0, [0x928, 0x93C]⟩, ⟨0x931, 1, 0, [0x930, 0x93C]⟩,
  ⟨0x934, 1, 0, [0x933, 0x93C]⟩, ⟨0x958, 3, 0, [0x915, 0x93C]⟩, ⟨0x95B, 1, 0, [0x91C, 0x93C]⟩,
  ⟨0x95C, 2, 0, [0x921, 0x93C]⟩, ⟨0x95E, 1, 0, [0x92B, 0x93C]⟩, ⟨0x95F, 1, 0, [0x92F, 0x93C]⟩,
  ⟨0x9CB, 1, 0, [0x9C7, 0x9BE]⟩, ⟨0x9CC, 1, 0, [0x9C7, 0x9D7]⟩, ⟨0x9DC, 2, 0, [0x9A1, 0x9BC]⟩,
  ⟨0x9DF, 1, 0, [0x9AF, 0x9BC]⟩, ⟨0xA33, 1, 0, [0xA32, 0xA3C]⟩, ⟨0xA36, 1, 0, [0xA38, 0xA3C]⟩,
  ⟨0xA59, 2, 0, [0xA16, 0xA3C]⟩, ⟨0xA5B, 1, 0, [0xA1C, 0xA3C]⟩, ⟨0xA5E, 1, 0, [0xA2B, 0xA3C]⟩,
  ⟨0xB48, 1, 0, [0xB47, 0xB56]⟩, ⟨0xB4B, 1, 0, [0xB47, 0xB3E]⟩, ⟨0xB4C, 1, 0, [0xB47, 0xB57]⟩]

/-- Runs of Latin, Greek, Cyrillic and the other scripts below U+2000, part 2. -/
def lettersRunsB : List Run := [
  ⟨0xB5C, 2, 0, [0xB21, 0xB3C]⟩, ⟨0xB94, 1, 0, [0xB92, 0xBD7]⟩, ⟨0xBCA, 2, 0, [0xBC6, 0xBBE]⟩,
  ⟨0xBCC, 1, 0, [0xBC6, 0xBD7]⟩, ⟨0xC48, 1, 0, [0xC46, 0xC56]⟩, ⟨0xCC0, 1, 0, [0xCBF, 0xCD5]⟩,
  ⟨0xCC7, 2, 1, [0xCC6, 0xCD5]⟩, ⟨0xCCA, 1, 0, [0xCC6, 0xCC2]⟩,
  ⟨0xCCB, 1, 0, [0xCC6, 0xCC2, 0xCD5]⟩, ⟨0xD4A, 2, 0, [0xD46, 0xD3E]⟩,
  ⟨0xD4C, 1, 0, [0xD46, 0xD57]⟩, ⟨0xDDA, 1, 0, [0xDD9, 0xDCA]⟩, ⟨0xDDC, 1, 0, [0xDD9, 0xDCF]⟩,
  ⟨0xDDD, 1, 0, [0xDD9, 0xDCF, 0xDCA]⟩, ⟨0xDDE, 1, 0, [0xDD9, 0xDDF]⟩,
  ⟨0xE33, 1, 0, [0xE4D, 0xE32]⟩, ⟨0xEB3, 1, 0, [0xECD, 0xEB2]⟩, ⟨0xEDC, 1, 0, [0xEAB, 0xE99]⟩,
  ⟨0xEDD, 1, 0, [0xEAB, 0xEA1]⟩, ⟨0xF0C, 1, 0, [0xF0B]⟩, ⟨0xF43, 1, 0, [0xF42, 0xFB7]⟩,
  ⟨0xF4D, 1, 0, [0xF4C, 0xFB7]⟩, ⟨0xF52, 1, 0, [0xF51, 0xFB7]⟩, ⟨0xF57, 1, 0, [0xF56, 0xFB7]⟩,
  ⟨0xF5C, 1, 0, [0xF5B, 0xFB7]⟩, ⟨0xF69, 1, 0, [0xF40, 0xFB5]⟩, ⟨0xF73, 1, 0, [0xF71, 0xF72]⟩,
  ⟨0xF75, 1, 0, [0xF71, 0xF74]⟩, ⟨0xF76, 1, 0, [0xFB2, 0xF80]⟩,
  ⟨0xF77, 1, 0, [0xFB2, 0xF71, 0xF80]⟩, ⟨0xF78, 1, 0, [0xFB3, 0xF80]⟩,
  ⟨0xF79, 1, 0, [0xFB3, 0xF71, 0xF80]⟩, ⟨0xF81, 1, 0, [0xF71, 0xF80]⟩,
  ⟨0xF93, 1, 0, [0xF92, 0xFB7]⟩, ⟨0xF9D, 1, 0, [0xF9C, 0xFB7]⟩, ⟨0xFA2, 1, 0, [0xFA1, 0xFB7]⟩,
  ⟨0xFA7, 1, 0, [0xFA6, 0xFB7]⟩, ⟨0xFAC, 1, 0, [0xFAB, 0xFB7]⟩, ⟨0xFB9, 1, 0, [0xF90, 0xFB5]⟩,
  ⟨0x1026, 1, 0, [0x1025, 0x102E]⟩, ⟨0x10FC, 1, 0, [0x10DC]⟩, ⟨0x1B06, 1, 0, [0x1B05, 0x1B35]⟩,
  ⟨0x1B08, 1, 0, [0x1B07, 0x1B35]⟩, ⟨0x1B0A, 1, 0, [0x1B09, 0x1B35]⟩,
  ⟨0x1B0C, 1, 0, [0x1B0B, 0x1B35]⟩, ⟨0x1B0E, 1, 0, [0x1B0D, 0x1B35]⟩,
  ⟨0x1B12, 1, 0, [0x1B11, 0x1B35]⟩, ⟨0x1B3B, 1, 0, [0x1B3A, 0x1B35]⟩,
  ⟨0x1B3D, 1, 0, [0x1B3C, 0x1B35]⟩, ⟨0x1B40, 2, 0, [0x1B3E, 0x1B35]⟩,
  ⟨0x1B43, 1, 0, [0x1B42, 0x1B35]⟩, ⟨0x1D2C, 1, 0, [0x41]⟩, ⟨0x1D2D, 1, 0, [0xC6]⟩,
  ⟨0x1D2E, 1, 0, [0x42]⟩, ⟨0x1D30, 2, 0, [0x44]⟩, ⟨0x1D32, 1, 0, [0x18E]⟩,
  ⟨0x1D33, 8, 0, [0x47]⟩, ⟨0x1D3C, 1, 0, [0x4F]⟩, ⟨0x1D3D, 1, 0, [0x222]⟩,
  ⟨0x1D3E, 1, 0, [0x50]⟩, ⟨0x1D3F, 1, 0, [0x52]⟩, ⟨0x1D40, 2, 0, [0x54]⟩, ⟨0x1D42, 1, 0, [0x57]⟩,
  ⟨0x1D43, 1, 0, [0x61]⟩, ⟨0x1D44, 2, 0, [0x250]⟩, ⟨0x1D46, 1, 0, [0x1D02]⟩,
  ⟨0x1D47, 1, 0, [0x62]⟩, ⟨0x1D48, 2, 0, [0x64]⟩, ⟨0x1D4A, 1, 0, [0x259]⟩,
  ⟨0x1D4B, 2, 0, [0x25B]⟩, ⟨0x1D4D, 1, 0, [0x67]⟩, ⟨0x1D4F, 1, 0, [0x6B]⟩,
  ⟨0x1D50, 1, 0, [0x6D]⟩, ⟨0x1D51, 1, 0, [0x14B]⟩, ⟨0x1D52, 1, 0, [0x6F]⟩,
  ⟨0x1D53, 1, 0, [0x254]⟩, ⟨0x1D54, 2, 0, [0x1D16]⟩, ⟨0x1D56, 1, 0, [0x70]⟩,
  ⟨0x1D57, 2, 0, [0x74]⟩, ⟨0x1D59, 1, 0, [0x1D1D]⟩, ⟨0x1D5A, 1, 0, [0x26F]⟩,
  ⟨0x1D5B, 1, 0, [0x76]⟩, ⟨0x1D5C, 1, 0, [0x1D25]⟩, ⟨0x1D5D, 3, 0, [0x3B2]⟩,
  ⟨0x1D60, 2, 0, [0x3C6]⟩, ⟨0x1D62, 1, 0, [0x69]⟩, ⟨0x1D63, 1, 0, [0x72]⟩,
  ⟨0x1D64, 2, 0, [0x75]⟩, ⟨0x1D66, 2, 0, [0x3B2]⟩, ⟨0x1D68, 1, 0, [0x3C1]⟩,
  ⟨0x1D69, 2, 0, [0x3C6]⟩, ⟨0x1D78, 1, 0, [0x43D]⟩, ⟨0x1D9B, 1, 0, [0x252]⟩,
  ⟨0x1D9C, 1, 0, [0x63]⟩, ⟨0x1D9D, 1, 0, [0x255]⟩, ⟨0x1D9E, 1, 0, [0xF0]⟩,
  ⟨0x1D9F, 1, 0, [0x25C]⟩, ⟨0x1DA0, 1, 0, [0x66]⟩, ⟨0x1DA1, 1, 0, [0x25F]⟩,
  ⟨0x1DA2, 1, 0, [0x261]⟩, ⟨0x1DA3, 1, 0, [0x265]⟩, ⟨0x1DA4, 3, 0, [0x268]⟩,
  ⟨0x1DA7, 1, 0, [0x1D7B]⟩, ⟨0x1DA8, 1, 0, [0x29D]⟩, ⟨0x1DA9, 1, 0, [0x26D]⟩,
  ⟨0x1DAA, 1, 0, [0x1D85]⟩, ⟨0x1DAB, 1, 0, [0x29F]⟩, ⟨0x1DAC, 1, 0, [0x271]⟩,
  ⟨0x1DAD, 1, 0, [0x270]⟩, ⟨0x1DAE, 4, 0, [0x272]⟩, ⟨0x1DB2, 1, 0, [0x278]⟩,
  ⟨0x1DB3, 2, 0, [0x282]⟩, ⟨0x1DB5, 1, 0, [0x1AB]⟩, ⟨0x1DB6, 2, 0, [0x289]⟩,
  ⟨0x1DB8, 1, 0, [0x1D1C]⟩, ⟨0x1DB9, 2, 0, [0x28B]⟩, ⟨0x1DBB, 1, 0, [0x7A]⟩,
  ⟨0x1DBC, 3, 0, [0x290]⟩, ⟨0x1DBF, 1, 0, [0x3B8]⟩, ⟨0x1E00, 1, 0, [0x41, 0x325]⟩,
  ⟨0x1E01, 1, 0, [0x61, 0x325]⟩, ⟨0x1E02, 1, 0, [0x42, 0x307]⟩, ⟨0x1E03, 1, 0, [0x62, 0x307]⟩,
  ⟨0x1E04, 1, 0, [0x42, 0x323]⟩, ⟨0x1E05, 1, 0, [0x62, 0x323]⟩, ⟨0x1E06, 1, 0, [0x42, 0x331]⟩,
  ⟨0x1E07, 1, 0, [0x62, 0x331]⟩, ⟨0x1E08, 1, 0, [0x43, 0x327, 0x301]⟩,
  ⟨0x1E09, 1, 0, [0x63, 0x327, 0x301]⟩, ⟨0x1E0A, 1, 0, [0x44, 0x307]⟩,
  ⟨0x1E0B, 1, 0, [0x64, 0x307]⟩, ⟨0x1E0C, 1, 0, [0x44, 0x323]⟩, ⟨0x1E0D, 1, 0, [0x64, 0x323]⟩,
  ⟨0x1E0E, 1, 0, [0x44, 0x331]⟩, ⟨0x1E0F, 1, 0, [0x64, 0x331]⟩, ⟨0x1E10, 1, 0, [0x44, 0x327]⟩,
  ⟨0x1E11, 1, 0, [0x64, 0x327]⟩, ⟨0x1E12, 1, 0, [0x44, 0x32D]⟩, ⟨0x1E13, 1, 0, [0x64, 0x32D]⟩,
  ⟨0x1E14, 1, 0, [0x45, 0x304, 0x300]⟩, ⟨0x1E15, 1, 0, [0x65, 0x304, 0x300]⟩,
  ⟨0x1E16, 1, 0, [0x45, 0x304, 0x301]⟩, ⟨0x1E17, 1, 0, [0x65, 0x304, 0x301]⟩,
  ⟨0x1E18, 1, 0, [0x45, 0x32D]⟩, ⟨0x1E19, 1, 0, [0x65, 0x32D]⟩, ⟨0x1E1A, 1, 0, [0x45, 0x330]⟩,
  ⟨0x1E1B, 1, 0, [0x65, 0x330]⟩, ⟨0x1E1C, 1, 0, [0x45, 0x327, 0x306]⟩,
  ⟨0x1E1D, 1, 0, [0x65, 0x327, 0x306]⟩, ⟨0x1E1E, 1, 0, [0x46, 0x307]⟩,
  ⟨0x1E1F, 1, 0, [0x66, 0x307]⟩, ⟨0x1E20, 1, 0, [0x47, 0x304]⟩, ⟨0x1E21, 1, 0, [0x67, 0x304]⟩,
  ⟨0x1E22, 1, 0, [0x48, 0x307]⟩, ⟨0x1E23, 1, 0, [0x68, 0x307]⟩, ⟨0x1E24, 1, 0, [0x48, 0x323]⟩,
  ⟨0x1E25, 1, 0, [0x68, 0x323]⟩, ⟨0x1E26, 1, 0, [0x48, 0x308]⟩, ⟨0x1E27, 1, 0, [0x68, 0x308]⟩,
  ⟨0x1E28, 1, 0, [0x48, 0x327]⟩, ⟨0x1E29, 1, 0, [0x68, 0x327]⟩, ⟨0x1E2A, 1, 0, [0x48, 0x32E]⟩,
  ⟨0x1E2B, 1, 0, [0x68, 0x32E]⟩, ⟨0x1E2C, 1, 0, [0x49, 0x330]⟩, ⟨0x1E2D, 1, 0, [0x69, 0x330]⟩,
  ⟨0x1E2E, 1, 0, [0x49, 0x308, 0x301]⟩, ⟨0x1E2F, 1, 0, [0x69, 0x308, 0x301]⟩,
  ⟨0x1E30, 1, 0, [0x4B, 0x301]⟩, ⟨0x1E31, 1, 0, [0x6B, 0x301]⟩, ⟨0x1E32, 1, 0, [0x4B, 0x323]⟩,
  ⟨0x1E33, 1, 0, [0x6B, 0x323]⟩, ⟨0x1E34, 1, 0, [0x4B, 0x331]⟩, ⟨0x1E35, 1, 0, [0x6B, 0x331]⟩,
  ⟨0x1E36, 1, 0, [0x4C, 0x323]⟩, ⟨0x1E37, 1, 0, [0x6C, 0x323]⟩,
  ⟨0x1E38, 1, 0, [0x4C, 0x323, 0x304]⟩, ⟨0x1E39, 1, 0, [0x6C, 0x323, 0x304]⟩,
  ⟨0x1E3A, 1, 0, [0x4C, 0x331]⟩, ⟨0x1E3B, 1, 0, [0x6C, 0x331]⟩, ⟨0x1E3C, 1, 0, [0x4C, 0x32D]⟩,
  ⟨0x1E3D, 1, 0, [0x6C, 0x32D]⟩, ⟨0x1E3E, 1, 0, [0x4D, 0x301]⟩, ⟨0x1E3F, 1, 0, [0x6D, 0x301]⟩,
  ⟨0x1E40, 1, 0, [0x4D, 0x307]⟩, ⟨0x1E41, 1, 0, [0x6D, 0x307]⟩, ⟨0x1E42, 1, 0, [0x4D, 0x323]⟩,
  ⟨0x1E43, 1, 0, [0x6D, 0x323]⟩, ⟨0x1E44, 1, 0, [0x4E, 0x307]⟩, ⟨0x1E45, 1, 0, [0x6E, 0x307]⟩,
  ⟨0x1E46, 1, 0, [0x4E, 0x323]⟩, ⟨0x1E47, 1, 0, [0x6E, 0x323]⟩, ⟨0x1E48, 1, 0, [0x4E, 0x331]⟩,
  ⟨0x1E49, 1, 0, [0x6E, 0x331]⟩, ⟨0x1E4A, 1, 0, [0x4E, 0x32D]⟩, ⟨0x1E4B, 1, 0, [0x6E, 0x32D]⟩,
  ⟨0x1E4C, 1, 0, [0x4F, 0x303, 0x301]⟩, ⟨0x1E4D, 1, 0, [0x6F, 0x303, 0x301]⟩,
  ⟨0x1E4E, 1, 0, [0x4F, 0x303, 0x308]⟩, ⟨0x1E4F, 1, 0, [0x6F, 0x303, 0x308]⟩,
  ⟨0x1E50, 1, 0, [0x4F, 0x304, 0x300]⟩, ⟨0x1E51, 1, 0, [0x6F, 0x304, 0x300]⟩,
  ⟨0x1E52, 1, 0, [0x4F, 0x304, 0x301]⟩, ⟨0x1E53, 1, 0, [0x6F, 0x304, 0x301]⟩,
  ⟨0x1E54, 1, 0, [0x50, 0x301]⟩, ⟨0x1E55, 1, 0, [0x70, 0x301]⟩, ⟨0x1E56, 1, 0, [0x50, 0x307]⟩,
  ⟨0x1E57, 1, 0, [0x70, 0x307]⟩, ⟨0x1E58, 1, 0, [0x52, 0x307]⟩, ⟨0x1E59, 1, 0, [0x72, 0x307]⟩,
  ⟨0x1E5A, 1, 0, [0x52, 0x323]⟩, ⟨0x1E5B, 1, 0, [0x72, 0x323]⟩,
  ⟨0x1E5C, 1, 0, [0x52, 0x323, 0x304]⟩, ⟨0x1E5D, 1, 0, [0x72, 0x323, 0x304]⟩,
  ⟨0x1E5E, 1, 0, [0x52, 0x331]⟩, ⟨0x1E5F, 1, 0, [0x72, 0x331]⟩, ⟨0x1E60, 1, 0, [0x53, 0x307]⟩,
  ⟨0x1E61, 1, 0, [0x73, 0x307]⟩, ⟨0x1E62, 1, 0, [0x53, 0x323]⟩, ⟨0x1E63, 1, 0, [0x73, 0x323]⟩,
  ⟨0x1E64, 1, 0, [0x53, 0x301, 0x307]⟩, ⟨0x1E65, 1, 0, [0x73, 0x301, 0x307]⟩,
  ⟨0x1E66, 1, 0, [0x53, 0x30C, 0x307]⟩, ⟨0x1E67, 1, 0, [0x73, 0x30C, 0x307]⟩,
  ⟨0x1E68, 1, 0, [0x53, 0x323, 0x307]⟩, ⟨0x1E69, 1, 0, [0x73, 0x323, 0x307]⟩,
  ⟨0x1E6A, 1, 0, [0x54, 0x307]⟩, ⟨0x1E6B, 1, 0, [0x74, 0x307]⟩, ⟨0x1E6C, 1, 0, [0x54, 0x323]⟩,
  ⟨0x1E6D, 1, 0, [0x74, 0x323]⟩, ⟨0x1E6E, 1, 0, [0x54, 0x331]⟩, ⟨0x1E6F, 1, 0, [0x74, 0x331]⟩,
  ⟨0x1E70, 1, 0, [0x54, 0x32D]⟩, ⟨0x1E71, 1, 0, [0x74, 0x32D]⟩, ⟨0x1E72, 1, 0, [0x55, 0x324]⟩,
  ⟨0x1E73, 1, 0, [0x75, 0x324]⟩, ⟨0x1E74, 1, 0, [0x55, 0x330]⟩, ⟨0x1E75, 1, 0, [0x75, 0x330]⟩,
  ⟨0x1E76, 1, 0, [0x55, 0x32D]⟩, ⟨0x1E77, 1, 0, [0x75, 0x32D]⟩,
  ⟨0x1E78, 1, 0, [0x55, 0x303, 0x301]⟩, ⟨0x1E79, 1, 0, [0x75, 0x303, 0x301]⟩,
  ⟨0x1E7A, 1, 0, [0x55, 0x304, 0x308]⟩, ⟨0x1E7B, 1, 0, [0x75, 0x304, 0x308]⟩,
  ⟨0x1E7C, 1, 0, [0x56, 0x303]⟩, ⟨0x1E7D, 1, 0, [0x76, 0x303]⟩, ⟨0x1E7E, 1, 0, [0x56, 0x323]⟩,
  ⟨0x1E7F, 1, 0, [0x76, 0x323]⟩, ⟨0x1E80, 1, 0, [0x57, 0x300]⟩, ⟨0x1E81, 1, 0, [0x77, 0x300]⟩,
  ⟨0x1E82, 1, 0, [0x57, 0x301]⟩, ⟨0x1E83, 1, 0, [0x77, 0x301]⟩, ⟨0x1E84, 1, 0, [0x57, 0x308]⟩,
  ⟨0x1E85, 1, 0, [0x77, 0x308]⟩, ⟨0x1E86, 1, 0, [0x57, 0x307]⟩, ⟨0x1E87, 1, 0, [0x77, 0x307]⟩,
  ⟨0x1E88, 1, 0, [0x57, 0x323]⟩, ⟨0x1E89, 1, 0, [0x77, 0x323]⟩, ⟨0x1E8A, 1, 0, [0x58, 0x307]⟩,
  ⟨0x1E8B, 1, 0, [0x78, 0x307]⟩, ⟨0x1E8C, 1, 0, [0x58, 0x308]⟩, ⟨0x1E8D, 1, 0, [0x78, 0x308]⟩,
  ⟨0x1E8E, 1, 0, [0x59, 0x307]⟩, ⟨0x1E8F, 1, 0, [0x79, 0x307]⟩, ⟨0x1E90, 1, 0, [0x5A, 0x302]⟩,
  ⟨0x1E91, 1, 0, [0x7A, 0x302]⟩, ⟨0x1E92, 1, 0, [0x5A, 0x323]⟩, ⟨0x1E93, 1, 0, [0x7A, 0x323]⟩,
  ⟨0x1E94, 1, 0, [0x5A, 0x331]⟩, ⟨0x1E95, 1, 0, [0x7A, 0x331]⟩, ⟨0x1E96, 1, 0, [0x68, 0x331]⟩,
  ⟨0x1E97, 1, 0, [0x74, 0x308]⟩, ⟨0x1E98, 1, 0, [0x77, 0x30A]⟩, ⟨0x1E99, 1, 0, [0x79, 0x30A]⟩,
  ⟨0x1E9A, 1, 0, [0x61, 0x2BE]⟩, ⟨0x1E9B, 1, 0, [0x73, 0x307]⟩, ⟨0x1EA0, 1, 0, [0x41, 0x323]⟩,
  ⟨0x1EA1, 1, 0, [0x61, 0x323]⟩, ⟨0x1EA2, 1, 0, [0x41, 0x309]⟩, ⟨0x1EA3, 1, 0, [0x61, 0x309]⟩,
  ⟨0x1EA4, 1, 0, [0x41, 0x302, 0x301]⟩, ⟨0x1EA5, 1, 0, [0x61, 0x302, 0x301]⟩,
  ⟨0x1EA6, 1, 0, [0x41, 0x302, 0x300]⟩, ⟨0x1EA7, 1, 0, [0x61, 0x302, 0x300]⟩,
  ⟨0x1EA8, 1, 0, [0x41, 0x302, 0x309]⟩, ⟨0x1EA9, 1, 0, [0x61, 0x302, 0x309]⟩,
  ⟨0x1EAA, 1, 0, [0x41, 0x302, 0x303]⟩, ⟨0x1EAB, 1, 0, [0x61, 0x302, 0x303]⟩,
  ⟨0x1EAC, 1, 0, [0x41, 0x323, 0x302]⟩, ⟨0x1EAD, 1, 0, [0x61, 0x323, 0x302]⟩,
  ⟨0x1EAE, 1, 0, [0x41, 0x306, 0x301]⟩, ⟨0x1EAF, 1, 0, [0x61, 0x306, 0x301]⟩,
  ⟨0x1EB0, 1, 0, [0x41, 0x306, 0x300]⟩, ⟨0x1EB1, 1, 0, [0x61, 0x306, 0x300]⟩,
  ⟨0x1EB2, 1, 0, [0x41, 0x306, 0x309]⟩, ⟨0x1EB3, 1, 0, [0x61, 0x306, 0x309]⟩,
  ⟨0x1EB4, 1, 0, [0x41, 0x306, 0x303]⟩, ⟨0x1EB5, 1, 0, [0x61, 0x306, 0x303]⟩,
  ⟨0x1EB6, 1, 0, [0x41, 0x323, 0x306]⟩, ⟨0x1EB7, 1, 0, [0x61, 0x323, 0x306]⟩,
  ⟨0x1EB8, 1, 0, [0x45, 0x323]⟩, ⟨0x1EB9, 1, 0, [0x65, 0x323]⟩, ⟨0x1EBA, 1, 0, [0x45, 0x309]⟩,
  ⟨0x1EBB, 1, 0, [0x65, 0x309]⟩, ⟨0x1EBC, 1, 0, [0x45, 0x303]⟩, ⟨0x1EBD, 1, 0, [0x65, 0x303]⟩,
  ⟨0x1EBE, 1, 0, [0x45, 0x302, 0x301]⟩, ⟨0x1EBF, 1, 0, [0x65, 0x302, 0x301]⟩,
  ⟨0x1EC0, 1, 0, [0x45, 0x302, 0x300]⟩, ⟨0x1EC1, 1, 0, [0x65, 0x302, 0x300]⟩,
  ⟨0x1EC2, 1, 0, [0x45, 0x302, 0x309]⟩, ⟨0x1EC3, 1, 0, [0x65, 0x302, 0x309]⟩,
  ⟨0x1EC4, 1, 0, [0x45, 0x302, 0x303]⟩, ⟨0x1EC5, 1, 0, [0x65, 0x302, 0x303]⟩,
  ⟨0x1EC6, 1, 0, [0x45, 0x323, 0x302]⟩, ⟨0x1EC7, 1, 0, [0x65, 0x323, 0x302]⟩,
  ⟨0x1EC8, 1, 0, [0x49, 0x309]⟩, ⟨0x1EC9, 1, 0, [0x69, 0x309]⟩, ⟨0x1ECA, 1, 0, [0x49, 0x323]⟩,
  ⟨0x1ECB, 1, 0, [0x69, 0x323]⟩, ⟨0x1ECC, 1, 0, [0x4F, 0x323]⟩, ⟨0x1ECD, 1, 0, [0x6F, 0x323]⟩,
  ⟨0x1ECE, 1, 0, [0x4F, 0x309]⟩, ⟨0x1ECF, 1, 0, [0x6F, 0x309]⟩,
  ⟨0x1ED0, 1, 0, [0x4F, 0x302, 0x301]⟩, ⟨0x1ED1, 1, 0, [0x6F, 0x302, 0x301]⟩,
  ⟨0x1ED2, 1, 0, [0x4F, 0x302, 0x300]⟩, ⟨0x1ED3, 1, 0, [0x6F, 0x302, 0x300]⟩,
  ⟨0x1ED4, 1, 0, [0x4F, 0x302, 0x309]⟩, ⟨0x1ED5, 1, 0, [0x6F, 0x302, 0x309]⟩,
  ⟨0x1ED6, 1, 0, [0x4F, 0x302, 0x303]⟩, ⟨0x1ED7, 1, 0, [0x6F, 0x302, 0x303]⟩,
  ⟨0x1ED8, 1, 0, [0x4F, 0x323, 0x302]⟩, ⟨0x1ED9, 1, 0, [0x6F, 0x323, 0x302]⟩,
  ⟨0x1EDA, 1, 0, [0x4F, 0x31B, 0x301]⟩, ⟨0x1EDB, 1, 0, [0x6F, 0x31B, 0x301]⟩,
  ⟨0x1EDC, 1, 0, [0x4F, 0x31B, 0x300]⟩, ⟨0x1EDD, 1, 0, [0x6F, 0x31B, 0x300]⟩,
  ⟨0x1EDE, 1, 0, [0x4F, 0x31B, 0x309]⟩, ⟨0x1EDF, 1, 0, [0x6F, 0x31B, 0x309]⟩,
  ⟨0x1EE0, 1, 0, [0x4F, 0x31B, 0x303]⟩, ⟨0x1EE1, 1, 0, [0x6F, 0x31B, 0x303]⟩,
  ⟨0x1EE2, 1, 0, [0x4F, 0x31B, 0x323]⟩, ⟨0x1EE3, 1, 0, [0x6F, 0x31B, 0x323]⟩,
  ⟨0x1EE4, 1, 0, [0x55, 0x323]⟩, ⟨0x1EE5, 1, 0, [0x75, 0x323]⟩, ⟨0x1EE6, 1, 0, [0x55, 0x309]⟩,
  ⟨0x1EE7, 1, 0, [0x75, 0x309]⟩, ⟨0x1EE8, 1, 0, [0x55, 0x31B, 0x301]⟩,
  ⟨0x1EE9, 1, 0, [0x75, 0x31B, 0x301]⟩, ⟨0x1EEA, 1, 0, [0x55, 0x31B, 0x300]⟩,
  ⟨0x1EEB, 1, 0, [0x75, 0x31B, 0x300]⟩, ⟨0x1EEC, 1, 0, [0x55, 0x31B, 0x309]⟩,
  ⟨0x1EED, 1, 0, [0x75, 0x31B, 0x309]⟩, ⟨0x1EEE, 1, 0, [0x55, 0x31B, 0x303]⟩,
  ⟨0x1EEF, 1, 0, [0x75, 0x31B, 0x303]⟩, ⟨0x1EF0, 1, 0, [0x55, 0x31B, 0x323]⟩,
  ⟨0x1EF1, 1, 0, [0x75, 0x31B, 0x323]⟩, ⟨0x1EF2, 1, 0, [0x59, 0x300]⟩,
  ⟨0x1EF3, 1, 0, [0x79, 0x300]⟩, ⟨0x1EF4, 1, 0, [0x59, 0x323]⟩, ⟨0x1EF5, 1, 0, [0x79, 0x323]⟩,
  ⟨0x1EF6, 1, 0, [0x59, 0x309]⟩, ⟨0x1EF7, 1, 0, [0x79, 0x309]⟩, ⟨0x1EF8, 1, 0, [0x59, 0x303]⟩,
  ⟨0x1EF9, 1, 0, [0x79, 0x303]⟩, ⟨0x1F00, 2, 1, [0x3B1, 0x313]⟩,
  ⟨0x1F02, 2, 1, [0x3B1, 0x313, 0x300]⟩, ⟨0x1F04, 2, 1, [0x3B1, 0x313, 0x301]⟩,
  ⟨0x1F06, 2, 1, [0x3B1, 0x313, 0x342]⟩, ⟨0x1F08, 2, 1, [0x391, 0x313]⟩,
  ⟨0x1F0A, 2, 1, [0x391, 0x313, 0x300]⟩, ⟨0x1F0C, 2, 1, [0x391, 0x313, 0x301]⟩,
  ⟨0x1F0E, 2, 1, [0x391, 0x313, 0x342]⟩, ⟨0x1F10, 2, 1, [0x3B5, 0x313]⟩,
  ⟨0x1F12, 2, 1, [0x3B5, 0x313, 0x300]⟩, ⟨0x1F14, 2, 1, [0x3B5, 0x313, 0x301]⟩,
  ⟨0x1F18, 2, 1, [0x395, 0x313]⟩, ⟨0x1F1A, 2, 1, [0x395, 0x313, 0x300]⟩,
  ⟨0x1F1C, 2, 1, [0x395, 0x313, 0x301]⟩, ⟨0x1F20, 2, 1, [0x3B7, 0x313]⟩,
  ⟨0x1F22, 2, 1, [0x3B7, 0x313, 0x300]⟩, ⟨0x1F24, 2, 1, [0x3B7, 0x313, 0x301]⟩,
  ⟨0x1F26, 2, 1, [0x3B7, 0x313, 0x342]⟩, ⟨0x1F28, 2, 1, [0x397, 0x313]⟩,
  ⟨0x1F2A, 2, 1, [0x397, 0x313, 0x300]⟩, ⟨0x1F2C, 2, 1, [0x397, 0x313, 0x301]⟩,
  ⟨0x1F2E, 2, 1, [0x397, 0x313, 0x342]⟩, ⟨0x1F30, 2, 1, [0x3B9, 0x313]⟩,
  ⟨0x1F32, 2, 1, [0x3B9, 0x313, 0x300]⟩, ⟨0x1F34, 2, 1, [0x3B9, 0x313, 0x301]⟩,
  ⟨0x1F36, 2, 1, [0x3B9, 0x313, 0x342]⟩, ⟨0x1F38, 2, 1, [0x399, 0x313]⟩,
  ⟨0x1F3A, 2, 1, [0x399, 0x313, 0x300]⟩, ⟨0x1F3C, 2, 1, [0x399, 0x313, 0x301]⟩,
  ⟨0x1F3E, 2, 1, [0x399, 0x313, 0x342]⟩, ⟨0x1F40, 2, 1, [0x3BF, 0x313]⟩,
  ⟨0x1F42, 2, 1, [0x3BF, 0x313, 0x300]⟩, ⟨0x1F44, 2, 1, [0x3BF, 0x313, 0x301]⟩,
  ⟨0x1F48, 2, 1, [0x39F, 0x313]⟩, ⟨0x1F4A, 2, 1, [0x39F, 0x313, 0x300]⟩]

/-- Runs of Latin, Greek, Cyrillic and the other scripts below U+2000, part 3. -/
def lettersRunsC : List Run := [
  ⟨0x1F4C, 2, 1, [0x39F, 0x313, 0x301]⟩, ⟨0x1F50, 2, 1, [0x3C5, 0x313]⟩,
  ⟨0x1F52, 2, 1, [0x3C5, 0x313, 0x300]⟩, ⟨0x1F54, 2, 1, [0x3C5, 0x313, 0x301]⟩,
  ⟨0x1F56, 2, 1, [0x3C5, 0x313, 0x342]⟩, ⟨0x1F59, 1, 0, [0x3A5, 0x314]⟩,
  ⟨0x1F5B, 1, 0, [0x3A5, 0x314, 0x300]⟩, ⟨0x1F5D, 1, 0, [0x3A5, 0x314, 0x301]⟩,
  ⟨0x1F5F, 1, 0, [0x3A5, 0x314, 0x342]⟩, ⟨0x1F60, 2, 1, [0x3C9, 0x313]⟩,
  ⟨0x1F62, 2, 1, [0x3C9, 0x313, 0x300]⟩, ⟨0x1F64, 2, 1, [0x3C9, 0x313, 0x301]⟩,
  ⟨0x1F66, 2, 1, [0x3C9, 0x313, 0x342]⟩, ⟨0x1F68, 2, 1, [0x3A9, 0x313]⟩,
  ⟨0x1F6A, 2, 1, [0x3A9, 0x313, 0x300]⟩, ⟨0x1F6C, 2, 1, [0x3A9, 0x313, 0x301]⟩,
  ⟨0x1F6E, 2, 1, [0x3A9, 0x313, 0x342]⟩, ⟨0x1F70, 2, 1, [0x3B1, 0x300]⟩,
  ⟨0x1F72, 2, 1, [0x3B5, 0x300]⟩, ⟨0x1F74, 2, 1, [0x3B7, 0x300]⟩, ⟨0x1F76, 2, 1, [0x3B9, 0x300]⟩,
  ⟨0x1F78, 2, 1, [0x3BF, 0x300]⟩, ⟨0x1F7A, 2, 1, [0x3C5, 0x300]⟩, ⟨0x1F7C, 2, 1, [0x3C9, 0x300]⟩,
  ⟨0x1F80, 2, 1, [0x3B1, 0x313, 0x345]⟩, ⟨0x1F82, 2, 1, [0x3B1, 0x313, 0x300, 0x345]⟩,
  ⟨0x1F84, 2, 1, [0x3B1, 0x313, 0x301, 0x345]⟩, ⟨0x1F86, 2, 1, [0x3B1, 0x313, 0x342, 0x345]⟩,
  ⟨0x1F88, 2, 1, [0x391, 0x313, 0x345]⟩, ⟨0x1F8A, 2, 1, [0x391, 0x313, 0x300, 0x345]⟩,
  ⟨0x1F8C, 2, 1, [0x391, 0x313, 0x301, 0x345]⟩, ⟨0x1F8E, 2, 1, [0x391, 0x313, 0x342, 0x345]⟩,
  ⟨0x1F90, 2, 1, [0x3B7, 0x313, 0x345]⟩, ⟨0x1F92, 2, 1, [0x3B7, 0x313, 0x300, 0x345]⟩,
  ⟨0x1F94, 2, 1, [0x3B7, 0x313, 0x301, 0x345]⟩, ⟨0x1F96, 2, 1, [0x3B7, 0x313, 0x342, 0x345]⟩,
  ⟨0x1F98, 2, 1, [0x397, 0x313, 0x345]⟩, ⟨0x1F9A, 2, 1, [0x397, 0x313, 0x300, 0x345]⟩,
  ⟨0x1F9C, 2, 1, [0x397, 0x313, 0x301, 0x345]⟩, ⟨0x1F9E, 2, 1, [0x397, 0x313, 0x342, 0x345]⟩,
  ⟨0x1FA0, 2, 1, [0x3C9, 0x313, 0x345]⟩, ⟨0x1FA2, 2, 1, [0x3C9, 0x313, 0x300, 0x345]⟩,
  ⟨0x1FA4, 2, 1, [0x3C9, 0x313, 0x301, 0x345]⟩, ⟨0x1FA6, 2, 1, [0x3C9, 0x313, 0x342, 0x345]⟩,
  ⟨0x1FA8, 2, 1, [0x3A9, 0x313, 0x345]⟩, ⟨0x1FAA, 2, 1, [0x3A9, 0x313, 0x300, 0x345]⟩,
  ⟨0x1FAC, 2, 1, [0x3A9, 0x313, 0x301, 0x345]⟩, ⟨0x1FAE, 2, 1, [0x3A9, 0x313, 0x342, 0x345]⟩,
  ⟨0x1FB0, 1, 0, [0x3B1, 0x306]⟩, ⟨0x1FB1, 1, 0, [0x3B1, 0x304]⟩,
  ⟨0x1FB2, 1, 0, [0x3B1, 0x300, 0x345]⟩, ⟨0x1FB3, 1, 0, [0x3B1, 0x345]⟩,
  ⟨0x1FB4, 1, 0, [0x3B1, 0x301, 0x345]⟩, ⟨0x1FB6, 1, 0, [0x3B1, 0x342]⟩,
  ⟨0x1FB7, 1, 0, [0x3B1, 0x342, 0x345]⟩, ⟨0x1FB8, 1, 0, [0x391, 0x306]⟩,
  ⟨0x1FB9, 1, 0, [0x391, 0x304]⟩, ⟨0x1FBA, 2, 1, [0x391, 0x300]⟩, ⟨0x1FBC, 1, 0, [0x391, 0x345]⟩,
  ⟨0x1FBD, 1, 0, [0x20, 0x313]⟩, ⟨0x1FBE, 1, 0, [0x3B9]⟩, ⟨0x1FBF, 1, 0, [0x20, 0x313]⟩,
  ⟨0x1FC0, 1, 0, [0x20, 0x342]⟩, ⟨0x1FC1, 1, 0, [0x20, 0x308, 0x342]⟩,
  ⟨0x1FC2, 1, 0, [0x3B7, 0x300, 0x345]⟩, ⟨0x1FC3, 1, 0, [0x3B7, 0x345]⟩,
  ⟨0x1FC4, 1, 0, [0x3B7, 0x301, 0x345]⟩, ⟨0x1FC6, 1, 0, [0x3B7, 0x342]⟩,
  ⟨0x1FC7, 1, 0, [0x3B7, 0x342, 0x345]⟩, ⟨0x1FC8, 2, 1, [0x395, 0x300]⟩,
  ⟨0x1FCA, 2, 1, [0x397, 0x300]⟩, ⟨0x1FCC, 1, 0, [0x397, 0x345]⟩,
  ⟨0x1FCD, 2, 2, [0x20, 0x313, 0x300]⟩, ⟨0x1FCF, 1, 0, [0x20, 0x313, 0x342]⟩,
  ⟨0x1FD0, 1, 0, [0x3B9, 0x306]⟩, ⟨0x1FD1, 1, 0, [0x3B9, 0x304]⟩,
  ⟨0x1FD2, 2, 2, [0x3B9, 0x308, 0x300]⟩, ⟨0x1FD6, 1, 0, [0x3B9, 0x342]⟩,
  ⟨0x1FD7, 1, 0, [0x3B9, 0x308, 0x342]⟩, ⟨0x1FD8, 1, 0, [0x399, 0x306]⟩,
  ⟨0x1FD9, 1, 0, [0x399, 0x304]⟩, ⟨0x1FDA, 2, 1, [0x399, 0x300]⟩,
  ⟨0x1FDD, 2, 2, [0x20, 0x314, 0x300]⟩, ⟨0x1FDF, 1, 0, [0x20, 0x314, 0x342]⟩,
  ⟨0x1FE0, 1, 0, [0x3C5, 0x306]⟩, ⟨0x1FE1, 1, 0, [0x3C5, 0x304]⟩,
  ⟨0x1FE2, 2, 2, [0x3C5, 0x308, 0x300]⟩, ⟨0x1FE4, 2, 1, [0x3C1, 0x313]⟩,
  ⟨0x1FE6, 1, 0, [0x3C5, 0x342]⟩, ⟨0x1FE7, 1, 0, [0x3C5, 0x308, 0x342]⟩,
  ⟨0x1FE8, 1, 0, [0x3A5, 0x306]⟩, ⟨0x1FE9, 1, 0, [0x3A5, 0x304]⟩, ⟨0x1FEA, 2, 1, [0x3A5, 0x300]⟩,
  ⟨0x1FEC, 1, 0, [0x3A1, 0x314]⟩, ⟨0x1FED, 2, 2, [0x20, 0x308, 0x300]⟩, ⟨0x1FEF, 1, 0, [0x60]⟩,
  ⟨0x1FF2, 1, 0, [0x3C9, 0x300, 0x345]⟩, ⟨0x1FF3, 1, 0, [0x3C9, 0x345]⟩,
  ⟨0x1FF4, 1, 0, [0x3C9, 0x301, 0x345]⟩, ⟨0x1FF6, 1, 0, [0x3C9, 0x342]⟩,
  ⟨0x1FF7, 1, 0, [0x3C9, 0x342, 0x345]⟩, ⟨0x1FF8, 2, 1, [0x39F, 0x300]⟩,
  ⟨0x1FFA, 2, 1, [0x3A9, 0x300]⟩, ⟨0x1FFC, 1, 0, [0x3A9, 0x345]⟩, ⟨0x1FFD, 1, 0, [0x20, 0x301]⟩,
  ⟨0x1FFE, 1, 0, [0x20, 0x314]⟩]

/-- Runs of Latin, Greek, Cyrillic and the other scripts below U+2000. -/
def lettersRuns : List Run := lettersRunsA ++ lettersRunsB ++ lettersRunsC

end PortfolioShell.Text.Decomposition
