import PortfolioShell.Text.Decomposition.Run

/-!
# Compatibility decompositions: supplement

Full compatibility decompositions of supplementary planes below the compatibility ideographs, in ascending order.
-/
namespace PortfolioShell.Text.Decomposition

/-- Runs of supplementary planes below the compatibility ideographs, part 1. -/
def supplementRunsA : List Run := [
  ⟨0x105C9, 1, 0, [0x105D2, 0x307]⟩, ⟨0x105E4, 1, 0, [0x105DA, 0x307]⟩, ⟨0x10781, 2, 0, [0x2D0]⟩,
  ⟨0x10783, 1, 0, [0xE6]⟩, ⟨0x10784, 1, 0, [0x299]⟩, ⟨0x10785, 1, 0, [0x253]⟩,
  ⟨0x10787, 1, 0, [0x2A3]⟩, ⟨0x10788, 1, 0, [0xAB66]⟩, ⟨0x10789, 1, 0, [0x2A5]⟩,
  ⟨0x1078A, 1, 0, [0x2A4]⟩, ⟨0x1078B, 2, 0, [0x256]⟩, ⟨0x1078D, 1, 0, [0x1D91]⟩,
  ⟨0x1078E, 1, 0, [0x258]⟩, ⟨0x1078F, 1, 0, [0x25E]⟩, ⟨0x10790, 1, 0, [0x2A9]⟩,
  ⟨0x10791, 1, 0, [0x264]⟩, ⟨0x10792, 1, 0, [0x262]⟩, ⟨0x10793, 1, 0, [0x260]⟩,
  ⟨0x10794, 1, 0, [0x29B]⟩, ⟨0x10795, 1, 0, [0x127]⟩, ⟨0x10796, 1, 0, [0x29C]⟩,
  ⟨0x10797, 1, 0, [0x267]⟩, ⟨0x10798, 1, 0, [0x284]⟩, ⟨0x10799, 2, 0, [0x2AA]⟩,
  ⟨0x1079B, 1, 0, [0x26C]⟩, ⟨0x1079C, 1, 0, [0x1DF04]⟩, ⟨0x1079D, 1, 0, [0xA78E]⟩,
  ⟨0x1079E, 1, 0, [0x26E]⟩, ⟨0x1079F, 1, 0, [0x1DF05]⟩, ⟨0x107A0, 1, 0, [0x28E]⟩,
  ⟨0x107A1, 1, 0, [0x1DF06]⟩, ⟨0x107A2, 1, 0, [0xF8]⟩, ⟨0x107A3, 2, 0, [0x276]⟩,
  ⟨0x107A5, 1, 0, [0x71]⟩, ⟨0x107A6, 1, 0, [0x27A]⟩, ⟨0x107A7, 1, 0, [0x1DF08]⟩,
  ⟨0x107A8, 2, 0, [0x27D]⟩, ⟨0x107AA, 1, 0, [0x280]⟩, ⟨0x107AB, 1, 0, [0x2A8]⟩,
  ⟨0x107AC, 1, 0, [0x2A6]⟩, ⟨0x107AD, 1, 0, [0xAB67]⟩, ⟨0x107AE, 1, 0, [0x2A7]⟩,
  ⟨0x107AF, 1, 0, [0x288]⟩, ⟨0x107B0, 1, 0, [0x2C71]⟩, ⟨0x107B2, 1, 0, [0x28F]⟩,
  ⟨0x107B3, 2, 0, [0x2A1]⟩, ⟨0x107B5, 1, 0, [0x298]⟩, ⟨0x107B6, 3, 0, [0x1C0]⟩,
  ⟨0x107B9, 1, 0, [0x1DF0A]⟩, ⟨0x107BA, 1, 0, [0x1DF1E]⟩, ⟨0x1109A, 1, 0, [0x11099, 0x110BA]⟩,
  ⟨0x1109C, 1, 0, [0x1109B, 0x110BA]⟩, ⟨0x110AB, 1, 0, [0x110A5, 0x110BA]⟩,
  ⟨0x1112E, 2, 0, [0x11131, 0x11127]⟩, ⟨0x1134B, 1, 0, [0x11347, 0x1133E]⟩,
  ⟨0x1134C, 1, 0, [0x11347, 0x11357]⟩, ⟨0x11383, 1, 0, [0x11382, 0x113C9]⟩,
  ⟨0x11385, 1, 0, [0x11384, 0x113BB]⟩, ⟨0x1138E, 1, 0, [0x1138B, 0x113C2]⟩,
  ⟨0x11391, 1, 0, [0x11390, 0x113C9]⟩, ⟨0x113C5, 1, 0, [0x113C2, 0x113C2]⟩,
  ⟨0x113C7, 1, 0, [0x113C2, 0x113B8]⟩, ⟨0x113C8, 1, 0, [0x113C2, 0x113C9]⟩,
  ⟨0x114BB, 1, 0, [0x114B9, 0x114BA]⟩, ⟨0x114BC, 1, 0, [0x114B9, 0x114B0]⟩,
  ⟨0x114BE, 1, 0, [0x114B9, 0x114BD]⟩, ⟨0x115BA, 2, 0, [0x115B8, 0x115AF]⟩,
  ⟨0x11938, 1, 0, [0x11935, 0x11930]⟩, ⟨0x16121, 1, 0, [0x1611E, 0x1611E]⟩,
  ⟨0x16122, 1, 0, [0x1611E, 0x16129]⟩, ⟨0x16123, 1, 0, [0x1611E, 0x1611F]⟩,
  ⟨0x16124, 1, 0, [0x16129, 0x1611F]⟩, ⟨0x16125, 1, 0, [0x1611E, 0x16120]⟩,
  ⟨0x16126, 1, 0, [0x1611E, 0x1611E, 0x1611F]⟩, ⟨0x16127, 1, 0, [0x1611E, 0x16129, 0x1611F]⟩,
  ⟨0x16128, 1, 0, [0x1611E, 0x1611E, 0x16120]⟩, ⟨0x16D68, 1, 0, [0x16D67, 0x16D67]⟩,
  ⟨0x16D69, 1, 0, [0x16D63, 0x16D67]⟩, ⟨0x16D6A, 1, 0, [0x16D63, 0x16D67, 0x16D67]⟩,
  ⟨0x1CCD6, 26, 0, [0x41]⟩, ⟨0x1CCF0, 10, 0, [0x30]⟩, ⟨0x1D15E, 2, 0, [0x1D157, 0x1D165]⟩,
  ⟨0x1D160, 5, 2, [0x1D158, 0x1D165, 0x1D16E]⟩, ⟨0x1D1BB, 2, 0, [0x1D1B9, 0x1D165]⟩,
  ⟨0x1D1BD, 2, 0, [0x1D1B9, 0x1D165, 0x1D16E]⟩, ⟨0x1D1BF, 2, 0, [0x1D1B9, 0x1D165, 0x1D16F]⟩,
  ⟨0x1D400, 26, 0, [0x41]⟩, ⟨0x1D41A, 26, 0, [0x61]⟩, ⟨0x1D434, 26, 0, [0x41]⟩,
  ⟨0x1D44E, 7, 0, [0x61]⟩, ⟨0x1D456, 18, 0, [0x69]⟩, ⟨0x1D468, 26, 0, [0x41]⟩,
  ⟨0x1D482, 26, 0, [0x61]⟩, ⟨0x1D49C, 1, 0, [0x41]⟩, ⟨0x1D49E, 2, 0, [0x43]⟩,
  ⟨0x1D4A2, 1, 0, [0x47]⟩, ⟨0x1D4A5, 2, 0, [0x4A]⟩, ⟨0x1D4A9, 4, 0, [0x4E]⟩,
  ⟨0x1D4AE, 8, 0, [0x53]⟩, ⟨0x1D4B6, 4, 0, [0x61]⟩, ⟨0x1D4BB, 1, 0, [0x66]⟩,
  ⟨0x1D4BD, 7, 0, [0x68]⟩, ⟨0x1D4C5, 11, 0, [0x70]⟩, ⟨0x1D4D0, 26, 0, [0x41]⟩,
  ⟨0x1D4EA, 26, 0, [0x61]⟩, ⟨0x1D504, 2, 0, [0x41]⟩, ⟨0x1D507, 4, 0, [0x44]⟩,
  ⟨0x1D50D, 8, 0, [0x4A]⟩, ⟨0x1D516, 7, 0, [0x53]⟩, ⟨0x1D51E, 26, 0, [0x61]⟩,
  ⟨0x1D538, 2, 0, [0x41]⟩, ⟨0x1D53B, 4, 0, [0x44]⟩, ⟨0x1D540, 5, 0, [0x49]⟩,
  ⟨0x1D546, 1, 0, [0x4F]⟩, ⟨0x1D54A, 7, 0, [0x53]⟩, ⟨0x1D552, 26, 0, [0x61]⟩,
  ⟨0x1D56C, 26, 0, [0x41]⟩, ⟨0x1D586, 26, 0, [0x61]⟩, ⟨0x1D5A0, 26, 0, [0x41]⟩,
  ⟨0x1D5BA, 26, 0, [0x61]⟩, ⟨0x1D5D4, 26, 0, [0x41]⟩, ⟨0x1D5EE, 26, 0, [0x61]⟩,
  ⟨0x1D608, 26, 0, [0x41]⟩, ⟨0x1D622, 26, 0, [0x61]⟩, ⟨0x1D63C, 26, 0, [0x41]⟩,
  ⟨0x1D656, 26, 0, [0x61]⟩, ⟨0x1D670, 26, 0, [0x41]⟩, ⟨0x1D68A, 26, 0, [0x61]⟩,
  ⟨0x1D6A4, 1, 0, [0x131]⟩, ⟨0x1D6A5, 1, 0, [0x237]⟩, ⟨0x1D6A8, 17, 0, [0x391]⟩,
  ⟨0x1D6B9, 1, 0, [0x398]⟩, ⟨0x1D6BA, 7, 0, [0x3A3]⟩, ⟨0x1D6C1, 1, 0, [0x2207]⟩,
  ⟨0x1D6C2, 25, 0, [0x3B1]⟩, ⟨0x1D6DB, 1, 0, [0x2202]⟩, ⟨0x1D6DC, 1, 0, [0x3B5]⟩,
  ⟨0x1D6DD, 1, 0, [0x3B8]⟩, ⟨0x1D6DE, 1, 0, [0x3BA]⟩, ⟨0x1D6DF, 1, 0, [0x3C6]⟩,
  ⟨0x1D6E0, 1, 0, [0x3C1]⟩, ⟨0x1D6E1, 1, 0, [0x3C0]⟩, ⟨0x1D6E2, 17, 0, [0x391]⟩,
  ⟨0x1D6F3, 1, 0, [0x398]⟩, ⟨0x1D6F4, 7, 0, [0x3A3]⟩, ⟨0x1D6FB, 1, 0, [0x2207]⟩,
  ⟨0x1D6FC, 25, 0, [0x3B1]⟩, ⟨0x1D715, 1, 0, [0x2202]⟩, ⟨0x1D716, 1, 0, [0x3B5]⟩,
  ⟨0x1D717, 1, 0, [0x3B8]⟩, ⟨0x1D718, 1, 0, [0x3BA]⟩, ⟨0x1D719, 1, 0, [0x3C6]⟩,
  ⟨0x1D71A, 1, 0, [0x3C1]⟩, ⟨0x1D71B, 1, 0, [0x3C0]⟩, ⟨0x1D71C, 17, 0, [0x391]⟩,
  ⟨0x1D72D, 1, 0, [0x398]⟩, ⟨0x1D72E, 7, 0, [0x3A3]⟩, ⟨0x1D735, 1, 0, [0x2207]⟩,
  ⟨0x1D736, 25, 0, [0x3B1]⟩, ⟨0x1D74F, 1, 0, [0x2202]⟩, ⟨0x1D750, 1, 0, [0x3B5]⟩,
  ⟨0x1D751, 1, 0, [0x3B8]⟩, ⟨0x1D752, 1, 0, [0x3BA]⟩, ⟨0x1D753, 1, 0, [0x3C6]⟩,
  ⟨0x1D754, 1, 0, [0x3C1]⟩, ⟨0x1D755, 1, 0, [0x3C0]⟩, ⟨0x1D756, 17, 0, [0x391]⟩,
  ⟨0x1D767, 1, 0, [0x398]⟩, ⟨0x1D768, 7, 0, [0x3A3]⟩, ⟨0x1D76F, 1, 0, [0x2207]⟩,
  ⟨0x1D770, 25, 0, [0x3B1]⟩, ⟨0x1D789, 1, 0, [0x2202]⟩, ⟨0x1D78A, 1, 0, [0x3B5]⟩,
  ⟨0x1D78B, 1, 0, [0x3B8]⟩, ⟨0x1D78C, 1, 0, [0x3BA]⟩, ⟨0x1D78D, 1, 0, [0x3C6]⟩,
  ⟨0x1D78E, 1, 0, [0x3C1]⟩, ⟨0x1D78F, 1, 0, [0x3C0]⟩, ⟨0x1D790, 17, 0, [0x391]⟩,
  ⟨0x1D7A1, 1, 0, [0x398]⟩, ⟨0x1D7A2, 7, 0, [0x3A3]⟩, ⟨0x1D7A9, 1, 0, [0x2207]⟩,
  ⟨0x1D7AA, 25, 0, [0x3B1]⟩, ⟨0x1D7C3, 1, 0, [0x2202]⟩, ⟨0x1D7C4, 1, 0, [0x3B5]⟩,
  ⟨0x1D7C5, 1, 0, [0x3B8]⟩, ⟨0x1D7C6, 1, 0, [0x3BA]⟩, ⟨0x1D7C7, 1, 0, [0x3C6]⟩,
  ⟨0x1D7C8, 1, 0, [0x3C1]⟩, ⟨0x1D7C9, 1, 0, [0x3C0]⟩, ⟨0x1D7CA, 2, 0, [0x3DC]⟩,
  ⟨0x1D7CE, 10, 0, [0x30]⟩, ⟨0x1D7D8, 10, 0, [0x30]⟩, ⟨0x1D7E2, 10, 0, [0x30]⟩,
  ⟨0x1D7EC, 10, 0, [0x30]⟩, ⟨0x1D7F6, 10, 0, [0x30]⟩, ⟨0x1E030, 9, 0, [0x430]⟩,
  ⟨0x1E039, 3, 0, [0x43A]⟩, ⟨0x1E03C, 11, 0, [0x43E]⟩, ⟨0x1E047, 1, 0, [0x44B]⟩,
  ⟨0x1E048, 2, 0, [0x44D]⟩, ⟨0x1E04A, 1, 0, [0xA689]⟩, ⟨0x1E04B, 1, 0, [0x4D9]⟩,
  ⟨0x1E04C, 1, 0, [0x456]⟩, ⟨0x1E04D, 1, 0, [0x458]⟩, ⟨0x1E04E, 1, 0, [0x4E9]⟩,
  ⟨0x1E04F, 1, 0, [0x4AF]⟩, ⟨0x1E050, 1, 0, [0x4CF]⟩, ⟨0x1E051, 9, 0, [0x430]⟩,
  ⟨0x1E05A, 2, 0, [0x43A]⟩, ⟨0x1E05C, 2, 0, [0x43E]⟩, ⟨0x1E05E, 1, 0, [0x441]⟩,
  ⟨0x1E05F, 6, 0, [0x443]⟩, ⟨0x1E065, 2, 0, [0x44A]⟩, ⟨0x1E067, 1, 0, [0x491]⟩,
  ⟨0x1E068, 1, 0, [0x456]⟩, ⟨0x1E069, 1, 0, [0x455]⟩, ⟨0x1E06A, 1, 0, [0x45F]⟩,
  ⟨0x1E06B, 1, 0, [0x4AB]⟩, ⟨0x1E06C, 1, 0, [0xA651]⟩, ⟨0x1E06D, 1, 0, [0x4B1]⟩,
  ⟨0x1EE00, 2, 0, [0x627]⟩, ⟨0x1EE02, 1, 0, [0x62C]⟩, ⟨0x1EE03, 1, 0, [0x62F]⟩,
  ⟨0x1EE05, 1, 0, [0x648]⟩, ⟨0x1EE06, 1, 0, [0x632]⟩, ⟨0x1EE07, 1, 0, [0x62D]⟩,
  ⟨0x1EE08, 1, 0, [0x637]⟩, ⟨0x1EE09, 1, 0, [0x64A]⟩, ⟨0x1EE0A, 4, 0, [0x643]⟩,
  ⟨0x1EE0E, 1, 0, [0x633]⟩, ⟨0x1EE0F, 1, 0, [0x639]⟩, ⟨0x1EE10, 1, 0, [0x641]⟩,
  ⟨0x1EE11, 1, 0, [0x635]⟩, ⟨0x1EE12, 1, 0, [0x642]⟩, ⟨0x1EE13, 1, 0, [0x631]⟩,
  ⟨0x1EE14, 1, 0, [0x634]⟩, ⟨0x1EE15, 2, 0, [0x62A]⟩, ⟨0x1EE17, 1, 0, [0x62E]⟩,
  ⟨0x1EE18, 1, 0, [0x630]⟩, ⟨0x1EE19, 1, 0, [0x636]⟩, ⟨0x1EE1A, 1, 0, [0x638]⟩,
  ⟨0x1EE1B, 1, 0, [0x63A]⟩, ⟨0x1EE1C, 1, 0, [0x66E]⟩, ⟨0x1EE1D, 1, 0, [0x6BA]⟩,
  ⟨0x1EE1E, 1, 0, [0x6A1]⟩, ⟨0x1EE1F, 1, 0, [0x66F]⟩, ⟨0x1EE21, 1, 0, [0x628]⟩,
  ⟨0x1EE22, 1, 0, [0x62C]⟩, ⟨0x1EE24, 1, 0, [0x647]⟩, ⟨0x1EE27, 1, 0, [0x62D]⟩,
  ⟨0x1EE29, 1, 0, [0x64A]⟩, ⟨0x1EE2A, 4, 0, [0x643]⟩, ⟨0x1EE2E, 1, 0, [0x633]⟩,
  ⟨0x1EE2F, 1, 0, [0x639]⟩, ⟨0x1EE30, 1, 0, [0x641]⟩, ⟨0x1EE31, 1, 0, [0x635]⟩,
  ⟨0x1EE32, 1, 0, [0x642]⟩, ⟨0x1EE34, 1, 0, [0x634]⟩, ⟨0x1EE35, 2, 0, [0x62A]⟩,
  ⟨0x1EE37, 1, 0, [0x62E]⟩, ⟨0x1EE39, 1, 0, [0x636]⟩, ⟨0x1EE3B, 1, 0, [0x63A]⟩,
  ⟨0x1EE42, 1, 0, [0x62C]⟩, ⟨0x1EE47, 1, 0, [0x62D]⟩, ⟨0x1EE49, 1, 0, [0x64A]⟩,
  ⟨0x1EE4B, 1, 0, [0x644]⟩, ⟨0x1EE4D, 1, 0, [0x646]⟩, ⟨0x1EE4E, 1, 0, [0x633]⟩,
  ⟨0x1EE4F, 1, 0, [0x639]⟩, ⟨0x1EE51, 1, 0, [0x635]⟩, ⟨0x1EE52, 1, 0, [0x642]⟩,
  ⟨0x1EE54, 1, 0, [0x634]⟩, ⟨0x1EE57, 1, 0, [0x62E]⟩, ⟨0x1EE59, 1, 0, [0x636]⟩,
  ⟨0x1EE5B, 1, 0, [0x63A]⟩, ⟨0x1EE5D, 1, 0, [0x6BA]⟩, ⟨0x1EE5F, 1, 0, [0x66F]⟩,
  ⟨0x1EE61, 1, 0, [0x628]⟩, ⟨0x1EE62, 1, 0, [0x62C]⟩, ⟨0x1EE64, 1, 0, [0x647]⟩,
  ⟨0x1EE67, 1, 0, [0x62D]⟩, ⟨0x1EE68, 1, 0, [0x637]⟩, ⟨0x1EE69, 1, 0, [0x64A]⟩,
  ⟨0x1EE6A, 1, 0, [0x643]⟩, ⟨0x1EE6C, 2, 0, [0x645]⟩, ⟨0x1EE6E, 1, 0, [0x633]⟩,
  ⟨0x1EE6F, 1, 0, [0x639]⟩, ⟨0x1EE70, 1, 0, [0x641]⟩, ⟨0x1EE71, 1, 0, [0x635]⟩,
  ⟨0x1EE72, 1, 0, [0x642]⟩, ⟨0x1EE74, 1, 0, [0x634]⟩, ⟨0x1EE75, 2, 0, [0x62A]⟩,
  ⟨0x1EE77, 1, 0, [0x62E]⟩, ⟨0x1EE79, 1, 0, [0x636]⟩, ⟨0x1EE7A, 1, 0, [0x638]⟩,
  ⟨0x1EE7B, 1, 0, [0x63A]⟩, ⟨0x1EE7C, 1, 0, [0x66E]⟩, ⟨0x1EE7E, 1, 0, [0x6A1]⟩,
  ⟨0x1EE80, 2, 0, [0x627]⟩, ⟨0x1EE82, 1, 0, [0x62C]⟩, ⟨0x1EE83, 1, 0, [0x62F]⟩,
  ⟨0x1EE84, 2, 0, [0x647]⟩, ⟨0x1EE86, 1, 0, [0x632]⟩, ⟨0x1EE87, 1, 0, [0x62D]⟩,
  ⟨0x1EE88, 1, 0, [0x637]⟩, ⟨0x1EE89, 1, 0, [0x64A]⟩, ⟨0x1EE8B, 3, 0, [0x644]⟩,
  ⟨0x1EE8E, 1, 0, [0x633]⟩, ⟨0x1EE8F, 1, 0, [0x639]⟩, ⟨0x1EE90, 1, 0, [0x641]⟩,
  ⟨0x1EE91, 1, 0, [0x635]⟩, ⟨0x1EE92, 1, 0, [0x642]⟩, ⟨0x1EE93, 1, 0, [0x631]⟩,
  ⟨0x1EE94, 1, 0, [0x634]⟩, ⟨0x1EE95, 2, 0, [0x62A]⟩, ⟨0x1EE97, 1, 0, [0x62E]⟩,
  ⟨0x1EE98, 1, 0, [0x630]⟩, ⟨0x1EE99, 1, 0, [0x636]⟩, ⟨0x1EE9A, 1, 0, [0x638]⟩,
  ⟨0x1EE9B, 1, 0, [0x63A]⟩, ⟨0x1EEA1, 1, 0, [0x628]⟩, ⟨0x1EEA2, 1, 0, [0x62C]⟩,
  ⟨0x1EEA3, 1, 0, [0x62F]⟩, ⟨0x1EEA5, 1, 0, [0x648]⟩, ⟨0x1EEA6, 1, 0, [0x632]⟩,
  ⟨0x1EEA7, 1, 0, [0x62D]⟩, ⟨0x1EEA8, 1, 0, [0x637]⟩, ⟨0x1EEA9, 1, 0, [0x64A]⟩,
  ⟨0x1EEAB, 3, 0, [0x644]⟩, ⟨0x1EEAE, 1, 0, [0x633]⟩, ⟨0x1EEAF, 1, 0, [0x639]⟩,
  ⟨0x1EEB0, 1, 0, [0x641]⟩, ⟨0x1EEB1, 1, 0, [0x635]⟩, ⟨0x1EEB2, 1, 0, [0x642]⟩,
  ⟨0x1EEB3, 1, 0, [0x631]⟩, ⟨0x1EEB4, 1, 0, [0x634]⟩, ⟨0x1EEB5, 2, 0, [0x62A]⟩,
  ⟨0x1EEB7, 1, 0, [0x62E]⟩, ⟨0x1EEB8, 1, 0, [0x630]⟩, ⟨0x1EEB9, 1, 0, [0x636]⟩,
  ⟨0x1EEBA, 1, 0, [0x638]⟩, ⟨0x1EEBB, 1, 0, [0x63A]⟩, ⟨0x1F100, 1, 0, [0x30, 0x2E]⟩,
  ⟨0x1F101, 10, 0, [0x30, 0x2C]⟩, ⟨0x1F110, 26, 1, [0x28, 0x41, 0x29]⟩,
  ⟨0x1F12A, 1, 0, [0x3014, 0x53, 0x3015]⟩, ⟨0x1F12B, 1, 0, [0x43]⟩, ⟨0x1F12C, 1, 0, [0x52]⟩,
  ⟨0x1F12D, 1, 0, [0x43, 0x44]⟩, ⟨0x1F12E, 1, 0, [0x57, 0x5A]⟩, ⟨0x1F130, 26, 0, [0x41]⟩,
  ⟨0x1F14A, 1, 0, [0x48, 0x56]⟩, ⟨0x1F14B, 1, 0, [0x4D, 0x56]⟩, ⟨0x1F14C, 1, 0, [0x53, 0x44]⟩,
  ⟨0x1F14D, 1, 0, [0x53, 0x53]⟩, ⟨0x1F14E, 1, 0, [0x50, 0x50, 0x56]⟩,
  ⟨0x1F14F, 1, 0, [0x57, 0x43]⟩, ⟨0x1F16A, 2, 1, [0x4D, 0x43]⟩, ⟨0x1F16C, 1, 0, [0x4D, 0x52]⟩,
  ⟨0x1F190, 1, 0, [0x44, 0x4A]⟩, ⟨0x1F200, 1, 0, [0x307B, 0x304B]⟩,
  ⟨0x1F201, 1, 0, [0x30B3, 0x30B3]⟩, ⟨0x1F202, 1, 0, [0x30B5]⟩, ⟨0x1F210, 1, 0, [0x624B]⟩,
  ⟨0x1F211, 1, 0, [0x5B57]⟩, ⟨0x1F212, 1, 0, [0x53CC]⟩, ⟨0x1F213, 1, 0, [0x30C6, 0x3099]⟩,
  ⟨0x1F214, 1, 0, [0x4E8C]⟩, ⟨0x1F215, 1, 0, [0x591A]⟩, ⟨0x1F216, 1, 0, [0x89E3]⟩,
  ⟨0x1F217, 1, 0, [0x5929]⟩, ⟨0x1F218, 1, 0, [0x4EA4]⟩, ⟨0x1F219, 1, 0, [0x6620]⟩,
  ⟨0x1F21A, 1, 0, [0x7121]⟩, ⟨0x1F21B, 1, 0, [0x6599]⟩, ⟨0x1F21C, 1, 0, [0x524D]⟩,
  ⟨0x1F21D, 1, 0, [0x5F8C]⟩, ⟨0x1F21E, 1, 0, [0x518D]⟩, ⟨0x1F21F, 1, 0, [0x65B0]⟩,
  ⟨0x1F220, 1, 0, [0x521D]⟩, ⟨0x1F221, 1, 0, [0x7D42]⟩, ⟨0x1F222, 1, 0, [0x751F]⟩,
  ⟨0x1F223, 1, 0, [0x8CA9]⟩, ⟨0x1F224, 1, 0, [0x58F0]⟩, ⟨0x1F225, 1, 0, [0x5439]⟩,
  ⟨0x1F226, 1, 0, [0x6F14]⟩, ⟨0x1F227, 1, 0, [0x6295]⟩, ⟨0x1F228, 1, 0, [0x6355]⟩,
  ⟨0x1F229, 1, 0, [0x4E00]⟩, ⟨0x1F22A, 1, 0, [0x4E09]⟩, ⟨0x1F22B, 1, 0, [0x904A]⟩,
  ⟨0x1F22C, 1, 0, [0x5DE6]⟩, ⟨0x1F22D, 1, 0, [0x4E2D]⟩, ⟨0x1F22E, 1, 0, [0x53F3]⟩,
  ⟨0x1F22F, 1, 0, [0x6307]⟩, ⟨0x1F230, 1, 0, [0x8D70]⟩, ⟨0x1F231, 1, 0, [0x6253]⟩,
  ⟨0x1F232, 1, 0, [0x7981]⟩, ⟨0x1F233, 1, 0, [0x7A7A]⟩]

/-- Runs of supplementary planes below the compatibility ideographs, part 2. -/
def supplementRunsB : List Run := [
  ⟨0x1F234, 1, 0, [0x5408]⟩, ⟨0x1F235, 1, 0, [0x6E80]⟩, ⟨0x1F236, 1, 0, [0x6709]⟩,
  ⟨0x1F237, 1, 0, [0x6708]⟩, ⟨0x1F238, 1, 0, [0x7533]⟩, ⟨0x1F239, 1, 0, [0x5272]⟩,
  ⟨0x1F23A, 1, 0, [0x55B6]⟩, ⟨0x1F23B, 1, 0, [0x914D]⟩,
  ⟨0x1F240, 1, 0, [0x3014, 0x672C, 0x3015]⟩, ⟨0x1F241, 1, 0, [0x3014, 0x4E09, 0x3015]⟩,
  ⟨0x1F242, 1, 0, [0x3014, 0x4E8C, 0x3015]⟩, ⟨0x1F243, 1, 0, [0x3014, 0x5B89, 0x3015]⟩,
  ⟨0x1F244, 1, 0, [0x3014, 0x70B9, 0x3015]⟩, ⟨0x1F245, 1, 0, [0x3014, 0x6253, 0x3015]⟩,
  ⟨0x1F246, 1, 0, [0x3014, 0x76D7, 0x3015]⟩, ⟨0x1F247, 1, 0, [0x3014, 0x52DD, 0x3015]⟩,
  ⟨0x1F248, 1, 0, [0x3014, 0x6557, 0x3015]⟩, ⟨0x1F250, 1, 0, [0x5F97]⟩,
  ⟨0x1F251, 1, 0, [0x53EF]⟩, ⟨0x1FBF0, 10, 0, [0x30]⟩]

/-- Runs of supplementary planes below the compatibility ideographs. -/
def supplementRuns : List Run := supplementRunsA ++ supplementRunsB

end PortfolioShell.Text.Decomposition
