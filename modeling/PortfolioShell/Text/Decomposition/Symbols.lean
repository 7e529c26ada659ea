import PortfolioShell.Text.Decomposition.Run

/-!
# Compatibility decompositions: symbols

Full compatibility decompositions of punctuation, number forms, symbols and enclosed characters from U+2000 to U+F8FF, in ascending order.
-/
namespace PortfolioShell.Text.Decomposition

/-- Runs of punctuation, number forms, symbols and enclosed characters from U+2000 to U+F8FF, part 1. -/
def symbolsRunsA : List Run := [
  ⟨0x2000, 1, 0, [0x20]⟩, ⟨0x2001, 1, 0, [0x20]⟩, ⟨0x2002, 1, 0, [0x20]⟩, ⟨0x2003, 1, 0, [0x20]⟩,
  ⟨0x2004, 1, 0, [0x20]⟩, ⟨0x2005, 1, 0, [0x20]⟩, ⟨0x2006, 1, 0, [0x20]⟩, ⟨0x2007, 1, 0, [0x20]⟩,
  ⟨0x2008, 1, 0, [0x20]⟩, ⟨0x2009, 1, 0, [0x20]⟩, ⟨0x200A, 1, 0, [0x20]⟩,
  ⟨0x2011, 1, 0, [0x2010]⟩, ⟨0x2017, 1, 0, [0x20, 0x333]⟩, ⟨0x2024, 1, 0, [0x2E]⟩,
  ⟨0x2025, 1, 0, [0x2E, 0x2E]⟩, ⟨0x2026, 1, 0, [0x2E, 0x2E, 0x2E]⟩, ⟨0x202F, 1, 0, [0x20]⟩,
  ⟨0x2033, 1, 0, [0x2032, 0x2032]⟩, ⟨0x2034, 1, 0, [0x2032, 0x2032, 0x2032]⟩,
  ⟨0x2036, 1, 0, [0x2035, 0x2035]⟩, ⟨0x2037, 1, 0, [0x2035, 0x2035, 0x2035]⟩,
  ⟨0x203C, 1, 0, [0x21, 0x21]⟩, ⟨0x203E, 1, 0, [0x20, 0x305]⟩, ⟨0x2047, 1, 0, [0x3F, 0x3F]⟩,
  ⟨0x2048, 1, 0, [0x3F, 0x21]⟩, ⟨0x2049, 1, 0, [0x21, 0x3F]⟩,
  ⟨0x2057, 1, 0, [0x2032, 0x2032, 0x2032, 0x2032]⟩, ⟨0x205F, 1, 0, [0x20]⟩,
  ⟨0x2070, 1, 0, [0x30]⟩, ⟨0x2071, 1, 0, [0x69]⟩, ⟨0x2074, 6, 0, [0x34]⟩, ⟨0x207A, 1, 0, [0x2B]⟩,
  ⟨0x207B, 1, 0, [0x2212]⟩, ⟨0x207C, 1, 0, [0x3D]⟩, ⟨0x207D, 2, 0, [0x28]⟩,
  ⟨0x207F, 1, 0, [0x6E]⟩, ⟨0x2080, 10, 0, [0x30]⟩, ⟨0x208A, 1, 0, [0x2B]⟩,
  ⟨0x208B, 1, 0, [0x2212]⟩, ⟨0x208C, 1, 0, [0x3D]⟩, ⟨0x208D, 2, 0, [0x28]⟩,
  ⟨0x2090, 1, 0, [0x61]⟩, ⟨0x2091, 1, 0, [0x65]⟩, ⟨0x2092, 1, 0, [0x6F]⟩, ⟨0x2093, 1, 0, [0x78]⟩,
  ⟨0x2094, 1, 0, [0x259]⟩, ⟨0x2095, 1, 0, [0x68]⟩, ⟨0x2096, 4, 0, [0x6B]⟩,
  ⟨0x209A, 1, 0, [0x70]⟩, ⟨0x209B, 2, 0, [0x73]⟩, ⟨0x209D, 1, 0, [0x77]⟩, ⟨0x209E, 2, 0, [0x79]⟩,
  ⟨0x20A8, 1, 0, [0x52, 0x73]⟩, ⟨0x2100, 1, 0, [0x61, 0x2F, 0x63]⟩,
  ⟨0x2101, 1, 0, [0x61, 0x2F, 0x73]⟩, ⟨0x2102, 1, 0, [0x43]⟩, ⟨0x2103, 1, 0, [0xB0, 0x43]⟩,
  ⟨0x2105, 1, 0, [0x63, 0x2F, 0x6F]⟩, ⟨0x2106, 1, 0, [0x63, 0x2F, 0x75]⟩,
  ⟨0x2107, 1, 0, [0x190]⟩, ⟨0x2109, 1, 0, [0xB0, 0x46]⟩, ⟨0x210A, 1, 0, [0x67]⟩,
  ⟨0x210B, 1, 0, [0x48]⟩, ⟨0x210C, 1, 0, [0x48]⟩, ⟨0x210D, 1, 0, [0x48]⟩, ⟨0x210E, 1, 0, [0x68]⟩,
  ⟨0x210F, 1, 0, [0x127]⟩, ⟨0x2110, 1, 0, [0x49]⟩, ⟨0x2111, 1, 0, [0x49]⟩,
  ⟨0x2112, 1, 0, [0x4C]⟩, ⟨0x2113, 1, 0, [0x6C]⟩, ⟨0x2115, 1, 0, [0x4E]⟩,
  ⟨0x2116, 1, 0, [0x4E, 0x6F]⟩, ⟨0x2119, 3, 0, [0x50]⟩, ⟨0x211C, 1, 0, [0x52]⟩,
  ⟨0x211D, 1, 0, [0x52]⟩, ⟨0x2120, 1, 0, [0x53, 0x4D]⟩, ⟨0x2121, 1, 0, [0x54, 0x45, 0x4C]⟩,
  ⟨0x2122, 1, 0, [0x54, 0x4D]⟩, ⟨0x2124, 1, 0, [0x5A]⟩, ⟨0x2126, 1, 0, [0x3A9]⟩,
  ⟨0x2128, 1, 0, [0x5A]⟩, ⟨0x212A, 1, 0, [0x4B]⟩, ⟨0x212B, 1, 0, [0x41, 0x30A]⟩,
  ⟨0x212C, 2, 0, [0x42]⟩, ⟨0x212F, 1, 0, [0x65]⟩, ⟨0x2130, 2, 0, [0x45]⟩, ⟨0x2133, 1, 0, [0x4D]⟩,
  ⟨0x2134, 1, 0, [0x6F]⟩, ⟨0x2135, 4, 0, [0x5D0]⟩, ⟨0x2139, 1, 0, [0x69]⟩,
  ⟨0x213B, 1, 0, [0x46, 0x41, 0x58]⟩, ⟨0x213C, 1, 0, [0x3C0]⟩, ⟨0x213D, 1, 0, [0x3B3]⟩,
  ⟨0x213E, 1, 0, [0x393]⟩, ⟨0x213F, 1, 0, [0x3A0]⟩, ⟨0x2140, 1, 0, [0x2211]⟩,
  ⟨0x2145, 1, 0, [0x44]⟩, ⟨0x2146, 2, 0, [0x64]⟩, ⟨0x2148, 2, 0, [0x69]⟩,
  ⟨0x2150, 1, 0, [0x31, 0x2044, 0x37]⟩, ⟨0x2151, 1, 0, [0x31, 0x2044, 0x39]⟩,
  ⟨0x2152, 1, 0, [0x31, 0x2044, 0x31, 0x30]⟩, ⟨0x2153, 2, 0, [0x31, 0x2044, 0x33]⟩,
  ⟨0x2155, 4, 0, [0x31, 0x2044, 0x35]⟩, ⟨0x2159, 1, 0, [0x31, 0x2044, 0x36]⟩,
  ⟨0x215A, 1, 0, [0x35, 0x2044, 0x36]⟩, ⟨0x215B, 1, 0, [0x31, 0x2044, 0x38]⟩,
  ⟨0x215C, 1, 0, [0x33, 0x2044, 0x38]⟩, ⟨0x215D, 1, 0, [0x35, 0x2044, 0x38]⟩,
  ⟨0x215E, 1, 0, [0x37, 0x2044, 0x38]⟩, ⟨0x215F, 1, 0, [0x31, 0x2044]⟩, ⟨0x2160, 1, 0, [0x49]⟩,
  ⟨0x2161, 1, 0, [0x49, 0x49]⟩, ⟨0x2162, 1, 0, [0x49, 0x49, 0x49]⟩, ⟨0x2163, 1, 0, [0x49, 0x56]⟩,
  ⟨0x2164, 1, 0, [0x56]⟩, ⟨0x2165, 1, 0, [0x56, 0x49]⟩, ⟨0x2166, 1, 0, [0x56, 0x49, 0x49]⟩,
  ⟨0x2167, 1, 0, [0x56, 0x49, 0x49, 0x49]⟩, ⟨0x2168, 1, 0, [0x49, 0x58]⟩, ⟨0x2169, 1, 0, [0x58]⟩,
  ⟨0x216A, 1, 0, [0x58, 0x49]⟩, ⟨0x216B, 1, 0, [0x58, 0x49, 0x49]⟩, ⟨0x216C, 1, 0, [0x4C]⟩,
  ⟨0x216D, 2, 0, [0x43]⟩, ⟨0x216F, 1, 0, [0x4D]⟩, ⟨0x2170, 1, 0, [0x69]⟩,
  ⟨0x2171, 1, 0, [0x69, 0x69]⟩, ⟨0x2172, 1, 0, [0x69, 0x69, 0x69]⟩, ⟨0x2173, 1, 0, [0x69, 0x76]⟩,
  ⟨0x2174, 1, 0, [0x76]⟩, ⟨0x2175, 1, 0, [0x76, 0x69]⟩, ⟨0x2176, 1, 0, [0x76, 0x69, 0x69]⟩,
  ⟨0x2177, 1, 0, [0x76, 0x69, 0x69, 0x69]⟩, ⟨0x2178, 1, 0, [0x69, 0x78]⟩, ⟨0x2179, 1, 0, [0x78]⟩,
  ⟨0x217A, 1, 0, [0x78, 0x69]⟩, ⟨0x217B, 1, 0, [0x78, 0x69, 0x69]⟩, ⟨0x217C, 1, 0, [0x6C]⟩,
  ⟨0x217D, 2, 0, [0x63]⟩, ⟨0x217F, 1, 0, [0x6D]⟩, ⟨0x2189, 1, 0, [0x30, 0x2044, 0x33]⟩,
  ⟨0x219A, 1, 0, [0x2190, 0x338]⟩, ⟨0x219B, 1, 0, [0x2192, 0x338]⟩,
  ⟨0x21AE, 1, 0, [0x2194, 0x338]⟩, ⟨0x21CD, 1, 0, [0x21D0, 0x338]⟩,
  ⟨0x21CE, 1, 0, [0x21D4, 0x338]⟩, ⟨0x21CF, 1, 0, [0x21D2, 0x338]⟩,
  ⟨0x2204, 1, 0, [0x2203, 0x338]⟩, ⟨0x2209, 1, 0, [0x2208, 0x338]⟩,
  ⟨0x220C, 1, 0, [0x220B, 0x338]⟩, ⟨0x2224, 1, 0, [0x2223, 0x338]⟩,
  ⟨0x2226, 1, 0, [0x2225, 0x338]⟩, ⟨0x222C, 1, 0, [0x222B, 0x222B]⟩,
  ⟨0x222D, 1, 0, [0x222B, 0x222B, 0x222B]⟩, ⟨0x222F, 1, 0, [0x222E, 0x222E]⟩,
  ⟨0x2230, 1, 0, [0x222E, 0x222E, 0x222E]⟩, ⟨0x2241, 1, 0, [0x223C, 0x338]⟩,
  ⟨0x2244, 1, 0, [0x2243, 0x338]⟩, ⟨0x2247, 1, 0, [0x2245, 0x338]⟩,
  ⟨0x2249, 1, 0, [0x2248, 0x338]⟩, ⟨0x2260, 1, 0, [0x3D, 0x338]⟩,
  ⟨0x2262, 1, 0, [0x2261, 0x338]⟩, ⟨0x226D, 1, 0, [0x224D, 0x338]⟩,
  ⟨0x226E, 1, 0, [0x3C, 0x338]⟩, ⟨0x226F, 1, 0, [0x3E, 0x338]⟩, ⟨0x2270, 2, 0, [0x2264, 0x338]⟩,
  ⟨0x2274, 2, 0, [0x2272, 0x338]⟩, ⟨0x2278, 2, 0, [0x2276, 0x338]⟩,
  ⟨0x2280, 2, 0, [0x227A, 0x338]⟩, ⟨0x2284, 2, 0, [0x2282, 0x338]⟩,
  ⟨0x2288, 2, 0, [0x2286, 0x338]⟩, ⟨0x22AC, 1, 0, [0x22A2, 0x338]⟩,
  ⟨0x22AD, 2, 0, [0x22A8, 0x338]⟩, ⟨0x22AF, 1, 0, [0x22AB, 0x338]⟩,
  ⟨0x22E0, 2, 0, [0x227C, 0x338]⟩, ⟨0x22E2, 2, 0, [0x2291, 0x338]⟩,
  ⟨0x22EA, 4, 0, [0x22B2, 0x338]⟩, ⟨0x2329, 2, 0, [0x3008]⟩, ⟨0x2460, 9, 0, [0x31]⟩,
  ⟨0x2469, 10, 1, [0x31, 0x30]⟩, ⟨0x2473, 1, 0, [0x32, 0x30]⟩,
  ⟨0x2474, 9, 1, [0x28, 0x31, 0x29]⟩, ⟨0x247D, 10, 2, [0x28, 0x31, 0x30, 0x29]⟩,
  ⟨0x2487, 1, 0, [0x28, 0x32, 0x30, 0x29]⟩, ⟨0x2488, 9, 0, [0x31, 0x2E]⟩,
  ⟨0x2491, 10, 1, [0x31, 0x30, 0x2E]⟩, ⟨0x249B, 1, 0, [0x32, 0x30, 0x2E]⟩,
  ⟨0x249C, 26, 1, [0x28, 0x61, 0x29]⟩, ⟨0x24B6, 26, 0, [0x41]⟩, ⟨0x24D0, 26, 0, [0x61]⟩,
  ⟨0x24EA, 1, 0, [0x30]⟩, ⟨0x2A0C, 1, 0, [0x222B, 0x222B, 0x222B, 0x222B]⟩,
  ⟨0x2A74, 1, 0, [0x3A, 0x3A, 0x3D]⟩, ⟨0x2A75, 1, 0, [0x3D, 0x3D]⟩,
  ⟨0x2A76, 1, 0, [0x3D, 0x3D, 0x3D]⟩, ⟨0x2ADC, 1, 0, [0x2ADD, 0x338]⟩, ⟨0x2C7C, 1, 0, [0x6A]⟩,
  ⟨0x2C7D, 1, 0, [0x56]⟩, ⟨0x2D6F, 1, 0, [0x2D61]⟩, ⟨0x2E9F, 1, 0, [0x6BCD]⟩,
  ⟨0x2EF3, 1, 0, [0x9F9F]⟩, ⟨0x2F00, 1, 0, [0x4E00]⟩, ⟨0x2F01, 1, 0, [0x4E28]⟩,
  ⟨0x2F02, 1, 0, [0x4E36]⟩, ⟨0x2F03, 1, 0, [0x4E3F]⟩, ⟨0x2F04, 1, 0, [0x4E59]⟩,
  ⟨0x2F05, 1, 0, [0x4E85]⟩, ⟨0x2F06, 1, 0, [0x4E8C]⟩, ⟨0x2F07, 1, 0, [0x4EA0]⟩,
  ⟨0x2F08, 1, 0, [0x4EBA]⟩, ⟨0x2F09, 1, 0, [0x513F]⟩, ⟨0x2F0A, 1, 0, [0x5165]⟩,
  ⟨0x2F0B, 1, 0, [0x516B]⟩, ⟨0x2F0C, 1, 0, [0x5182]⟩, ⟨0x2F0D, 1, 0, [0x5196]⟩,
  ⟨0x2F0E, 1, 0, [0x51AB]⟩, ⟨0x2F0F, 1, 0, [0x51E0]⟩, ⟨0x2F10, 1, 0, [0x51F5]⟩,
  ⟨0x2F11, 1, 0, [0x5200]⟩, ⟨0x2F12, 1, 0, [0x529B]⟩, ⟨0x2F13, 1, 0, [0x52F9]⟩,
  ⟨0x2F14, 1, 0, [0x5315]⟩, ⟨0x2F15, 1, 0, [0x531A]⟩, ⟨0x2F16, 1, 0, [0x5338]⟩,
  ⟨0x2F17, 1, 0, [0x5341]⟩, ⟨0x2F18, 1, 0, [0x535C]⟩, ⟨0x2F19, 1, 0, [0x5369]⟩,
  ⟨0x2F1A, 1, 0, [0x5382]⟩, ⟨0x2F1B, 1, 0, [0x53B6]⟩, ⟨0x2F1C, 1, 0, [0x53C8]⟩,
  ⟨0x2F1D, 1, 0, [0x53E3]⟩, ⟨0x2F1E, 1, 0, [0x56D7]⟩, ⟨0x2F1F, 1, 0, [0x571F]⟩,
  ⟨0x2F20, 1, 0, [0x58EB]⟩, ⟨0x2F21, 1, 0, [0x5902]⟩, ⟨0x2F22, 1, 0, [0x590A]⟩,
  ⟨0x2F23, 1, 0, [0x5915]⟩, ⟨0x2F24, 1, 0, [0x5927]⟩, ⟨0x2F25, 1, 0, [0x5973]⟩,
  ⟨0x2F26, 1, 0, [0x5B50]⟩, ⟨0x2F27, 1, 0, [0x5B80]⟩, ⟨0x2F28, 1, 0, [0x5BF8]⟩,
  ⟨0x2F29, 1, 0, [0x5C0F]⟩, ⟨0x2F2A, 1, 0, [0x5C22]⟩, ⟨0x2F2B, 1, 0, [0x5C38]⟩,
  ⟨0x2F2C, 1, 0, [0x5C6E]⟩, ⟨0x2F2D, 1, 0, [0x5C71]⟩, ⟨0x2F2E, 1, 0, [0x5DDB]⟩,
  ⟨0x2F2F, 1, 0, [0x5DE5]⟩, ⟨0x2F30, 1, 0, [0x5DF1]⟩, ⟨0x2F31, 1, 0, [0x5DFE]⟩,
  ⟨0x2F32, 1, 0, [0x5E72]⟩, ⟨0x2F33, 1, 0, [0x5E7A]⟩, ⟨0x2F34, 1, 0, [0x5E7F]⟩,
  ⟨0x2F35, 1, 0, [0x5EF4]⟩, ⟨0x2F36, 1, 0, [0x5EFE]⟩, ⟨0x2F37, 1, 0, [0x5F0B]⟩,
  ⟨0x2F38, 1, 0, [0x5F13]⟩, ⟨0x2F39, 1, 0, [0x5F50]⟩, ⟨0x2F3A, 1, 0, [0x5F61]⟩,
  ⟨0x2F3B, 1, 0, [0x5F73]⟩, ⟨0x2F3C, 1, 0, [0x5FC3]⟩, ⟨0x2F3D, 1, 0, [0x6208]⟩,
  ⟨0x2F3E, 1, 0, [0x6236]⟩, ⟨0x2F3F, 1, 0, [0x624B]⟩, ⟨0x2F40, 1, 0, [0x652F]⟩,
  ⟨0x2F41, 1, 0, [0x6534]⟩, ⟨0x2F42, 1, 0, [0x6587]⟩, ⟨0x2F43, 1, 0, [0x6597]⟩,
  ⟨0x2F44, 1, 0, [0x65A4]⟩, ⟨0x2F45, 1, 0, [0x65B9]⟩, ⟨0x2F46, 1, 0, [0x65E0]⟩,
  ⟨0x2F47, 1, 0, [0x65E5]⟩, ⟨0x2F48, 1, 0, [0x66F0]⟩, ⟨0x2F49, 1, 0, [0x6708]⟩,
  ⟨0x2F4A, 1, 0, [0x6728]⟩, ⟨0x2F4B, 1, 0, [0x6B20]⟩, ⟨0x2F4C, 1, 0, [0x6B62]⟩,
  ⟨0x2F4D, 1, 0, [0x6B79]⟩, ⟨0x2F4E, 1, 0, [0x6BB3]⟩, ⟨0x2F4F, 1, 0, [0x6BCB]⟩,
  ⟨0x2F50, 1, 0, [0x6BD4]⟩, ⟨0x2F51, 1, 0, [0x6BDB]⟩, ⟨0x2F52, 1, 0, [0x6C0F]⟩,
  ⟨0x2F53, 1, 0, [0x6C14]⟩, ⟨0x2F54, 1, 0, [0x6C34]⟩, ⟨0x2F55, 1, 0, [0x706B]⟩,
  ⟨0x2F56, 1, 0, [0x722A]⟩, ⟨0x2F57, 1, 0, [0x7236]⟩, ⟨0x2F58, 1, 0, [0x723B]⟩,
  ⟨0x2F59, 1, 0, [0x723F]⟩, ⟨0x2F5A, 1, 0, [0x7247]⟩, ⟨0x2F5B, 1, 0, [0x7259]⟩,
  ⟨0x2F5C, 1, 0, [0x725B]⟩, ⟨0x2F5D, 1, 0, [0x72AC]⟩, ⟨0x2F5E, 1, 0, [0x7384]⟩,
  ⟨0x2F5F, 1, 0, [0x7389]⟩, ⟨0x2F60, 1, 0, [0x74DC]⟩, ⟨0x2F61, 1, 0, [0x74E6]⟩,
  ⟨0x2F62, 1, 0, [0x7518]⟩, ⟨0x2F63, 1, 0, [0x751F]⟩, ⟨0x2F64, 1, 0, [0x7528]⟩,
  ⟨0x2F65, 1, 0, [0x7530]⟩, ⟨0x2F66, 1, 0, [0x758B]⟩, ⟨0x2F67, 1, 0, [0x7592]⟩,
  ⟨0x2F68, 1, 0, [0x7676]⟩, ⟨0x2F69, 1, 0, [0x767D]⟩, ⟨0x2F6A, 1, 0, [0x76AE]⟩,
  ⟨0x2F6B, 1, 0, [0x76BF]⟩, ⟨0x2F6C, 1, 0, [0x76EE]⟩, ⟨0x2F6D, 1, 0, [0x77DB]⟩,
  ⟨0x2F6E, 1, 0, [0x77E2]⟩, ⟨0x2F6F, 1, 0, [0x77F3]⟩, ⟨0x2F70, 1, 0, [0x793A]⟩,
  ⟨0x2F71, 1, 0, [0x79B8]⟩, ⟨0x2F72, 1, 0, [0x79BE]⟩, ⟨0x2F73, 1, 0, [0x7A74]⟩,
  ⟨0x2F74, 1, 0, [0x7ACB]⟩, ⟨0x2F75, 1, 0, [0x7AF9]⟩, ⟨0x2F76, 1, 0, [0x7C73]⟩,
  ⟨0x2F77, 1, 0, [0x7CF8]⟩, ⟨0x2F78, 1, 0, [0x7F36]⟩, ⟨0x2F79, 1, 0, [0x7F51]⟩,
  ⟨0x2F7A, 1, 0, [0x7F8A]⟩, ⟨0x2F7B, 1, 0, [0x7FBD]⟩, ⟨0x2F7C, 1, 0, [0x8001]⟩,
  ⟨0x2F7D, 1, 0, [0x800C]⟩, ⟨0x2F7E, 1, 0, [0x8012]⟩, ⟨0x2F7F, 1, 0, [0x8033]⟩,
  ⟨0x2F80, 1, 0, [0x807F]⟩, ⟨0x2F81, 1, 0, [0x8089]⟩, ⟨0x2F82, 1, 0, [0x81E3]⟩,
  ⟨0x2F83, 1, 0, [0x81EA]⟩, ⟨0x2F84, 1, 0, [0x81F3]⟩, ⟨0x2F85, 1, 0, [0x81FC]⟩,
  ⟨0x2F86, 1, 0, [0x820C]⟩, ⟨0x2F87, 1, 0, [0x821B]⟩, ⟨0x2F88, 1, 0, [0x821F]⟩,
  ⟨0x2F89, 1, 0, [0x826E]⟩, ⟨0x2F8A, 1, 0, [0x8272]⟩, ⟨0x2F8B, 1, 0, [0x8278]⟩,
  ⟨0x2F8C, 1, 0, [0x864D]⟩, ⟨0x2F8D, 1, 0, [0x866B]⟩, ⟨0x2F8E, 1, 0, [0x8840]⟩,
  ⟨0x2F8F, 1, 0, [0x884C]⟩, ⟨0x2F90, 1, 0, [0x8863]⟩, ⟨0x2F91, 1, 0, [0x897E]⟩,
  ⟨0x2F92, 1, 0, [0x898B]⟩, ⟨0x2F93, 1, 0, [0x89D2]⟩, ⟨0x2F94, 1, 0, [0x8A00]⟩,
  ⟨0x2F95, 1, 0, [0x8C37]⟩, ⟨0x2F96, 1, 0, [0x8C46]⟩, ⟨0x2F97, 1, 0, [0x8C55]⟩,
  ⟨0x2F98, 1, 0, [0x8C78]⟩, ⟨0x2F99, 1, 0, [0x8C9D]⟩, ⟨0x2F9A, 1, 0, [0x8D64]⟩,
  ⟨0x2F9B, 1, 0, [0x8D70]⟩, ⟨0x2F9C, 1, 0, [0x8DB3]⟩, ⟨0x2F9D, 1, 0, [0x8EAB]⟩,
  ⟨0x2F9E, 1, 0, [0x8ECA]⟩, ⟨0x2F9F, 1, 0, [0x8F9B]⟩, ⟨0x2FA0, 1, 0, [0x8FB0]⟩,
  ⟨0x2FA1, 1, 0, [0x8FB5]⟩, ⟨0x2FA2, 1, 0, [0x9091]⟩, ⟨0x2FA3, 1, 0, [0x9149]⟩,
  ⟨0x2FA4, 1, 0, [0x91C6]⟩, ⟨0x2FA5, 1, 0, [0x91CC]⟩, ⟨0x2FA6, 1, 0, [0x91D1]⟩,
  ⟨0x2FA7, 1, 0, [0x9577]⟩, ⟨0x2FA8, 1, 0, [0x9580]⟩, ⟨0x2FA9, 1, 0, [0x961C]⟩,
  ⟨0x2FAA, 1, 0, [0x96B6]⟩, ⟨0x2FAB, 1, 0, [0x96B9]⟩, ⟨0x2FAC, 1, 0, [0x96E8]⟩,
  ⟨0x2FAD, 1, 0, [0x9751]⟩, ⟨0x2FAE, 1, 0, [0x975E]⟩, ⟨0x2FAF, 1, 0, [0x9762]⟩,
  ⟨0x2FB0, 1, 0, [0x9769]⟩, ⟨0x2FB1, 1, 0, [0x97CB]⟩, ⟨0x2FB2, 1, 0, [0x97ED]⟩,
  ⟨0x2FB3, 1, 0, [0x97F3]⟩, ⟨0x2FB4, 1, 0, [0x9801]⟩, ⟨0x2FB5, 1, 0, [0x98A8]⟩,
  ⟨0x2FB6, 1, 0, [0x98DB]⟩, ⟨0x2FB7, 1, 0, [0x98DF]⟩, ⟨0x2FB8, 1, 0, [0x9996]⟩,
  ⟨0x2FB9, 1, 0, [0x9999]⟩, ⟨0x2FBA, 1, 0, [0x99AC]⟩, ⟨0x2FBB, 1, 0, [0x9AA8]⟩,
  ⟨0x2FBC, 1, 0, [0x9AD8]⟩, ⟨0x2FBD, 1, 0, [0x9ADF]⟩, ⟨0x2FBE, 1, 0, [0x9B25]⟩,
  ⟨0x2FBF, 1, 0, [0x9B2F]⟩, ⟨0x2FC0, 1, 0, [0x9B32]⟩, ⟨0x2FC1, 1, 0, [0x9B3C]⟩,
  ⟨0x2FC2, 1, 0, [0x9B5A]⟩, ⟨0x2FC3, 1, 0, [0x9CE5]⟩, ⟨0x2FC4, 1, 0, [0x9E75]⟩]

/-- Runs of punctuation, number forms, symbols and enclosed characters from U+2000 to U+F8FF, part 2. -/
def symbolsRunsB : List Run := [
  ⟨0x2FC5, 1, 0, [0x9E7F]⟩, ⟨0x2FC6, 1, 0, [0x9EA5]⟩, ⟨0x2FC7, 1, 0, [0x9EBB]⟩,
  ⟨0x2FC8, 1, 0, [0x9EC3]⟩, ⟨0x2FC9, 1, 0, [0x9ECD]⟩, ⟨0x2FCA, 1, 0, [0x9ED1]⟩,
  ⟨0x2FCB, 1, 0, [0x9EF9]⟩, ⟨0x2FCC, 1, 0, [0x9EFD]⟩, ⟨0x2FCD, 1, 0, [0x9F0E]⟩,
  ⟨0x2FCE, 1, 0, [0x9F13]⟩, ⟨0x2FCF, 1, 0, [0x9F20]⟩, ⟨0x2FD0, 1, 0, [0x9F3B]⟩,
  ⟨0x2FD1, 1, 0, [0x9F4A]⟩, ⟨0x2FD2, 1, 0, [0x9F52]⟩, ⟨0x2FD3, 1, 0, [0x9F8D]⟩,
  ⟨0x2FD4, 1, 0, [0x9F9C]⟩, ⟨0x2FD5, 1, 0, [0x9FA0]⟩, ⟨0x3000, 1, 0, [0x20]⟩,
  ⟨0x3036, 1, 0, [0x3012]⟩, ⟨0x3038, 1, 0, [0x5341]⟩, ⟨0x3039, 2, 0, [0x5344]⟩,
  ⟨0x304C, 1, 0, [0x304B, 0x3099]⟩, ⟨0x304E, 1, 0, [0x304D, 0x3099]⟩,
  ⟨0x3050, 1, 0, [0x304F, 0x3099]⟩, ⟨0x3052, 1, 0, [0x3051, 0x3099]⟩,
  ⟨0x3054, 1, 0, [0x3053, 0x3099]⟩, ⟨0x3056, 1, 0, [0x3055, 0x3099]⟩,
  ⟨0x3058, 1, 0, [0x3057, 0x3099]⟩, ⟨0x305A, 1, 0, [0x3059, 0x3099]⟩,
  ⟨0x305C, 1, 0, [0x305B, 0x3099]⟩, ⟨0x305E, 1, 0, [0x305D, 0x3099]⟩,
  ⟨0x3060, 1, 0, [0x305F, 0x3099]⟩, ⟨0x3062, 1, 0, [0x3061, 0x3099]⟩,
  ⟨0x3065, 1, 0, [0x3064, 0x3099]⟩, ⟨0x3067, 1, 0, [0x3066, 0x3099]⟩,
  ⟨0x3069, 1, 0, [0x3068, 0x3099]⟩, ⟨0x3070, 2, 1, [0x306F, 0x3099]⟩,
  ⟨0x3073, 2, 1, [0x3072, 0x3099]⟩, ⟨0x3076, 2, 1, [0x3075, 0x3099]⟩,
  ⟨0x3079, 2, 1, [0x3078, 0x3099]⟩, ⟨0x307C, 2, 1, [0x307B, 0x3099]⟩,
  ⟨0x3094, 1, 0, [0x3046, 0x3099]⟩, ⟨0x309B, 2, 1, [0x20, 0x3099]⟩,
  ⟨0x309E, 1, 0, [0x309D, 0x3099]⟩, ⟨0x309F, 1, 0, [0x3088, 0x308A]⟩,
  ⟨0x30AC, 1, 0, [0x30AB, 0x3099]⟩, ⟨0x30AE, 1, 0, [0x30AD, 0x3099]⟩,
  ⟨0x30B0, 1, 0, [0x30AF, 0x3099]⟩, ⟨0x30B2, 1, 0, [0x30B1, 0x3099]⟩,
  ⟨0x30B4, 1, 0, [0x30B3, 0x3099]⟩, ⟨0x30B6, 1, 0, [0x30B5, 0x3099]⟩,
  ⟨0x30B8, 1, 0, [0x30B7, 0x3099]⟩, ⟨0x30BA, 1, 0, [0x30B9, 0x3099]⟩,
  ⟨0x30BC, 1, 0, [0x30BB, 0x3099]⟩, ⟨0x30BE, 1, 0, [0x30BD, 0x3099]⟩,
  ⟨0x30C0, 1, 0, [0x30BF, 0x3099]⟩, ⟨0x30C2, 1, 0, [0x30C1, 0x3099]⟩,
  ⟨0x30C5, 1, 0, [0x30C4, 0x3099]⟩, ⟨0x30C7, 1, 0, [0x30C6, 0x3099]⟩,
  ⟨0x30C9, 1, 0, [0x30C8, 0x3099]⟩, ⟨0x30D0, 2, 1, [0x30CF, 0x3099]⟩,
  ⟨0x30D3, 2, 1, [0x30D2, 0x3099]⟩, ⟨0x30D6, 2, 1, [0x30D5, 0x3099]⟩,
  ⟨0x30D9, 2, 1, [0x30D8, 0x3099]⟩, ⟨0x30DC, 2, 1, [0x30DB, 0x3099]⟩,
  ⟨0x30F4, 1, 0, [0x30A6, 0x3099]⟩, ⟨0x30F7, 4, 0, [0x30EF, 0x3099]⟩,
  ⟨0x30FE, 1, 0, [0x30FD, 0x3099]⟩, ⟨0x30FF, 1, 0, [0x30B3, 0x30C8]⟩, ⟨0x3131, 2, 0, [0x1100]⟩,
  ⟨0x3133, 1, 0, [0x11AA]⟩, ⟨0x3134, 1, 0, [0x1102]⟩, ⟨0x3135, 2, 0, [0x11AC]⟩,
  ⟨0x3137, 3, 0, [0x1103]⟩, ⟨0x313A, 6, 0, [0x11B0]⟩, ⟨0x3140, 1, 0, [0x111A]⟩,
  ⟨0x3141, 3, 0, [0x1106]⟩, ⟨0x3144, 1, 0, [0x1121]⟩, ⟨0x3145, 10, 0, [0x1109]⟩,
  ⟨0x314F, 21, 0, [0x1161]⟩, ⟨0x3164, 1, 0, [0x1160]⟩, ⟨0x3165, 2, 0, [0x1114]⟩,
  ⟨0x3167, 2, 0, [0x11C7]⟩, ⟨0x3169, 1, 0, [0x11CC]⟩, ⟨0x316A, 1, 0, [0x11CE]⟩,
  ⟨0x316B, 1, 0, [0x11D3]⟩, ⟨0x316C, 1, 0, [0x11D7]⟩, ⟨0x316D, 1, 0, [0x11D9]⟩,
  ⟨0x316E, 1, 0, [0x111C]⟩, ⟨0x316F, 1, 0, [0x11DD]⟩, ⟨0x3170, 1, 0, [0x11DF]⟩,
  ⟨0x3171, 2, 0, [0x111D]⟩, ⟨0x3173, 1, 0, [0x1120]⟩, ⟨0x3174, 2, 0, [0x1122]⟩,
  ⟨0x3176, 1, 0, [0x1127]⟩, ⟨0x3177, 1, 0, [0x1129]⟩, ⟨0x3178, 5, 0, [0x112B]⟩,
  ⟨0x317D, 1, 0, [0x1132]⟩, ⟨0x317E, 1, 0, [0x1136]⟩, ⟨0x317F, 1, 0, [0x1140]⟩,
  ⟨0x3180, 1, 0, [0x1147]⟩, ⟨0x3181, 1, 0, [0x114C]⟩, ⟨0x3182, 2, 0, [0x11F1]⟩,
  ⟨0x3184, 3, 0, [0x1157]⟩, ⟨0x3187, 2, 0, [0x1184]⟩, ⟨0x3189, 1, 0, [0x1188]⟩,
  ⟨0x318A, 2, 0, [0x1191]⟩, ⟨0x318C, 1, 0, [0x1194]⟩, ⟨0x318D, 1, 0, [0x119E]⟩,
  ⟨0x318E, 1, 0, [0x11A1]⟩, ⟨0x3192, 1, 0, [0x4E00]⟩, ⟨0x3193, 1, 0, [0x4E8C]⟩,
  ⟨0x3194, 1, 0, [0x4E09]⟩, ⟨0x3195, 1, 0, [0x56DB]⟩, ⟨0x3196, 1, 0, [0x4E0A]⟩,
  ⟨0x3197, 1, 0, [0x4E2D]⟩, ⟨0x3198, 1, 0, [0x4E0B]⟩, ⟨0x3199, 1, 0, [0x7532]⟩,
  ⟨0x319A, 1, 0, [0x4E59]⟩, ⟨0x319B, 1, 0, [0x4E19]⟩, ⟨0x319C, 1, 0, [0x4E01]⟩,
  ⟨0x319D, 1, 0, [0x5929]⟩, ⟨0x319E, 1, 0, [0x5730]⟩, ⟨0x319F, 1, 0, [0x4EBA]⟩,
  ⟨0x3200, 1, 0, [0x28, 0x1100, 0x29]⟩, ⟨0x3201, 2, 1, [0x28, 0x1102, 0x29]⟩,
  ⟨0x3203, 3, 1, [0x28, 0x1105, 0x29]⟩, ⟨0x3206, 1, 0, [0x28, 0x1109, 0x29]⟩,
  ⟨0x3207, 2, 1, [0x28, 0x110B, 0x29]⟩, ⟨0x3209, 5, 1, [0x28, 0x110E, 0x29]⟩,
  ⟨0x320E, 1, 0, [0x28, 0x1100, 0x1161, 0x29]⟩, ⟨0x320F, 2, 1, [0x28, 0x1102, 0x1161, 0x29]⟩,
  ⟨0x3211, 3, 1, [0x28, 0x1105, 0x1161, 0x29]⟩, ⟨0x3214, 1, 0, [0x28, 0x1109, 0x1161, 0x29]⟩,
  ⟨0x3215, 2, 1, [0x28, 0x110B, 0x1161, 0x29]⟩, ⟨0x3217, 5, 1, [0x28, 0x110E, 0x1161, 0x29]⟩,
  ⟨0x321C, 1, 0, [0x28, 0x110C, 0x116E, 0x29]⟩,
  ⟨0x321D, 1, 0, [0x28, 0x110B, 0x1169, 0x110C, 0x1165, 0x11AB, 0x29]⟩,
  ⟨0x321E, 1, 0, [0x28, 0x110B, 0x1169, 0x1112, 0x116E, 0x29]⟩,
  ⟨0x3220, 1, 0, [0x28, 0x4E00, 0x29]⟩, ⟨0x3221, 1, 0, [0x28, 0x4E8C, 0x29]⟩,
  ⟨0x3222, 1, 0, [0x28, 0x4E09, 0x29]⟩, ⟨0x3223, 1, 0, [0x28, 0x56DB, 0x29]⟩,
  ⟨0x3224, 1, 0, [0x28, 0x4E94, 0x29]⟩, ⟨0x3225, 1, 0, [0x28, 0x516D, 0x29]⟩,
  ⟨0x3226, 1, 0, [0x28, 0x4E03, 0x29]⟩, ⟨0x3227, 1, 0, [0x28, 0x516B, 0x29]⟩,
  ⟨0x3228, 1, 0, [0x28, 0x4E5D, 0x29]⟩, ⟨0x3229, 1, 0, [0x28, 0x5341, 0x29]⟩,
  ⟨0x322A, 1, 0, [0x28, 0x6708, 0x29]⟩, ⟨0x322B, 1, 0, [0x28, 0x706B, 0x29]⟩,
  ⟨0x322C, 1, 0, [0x28, 0x6C34, 0x29]⟩, ⟨0x322D, 1, 0, [0x28, 0x6728, 0x29]⟩,
  ⟨0x322E, 1, 0, [0x28, 0x91D1, 0x29]⟩, ⟨0x322F, 1, 0, [0x28, 0x571F, 0x29]⟩,
  ⟨0x3230, 1, 0, [0x28, 0x65E5, 0x29]⟩, ⟨0x3231, 1, 0, [0x28, 0x682A, 0x29]⟩,
  ⟨0x3232, 1, 0, [0x28, 0x6709, 0x29]⟩, ⟨0x3233, 1, 0, [0x28, 0x793E, 0x29]⟩,
  ⟨0x3234, 1, 0, [0x28, 0x540D, 0x29]⟩, ⟨0x3235, 1, 0, [0x28, 0x7279, 0x29]⟩,
  ⟨0x3236, 1, 0, [0x28, 0x8CA1, 0x29]⟩, ⟨0x3237, 1, 0, [0x28, 0x795D, 0x29]⟩,
  ⟨0x3238, 1, 0, [0x28, 0x52B4, 0x29]⟩, ⟨0x3239, 1, 0, [0x28, 0x4EE3, 0x29]⟩,
  ⟨0x323A, 1, 0, [0x28, 0x547C, 0x29]⟩, ⟨0x323B, 1, 0, [0x28, 0x5B66, 0x29]⟩,
  ⟨0x323C, 1, 0, [0x28, 0x76E3, 0x29]⟩, ⟨0x323D, 1, 0, [0x28, 0x4F01, 0x29]⟩,
  ⟨0x323E, 1, 0, [0x28, 0x8CC7, 0x29]⟩, ⟨0x323F, 1, 0, [0x28, 0x5354, 0x29]⟩,
  ⟨0x3240, 1, 0, [0x28, 0x796D, 0x29]⟩, ⟨0x3241, 1, 0, [0x28, 0x4F11, 0x29]⟩,
  ⟨0x3242, 1, 0, [0x28, 0x81EA, 0x29]⟩, ⟨0x3243, 1, 0, [0x28, 0x81F3, 0x29]⟩,
  ⟨0x3244, 1, 0, [0x554F]⟩, ⟨0x3245, 1, 0, [0x5E7C]⟩, ⟨0x3246, 1, 0, [0x6587]⟩,
  ⟨0x3247, 1, 0, [0x7B8F]⟩, ⟨0x3250, 1, 0, [0x50, 0x54, 0x45]⟩, ⟨0x3251, 9, 1, [0x32, 0x31]⟩,
  ⟨0x325A, 6, 1, [0x33, 0x30]⟩, ⟨0x3260, 1, 0, [0x1100]⟩, ⟨0x3261, 2, 0, [0x1102]⟩,
  ⟨0x3263, 3, 0, [0x1105]⟩, ⟨0x3266, 1, 0, [0x1109]⟩, ⟨0x3267, 2, 0, [0x110B]⟩,
  ⟨0x3269, 5, 0, [0x110E]⟩, ⟨0x326E, 1, 0, [0x1100, 0x1161]⟩, ⟨0x326F, 2, 0, [0x1102, 0x1161]⟩,
  ⟨0x3271, 3, 0, [0x1105, 0x1161]⟩, ⟨0x3274, 1, 0, [0x1109, 0x1161]⟩,
  ⟨0x3275, 2, 0, [0x110B, 0x1161]⟩, ⟨0x3277, 5, 0, [0x110E, 0x1161]⟩,
  ⟨0x327C, 1, 0, [0x110E, 0x1161, 0x11B7, 0x1100, 0x1169]⟩,
  ⟨0x327D, 1, 0, [0x110C, 0x116E, 0x110B, 0x1174]⟩, ⟨0x327E, 1, 0, [0x110B, 0x116E]⟩,
  ⟨0x3280, 1, 0, [0x4E00]⟩, ⟨0x3281, 1, 0, [0x4E8C]⟩, ⟨0x3282, 1, 0, [0x4E09]⟩,
  ⟨0x3283, 1, 0, [0x56DB]⟩, ⟨0x3284, 1, 0, [0x4E94]⟩, ⟨0x3285, 1, 0, [0x516D]⟩,
  ⟨0x3286, 1, 0, [0x4E03]⟩, ⟨0x3287, 1, 0, [0x516B]⟩, ⟨0x3288, 1, 0, [0x4E5D]⟩,
  ⟨0x3289, 1, 0, [0x5341]⟩, ⟨0x328A, 1, 0, [0x6708]⟩, ⟨0x328B, 1, 0, [0x706B]⟩,
  ⟨0x328C, 1, 0, [0x6C34]⟩, ⟨0x328D, 1, 0, [0x6728]⟩, ⟨0x328E, 1, 0, [0x91D1]⟩,
  ⟨0x328F, 1, 0, [0x571F]⟩, ⟨0x3290, 1, 0, [0x65E5]⟩, ⟨0x3291, 1, 0, [0x682A]⟩,
  ⟨0x3292, 1, 0, [0x6709]⟩, ⟨0x3293, 1, 0, [0x793E]⟩, ⟨0x3294, 1, 0, [0x540D]⟩,
  ⟨0x3295, 1, 0, [0x7279]⟩, ⟨0x3296, 1, 0, [0x8CA1]⟩, ⟨0x3297, 1, 0, [0x795D]⟩,
  ⟨0x3298, 1, 0, [0x52B4]⟩, ⟨0x3299, 1, 0, [0x79D8]⟩, ⟨0x329A, 1, 0, [0x7537]⟩,
  ⟨0x329B, 1, 0, [0x5973]⟩, ⟨0x329C, 1, 0, [0x9069]⟩, ⟨0x329D, 1, 0, [0x512A]⟩,
  ⟨0x329E, 1, 0, [0x5370]⟩, ⟨0x329F, 1, 0, [0x6CE8]⟩, ⟨0x32A0, 1, 0, [0x9805]⟩,
  ⟨0x32A1, 1, 0, [0x4F11]⟩, ⟨0x32A2, 1, 0, [0x5199]⟩, ⟨0x32A3, 1, 0, [0x6B63]⟩,
  ⟨0x32A4, 1, 0, [0x4E0A]⟩, ⟨0x32A5, 1, 0, [0x4E2D]⟩, ⟨0x32A6, 1, 0, [0x4E0B]⟩,
  ⟨0x32A7, 1, 0, [0x5DE6]⟩, ⟨0x32A8, 1, 0, [0x53F3]⟩, ⟨0x32A9, 1, 0, [0x533B]⟩,
  ⟨0x32AA, 1, 0, [0x5B97]⟩, ⟨0x32AB, 1, 0, [0x5B66]⟩, ⟨0x32AC, 1, 0, [0x76E3]⟩,
  ⟨0x32AD, 1, 0, [0x4F01]⟩, ⟨0x32AE, 1, 0, [0x8CC7]⟩, ⟨0x32AF, 1, 0, [0x5354]⟩,
  ⟨0x32B0, 1, 0, [0x591C]⟩, ⟨0x32B1, 4, 1, [0x33, 0x36]⟩, ⟨0x32B5, 10, 1, [0x34, 0x30]⟩,
  ⟨0x32BF, 1, 0, [0x35, 0x30]⟩, ⟨0x32C0, 9, 0, [0x31, 0x6708]⟩,
  ⟨0x32C9, 3, 1, [0x31, 0x30, 0x6708]⟩, ⟨0x32CC, 1, 0, [0x48, 0x67]⟩,
  ⟨0x32CD, 1, 0, [0x65, 0x72, 0x67]⟩, ⟨0x32CE, 1, 0, [0x65, 0x56]⟩,
  ⟨0x32CF, 1, 0, [0x4C, 0x54, 0x44]⟩, ⟨0x32D0, 1, 0, [0x30A2]⟩, ⟨0x32D1, 1, 0, [0x30A4]⟩,
  ⟨0x32D2, 1, 0, [0x30A6]⟩, ⟨0x32D3, 1, 0, [0x30A8]⟩, ⟨0x32D4, 2, 0, [0x30AA]⟩,
  ⟨0x32D6, 1, 0, [0x30AD]⟩, ⟨0x32D7, 1, 0, [0x30AF]⟩, ⟨0x32D8, 1, 0, [0x30B1]⟩,
  ⟨0x32D9, 1, 0, [0x30B3]⟩, ⟨0x32DA, 1, 0, [0x30B5]⟩, ⟨0x32DB, 1, 0, [0x30B7]⟩,
  ⟨0x32DC, 1, 0, [0x30B9]⟩, ⟨0x32DD, 1, 0, [0x30BB]⟩, ⟨0x32DE, 1, 0, [0x30BD]⟩,
  ⟨0x32DF, 1, 0, [0x30BF]⟩, ⟨0x32E0, 1, 0, [0x30C1]⟩, ⟨0x32E1, 1, 0, [0x30C4]⟩,
  ⟨0x32E2, 1, 0, [0x30C6]⟩, ⟨0x32E3, 1, 0, [0x30C8]⟩, ⟨0x32E4, 6, 0, [0x30CA]⟩,
  ⟨0x32EA, 1, 0, [0x30D2]⟩, ⟨0x32EB, 1, 0, [0x30D5]⟩, ⟨0x32EC, 1, 0, [0x30D8]⟩,
  ⟨0x32ED, 1, 0, [0x30DB]⟩, ⟨0x32EE, 5, 0, [0x30DE]⟩, ⟨0x32F3, 1, 0, [0x30E4]⟩,
  ⟨0x32F4, 1, 0, [0x30E6]⟩, ⟨0x32F5, 6, 0, [0x30E8]⟩, ⟨0x32FB, 4, 0, [0x30EF]⟩,
  ⟨0x32FF, 1, 0, [0x4EE4, 0x548C]⟩, ⟨0x3300, 1, 0, [0x30A2, 0x30CF, 0x309A, 0x30FC, 0x30C8]⟩,
  ⟨0x3301, 1, 0, [0x30A2, 0x30EB, 0x30D5, 0x30A1]⟩,
  ⟨0x3302, 1, 0, [0x30A2, 0x30F3, 0x30D8, 0x309A, 0x30A2]⟩,
  ⟨0x3303, 1, 0, [0x30A2, 0x30FC, 0x30EB]⟩,
  ⟨0x3304, 1, 0, [0x30A4, 0x30CB, 0x30F3, 0x30AF, 0x3099]⟩,
  ⟨0x3305, 1, 0, [0x30A4, 0x30F3, 0x30C1]⟩, ⟨0x3306, 1, 0, [0x30A6, 0x30A9, 0x30F3]⟩,
  ⟨0x3307, 1, 0, [0x30A8, 0x30B9, 0x30AF, 0x30FC, 0x30C8, 0x3099]⟩,
  ⟨0x3308, 1, 0, [0x30A8, 0x30FC, 0x30AB, 0x30FC]⟩, ⟨0x3309, 1, 0, [0x30AA, 0x30F3, 0x30B9]⟩,
  ⟨0x330A, 1, 0, [0x30AA, 0x30FC, 0x30E0]⟩, ⟨0x330B, 1, 0, [0x30AB, 0x30A4, 0x30EA]⟩,
  ⟨0x330C, 1, 0, [0x30AB, 0x30E9, 0x30C3, 0x30C8]⟩,
  ⟨0x330D, 1, 0, [0x30AB, 0x30ED, 0x30EA, 0x30FC]⟩,
  ⟨0x330E, 1, 0, [0x30AB, 0x3099, 0x30ED, 0x30F3]⟩,
  ⟨0x330F, 1, 0, [0x30AB, 0x3099, 0x30F3, 0x30DE]⟩,
  ⟨0x3310, 1, 0, [0x30AD, 0x3099, 0x30AB, 0x3099]⟩,
  ⟨0x3311, 1, 0, [0x30AD, 0x3099, 0x30CB, 0x30FC]⟩,
  ⟨0x3312, 1, 0, [0x30AD, 0x30E5, 0x30EA, 0x30FC]⟩,
  ⟨0x3313, 1, 0, [0x30AD, 0x3099, 0x30EB, 0x30BF, 0x3099, 0x30FC]⟩,
  ⟨0x3314, 1, 0, [0x30AD, 0x30ED]⟩,
  ⟨0x3315, 1, 0, [0x30AD, 0x30ED, 0x30AF, 0x3099, 0x30E9, 0x30E0]⟩,
  ⟨0x3316, 1, 0, [0x30AD, 0x30ED, 0x30E1, 0x30FC, 0x30C8, 0x30EB]⟩,
  ⟨0x3317, 1, 0, [0x30AD, 0x30ED, 0x30EF, 0x30C3, 0x30C8]⟩,
  ⟨0x3318, 1, 0, [0x30AF, 0x3099, 0x30E9, 0x30E0]⟩,
  ⟨0x3319, 1, 0, [0x30AF, 0x3099, 0x30E9, 0x30E0, 0x30C8, 0x30F3]⟩,
  ⟨0x331A, 1, 0, [0x30AF, 0x30EB, 0x30BB, 0x3099, 0x30A4, 0x30ED]⟩,
  ⟨0x331B, 1, 0, [0x30AF, 0x30ED, 0x30FC, 0x30CD]⟩, ⟨0x331C, 1, 0, [0x30B1, 0x30FC, 0x30B9]⟩,
  ⟨0x331D, 1, 0, [0x30B3, 0x30EB, 0x30CA]⟩, ⟨0x331E, 1, 0, [0x30B3, 0x30FC, 0x30DB, 0x309A]⟩,
  ⟨0x331F, 1, 0, [0x30B5, 0x30A4, 0x30AF, 0x30EB]⟩,
  ⟨0x3320, 1, 0, [0x30B5, 0x30F3, 0x30C1, 0x30FC, 0x30E0]⟩,
  ⟨0x3321, 1, 0, [0x30B7, 0x30EA, 0x30F3, 0x30AF, 0x3099]⟩,
  ⟨0x3322, 1, 0, [0x30BB, 0x30F3, 0x30C1]⟩, ⟨0x3323, 1, 0, [0x30BB, 0x30F3, 0x30C8]⟩,
  ⟨0x3324, 1, 0, [0x30BF, 0x3099, 0x30FC, 0x30B9]⟩, ⟨0x3325, 1, 0, [0x30C6, 0x3099, 0x30B7]⟩,
  ⟨0x3326, 1, 0, [0x30C8, 0x3099, 0x30EB]⟩, ⟨0x3327, 1, 0, [0x30C8, 0x30F3]⟩,
  ⟨0x3328, 1, 0, [0x30CA, 0x30CE]⟩, ⟨0x3329, 1, 0, [0x30CE, 0x30C3, 0x30C8]⟩,
  ⟨0x332A, 1, 0, [0x30CF, 0x30A4, 0x30C4]⟩,
  ⟨0x332B, 1, 0, [0x30CF, 0x309A, 0x30FC, 0x30BB, 0x30F3, 0x30C8]⟩,
  ⟨0x332C, 1, 0, [0x30CF, 0x309A, 0x30FC, 0x30C4]⟩,
  ⟨0x332D, 1, 0, [0x30CF, 0x3099, 0x30FC, 0x30EC, 0x30EB]⟩,
  ⟨0x332E, 1, 0, [0x30D2, 0x309A, 0x30A2, 0x30B9, 0x30C8, 0x30EB]⟩,
  ⟨0x332F, 1, 0, [0x30D2, 0x309A, 0x30AF, 0x30EB]⟩, ⟨0x3330, 1, 0, [0x30D2, 0x309A, 0x30B3]⟩,
  ⟨0x3331, 1, 0, [0x30D2, 0x3099, 0x30EB]⟩,
  ⟨0x3332, 1, 0, [0x30D5, 0x30A1, 0x30E9, 0x30C3, 0x30C8, 0x3099]⟩,
  ⟨0x3333, 1, 0, [0x30D5, 0x30A3, 0x30FC, 0x30C8]⟩,
  ⟨0x3334, 1, 0, [0x30D5, 0x3099, 0x30C3, 0x30B7, 0x30A7, 0x30EB]⟩,
  ⟨0x3335, 1, 0, [0x30D5, 0x30E9, 0x30F3]⟩,
  ⟨0x3336, 1, 0, [0x30D8, 0x30AF, 0x30BF, 0x30FC, 0x30EB]⟩,
  ⟨0x3337, 1, 0, [0x30D8, 0x309A, 0x30BD]⟩, ⟨0x3338, 1, 0, [0x30D8, 0x309A, 0x30CB, 0x30D2]⟩,
  ⟨0x3339, 1, 0, [0x30D8, 0x30EB, 0x30C4]⟩, ⟨0x333A, 1, 0, [0x30D8, 0x309A, 0x30F3, 0x30B9]⟩,
  ⟨0x333B, 1, 0, [0x30D8, 0x309A, 0x30FC, 0x30B7, 0x3099]⟩,
  ⟨0x333C, 1, 0, [0x30D8, 0x3099, 0x30FC, 0x30BF]⟩,
  ⟨0x333D, 1, 0, [0x30DB, 0x309A, 0x30A4, 0x30F3, 0x30C8]⟩,
  ⟨0x333E, 1, 0, [0x30DB, 0x3099, 0x30EB, 0x30C8]⟩, ⟨0x333F, 1, 0, [0x30DB, 0x30F3]⟩,
  ⟨0x3340, 1, 0, [0x30DB, 0x309A, 0x30F3, 0x30C8, 0x3099]⟩,
  ⟨0x3341, 1, 0, [0x30DB, 0x30FC, 0x30EB]⟩, ⟨0x3342, 1, 0, [0x30DB, 0x30FC, 0x30F3]⟩,
  ⟨0x3343, 1, 0, [0x30DE, 0x30A4, 0x30AF, 0x30ED]⟩, ⟨0x3344, 1, 0, [0x30DE, 0x30A4, 0x30EB]⟩,
  ⟨0x3345, 1, 0, [0x30DE, 0x30C3, 0x30CF]⟩, ⟨0x3346, 1, 0, [0x30DE, 0x30EB, 0x30AF]⟩,
  ⟨0x3347, 1, 0, [0x30DE, 0x30F3, 0x30B7, 0x30E7, 0x30F3]⟩,
  ⟨0x3348, 1, 0, [0x30DF, 0x30AF, 0x30ED, 0x30F3]⟩, ⟨0x3349, 1, 0, [0x30DF, 0x30EA]⟩,
  ⟨0x334A, 1, 0, [0x30DF, 0x30EA, 0x30CF, 0x3099, 0x30FC, 0x30EB]⟩,
  ⟨0x334B, 1, 0, [0x30E1, 0x30AB, 0x3099]⟩,
  ⟨0x334C, 1, 0, [0x30E1, 0x30AB, 0x3099, 0x30C8, 0x30F3]⟩,
  ⟨0x334D, 1, 0, [0x30E1, 0x30FC, 0x30C8, 0x30EB]⟩,
  ⟨0x334E, 1, 0, [0x30E4, 0x30FC, 0x30C8, 0x3099]⟩, ⟨0x334F, 1, 0, [0x30E4, 0x30FC, 0x30EB]⟩,
  ⟨0x3350, 1, 0, [0x30E6, 0x30A2, 0x30F3]⟩, ⟨0x3351, 1, 0, [0x30EA, 0x30C3, 0x30C8, 0x30EB]⟩,
  ⟨0x3352, 1, 0, [0x30EA, 0x30E9]⟩, ⟨0x3353, 1, 0, [0x30EB, 0x30D2, 0x309A, 0x30FC]⟩,
  ⟨0x3354, 1, 0, [0x30EB, 0x30FC, 0x30D5, 0x3099, 0x30EB]⟩, ⟨0x3355, 1, 0, [0x30EC, 0x30E0]⟩,
  ⟨0x3356, 1, 0, [0x30EC, 0x30F3, 0x30C8, 0x30B1, 0x3099, 0x30F3]⟩,
  ⟨0x3357, 1, 0, [0x30EF, 0x30C3, 0x30C8]⟩, ⟨0x3358, 10, 0, [0x30, 0x70B9]⟩,
  ⟨0x3362, 10, 1, [0x31, 0x30, 0x70B9]⟩, ⟨0x336C, 5, 1, [0x32, 0x30, 0x70B9]⟩,
  ⟨0x3371, 1, 0, [0x68, 0x50, 0x61]⟩, ⟨0x3372, 1, 0, [0x64, 0x61]⟩, ⟨0x3373, 1, 0, [0x41, 0x55]⟩,
  ⟨0x3374, 1, 0, [0x62, 0x61, 0x72]⟩, ⟨0x3375, 1, 0, [0x6F, 0x56]⟩, ⟨0x3376, 1, 0, [0x70, 0x63]⟩,
  ⟨0x3377, 1, 0, [0x64, 0x6D]⟩, ⟨0x3378, 2, 2, [0x64, 0x6D, 0x32]⟩, ⟨0x337A, 1, 0, [0x49, 0x55]⟩,
  ⟨0x337B, 1, 0, [0x5E73, 0x6210]⟩, ⟨0x337C, 1, 0, [0x662D, 0x548C]⟩,
  ⟨0x337D, 1, 0, [0x5927, 0x6B63]⟩, ⟨0x337E, 1, 0, [0x660E, 0x6CBB]⟩,
  ⟨0x337F, 1, 0, [0x682A, 0x5F0F, 0x4F1A, 0x793E]⟩, ⟨0x3380, 1, 0, [0x70, 0x41]⟩,
  ⟨0x3381, 1, 0, [0x6E, 0x41]⟩, ⟨0x3382, 1, 0, [0x3BC, 0x41]⟩, ⟨0x3383, 1, 0, [0x6D, 0x41]⟩,
  ⟨0x3384, 1, 0, [0x6B, 0x41]⟩, ⟨0x3385, 1, 0, [0x4B, 0x42]⟩, ⟨0x3386, 1, 0, [0x4D, 0x42]⟩,
  ⟨0x3387, 1, 0, [0x47, 0x42]⟩, ⟨0x3388, 1, 0, [0x63, 0x61, 0x6C]⟩,
  ⟨0x3389, 1, 0, [0x6B, 0x63, 0x61, 0x6C]⟩]

/-- Runs of punctuation, number forms, symbols and enclosed characters from U+2000 to U+F8FF, part 3. -/
def symbolsRunsC : List Run := [
  ⟨0x338A, 1, 0, [0x70, 0x46]⟩, ⟨0x338B, 1, 0, [0x6E, 0x46]⟩, ⟨0x338C, 1, 0, [0x3BC, 0x46]⟩,
  ⟨0x338D, 1, 0, [0x3BC, 0x67]⟩, ⟨0x338E, 1, 0, [0x6D, 0x67]⟩, ⟨0x338F, 1, 0, [0x6B, 0x67]⟩,
  ⟨0x3390, 1, 0, [0x48, 0x7A]⟩, ⟨0x3391, 1, 0, [0x6B, 0x48, 0x7A]⟩,
  ⟨0x3392, 1, 0, [0x4D, 0x48, 0x7A]⟩, ⟨0x3393, 1, 0, [0x47, 0x48, 0x7A]⟩,
  ⟨0x3394, 1, 0, [0x54, 0x48, 0x7A]⟩, ⟨0x3395, 1, 0, [0x3BC, 0x6C]⟩,
  ⟨0x3396, 1, 0, [0x6D, 0x6C]⟩, ⟨0x3397, 1, 0, [0x64, 0x6C]⟩, ⟨0x3398, 1, 0, [0x6B, 0x6C]⟩,
  ⟨0x3399, 1, 0, [0x66, 0x6D]⟩, ⟨0x339A, 1, 0, [0x6E, 0x6D]⟩, ⟨0x339B, 1, 0, [0x3BC, 0x6D]⟩,
  ⟨0x339C, 1, 0, [0x6D, 0x6D]⟩, ⟨0x339D, 1, 0, [0x63, 0x6D]⟩, ⟨0x339E, 1, 0, [0x6B, 0x6D]⟩,
  ⟨0x339F, 1, 0, [0x6D, 0x6D, 0x32]⟩, ⟨0x33A0, 1, 0, [0x63, 0x6D, 0x32]⟩,
  ⟨0x33A1, 1, 0, [0x6D, 0x32]⟩, ⟨0x33A2, 1, 0, [0x6B, 0x6D, 0x32]⟩,
  ⟨0x33A3, 1, 0, [0x6D, 0x6D, 0x33]⟩, ⟨0x33A4, 1, 0, [0x63, 0x6D, 0x33]⟩,
  ⟨0x33A5, 1, 0, [0x6D, 0x33]⟩, ⟨0x33A6, 1, 0, [0x6B, 0x6D, 0x33]⟩,
  ⟨0x33A7, 1, 0, [0x6D, 0x2215, 0x73]⟩, ⟨0x33A8, 1, 0, [0x6D, 0x2215, 0x73, 0x32]⟩,
  ⟨0x33A9, 1, 0, [0x50, 0x61]⟩, ⟨0x33AA, 1, 0, [0x6B, 0x50, 0x61]⟩,
  ⟨0x33AB, 1, 0, [0x4D, 0x50, 0x61]⟩, ⟨0x33AC, 1, 0, [0x47, 0x50, 0x61]⟩,
  ⟨0x33AD, 1, 0, [0x72, 0x61, 0x64]⟩, ⟨0x33AE, 1, 0, [0x72, 0x61, 0x64, 0x2215, 0x73]⟩,
  ⟨0x33AF, 1, 0, [0x72, 0x61, 0x64, 0x2215, 0x73, 0x32]⟩, ⟨0x33B0, 1, 0, [0x70, 0x73]⟩,
  ⟨0x33B1, 1, 0, [0x6E, 0x73]⟩, ⟨0x33B2, 1, 0, [0x3BC, 0x73]⟩, ⟨0x33B3, 1, 0, [0x6D, 0x73]⟩,
  ⟨0x33B4, 1, 0, [0x70, 0x56]⟩, ⟨0x33B5, 1, 0, [0x6E, 0x56]⟩, ⟨0x33B6, 1, 0, [0x3BC, 0x56]⟩,
  ⟨0x33B7, 1, 0, [0x6D, 0x56]⟩, ⟨0x33B8, 1, 0, [0x6B, 0x56]⟩, ⟨0x33B9, 1, 0, [0x4D, 0x56]⟩,
  ⟨0x33BA, 1, 0, [0x70, 0x57]⟩, ⟨0x33BB, 1, 0, [0x6E, 0x57]⟩, ⟨0x33BC, 1, 0, [0x3BC, 0x57]⟩,
  ⟨0x33BD, 1, 0, [0x6D, 0x57]⟩, ⟨0x33BE, 1, 0, [0x6B, 0x57]⟩, ⟨0x33BF, 1, 0, [0x4D, 0x57]⟩,
  ⟨0x33C0, 1, 0, [0x6B, 0x3A9]⟩, ⟨0x33C1, 1, 0, [0x4D, 0x3A9]⟩,
  ⟨0x33C2, 1, 0, [0x61, 0x2E, 0x6D, 0x2E]⟩, ⟨0x33C3, 1, 0, [0x42, 0x71]⟩,
  ⟨0x33C4, 2, 1, [0x63, 0x63]⟩, ⟨0x33C6, 1, 0, [0x43, 0x2215, 0x6B, 0x67]⟩,
  ⟨0x33C7, 1, 0, [0x43, 0x6F, 0x2E]⟩, ⟨0x33C8, 1, 0, [0x64, 0x42]⟩, ⟨0x33C9, 1, 0, [0x47, 0x79]⟩,
  ⟨0x33CA, 1, 0, [0x68, 0x61]⟩, ⟨0x33CB, 1, 0, [0x48, 0x50]⟩, ⟨0x33CC, 1, 0, [0x69, 0x6E]⟩,
  ⟨0x33CD, 1, 0, [0x4B, 0x4B]⟩, ⟨0x33CE, 1, 0, [0x4B, 0x4D]⟩, ⟨0x33CF, 1, 0, [0x6B, 0x74]⟩,
  ⟨0x33D0, 2, 1, [0x6C, 0x6D]⟩, ⟨0x33D2, 1, 0, [0x6C, 0x6F, 0x67]⟩, ⟨0x33D3, 1, 0, [0x6C, 0x78]⟩,
  ⟨0x33D4, 1, 0, [0x6D, 0x62]⟩, ⟨0x33D5, 1, 0, [0x6D, 0x69, 0x6C]⟩,
  ⟨0x33D6, 1, 0, [0x6D, 0x6F, 0x6C]⟩, ⟨0x33D7, 1, 0, [0x50, 0x48]⟩,
  ⟨0x33D8, 1, 0, [0x70, 0x2E, 0x6D, 0x2E]⟩, ⟨0x33D9, 1, 0, [0x50, 0x50, 0x4D]⟩,
  ⟨0x33DA, 1, 0, [0x50, 0x52]⟩, ⟨0x33DB, 1, 0, [0x73, 0x72]⟩, ⟨0x33DC, 1, 0, [0x53, 0x76]⟩,
  ⟨0x33DD, 1, 0, [0x57, 0x62]⟩, ⟨0x33DE, 1, 0, [0x56, 0x2215, 0x6D]⟩,
  ⟨0x33DF, 1, 0, [0x41, 0x2215, 0x6D]⟩, ⟨0x33E0, 9, 0, [0x31, 0x65E5]⟩,
  ⟨0x33E9, 10, 1, [0x31, 0x30, 0x65E5]⟩, ⟨0x33F3, 10, 1, [0x32, 0x30, 0x65E5]⟩,
  ⟨0x33FD, 2, 1, [0x33, 0x30, 0x65E5]⟩, ⟨0x33FF, 1, 0, [0x67, 0x61, 0x6C]⟩,
  ⟨0xA69C, 1, 0, [0x44A]⟩, ⟨0xA69D, 1, 0, [0x44C]⟩, ⟨0xA770, 1, 0, [0xA76F]⟩,
  ⟨0xA7F1, 1, 0, [0x53]⟩, ⟨0xA7F2, 1, 0, [0x43]⟩, ⟨0xA7F3, 1, 0, [0x46]⟩, ⟨0xA7F4, 1, 0, [0x51]⟩,
  ⟨0xA7F8, 1, 0, [0x126]⟩, ⟨0xA7F9, 1, 0, [0x153]⟩, ⟨0xAB5C, 1, 0, [0xA727]⟩,
  ⟨0xAB5D, 1, 0, [0xAB37]⟩, ⟨0xAB5E, 1, 0, [0x26B]⟩, ⟨0xAB5F, 1, 0, [0xAB52]⟩,
  ⟨0xAB69, 1, 0, [0x28D]⟩]

/-- Runs of punctuation, number forms, symbols and enclosed characters from U+2000 to U+F8FF. -/
def symbolsRuns : List Run := symbolsRunsA ++ symbolsRunsB ++ symbolsRunsC

end PortfolioShell.Text.Decomposition
