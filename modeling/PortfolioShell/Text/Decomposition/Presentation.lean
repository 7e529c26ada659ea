import PortfolioShell.Text.Decomposition.Run

/-!
# Compatibility decompositions: presentation

Full compatibility decompositions of presentation forms and width variants, in ascending order.
-/
namespace PortfolioShell.Text.Decomposition

/-- Runs of presentation forms and width variants, part 1. -/
def presentationRunsA : List Run := [
  ⟨0xFB00, 1, 0, [0x66, 0x66]⟩, ⟨0xFB01, 1, 0, [0x66, 0x69]⟩, ⟨0xFB02, 1, 0, [0x66, 0x6C]⟩,
  ⟨0xFB03, 1, 0, [0x66, 0x66, 0x69]⟩, ⟨0xFB04, 1, 0, [0x66, 0x66, 0x6C]⟩,
  ⟨0xFB05, 1, 0, [0x73, 0x74]⟩, ⟨0xFB06, 1, 0, [0x73, 0x74]⟩, ⟨0xFB13, 1, 0, [0x574, 0x576]⟩,
  ⟨0xFB14, 1, 0, [0x574, 0x565]⟩, ⟨0xFB15, 1, 0, [0x574, 0x56B]⟩, ⟨0xFB16, 1, 0, [0x57E, 0x576]⟩,
  ⟨0xFB17, 1, 0, [0x574, 0x56D]⟩, ⟨0xFB1D, 1, 0, [0x5D9, 0x5B4]⟩, ⟨0xFB1F, 1, 0, [0x5F2, 0x5B7]⟩,
  ⟨0xFB20, 1, 0, [0x5E2]⟩, ⟨0xFB21, 1, 0, [0x5D0]⟩, ⟨0xFB22, 2, 0, [0x5D3]⟩,
  ⟨0xFB24, 3, 0, [0x5DB]⟩, ⟨0xFB27, 1, 0, [0x5E8]⟩, ⟨0xFB28, 1, 0, [0x5EA]⟩,
  ⟨0xFB29, 1, 0, [0x2B]⟩, ⟨0xFB2A, 2, 1, [0x5E9, 0x5C1]⟩, ⟨0xFB2C, 2, 2, [0x5E9, 0x5BC, 0x5C1]⟩,
  ⟨0xFB2E, 2, 1, [0x5D0, 0x5B7]⟩, ⟨0xFB30, 7, 0, [0x5D0, 0x5BC]⟩, ⟨0xFB38, 5, 0, [0x5D8, 0x5BC]⟩,
  ⟨0xFB3E, 1, 0, [0x5DE, 0x5BC]⟩, ⟨0xFB40, 2, 0, [0x5E0, 0x5BC]⟩, ⟨0xFB43, 2, 0, [0x5E3, 0x5BC]⟩,
  ⟨0xFB46, 5, 0, [0x5E6, 0x5BC]⟩, ⟨0xFB4B, 1, 0, [0x5D5, 0x5B9]⟩, ⟨0xFB4C, 1, 0, [0x5D1, 0x5BF]⟩,
  ⟨0xFB4D, 1, 0, [0x5DB, 0x5BF]⟩, ⟨0xFB4E, 1, 0, [0x5E4, 0x5BF]⟩, ⟨0xFB4F, 1, 0, [0x5D0, 0x5DC]⟩,
  ⟨0xFB50, 1, 0, [0x671]⟩, ⟨0xFB51, 1, 0, [0x671]⟩, ⟨0xFB52, 1, 0, [0x67B]⟩,
  ⟨0xFB53, 1, 0, [0x67B]⟩, ⟨0xFB54, 1, 0, [0x67B]⟩, ⟨0xFB55, 1, 0, [0x67B]⟩,
  ⟨0xFB56, 1, 0, [0x67E]⟩, ⟨0xFB57, 1, 0, [0x67E]⟩, ⟨0xFB58, 1, 0, [0x67E]⟩,
  ⟨0xFB59, 1, 0, [0x67E]⟩, ⟨0xFB5A, 1, 0, [0x680]⟩, ⟨0xFB5B, 1, 0, [0x680]⟩,
  ⟨0xFB5C, 1, 0, [0x680]⟩, ⟨0xFB5D, 1, 0, [0x680]⟩, ⟨0xFB5E, 1, 0, [0x67A]⟩,
  ⟨0xFB5F, 1, 0, [0x67A]⟩, ⟨0xFB60, 1, 0, [0x67A]⟩, ⟨0xFB61, 1, 0, [0x67A]⟩,
  ⟨0xFB62, 1, 0, [0x67F]⟩, ⟨0xFB63, 1, 0, [0x67F]⟩, ⟨0xFB64, 1, 0, [0x67F]⟩,
  ⟨0xFB65, 1, 0, [0x67F]⟩, ⟨0xFB66, 1, 0, [0x679]⟩, ⟨0xFB67, 1, 0, [0x679]⟩,
  ⟨0xFB68, 1, 0, [0x679]⟩, ⟨0xFB69, 1, 0, [0x679]⟩, ⟨0xFB6A, 1, 0, [0x6A4]⟩,
  ⟨0xFB6B, 1, 0, [0x6A4]⟩, ⟨0xFB6C, 1, 0, [0x6A4]⟩, ⟨0xFB6D, 1, 0, [0x6A4]⟩,
  ⟨0xFB6E, 1, 0, [0x6A6]⟩, ⟨0xFB6F, 1, 0, [0x6A6]⟩, ⟨0xFB70, 1, 0, [0x6A6]⟩,
  ⟨0xFB71, 1, 0, [0x6A6]⟩, ⟨0xFB72, 1, 0, [0x684]⟩, ⟨0xFB73, 1, 0, [0x684]⟩,
  ⟨0xFB74, 1, 0, [0x684]⟩, ⟨0xFB75, 1, 0, [0x684]⟩, ⟨0xFB76, 1, 0, [0x683]⟩,
  ⟨0xFB77, 1, 0, [0x683]⟩, ⟨0xFB78, 1, 0, [0x683]⟩, ⟨0xFB79, 1, 0, [0x683]⟩,
  ⟨0xFB7A, 1, 0, [0x686]⟩, ⟨0xFB7B, 1, 0, [0x686]⟩, ⟨0xFB7C, 1, 0, [0x686]⟩,
  ⟨0xFB7D, 2, 0, [0x686]⟩, ⟨0xFB7F, 1, 0, [0x687]⟩, ⟨0xFB80, 1, 0, [0x687]⟩,
  ⟨0xFB81, 1, 0, [0x687]⟩, ⟨0xFB82, 1, 0, [0x68D]⟩, ⟨0xFB83, 1, 0, [0x68D]⟩,
  ⟨0xFB84, 1, 0, [0x68C]⟩, ⟨0xFB85, 1, 0, [0x68C]⟩, ⟨0xFB86, 1, 0, [0x68E]⟩,
  ⟨0xFB87, 1, 0, [0x68E]⟩, ⟨0xFB88, 1, 0, [0x688]⟩, ⟨0xFB89, 1, 0, [0x688]⟩,
  ⟨0xFB8A, 1, 0, [0x698]⟩, ⟨0xFB8B, 1, 0, [0x698]⟩, ⟨0xFB8C, 1, 0, [0x691]⟩,
  ⟨0xFB8D, 1, 0, [0x691]⟩, ⟨0xFB8E, 1, 0, [0x6A9]⟩, ⟨0xFB8F, 1, 0, [0x6A9]⟩,
  ⟨0xFB90, 1, 0, [0x6A9]⟩, ⟨0xFB91, 1, 0, [0x6A9]⟩, ⟨0xFB92, 1, 0, [0x6AF]⟩,
  ⟨0xFB93, 1, 0, [0x6AF]⟩, ⟨0xFB94, 1, 0, [0x6AF]⟩, ⟨0xFB95, 1, 0, [0x6AF]⟩,
  ⟨0xFB96, 1, 0, [0x6B3]⟩, ⟨0xFB97, 1, 0, [0x6B3]⟩, ⟨0xFB98, 1, 0, [0x6B3]⟩,
  ⟨0xFB99, 1, 0, [0x6B3]⟩, ⟨0xFB9A, 1, 0, [0x6B1]⟩, ⟨0xFB9B, 1, 0, [0x6B1]⟩,
  ⟨0xFB9C, 1, 0, [0x6B1]⟩, ⟨0xFB9D, 1, 0, [0x6B1]⟩, ⟨0xFB9E, 1, 0, [0x6BA]⟩,
  ⟨0xFB9F, 2, 0, [0x6BA]⟩, ⟨0xFBA1, 1, 0, [0x6BB]⟩, ⟨0xFBA2, 1, 0, [0x6BB]⟩,
  ⟨0xFBA3, 1, 0, [0x6BB]⟩, ⟨0xFBA4, 1, 0, [0x6D5, 0x654]⟩, ⟨0xFBA5, 1, 0, [0x6D5, 0x654]⟩,
  ⟨0xFBA6, 1, 0, [0x6C1]⟩, ⟨0xFBA7, 1, 0, [0x6C1]⟩, ⟨0xFBA8, 1, 0, [0x6C1]⟩,
  ⟨0xFBA9, 1, 0, [0x6C1]⟩, ⟨0xFBAA, 1, 0, [0x6BE]⟩, ⟨0xFBAB, 1, 0, [0x6BE]⟩,
  ⟨0xFBAC, 1, 0, [0x6BE]⟩, ⟨0xFBAD, 1, 0, [0x6BE]⟩, ⟨0xFBAE, 1, 0, [0x6D2]⟩,
  ⟨0xFBAF, 1, 0, [0x6D2]⟩, ⟨0xFBB0, 1, 0, [0x6D2, 0x654]⟩, ⟨0xFBB1, 1, 0, [0x6D2, 0x654]⟩,
  ⟨0xFBD3, 1, 0, [0x6AD]⟩, ⟨0xFBD4, 1, 0, [0x6AD]⟩, ⟨0xFBD5, 1, 0, [0x6AD]⟩,
  ⟨0xFBD6, 1, 0, [0x6AD]⟩, ⟨0xFBD7, 1, 0, [0x6C7]⟩, ⟨0xFBD8, 1, 0, [0x6C7]⟩,
  ⟨0xFBD9, 1, 0, [0x6C6]⟩, ⟨0xFBDA, 1, 0, [0x6C6]⟩, ⟨0xFBDB, 1, 0, [0x6C8]⟩,
  ⟨0xFBDC, 1, 0, [0x6C8]⟩, ⟨0xFBDD, 1, 0, [0x6C7, 0x674]⟩, ⟨0xFBDE, 1, 0, [0x6CB]⟩,
  ⟨0xFBDF, 1, 0, [0x6CB]⟩, ⟨0xFBE0, 1, 0, [0x6C5]⟩, ⟨0xFBE1, 1, 0, [0x6C5]⟩,
  ⟨0xFBE2, 1, 0, [0x6C9]⟩, ⟨0xFBE3, 1, 0, [0x6C9]⟩, ⟨0xFBE4, 1, 0, [0x6D0]⟩,
  ⟨0xFBE5, 1, 0, [0x6D0]⟩, ⟨0xFBE6, 1, 0, [0x6D0]⟩, ⟨0xFBE7, 1, 0, [0x6D0]⟩,
  ⟨0xFBE8, 1, 0, [0x649]⟩, ⟨0xFBE9, 1, 0, [0x649]⟩, ⟨0xFBEA, 1, 0, [0x64A, 0x654, 0x627]⟩,
  ⟨0xFBEB, 1, 0, [0x64A, 0x654, 0x627]⟩, ⟨0xFBEC, 1, 0, [0x64A, 0x654, 0x6D5]⟩,
  ⟨0xFBED, 1, 0, [0x64A, 0x654, 0x6D5]⟩, ⟨0xFBEE, 1, 0, [0x64A, 0x654, 0x648]⟩,
  ⟨0xFBEF, 1, 0, [0x64A, 0x654, 0x648]⟩, ⟨0xFBF0, 1, 0, [0x64A, 0x654, 0x6C7]⟩,
  ⟨0xFBF1, 1, 0, [0x64A, 0x654, 0x6C7]⟩, ⟨0xFBF2, 1, 0, [0x64A, 0x654, 0x6C6]⟩,
  ⟨0xFBF3, 1, 0, [0x64A, 0x654, 0x6C6]⟩, ⟨0xFBF4, 1, 0, [0x64A, 0x654, 0x6C8]⟩,
  ⟨0xFBF5, 1, 0, [0x64A, 0x654, 0x6C8]⟩, ⟨0xFBF6, 1, 0, [0x64A, 0x654, 0x6D0]⟩,
  ⟨0xFBF7, 1, 0, [0x64A, 0x654, 0x6D0]⟩, ⟨0xFBF8, 1, 0, [0x64A, 0x654, 0x6D0]⟩,
  ⟨0xFBF9, 1, 0, [0x64A, 0x654, 0x649]⟩, ⟨0xFBFA, 1, 0, [0x64A, 0x654, 0x649]⟩,
  ⟨0xFBFB, 1, 0, [0x64A, 0x654, 0x649]⟩, ⟨0xFBFC, 1, 0, [0x6CC]⟩, ⟨0xFBFD, 1, 0, [0x6CC]⟩,
  ⟨0xFBFE, 1, 0, [0x6CC]⟩, ⟨0xFBFF, 1, 0, [0x6CC]⟩, ⟨0xFC00, 2, 2, [0x64A, 0x654, 0x62C]⟩,
  ⟨0xFC02, 1, 0, [0x64A, 0x654, 0x645]⟩, ⟨0xFC03, 2, 2, [0x64A, 0x654, 0x649]⟩,
  ⟨0xFC05, 3, 1, [0x628, 0x62C]⟩, ⟨0xFC08, 1, 0, [0x628, 0x645]⟩, ⟨0xFC09, 2, 1, [0x628, 0x649]⟩,
  ⟨0xFC0B, 3, 1, [0x62A, 0x62C]⟩, ⟨0xFC0E, 1, 0, [0x62A, 0x645]⟩, ⟨0xFC0F, 2, 1, [0x62A, 0x649]⟩,
  ⟨0xFC11, 1, 0, [0x62B, 0x62C]⟩, ⟨0xFC12, 1, 0, [0x62B, 0x645]⟩, ⟨0xFC13, 2, 1, [0x62B, 0x649]⟩,
  ⟨0xFC15, 1, 0, [0x62C, 0x62D]⟩, ⟨0xFC16, 1, 0, [0x62C, 0x645]⟩, ⟨0xFC17, 1, 0, [0x62D, 0x62C]⟩,
  ⟨0xFC18, 1, 0, [0x62D, 0x645]⟩, ⟨0xFC19, 2, 1, [0x62E, 0x62C]⟩, ⟨0xFC1B, 1, 0, [0x62E, 0x645]⟩,
  ⟨0xFC1C, 3, 1, [0x633, 0x62C]⟩, ⟨0xFC1F, 1, 0, [0x633, 0x645]⟩, ⟨0xFC20, 1, 0, [0x635, 0x62D]⟩,
  ⟨0xFC21, 1, 0, [0x635, 0x645]⟩, ⟨0xFC22, 3, 1, [0x636, 0x62C]⟩, ⟨0xFC25, 1, 0, [0x636, 0x645]⟩,
  ⟨0xFC26, 1, 0, [0x637, 0x62D]⟩, ⟨0xFC27, 2, 0, [0x637, 0x645]⟩, ⟨0xFC29, 1, 0, [0x639, 0x62C]⟩,
  ⟨0xFC2A, 1, 0, [0x639, 0x645]⟩, ⟨0xFC2B, 1, 0, [0x63A, 0x62C]⟩, ⟨0xFC2C, 1, 0, [0x63A, 0x645]⟩,
  ⟨0xFC2D, 3, 1, [0x641, 0x62C]⟩, ⟨0xFC30, 1, 0, [0x641, 0x645]⟩, ⟨0xFC31, 2, 1, [0x641, 0x649]⟩,
  ⟨0xFC33, 1, 0, [0x642, 0x62D]⟩, ⟨0xFC34, 1, 0, [0x642, 0x645]⟩, ⟨0xFC35, 2, 1, [0x642, 0x649]⟩,
  ⟨0xFC37, 1, 0, [0x643, 0x627]⟩, ⟨0xFC38, 3, 1, [0x643, 0x62C]⟩, ⟨0xFC3B, 2, 1, [0x643, 0x644]⟩,
  ⟨0xFC3D, 2, 1, [0x643, 0x649]⟩, ⟨0xFC3F, 3, 1, [0x644, 0x62C]⟩, ⟨0xFC42, 1, 0, [0x644, 0x645]⟩,
  ⟨0xFC43, 2, 1, [0x644, 0x649]⟩, ⟨0xFC45, 3, 1, [0x645, 0x62C]⟩, ⟨0xFC48, 1, 0, [0x645, 0x645]⟩,
  ⟨0xFC49, 2, 1, [0x645, 0x649]⟩, ⟨0xFC4B, 3, 1, [0x646, 0x62C]⟩, ⟨0xFC4E, 1, 0, [0x646, 0x645]⟩,
  ⟨0xFC4F, 2, 1, [0x646, 0x649]⟩, ⟨0xFC51, 1, 0, [0x647, 0x62C]⟩, ⟨0xFC52, 1, 0, [0x647, 0x645]⟩,
  ⟨0xFC53, 2, 1, [0x647, 0x649]⟩, ⟨0xFC55, 3, 1, [0x64A, 0x62C]⟩, ⟨0xFC58, 1, 0, [0x64A, 0x645]⟩,
  ⟨0xFC59, 2, 1, [0x64A, 0x649]⟩, ⟨0xFC5B, 2, 0, [0x630, 0x670]⟩, ⟨0xFC5D, 1, 0, [0x649, 0x670]⟩,
  ⟨0xFC5E, 5, 1, [0x20, 0x64C, 0x651]⟩, ⟨0xFC63, 1, 0, [0x20, 0x651, 0x670]⟩,
  ⟨0xFC64, 2, 2, [0x64A, 0x654, 0x631]⟩, ⟨0xFC66, 2, 2, [0x64A, 0x654, 0x645]⟩,
  ⟨0xFC68, 2, 2, [0x64A, 0x654, 0x649]⟩, ⟨0xFC6A, 2, 1, [0x628, 0x631]⟩,
  ⟨0xFC6C, 2, 1, [0x628, 0x645]⟩, ⟨0xFC6E, 2, 1, [0x628, 0x649]⟩, ⟨0xFC70, 2, 1, [0x62A, 0x631]⟩,
  ⟨0xFC72, 2, 1, [0x62A, 0x645]⟩, ⟨0xFC74, 2, 1, [0x62A, 0x649]⟩, ⟨0xFC76, 2, 1, [0x62B, 0x631]⟩,
  ⟨0xFC78, 2, 1, [0x62B, 0x645]⟩, ⟨0xFC7A, 2, 1, [0x62B, 0x649]⟩, ⟨0xFC7C, 2, 1, [0x641, 0x649]⟩,
  ⟨0xFC7E, 2, 1, [0x642, 0x649]⟩, ⟨0xFC80, 1, 0, [0x643, 0x627]⟩, ⟨0xFC81, 2, 1, [0x643, 0x644]⟩,
  ⟨0xFC83, 2, 1, [0x643, 0x649]⟩, ⟨0xFC85, 1, 0, [0x644, 0x645]⟩, ⟨0xFC86, 2, 1, [0x644, 0x649]⟩,
  ⟨0xFC88, 1, 0, [0x645, 0x627]⟩, ⟨0xFC89, 1, 0, [0x645, 0x645]⟩, ⟨0xFC8A, 2, 1, [0x646, 0x631]⟩,
  ⟨0xFC8C, 2, 1, [0x646, 0x645]⟩, ⟨0xFC8E, 2, 1, [0x646, 0x649]⟩, ⟨0xFC90, 1, 0, [0x649, 0x670]⟩,
  ⟨0xFC91, 2, 1, [0x64A, 0x631]⟩, ⟨0xFC93, 2, 1, [0x64A, 0x645]⟩, ⟨0xFC95, 2, 1, [0x64A, 0x649]⟩,
  ⟨0xFC97, 3, 2, [0x64A, 0x654, 0x62C]⟩, ⟨0xFC9A, 1, 0, [0x64A, 0x654, 0x645]⟩,
  ⟨0xFC9B, 1, 0, [0x64A, 0x654, 0x647]⟩, ⟨0xFC9C, 3, 1, [0x628, 0x62C]⟩,
  ⟨0xFC9F, 1, 0, [0x628, 0x645]⟩, ⟨0xFCA0, 1, 0, [0x628, 0x647]⟩, ⟨0xFCA1, 3, 1, [0x62A, 0x62C]⟩,
  ⟨0xFCA4, 1, 0, [0x62A, 0x645]⟩, ⟨0xFCA5, 1, 0, [0x62A, 0x647]⟩, ⟨0xFCA6, 1, 0, [0x62B, 0x645]⟩,
  ⟨0xFCA7, 1, 0, [0x62C, 0x62D]⟩, ⟨0xFCA8, 1, 0, [0x62C, 0x645]⟩, ⟨0xFCA9, 1, 0, [0x62D, 0x62C]⟩,
  ⟨0xFCAA, 1, 0, [0x62D, 0x645]⟩, ⟨0xFCAB, 1, 0, [0x62E, 0x62C]⟩, ⟨0xFCAC, 1, 0, [0x62E, 0x645]⟩,
  ⟨0xFCAD, 3, 1, [0x633, 0x62C]⟩, ⟨0xFCB0, 1, 0, [0x633, 0x645]⟩, ⟨0xFCB1, 2, 1, [0x635, 0x62D]⟩,
  ⟨0xFCB3, 1, 0, [0x635, 0x645]⟩, ⟨0xFCB4, 3, 1, [0x636, 0x62C]⟩, ⟨0xFCB7, 1, 0, [0x636, 0x645]⟩,
  ⟨0xFCB8, 1, 0, [0x637, 0x62D]⟩, ⟨0xFCB9, 1, 0, [0x638, 0x645]⟩, ⟨0xFCBA, 1, 0, [0x639, 0x62C]⟩,
  ⟨0xFCBB, 1, 0, [0x639, 0x645]⟩, ⟨0xFCBC, 1, 0, [0x63A, 0x62C]⟩, ⟨0xFCBD, 1, 0, [0x63A, 0x645]⟩,
  ⟨0xFCBE, 3, 1, [0x641, 0x62C]⟩, ⟨0xFCC1, 1, 0, [0x641, 0x645]⟩, ⟨0xFCC2, 1, 0, [0x642, 0x62D]⟩,
  ⟨0xFCC3, 1, 0, [0x642, 0x645]⟩, ⟨0xFCC4, 3, 1, [0x643, 0x62C]⟩, ⟨0xFCC7, 2, 1, [0x643, 0x644]⟩,
  ⟨0xFCC9, 3, 1, [0x644, 0x62C]⟩, ⟨0xFCCC, 1, 0, [0x644, 0x645]⟩, ⟨0xFCCD, 1, 0, [0x644, 0x647]⟩,
  ⟨0xFCCE, 3, 1, [0x645, 0x62C]⟩, ⟨0xFCD1, 1, 0, [0x645, 0x645]⟩, ⟨0xFCD2, 3, 1, [0x646, 0x62C]⟩,
  ⟨0xFCD5, 1, 0, [0x646, 0x645]⟩, ⟨0xFCD6, 1, 0, [0x646, 0x647]⟩, ⟨0xFCD7, 1, 0, [0x647, 0x62C]⟩,
  ⟨0xFCD8, 1, 0, [0x647, 0x645]⟩, ⟨0xFCD9, 1, 0, [0x647, 0x670]⟩, ⟨0xFCDA, 3, 1, [0x64A, 0x62C]⟩,
  ⟨0xFCDD, 1, 0, [0x64A, 0x645]⟩, ⟨0xFCDE, 1, 0, [0x64A, 0x647]⟩,
  ⟨0xFCDF, 1, 0, [0x64A, 0x654, 0x645]⟩, ⟨0xFCE0, 1, 0, [0x64A, 0x654, 0x647]⟩,
  ⟨0xFCE1, 1, 0, [0x628, 0x645]⟩, ⟨0xFCE2, 1, 0, [0x628, 0x647]⟩, ⟨0xFCE3, 1, 0, [0x62A, 0x645]⟩,
  ⟨0xFCE4, 1, 0, [0x62A, 0x647]⟩, ⟨0xFCE5, 1, 0, [0x62B, 0x645]⟩, ⟨0xFCE6, 1, 0, [0x62B, 0x647]⟩,
  ⟨0xFCE7, 1, 0, [0x633, 0x645]⟩, ⟨0xFCE8, 1, 0, [0x633, 0x647]⟩, ⟨0xFCE9, 1, 0, [0x634, 0x645]⟩,
  ⟨0xFCEA, 1, 0, [0x634, 0x647]⟩, ⟨0xFCEB, 2, 1, [0x643, 0x644]⟩, ⟨0xFCED, 1, 0, [0x644, 0x645]⟩,
  ⟨0xFCEE, 1, 0, [0x646, 0x645]⟩, ⟨0xFCEF, 1, 0, [0x646, 0x647]⟩, ⟨0xFCF0, 1, 0, [0x64A, 0x645]⟩,
  ⟨0xFCF1, 1, 0, [0x64A, 0x647]⟩, ⟨0xFCF2, 3, 1, [0x640, 0x64E, 0x651]⟩,
  ⟨0xFCF5, 2, 1, [0x637, 0x649]⟩, ⟨0xFCF7, 2, 1, [0x639, 0x649]⟩, ⟨0xFCF9, 2, 1, [0x63A, 0x649]⟩,
  ⟨0xFCFB, 2, 1, [0x633, 0x649]⟩, ⟨0xFCFD, 2, 1, [0x634, 0x649]⟩, ⟨0xFCFF, 2, 1, [0x62D, 0x649]⟩,
  ⟨0xFD01, 2, 1, [0x62C, 0x649]⟩, ⟨0xFD03, 2, 1, [0x62E, 0x649]⟩, ⟨0xFD05, 2, 1, [0x635, 0x649]⟩,
  ⟨0xFD07, 2, 1, [0x636, 0x649]⟩, ⟨0xFD09, 3, 1, [0x634, 0x62C]⟩, ⟨0xFD0C, 1, 0, [0x634, 0x645]⟩,
  ⟨0xFD0D, 1, 0, [0x634, 0x631]⟩, ⟨0xFD0E, 1, 0, [0x633, 0x631]⟩, ⟨0xFD0F, 2, 0, [0x635, 0x631]⟩,
  ⟨0xFD11, 2, 1, [0x637, 0x649]⟩, ⟨0xFD13, 2, 1, [0x639, 0x649]⟩, ⟨0xFD15, 2, 1, [0x63A, 0x649]⟩,
  ⟨0xFD17, 2, 1, [0x633, 0x649]⟩, ⟨0xFD19, 2, 1, [0x634, 0x649]⟩, ⟨0xFD1B, 2, 1, [0x62D, 0x649]⟩,
  ⟨0xFD1D, 2, 1, [0x62C, 0x649]⟩, ⟨0xFD1F, 2, 1, [0x62E, 0x649]⟩, ⟨0xFD21, 2, 1, [0x635, 0x649]⟩,
  ⟨0xFD23, 2, 1, [0x636, 0x649]⟩, ⟨0xFD25, 3, 1, [0x634, 0x62C]⟩, ⟨0xFD28, 1, 0, [0x634, 0x645]⟩,
  ⟨0xFD29, 1, 0, [0x634, 0x631]⟩, ⟨0xFD2A, 1, 0, [0x633, 0x631]⟩, ⟨0xFD2B, 2, 0, [0x635, 0x631]⟩,
  ⟨0xFD2D, 3, 1, [0x634, 0x62C]⟩, ⟨0xFD30, 1, 0, [0x634, 0x645]⟩, ⟨0xFD31, 2, 0, [0x633, 0x647]⟩,
  ⟨0xFD33, 1, 0, [0x637, 0x645]⟩, ⟨0xFD34, 3, 1, [0x633, 0x62C]⟩, ⟨0xFD37, 3, 1, [0x634, 0x62C]⟩,
  ⟨0xFD3A, 2, 0, [0x637, 0x645]⟩, ⟨0xFD3C, 1, 0, [0x627, 0x64B]⟩, ⟨0xFD3D, 1, 0, [0x627, 0x64B]⟩,
  ⟨0xFD50, 1, 0, [0x62A, 0x62C, 0x645]⟩, ⟨0xFD51, 1, 0, [0x62A, 0x62D, 0x62C]⟩,
  ⟨0xFD52, 1, 0, [0x62A, 0x62D, 0x62C]⟩, ⟨0xFD53, 2, 1, [0x62A, 0x62D, 0x645]⟩,
  ⟨0xFD55, 3, 2, [0x62A, 0x645, 0x62C]⟩, ⟨0xFD58, 1, 0, [0x62C, 0x645, 0x62D]⟩,
  ⟨0xFD59, 1, 0, [0x62C, 0x645, 0x62D]⟩, ⟨0xFD5A, 1, 0, [0x62D, 0x645, 0x64A]⟩,
  ⟨0xFD5B, 1, 0, [0x62D, 0x645, 0x649]⟩, ⟨0xFD5C, 1, 0, [0x633, 0x62D, 0x62C]⟩,
  ⟨0xFD5D, 1, 0, [0x633, 0x62C, 0x62D]⟩, ⟨0xFD5E, 1, 0, [0x633, 0x62C, 0x649]⟩,
  ⟨0xFD5F, 1, 0, [0x633, 0x645, 0x62D]⟩, ⟨0xFD60, 1, 0, [0x633, 0x645, 0x62D]⟩,
  ⟨0xFD61, 1, 0, [0x633, 0x645, 0x62C]⟩, ⟨0xFD62, 1, 0, [0x633, 0x645, 0x645]⟩,
  ⟨0xFD63, 1, 0, [0x633, 0x645, 0x645]⟩, ⟨0xFD64, 1, 0, [0x635, 0x62D, 0x62D]⟩,
  ⟨0xFD65, 1, 0, [0x635, 0x62D, 0x62D]⟩, ⟨0xFD66, 1, 0, [0x635, 0x645, 0x645]⟩,
  ⟨0xFD67, 1, 0, [0x634, 0x62D, 0x645]⟩, ⟨0xFD68, 1, 0, [0x634, 0x62D, 0x645]⟩,
  ⟨0xFD69, 1, 0, [0x634, 0x62C, 0x64A]⟩, ⟨0xFD6A, 1, 0, [0x634, 0x645, 0x62E]⟩,
  ⟨0xFD6B, 1, 0, [0x634, 0x645, 0x62E]⟩, ⟨0xFD6C, 1, 0, [0x634, 0x645, 0x645]⟩,
  ⟨0xFD6D, 1, 0, [0x634, 0x645, 0x645]⟩, ⟨0xFD6E, 1, 0, [0x636, 0x62D, 0x649]⟩,
  ⟨0xFD6F, 1, 0, [0x636, 0x62E, 0x645]⟩, ⟨0xFD70, 1, 0, [0x636, 0x62E, 0x645]⟩,
  ⟨0xFD71, 1, 0, [0x637, 0x645, 0x62D]⟩]

/-- Runs of presentation forms and width variants, part 2. -/
def presentationRunsB : List Run := [
  ⟨0xFD72, 1, 0, [0x637, 0x645, 0x62D]⟩, ⟨0xFD73, 1, 0, [0x637, 0x645, 0x645]⟩,
  ⟨0xFD74, 1, 0, [0x637, 0x645, 0x64A]⟩, ⟨0xFD75, 1, 0, [0x639, 0x62C, 0x645]⟩,
  ⟨0xFD76, 1, 0, [0x639, 0x645, 0x645]⟩, ⟨0xFD77, 1, 0, [0x639, 0x645, 0x645]⟩,
  ⟨0xFD78, 1, 0, [0x639, 0x645, 0x649]⟩, ⟨0xFD79, 1, 0, [0x63A, 0x645, 0x645]⟩,
  ⟨0xFD7A, 1, 0, [0x63A, 0x645, 0x64A]⟩, ⟨0xFD7B, 1, 0, [0x63A, 0x645, 0x649]⟩,
  ⟨0xFD7C, 1, 0, [0x641, 0x62E, 0x645]⟩, ⟨0xFD7D, 1, 0, [0x641, 0x62E, 0x645]⟩,
  ⟨0xFD7E, 1, 0, [0x642, 0x645, 0x62D]⟩, ⟨0xFD7F, 1, 0, [0x642, 0x645, 0x645]⟩,
  ⟨0xFD80, 1, 0, [0x644, 0x62D, 0x645]⟩, ⟨0xFD81, 1, 0, [0x644, 0x62D, 0x64A]⟩,
  ⟨0xFD82, 1, 0, [0x644, 0x62D, 0x649]⟩, ⟨0xFD83, 1, 0, [0x644, 0x62C, 0x62C]⟩,
  ⟨0xFD84, 1, 0, [0x644, 0x62C, 0x62C]⟩, ⟨0xFD85, 1, 0, [0x644, 0x62E, 0x645]⟩,
  ⟨0xFD86, 1, 0, [0x644, 0x62E, 0x645]⟩, ⟨0xFD87, 1, 0, [0x644, 0x645, 0x62D]⟩,
  ⟨0xFD88, 1, 0, [0x644, 0x645, 0x62D]⟩, ⟨0xFD89, 1, 0, [0x645, 0x62D, 0x62C]⟩,
  ⟨0xFD8A, 1, 0, [0x645, 0x62D, 0x645]⟩, ⟨0xFD8B, 1, 0, [0x645, 0x62D, 0x64A]⟩,
  ⟨0xFD8C, 1, 0, [0x645, 0x62C, 0x62D]⟩, ⟨0xFD8D, 1, 0, [0x645, 0x62C, 0x645]⟩,
  ⟨0xFD8E, 1, 0, [0x645, 0x62E, 0x62C]⟩, ⟨0xFD8F, 1, 0, [0x645, 0x62E, 0x645]⟩,
  ⟨0xFD92, 1, 0, [0x645, 0x62C, 0x62E]⟩, ⟨0xFD93, 1, 0, [0x647, 0x645, 0x62C]⟩,
  ⟨0xFD94, 1, 0, [0x647, 0x645, 0x645]⟩, ⟨0xFD95, 1, 0, [0x646, 0x62D, 0x645]⟩,
  ⟨0xFD96, 1, 0, [0x646, 0x62D, 0x649]⟩, ⟨0xFD97, 1, 0, [0x646, 0x62C, 0x645]⟩,
  ⟨0xFD98, 1, 0, [0x646, 0x62C, 0x645]⟩, ⟨0xFD99, 1, 0, [0x646, 0x62C, 0x649]⟩,
  ⟨0xFD9A, 1, 0, [0x646, 0x645, 0x64A]⟩, ⟨0xFD9B, 1, 0, [0x646, 0x645, 0x649]⟩,
  ⟨0xFD9C, 1, 0, [0x64A, 0x645, 0x645]⟩, ⟨0xFD9D, 1, 0, [0x64A, 0x645, 0x645]⟩,
  ⟨0xFD9E, 1, 0, [0x628, 0x62E, 0x64A]⟩, ⟨0xFD9F, 1, 0, [0x62A, 0x62C, 0x64A]⟩,
  ⟨0xFDA0, 1, 0, [0x62A, 0x62C, 0x649]⟩, ⟨0xFDA1, 1, 0, [0x62A, 0x62E, 0x64A]⟩,
  ⟨0xFDA2, 1, 0, [0x62A, 0x62E, 0x649]⟩, ⟨0xFDA3, 1, 0, [0x62A, 0x645, 0x64A]⟩,
  ⟨0xFDA4, 1, 0, [0x62A, 0x645, 0x649]⟩, ⟨0xFDA5, 1, 0, [0x62C, 0x645, 0x64A]⟩,
  ⟨0xFDA6, 1, 0, [0x62C, 0x62D, 0x649]⟩, ⟨0xFDA7, 1, 0, [0x62C, 0x645, 0x649]⟩,
  ⟨0xFDA8, 1, 0, [0x633, 0x62E, 0x649]⟩, ⟨0xFDA9, 1, 0, [0x635, 0x62D, 0x64A]⟩,
  ⟨0xFDAA, 1, 0, [0x634, 0x62D, 0x64A]⟩, ⟨0xFDAB, 1, 0, [0x636, 0x62D, 0x64A]⟩,
  ⟨0xFDAC, 1, 0, [0x644, 0x62C, 0x64A]⟩, ⟨0xFDAD, 1, 0, [0x644, 0x645, 0x64A]⟩,
  ⟨0xFDAE, 1, 0, [0x64A, 0x62D, 0x64A]⟩, ⟨0xFDAF, 1, 0, [0x64A, 0x62C, 0x64A]⟩,
  ⟨0xFDB0, 1, 0, [0x64A, 0x645, 0x64A]⟩, ⟨0xFDB1, 1, 0, [0x645, 0x645, 0x64A]⟩,
  ⟨0xFDB2, 1, 0, [0x642, 0x645, 0x64A]⟩, ⟨0xFDB3, 1, 0, [0x646, 0x62D, 0x64A]⟩,
  ⟨0xFDB4, 1, 0, [0x642, 0x645, 0x62D]⟩, ⟨0xFDB5, 1, 0, [0x644, 0x62D, 0x645]⟩,
  ⟨0xFDB6, 1, 0, [0x639, 0x645, 0x64A]⟩, ⟨0xFDB7, 1, 0, [0x643, 0x645, 0x64A]⟩,
  ⟨0xFDB8, 1, 0, [0x646, 0x62C, 0x62D]⟩, ⟨0xFDB9, 1, 0, [0x645, 0x62E, 0x64A]⟩,
  ⟨0xFDBA, 1, 0, [0x644, 0x62C, 0x645]⟩, ⟨0xFDBB, 1, 0, [0x643, 0x645, 0x645]⟩,
  ⟨0xFDBC, 1, 0, [0x644, 0x62C, 0x645]⟩, ⟨0xFDBD, 1, 0, [0x646, 0x62C, 0x62D]⟩,
  ⟨0xFDBE, 1, 0, [0x62C, 0x62D, 0x64A]⟩, ⟨0xFDBF, 1, 0, [0x62D, 0x62C, 0x64A]⟩,
  ⟨0xFDC0, 1, 0, [0x645, 0x62C, 0x64A]⟩, ⟨0xFDC1, 1, 0, [0x641, 0x645, 0x64A]⟩,
  ⟨0xFDC2, 1, 0, [0x628, 0x62D, 0x64A]⟩, ⟨0xFDC3, 1, 0, [0x643, 0x645, 0x645]⟩,
  ⟨0xFDC4, 1, 0, [0x639, 0x62C, 0x645]⟩, ⟨0xFDC5, 1, 0, [0x635, 0x645, 0x645]⟩,
  ⟨0xFDC6, 1, 0, [0x633, 0x62E, 0x64A]⟩, ⟨0xFDC7, 1, 0, [0x646, 0x62C, 0x64A]⟩,
  ⟨0xFDF0, 1, 0, [0x635, 0x644, 0x6D2]⟩, ⟨0xFDF1, 1, 0, [0x642, 0x644, 0x6D2]⟩,
  ⟨0xFDF2, 1, 0, [0x627, 0x644, 0x644, 0x647]⟩, ⟨0xFDF3, 1, 0, [0x627, 0x643, 0x628, 0x631]⟩,
  ⟨0xFDF4, 1, 0, [0x645, 0x62D, 0x645, 0x62F]⟩, ⟨0xFDF5, 1, 0, [0x635, 0x644, 0x639, 0x645]⟩,
  ⟨0xFDF6, 1, 0, [0x631, 0x633, 0x648, 0x644]⟩, ⟨0xFDF7, 1, 0, [0x639, 0x644, 0x64A, 0x647]⟩,
  ⟨0xFDF8, 1, 0, [0x648, 0x633, 0x644, 0x645]⟩, ⟨0xFDF9, 1, 0, [0x635, 0x644, 0x649]⟩,
  ⟨0xFDFA, 1, 0, [0x635, 0x644, 0x649, 0x20, 0x627, 0x644, 0x644, 0x647, 0x20, 0x639, 0x644, 0x64A, 0x647, 0x20, 0x648, 0x633, 0x644, 0x645]⟩,
  ⟨0xFDFB, 1, 0, [0x62C, 0x644, 0x20, 0x62C, 0x644, 0x627, 0x644, 0x647]⟩,
  ⟨0xFDFC, 1, 0, [0x631, 0x6CC, 0x627, 0x644]⟩, ⟨0xFE10, 1, 0, [0x2C]⟩, ⟨0xFE11, 2, 0, [0x3001]⟩,
  ⟨0xFE13, 2, 0, [0x3A]⟩, ⟨0xFE15, 1, 0, [0x21]⟩, ⟨0xFE16, 1, 0, [0x3F]⟩,
  ⟨0xFE17, 2, 0, [0x3016]⟩, ⟨0xFE19, 1, 0, [0x2E, 0x2E, 0x2E]⟩, ⟨0xFE30, 1, 0, [0x2E, 0x2E]⟩,
  ⟨0xFE31, 1, 0, [0x2014]⟩, ⟨0xFE32, 1, 0, [0x2013]⟩, ⟨0xFE33, 1, 0, [0x5F]⟩,
  ⟨0xFE34, 1, 0, [0x5F]⟩, ⟨0xFE35, 2, 0, [0x28]⟩, ⟨0xFE37, 1, 0, [0x7B]⟩, ⟨0xFE38, 1, 0, [0x7D]⟩,
  ⟨0xFE39, 2, 0, [0x3014]⟩, ⟨0xFE3B, 2, 0, [0x3010]⟩, ⟨0xFE3D, 2, 0, [0x300A]⟩,
  ⟨0xFE3F, 2, 0, [0x3008]⟩, ⟨0xFE41, 4, 0, [0x300C]⟩, ⟨0xFE47, 1, 0, [0x5B]⟩,
  ⟨0xFE48, 1, 0, [0x5D]⟩, ⟨0xFE49, 1, 0, [0x20, 0x305]⟩, ⟨0xFE4A, 1, 0, [0x20, 0x305]⟩,
  ⟨0xFE4B, 1, 0, [0x20, 0x305]⟩, ⟨0xFE4C, 1, 0, [0x20, 0x305]⟩, ⟨0xFE4D, 1, 0, [0x5F]⟩,
  ⟨0xFE4E, 1, 0, [0x5F]⟩, ⟨0xFE4F, 1, 0, [0x5F]⟩, ⟨0xFE50, 1, 0, [0x2C]⟩,
  ⟨0xFE51, 1, 0, [0x3001]⟩, ⟨0xFE52, 1, 0, [0x2E]⟩, ⟨0xFE54, 1, 0, [0x3B]⟩,
  ⟨0xFE55, 1, 0, [0x3A]⟩, ⟨0xFE56, 1, 0, [0x3F]⟩, ⟨0xFE57, 1, 0, [0x21]⟩,
  ⟨0xFE58, 1, 0, [0x2014]⟩, ⟨0xFE59, 2, 0, [0x28]⟩, ⟨0xFE5B, 1, 0, [0x7B]⟩,
  ⟨0xFE5C, 1, 0, [0x7D]⟩, ⟨0xFE5D, 2, 0, [0x3014]⟩, ⟨0xFE5F, 1, 0, [0x23]⟩,
  ⟨0xFE60, 1, 0, [0x26]⟩, ⟨0xFE61, 2, 0, [0x2A]⟩, ⟨0xFE63, 1, 0, [0x2D]⟩, ⟨0xFE64, 1, 0, [0x3C]⟩,
  ⟨0xFE65, 1, 0, [0x3E]⟩, ⟨0xFE66, 1, 0, [0x3D]⟩, ⟨0xFE68, 1, 0, [0x5C]⟩, ⟨0xFE69, 2, 0, [0x24]⟩,
  ⟨0xFE6B, 1, 0, [0x40]⟩, ⟨0xFE70, 1, 0, [0x20, 0x64B]⟩, ⟨0xFE71, 1, 0, [0x640, 0x64B]⟩,
  ⟨0xFE72, 1, 0, [0x20, 0x64C]⟩, ⟨0xFE74, 1, 0, [0x20, 0x64D]⟩, ⟨0xFE76, 1, 0, [0x20, 0x64E]⟩,
  ⟨0xFE77, 1, 0, [0x640, 0x64E]⟩, ⟨0xFE78, 1, 0, [0x20, 0x64F]⟩, ⟨0xFE79, 1, 0, [0x640, 0x64F]⟩,
  ⟨0xFE7A, 1, 0, [0x20, 0x650]⟩, ⟨0xFE7B, 1, 0, [0x640, 0x650]⟩, ⟨0xFE7C, 1, 0, [0x20, 0x651]⟩,
  ⟨0xFE7D, 1, 0, [0x640, 0x651]⟩, ⟨0xFE7E, 1, 0, [0x20, 0x652]⟩, ⟨0xFE7F, 1, 0, [0x640, 0x652]⟩,
  ⟨0xFE80, 1, 0, [0x621]⟩, ⟨0xFE81, 1, 0, [0x627, 0x653]⟩, ⟨0xFE82, 2, 1, [0x627, 0x653]⟩,
  ⟨0xFE84, 1, 0, [0x627, 0x654]⟩, ⟨0xFE85, 1, 0, [0x648, 0x654]⟩, ⟨0xFE86, 1, 0, [0x648, 0x654]⟩,
  ⟨0xFE87, 1, 0, [0x627, 0x655]⟩, ⟨0xFE88, 1, 0, [0x627, 0x655]⟩, ⟨0xFE89, 1, 0, [0x64A, 0x654]⟩,
  ⟨0xFE8A, 1, 0, [0x64A, 0x654]⟩, ⟨0xFE8B, 1, 0, [0x64A, 0x654]⟩, ⟨0xFE8C, 1, 0, [0x64A, 0x654]⟩,
  ⟨0xFE8D, 1, 0, [0x627]⟩, ⟨0xFE8E, 2, 0, [0x627]⟩, ⟨0xFE90, 1, 0, [0x628]⟩,
  ⟨0xFE91, 1, 0, [0x628]⟩, ⟨0xFE92, 2, 0, [0x628]⟩, ⟨0xFE94, 2, 0, [0x629]⟩,
  ⟨0xFE96, 1, 0, [0x62A]⟩, ⟨0xFE97, 1, 0, [0x62A]⟩, ⟨0xFE98, 2, 0, [0x62A]⟩,
  ⟨0xFE9A, 1, 0, [0x62B]⟩, ⟨0xFE9B, 1, 0, [0x62B]⟩, ⟨0xFE9C, 2, 0, [0x62B]⟩,
  ⟨0xFE9E, 1, 0, [0x62C]⟩, ⟨0xFE9F, 1, 0, [0x62C]⟩, ⟨0xFEA0, 2, 0, [0x62C]⟩,
  ⟨0xFEA2, 1, 0, [0x62D]⟩, ⟨0xFEA3, 1, 0, [0x62D]⟩, ⟨0xFEA4, 2, 0, [0x62D]⟩,
  ⟨0xFEA6, 1, 0, [0x62E]⟩, ⟨0xFEA7, 1, 0, [0x62E]⟩, ⟨0xFEA8, 2, 0, [0x62E]⟩,
  ⟨0xFEAA, 2, 0, [0x62F]⟩, ⟨0xFEAC, 2, 0, [0x630]⟩, ⟨0xFEAE, 2, 0, [0x631]⟩,
  ⟨0xFEB0, 2, 0, [0x632]⟩, ⟨0xFEB2, 1, 0, [0x633]⟩, ⟨0xFEB3, 1, 0, [0x633]⟩,
  ⟨0xFEB4, 2, 0, [0x633]⟩, ⟨0xFEB6, 1, 0, [0x634]⟩, ⟨0xFEB7, 1, 0, [0x634]⟩,
  ⟨0xFEB8, 2, 0, [0x634]⟩, ⟨0xFEBA, 1, 0, [0x635]⟩, ⟨0xFEBB, 1, 0, [0x635]⟩,
  ⟨0xFEBC, 2, 0, [0x635]⟩, ⟨0xFEBE, 1, 0, [0x636]⟩, ⟨0xFEBF, 1, 0, [0x636]⟩,
  ⟨0xFEC0, 2, 0, [0x636]⟩, ⟨0xFEC2, 1, 0, [0x637]⟩, ⟨0xFEC3, 1, 0, [0x637]⟩,
  ⟨0xFEC4, 2, 0, [0x637]⟩, ⟨0xFEC6, 1, 0, [0x638]⟩, ⟨0xFEC7, 1, 0, [0x638]⟩,
  ⟨0xFEC8, 2, 0, [0x638]⟩, ⟨0xFECA, 1, 0, [0x639]⟩, ⟨0xFECB, 1, 0, [0x639]⟩,
  ⟨0xFECC, 2, 0, [0x639]⟩, ⟨0xFECE, 1, 0, [0x63A]⟩, ⟨0xFECF, 1, 0, [0x63A]⟩,
  ⟨0xFED0, 1, 0, [0x63A]⟩, ⟨0xFED1, 1, 0, [0x641]⟩, ⟨0xFED2, 1, 0, [0x641]⟩,
  ⟨0xFED3, 1, 0, [0x641]⟩, ⟨0xFED4, 2, 0, [0x641]⟩, ⟨0xFED6, 1, 0, [0x642]⟩,
  ⟨0xFED7, 1, 0, [0x642]⟩, ⟨0xFED8, 2, 0, [0x642]⟩, ⟨0xFEDA, 1, 0, [0x643]⟩,
  ⟨0xFEDB, 1, 0, [0x643]⟩, ⟨0xFEDC, 2, 0, [0x643]⟩, ⟨0xFEDE, 1, 0, [0x644]⟩,
  ⟨0xFEDF, 1, 0, [0x644]⟩, ⟨0xFEE0, 2, 0, [0x644]⟩, ⟨0xFEE2, 1, 0, [0x645]⟩,
  ⟨0xFEE3, 1, 0, [0x645]⟩, ⟨0xFEE4, 2, 0, [0x645]⟩, ⟨0xFEE6, 1, 0, [0x646]⟩,
  ⟨0xFEE7, 1, 0, [0x646]⟩, ⟨0xFEE8, 2, 0, [0x646]⟩, ⟨0xFEEA, 1, 0, [0x647]⟩,
  ⟨0xFEEB, 1, 0, [0x647]⟩, ⟨0xFEEC, 2, 0, [0x647]⟩, ⟨0xFEEE, 2, 0, [0x648]⟩,
  ⟨0xFEF0, 2, 0, [0x649]⟩, ⟨0xFEF2, 1, 0, [0x64A]⟩, ⟨0xFEF3, 1, 0, [0x64A]⟩,
  ⟨0xFEF4, 1, 0, [0x64A]⟩, ⟨0xFEF5, 1, 0, [0x644, 0x627, 0x653]⟩,
  ⟨0xFEF6, 2, 2, [0x644, 0x627, 0x653]⟩, ⟨0xFEF8, 2, 2, [0x644, 0x627, 0x654]⟩,
  ⟨0xFEFA, 1, 0, [0x644, 0x627, 0x655]⟩, ⟨0xFEFB, 1, 0, [0x644, 0x627]⟩,
  ⟨0xFEFC, 1, 0, [0x644, 0x627]⟩, ⟨0xFF01, 94, 0, [0x21]⟩, ⟨0xFF5F, 2, 0, [0x2985]⟩,
  ⟨0xFF61, 1, 0, [0x3002]⟩, ⟨0xFF62, 2, 0, [0x300C]⟩, ⟨0xFF64, 1, 0, [0x3001]⟩,
  ⟨0xFF65, 1, 0, [0x30FB]⟩, ⟨0xFF66, 1, 0, [0x30F2]⟩, ⟨0xFF67, 1, 0, [0x30A1]⟩,
  ⟨0xFF68, 1, 0, [0x30A3]⟩, ⟨0xFF69, 1, 0, [0x30A5]⟩, ⟨0xFF6A, 1, 0, [0x30A7]⟩,
  ⟨0xFF6B, 1, 0, [0x30A9]⟩, ⟨0xFF6C, 1, 0, [0x30E3]⟩, ⟨0xFF6D, 1, 0, [0x30E5]⟩,
  ⟨0xFF6E, 1, 0, [0x30E7]⟩, ⟨0xFF6F, 1, 0, [0x30C3]⟩, ⟨0xFF70, 1, 0, [0x30FC]⟩,
  ⟨0xFF71, 1, 0, [0x30A2]⟩, ⟨0xFF72, 1, 0, [0x30A4]⟩, ⟨0xFF73, 1, 0, [0x30A6]⟩,
  ⟨0xFF74, 1, 0, [0x30A8]⟩, ⟨0xFF75, 2, 0, [0x30AA]⟩, ⟨0xFF77, 1, 0, [0x30AD]⟩,
  ⟨0xFF78, 1, 0, [0x30AF]⟩, ⟨0xFF79, 1, 0, [0x30B1]⟩, ⟨0xFF7A, 1, 0, [0x30B3]⟩,
  ⟨0xFF7B, 1, 0, [0x30B5]⟩, ⟨0xFF7C, 1, 0, [0x30B7]⟩, ⟨0xFF7D, 1, 0, [0x30B9]⟩,
  ⟨0xFF7E, 1, 0, [0x30BB]⟩, ⟨0xFF7F, 1, 0, [0x30BD]⟩, ⟨0xFF80, 1, 0, [0x30BF]⟩,
  ⟨0xFF81, 1, 0, [0x30C1]⟩, ⟨0xFF82, 1, 0, [0x30C4]⟩, ⟨0xFF83, 1, 0, [0x30C6]⟩,
  ⟨0xFF84, 1, 0, [0x30C8]⟩, ⟨0xFF85, 6, 0, [0x30CA]⟩, ⟨0xFF8B, 1, 0, [0x30D2]⟩,
  ⟨0xFF8C, 1, 0, [0x30D5]⟩, ⟨0xFF8D, 1, 0, [0x30D8]⟩, ⟨0xFF8E, 1, 0, [0x30DB]⟩,
  ⟨0xFF8F, 5, 0, [0x30DE]⟩, ⟨0xFF94, 1, 0, [0x30E4]⟩, ⟨0xFF95, 1, 0, [0x30E6]⟩,
  ⟨0xFF96, 6, 0, [0x30E8]⟩, ⟨0xFF9C, 1, 0, [0x30EF]⟩, ⟨0xFF9D, 1, 0, [0x30F3]⟩,
  ⟨0xFF9E, 2, 0, [0x3099]⟩, ⟨0xFFA0, 1, 0, [0x1160]⟩, ⟨0xFFA1, 2, 0, [0x1100]⟩,
  ⟨0xFFA3, 1, 0, [0x11AA]⟩, ⟨0xFFA4, 1, 0, [0x1102]⟩, ⟨0xFFA5, 2, 0, [0x11AC]⟩,
  ⟨0xFFA7, 3, 0, [0x1103]⟩, ⟨0xFFAA, 6, 0, [0x11B0]⟩, ⟨0xFFB0, 1, 0, [0x111A]⟩,
  ⟨0xFFB1, 3, 0, [0x1106]⟩, ⟨0xFFB4, 1, 0, [0x1121]⟩, ⟨0xFFB5, 10, 0, [0x1109]⟩,
  ⟨0xFFC2, 6, 0, [0x1161]⟩, ⟨0xFFCA, 6, 0, [0x1167]⟩, ⟨0xFFD2, 6, 0, [0x116D]⟩,
  ⟨0xFFDA, 3, 0, [0x1173]⟩, ⟨0xFFE0, 2, 0, [0xA2]⟩, ⟨0xFFE2, 1, 0, [0xAC]⟩,
  ⟨0xFFE3, 1, 0, [0x20, 0x304]⟩, ⟨0xFFE4, 1, 0, [0xA6]⟩, ⟨0xFFE5, 1, 0, [0xA5]⟩,
  ⟨0xFFE6, 1, 0, [0x20A9]⟩, ⟨0xFFE8, 1, 0, [0x2502]⟩, ⟨0xFFE9, 4, 0, [0x2190]⟩,
  ⟨0xFFED, 1, 0, [0x25A0]⟩, ⟨0xFFEE, 1, 0, [0x25CB]⟩]

/-- Runs of presentation forms and width variants. -/
def presentationRuns : List Run := presentationRunsA ++ presentationRunsB

end PortfolioShell.Text.Decomposition
