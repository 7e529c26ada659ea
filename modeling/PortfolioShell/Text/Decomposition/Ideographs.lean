import PortfolioShell.Text.Decomposition.Run

/-!
# Compatibility decompositions: ideographs

Full compatibility decompositions of compatibility ideographs of the basic plane, in ascending order.
-/
namespace PortfolioShell.Text.Decomposition

/-- Runs of compatibility ideographs of the basic plane, part 1. -/
def ideographsRunsA : List Run := [
  ⟨0xF900, 1, 0, [0x8C48]⟩, ⟨0xF901, 1, 0, [0x66F4]⟩, ⟨0xF902, 1, 0, [0x8ECA]⟩,
  ⟨0xF903, 1, 0, [0x8CC8]⟩, ⟨0xF904, 1, 0, [0x6ED1]⟩, ⟨0xF905, 1, 0, [0x4E32]⟩,
  ⟨0xF906, 1, 0, [0x53E5]⟩, ⟨0xF907, 1, 0, [0x9F9C]⟩, ⟨0xF908, 1, 0, [0x9F9C]⟩,
  ⟨0xF909, 1, 0, [0x5951]⟩, ⟨0xF90A, 1, 0, [0x91D1]⟩, ⟨0xF90B, 1, 0, [0x5587]⟩,
  ⟨0xF90C, 1, 0, [0x5948]⟩, ⟨0xF90D, 1, 0, [0x61F6]⟩, ⟨0xF90E, 1, 0, [0x7669]⟩,
  ⟨0xF90F, 1, 0, [0x7F85]⟩, ⟨0xF910, 1, 0, [0x863F]⟩, ⟨0xF911, 1, 0, [0x87BA]⟩,
  ⟨0xF912, 1, 0, [0x88F8]⟩, ⟨0xF913, 1, 0, [0x908F]⟩, ⟨0xF914, 1, 0, [0x6A02]⟩,
  ⟨0xF915, 1, 0, [0x6D1B]⟩, ⟨0xF916, 1, 0, [0x70D9]⟩, ⟨0xF917, 1, 0, [0x73DE]⟩,
  ⟨0xF918, 1, 0, [0x843D]⟩, ⟨0xF919, 1, 0, [0x916A]⟩, ⟨0xF91A, 1, 0, [0x99F1]⟩,
  ⟨0xF91B, 1, 0, [0x4E82]⟩, ⟨0xF91C, 1, 0, [0x5375]⟩, ⟨0xF91D, 1, 0, [0x6B04]⟩,
  ⟨0xF91E, 1, 0, [0x721B]⟩, ⟨0xF91F, 1, 0, [0x862D]⟩, ⟨0xF920, 1, 0, [0x9E1E]⟩,
  ⟨0xF921, 1, 0, [0x5D50]⟩, ⟨0xF922, 1, 0, [0x6FEB]⟩, ⟨0xF923, 1, 0, [0x85CD]⟩,
  ⟨0xF924, 1, 0, [0x8964]⟩, ⟨0xF925, 1, 0, [0x62C9]⟩, ⟨0xF926, 1, 0, [0x81D8]⟩,
  ⟨0xF927, 1, 0, [0x881F]⟩, ⟨0xF928, 1, 0, [0x5ECA]⟩, ⟨0xF929, 1, 0, [0x6717]⟩,
  ⟨0xF92A, 1, 0, [0x6D6A]⟩, ⟨0xF92B, 1, 0, [0x72FC]⟩, ⟨0xF92C, 1, 0, [0x90CE]⟩,
  ⟨0xF92D, 1, 0, [0x4F86]⟩, ⟨0xF92E, 1, 0, [0x51B7]⟩, ⟨0xF92F, 1, 0, [0x52DE]⟩,
  ⟨0xF930, 1, 0, [0x64C4]⟩, ⟨0xF931, 1, 0, [0x6AD3]⟩, ⟨0xF932, 1, 0, [0x7210]⟩,
  ⟨0xF933, 1, 0, [0x76E7]⟩, ⟨0xF934, 1, 0, [0x8001]⟩, ⟨0xF935, 1, 0, [0x8606]⟩,
  ⟨0xF936, 1, 0, [0x865C]⟩, ⟨0xF937, 1, 0, [0x8DEF]⟩, ⟨0xF938, 1, 0, [0x9732]⟩,
  ⟨0xF939, 1, 0, [0x9B6F]⟩, ⟨0xF93A, 1, 0, [0x9DFA]⟩, ⟨0xF93B, 1, 0, [0x788C]⟩,
  ⟨0xF93C, 1, 0, [0x797F]⟩, ⟨0xF93D, 1, 0, [0x7DA0]⟩, ⟨0xF93E, 1, 0, [0x83C9]⟩,
  ⟨0xF93F, 1, 0, [0x9304]⟩, ⟨0xF940, 1, 0, [0x9E7F]⟩, ⟨0xF941, 1, 0, [0x8AD6]⟩,
  ⟨0xF942, 1, 0, [0x58DF]⟩, ⟨0xF943, 1, 0, [0x5F04]⟩, ⟨0xF944, 1, 0, [0x7C60]⟩,
  ⟨0xF945, 1, 0, [0x807E]⟩, ⟨0xF946, 1, 0, [0x7262]⟩, ⟨0xF947, 1, 0, [0x78CA]⟩,
  ⟨0xF948, 1, 0, [0x8CC2]⟩, ⟨0xF949, 1, 0, [0x96F7]⟩, ⟨0xF94A, 1, 0, [0x58D8]⟩,
  ⟨0xF94B, 1, 0, [0x5C62]⟩, ⟨0xF94C, 1, 0, [0x6A13]⟩, ⟨0xF94D, 1, 0, [0x6DDA]⟩,
  ⟨0xF94E, 1, 0, [0x6F0F]⟩, ⟨0xF94F, 1, 0, [0x7D2F]⟩, ⟨0xF950, 1, 0, [0x7E37]⟩,
  ⟨0xF951, 1, 0, [0x964B]⟩, ⟨0xF952, 1, 0, [0x52D2]⟩, ⟨0xF953, 1, 0, [0x808B]⟩,
  ⟨0xF954, 1, 0, [0x51DC]⟩, ⟨0xF955, 1, 0, [0x51CC]⟩, ⟨0xF956, 1, 0, [0x7A1C]⟩,
  ⟨0xF957, 1, 0, [0x7DBE]⟩, ⟨0xF958, 1, 0, [0x83F1]⟩, ⟨0xF959, 1, 0, [0x9675]⟩,
  ⟨0xF95A, 1, 0, [0x8B80]⟩, ⟨0xF95B, 1, 0, [0x62CF]⟩, ⟨0xF95C, 1, 0, [0x6A02]⟩,
  ⟨0xF95D, 1, 0, [0x8AFE]⟩, ⟨0xF95E, 1, 0, [0x4E39]⟩, ⟨0xF95F, 1, 0, [0x5BE7]⟩,
  ⟨0xF960, 1, 0, [0x6012]⟩, ⟨0xF961, 1, 0, [0x7387]⟩, ⟨0xF962, 1, 0, [0x7570]⟩,
  ⟨0xF963, 1, 0, [0x5317]⟩, ⟨0xF964, 1, 0, [0x78FB]⟩, ⟨0xF965, 1, 0, [0x4FBF]⟩,
  ⟨0xF966, 1, 0, [0x5FA9]⟩, ⟨0xF967, 1, 0, [0x4E0D]⟩, ⟨0xF968, 1, 0, [0x6CCC]⟩,
  ⟨0xF969, 1, 0, [0x6578]⟩, ⟨0xF96A, 1, 0, [0x7D22]⟩, ⟨0xF96B, 1, 0, [0x53C3]⟩,
  ⟨0xF96C, 1, 0, [0x585E]⟩, ⟨0xF96D, 1, 0, [0x7701]⟩, ⟨0xF96E, 1, 0, [0x8449]⟩,
  ⟨0xF96F, 1, 0, [0x8AAA]⟩, ⟨0xF970, 1, 0, [0x6BBA]⟩, ⟨0xF971, 1, 0, [0x8FB0]⟩,
  ⟨0xF972, 1, 0, [0x6C88]⟩, ⟨0xF973, 1, 0, [0x62FE]⟩, ⟨0xF974, 1, 0, [0x82E5]⟩,
  ⟨0xF975, 1, 0, [0x63A0]⟩, ⟨0xF976, 1, 0, [0x7565]⟩, ⟨0xF977, 1, 0, [0x4EAE]⟩,
  ⟨0xF978, 1, 0, [0x5169]⟩, ⟨0xF979, 1, 0, [0x51C9]⟩, ⟨0xF97A, 1, 0, [0x6881]⟩,
  ⟨0xF97B, 1, 0, [0x7CE7]⟩, ⟨0xF97C, 1, 0, [0x826F]⟩, ⟨0xF97D, 1, 0, [0x8AD2]⟩,
  ⟨0xF97E, 1, 0, [0x91CF]⟩, ⟨0xF97F, 1, 0, [0x52F5]⟩, ⟨0xF980, 1, 0, [0x5442]⟩,
  ⟨0xF981, 1, 0, [0x5973]⟩, ⟨0xF982, 1, 0, [0x5EEC]⟩, ⟨0xF983, 1, 0, [0x65C5]⟩,
  ⟨0xF984, 1, 0, [0x6FFE]⟩, ⟨0xF985, 1, 0, [0x792A]⟩, ⟨0xF986, 1, 0, [0x95AD]⟩,
  ⟨0xF987, 1, 0, [0x9A6A]⟩, ⟨0xF988, 1, 0, [0x9E97]⟩, ⟨0xF989, 1, 0, [0x9ECE]⟩,
  ⟨0xF98A, 1, 0, [0x529B]⟩, ⟨0xF98B, 1, 0, [0x66C6]⟩, ⟨0xF98C, 1, 0, [0x6B77]⟩,
  ⟨0xF98D, 1, 0, [0x8F62]⟩, ⟨0xF98E, 1, 0, [0x5E74]⟩, ⟨0xF98F, 1, 0, [0x6190]⟩,
  ⟨0xF990, 1, 0, [0x6200]⟩, ⟨0xF991, 1, 0, [0x649A]⟩, ⟨0xF992, 1, 0, [0x6F23]⟩,
  ⟨0xF993, 1, 0, [0x7149]⟩, ⟨0xF994, 1, 0, [0x7489]⟩, ⟨0xF995, 1, 0, [0x79CA]⟩,
  ⟨0xF996, 1, 0, [0x7DF4]⟩, ⟨0xF997, 1, 0, [0x806F]⟩, ⟨0xF998, 1, 0, [0x8F26]⟩,
  ⟨0xF999, 1, 0, [0x84EE]⟩, ⟨0xF99A, 1, 0, [0x9023]⟩, ⟨0xF99B, 1, 0, [0x934A]⟩,
  ⟨0xF99C, 1, 0, [0x5217]⟩, ⟨0xF99D, 1, 0, [0x52A3]⟩, ⟨0xF99E, 1, 0, [0x54BD]⟩,
  ⟨0xF99F, 1, 0, [0x70C8]⟩, ⟨0xF9A0, 1, 0, [0x88C2]⟩, ⟨0xF9A1, 1, 0, [0x8AAA]⟩,
  ⟨0xF9A2, 1, 0, [0x5EC9]⟩, ⟨0xF9A3, 1, 0, [0x5FF5]⟩, ⟨0xF9A4, 1, 0, [0x637B]⟩,
  ⟨0xF9A5, 1, 0, [0x6BAE]⟩, ⟨0xF9A6, 1, 0, [0x7C3E]⟩, ⟨0xF9A7, 1, 0, [0x7375]⟩,
  ⟨0xF9A8, 1, 0, [0x4EE4]⟩, ⟨0xF9A9, 1, 0, [0x56F9]⟩, ⟨0xF9AA, 1, 0, [0x5BE7]⟩,
  ⟨0xF9AB, 1, 0, [0x5DBA]⟩, ⟨0xF9AC, 1, 0, [0x601C]⟩, ⟨0xF9AD, 1, 0, [0x73B2]⟩,
  ⟨0xF9AE, 1, 0, [0x7469]⟩, ⟨0xF9AF, 1, 0, [0x7F9A]⟩, ⟨0xF9B0, 1, 0, [0x8046]⟩,
  ⟨0xF9B1, 1, 0, [0x9234]⟩, ⟨0xF9B2, 1, 0, [0x96F6]⟩, ⟨0xF9B3, 1, 0, [0x9748]⟩,
  ⟨0xF9B4, 1, 0, [0x9818]⟩, ⟨0xF9B5, 1, 0, [0x4F8B]⟩, ⟨0xF9B6, 1, 0, [0x79AE]⟩,
  ⟨0xF9B7, 1, 0, [0x91B4]⟩, ⟨0xF9B8, 1, 0, [0x96B8]⟩, ⟨0xF9B9, 1, 0, [0x60E1]⟩,
  ⟨0xF9BA, 1, 0, [0x4E86]⟩, ⟨0xF9BB, 1, 0, [0x50DA]⟩, ⟨0xF9BC, 1, 0, [0x5BEE]⟩,
  ⟨0xF9BD, 1, 0, [0x5C3F]⟩, ⟨0xF9BE, 1, 0, [0x6599]⟩, ⟨0xF9BF, 1, 0, [0x6A02]⟩,
  ⟨0xF9C0, 1, 0, [0x71CE]⟩, ⟨0xF9C1, 1, 0, [0x7642]⟩, ⟨0xF9C2, 1, 0, [0x84FC]⟩,
  ⟨0xF9C3, 1, 0, [0x907C]⟩, ⟨0xF9C4, 1, 0, [0x9F8D]⟩, ⟨0xF9C5, 1, 0, [0x6688]⟩,
  ⟨0xF9C6, 1, 0, [0x962E]⟩, ⟨0xF9C7, 1, 0, [0x5289]⟩, ⟨0xF9C8, 1, 0, [0x677B]⟩,
  ⟨0xF9C9, 1, 0, [0x67F3]⟩, ⟨0xF9CA, 1, 0, [0x6D41]⟩, ⟨0xF9CB, 1, 0, [0x6E9C]⟩,
  ⟨0xF9CC, 1, 0, [0x7409]⟩, ⟨0xF9CD, 1, 0, [0x7559]⟩, ⟨0xF9CE, 1, 0, [0x786B]⟩,
  ⟨0xF9CF, 1, 0, [0x7D10]⟩, ⟨0xF9D0, 1, 0, [0x985E]⟩, ⟨0xF9D1, 1, 0, [0x516D]⟩,
  ⟨0xF9D2, 1, 0, [0x622E]⟩, ⟨0xF9D3, 1, 0, [0x9678]⟩, ⟨0xF9D4, 1, 0, [0x502B]⟩,
  ⟨0xF9D5, 1, 0, [0x5D19]⟩, ⟨0xF9D6, 1, 0, [0x6DEA]⟩, ⟨0xF9D7, 1, 0, [0x8F2A]⟩,
  ⟨0xF9D8, 1, 0, [0x5F8B]⟩, ⟨0xF9D9, 1, 0, [0x6144]⟩, ⟨0xF9DA, 1, 0, [0x6817]⟩,
  ⟨0xF9DB, 1, 0, [0x7387]⟩, ⟨0xF9DC, 1, 0, [0x9686]⟩, ⟨0xF9DD, 1, 0, [0x5229]⟩,
  ⟨0xF9DE, 1, 0, [0x540F]⟩, ⟨0xF9DF, 1, 0, [0x5C65]⟩, ⟨0xF9E0, 1, 0, [0x6613]⟩,
  ⟨0xF9E1, 1, 0, [0x674E]⟩, ⟨0xF9E2, 1, 0, [0x68A8]⟩, ⟨0xF9E3, 1, 0, [0x6CE5]⟩,
  ⟨0xF9E4, 1, 0, [0x7406]⟩, ⟨0xF9E5, 1, 0, [0x75E2]⟩, ⟨0xF9E6, 1, 0, [0x7F79]⟩,
  ⟨0xF9E7, 1, 0, [0x88CF]⟩, ⟨0xF9E8, 1, 0, [0x88E1]⟩, ⟨0xF9E9, 1, 0, [0x91CC]⟩,
  ⟨0xF9EA, 1, 0, [0x96E2]⟩, ⟨0xF9EB, 1, 0, [0x533F]⟩, ⟨0xF9EC, 1, 0, [0x6EBA]⟩,
  ⟨0xF9ED, 1, 0, [0x541D]⟩, ⟨0xF9EE, 1, 0, [0x71D0]⟩, ⟨0xF9EF, 1, 0, [0x7498]⟩,
  ⟨0xF9F0, 1, 0, [0x85FA]⟩, ⟨0xF9F1, 1, 0, [0x96A3]⟩, ⟨0xF9F2, 1, 0, [0x9C57]⟩,
  ⟨0xF9F3, 1, 0, [0x9E9F]⟩, ⟨0xF9F4, 1, 0, [0x6797]⟩, ⟨0xF9F5, 1, 0, [0x6DCB]⟩,
  ⟨0xF9F6, 1, 0, [0x81E8]⟩, ⟨0xF9F7, 1, 0, [0x7ACB]⟩, ⟨0xF9F8, 1, 0, [0x7B20]⟩,
  ⟨0xF9F9, 1, 0, [0x7C92]⟩, ⟨0xF9FA, 1, 0, [0x72C0]⟩, ⟨0xF9FB, 1, 0, [0x7099]⟩,
  ⟨0xF9FC, 1, 0, [0x8B58]⟩, ⟨0xF9FD, 1, 0, [0x4EC0]⟩, ⟨0xF9FE, 1, 0, [0x8336]⟩,
  ⟨0xF9FF, 1, 0, [0x523A]⟩, ⟨0xFA00, 1, 0, [0x5207]⟩, ⟨0xFA01, 1, 0, [0x5EA6]⟩,
  ⟨0xFA02, 1, 0, [0x62D3]⟩, ⟨0xFA03, 1, 0, [0x7CD6]⟩, ⟨0xFA04, 1, 0, [0x5B85]⟩,
  ⟨0xFA05, 1, 0, [0x6D1E]⟩, ⟨0xFA06, 1, 0, [0x66B4]⟩, ⟨0xFA07, 1, 0, [0x8F3B]⟩,
  ⟨0xFA08, 1, 0, [0x884C]⟩, ⟨0xFA09, 1, 0, [0x964D]⟩, ⟨0xFA0A, 1, 0, [0x898B]⟩,
  ⟨0xFA0B, 1, 0, [0x5ED3]⟩, ⟨0xFA0C, 1, 0, [0x5140]⟩, ⟨0xFA0D, 1, 0, [0x55C0]⟩,
  ⟨0xFA10, 1, 0, [0x585A]⟩, ⟨0xFA12, 1, 0, [0x6674]⟩, ⟨0xFA15, 1, 0, [0x51DE]⟩,
  ⟨0xFA16, 1, 0, [0x732A]⟩, ⟨0xFA17, 1, 0, [0x76CA]⟩, ⟨0xFA18, 1, 0, [0x793C]⟩,
  ⟨0xFA19, 1, 0, [0x795E]⟩, ⟨0xFA1A, 1, 0, [0x7965]⟩, ⟨0xFA1B, 1, 0, [0x798F]⟩,
  ⟨0xFA1C, 1, 0, [0x9756]⟩, ⟨0xFA1D, 1, 0, [0x7CBE]⟩, ⟨0xFA1E, 1, 0, [0x7FBD]⟩,
  ⟨0xFA20, 1, 0, [0x8612]⟩, ⟨0xFA22, 1, 0, [0x8AF8]⟩, ⟨0xFA25, 1, 0, [0x9038]⟩,
  ⟨0xFA26, 1, 0, [0x90FD]⟩, ⟨0xFA2A, 1, 0, [0x98EF]⟩, ⟨0xFA2B, 1, 0, [0x98FC]⟩,
  ⟨0xFA2C, 1, 0, [0x9928]⟩, ⟨0xFA2D, 1, 0, [0x9DB4]⟩, ⟨0xFA2E, 1, 0, [0x90DE]⟩,
  ⟨0xFA2F, 1, 0, [0x96B7]⟩, ⟨0xFA30, 1, 0, [0x4FAE]⟩, ⟨0xFA31, 1, 0, [0x50E7]⟩,
  ⟨0xFA32, 1, 0, [0x514D]⟩, ⟨0xFA33, 1, 0, [0x52C9]⟩, ⟨0xFA34, 1, 0, [0x52E4]⟩,
  ⟨0xFA35, 1, 0, [0x5351]⟩, ⟨0xFA36, 1, 0, [0x559D]⟩, ⟨0xFA37, 1, 0, [0x5606]⟩,
  ⟨0xFA38, 1, 0, [0x5668]⟩, ⟨0xFA39, 1, 0, [0x5840]⟩, ⟨0xFA3A, 1, 0, [0x58A8]⟩,
  ⟨0xFA3B, 1, 0, [0x5C64]⟩, ⟨0xFA3C, 1, 0, [0x5C6E]⟩, ⟨0xFA3D, 1, 0, [0x6094]⟩,
  ⟨0xFA3E, 1, 0, [0x6168]⟩, ⟨0xFA3F, 1, 0, [0x618E]⟩, ⟨0xFA40, 1, 0, [0x61F2]⟩,
  ⟨0xFA41, 1, 0, [0x654F]⟩, ⟨0xFA42, 1, 0, [0x65E2]⟩, ⟨0xFA43, 1, 0, [0x6691]⟩,
  ⟨0xFA44, 1, 0, [0x6885]⟩, ⟨0xFA45, 1, 0, [0x6D77]⟩, ⟨0xFA46, 1, 0, [0x6E1A]⟩,
  ⟨0xFA47, 1, 0, [0x6F22]⟩, ⟨0xFA48, 1, 0, [0x716E]⟩, ⟨0xFA49, 1, 0, [0x722B]⟩,
  ⟨0xFA4A, 1, 0, [0x7422]⟩, ⟨0xFA4B, 1, 0, [0x7891]⟩, ⟨0xFA4C, 1, 0, [0x793E]⟩,
  ⟨0xFA4D, 1, 0, [0x7949]⟩, ⟨0xFA4E, 1, 0, [0x7948]⟩, ⟨0xFA4F, 1, 0, [0x7950]⟩,
  ⟨0xFA50, 1, 0, [0x7956]⟩, ⟨0xFA51, 1, 0, [0x795D]⟩, ⟨0xFA52, 2, 0, [0x798D]⟩,
  ⟨0xFA54, 1, 0, [0x7A40]⟩, ⟨0xFA55, 1, 0, [0x7A81]⟩, ⟨0xFA56, 1, 0, [0x7BC0]⟩,
  ⟨0xFA57, 1, 0, [0x7DF4]⟩, ⟨0xFA58, 1, 0, [0x7E09]⟩, ⟨0xFA59, 1, 0, [0x7E41]⟩,
  ⟨0xFA5A, 1, 0, [0x7F72]⟩, ⟨0xFA5B, 1, 0, [0x8005]⟩, ⟨0xFA5C, 1, 0, [0x81ED]⟩,
  ⟨0xFA5D, 1, 0, [0x8279]⟩, ⟨0xFA5E, 1, 0, [0x8279]⟩, ⟨0xFA5F, 1, 0, [0x8457]⟩,
  ⟨0xFA60, 1, 0, [0x8910]⟩, ⟨0xFA61, 1, 0, [0x8996]⟩, ⟨0xFA62, 1, 0, [0x8B01]⟩,
  ⟨0xFA63, 1, 0, [0x8B39]⟩, ⟨0xFA64, 1, 0, [0x8CD3]⟩, ⟨0xFA65, 1, 0, [0x8D08]⟩,
  ⟨0xFA66, 1, 0, [0x8FB6]⟩, ⟨0xFA67, 1, 0, [0x9038]⟩, ⟨0xFA68, 1, 0, [0x96E3]⟩,
  ⟨0xFA69, 1, 0, [0x97FF]⟩, ⟨0xFA6A, 1, 0, [0x983B]⟩, ⟨0xFA6B, 1, 0, [0x6075]⟩,
  ⟨0xFA6C, 1, 0, [0x242EE]⟩, ⟨0xFA6D, 1, 0, [0x8218]⟩, ⟨0xFA70, 1, 0, [0x4E26]⟩,
  ⟨0xFA71, 1, 0, [0x51B5]⟩, ⟨0xFA72, 1, 0, [0x5168]⟩, ⟨0xFA73, 1, 0, [0x4F80]⟩,
  ⟨0xFA74, 1, 0, [0x5145]⟩, ⟨0xFA75, 1, 0, [0x5180]⟩, ⟨0xFA76, 1, 0, [0x52C7]⟩,
  ⟨0xFA77, 1, 0, [0x52FA]⟩, ⟨0xFA78, 1, 0, [0x559D]⟩, ⟨0xFA79, 1, 0, [0x5555]⟩,
  ⟨0xFA7A, 1, 0, [0x5599]⟩, ⟨0xFA7B, 1, 0, [0x55E2]⟩, ⟨0xFA7C, 1, 0, [0x585A]⟩,
  ⟨0xFA7D, 1, 0, [0x58B3]⟩, ⟨0xFA7E, 1, 0, [0x5944]⟩, ⟨0xFA7F, 1, 0, [0x5954]⟩,
  ⟨0xFA80, 1, 0, [0x5A62]⟩, ⟨0xFA81, 1, 0, [0x5B28]⟩, ⟨0xFA82, 1, 0, [0x5ED2]⟩,
  ⟨0xFA83, 1, 0, [0x5ED9]⟩, ⟨0xFA84, 1, 0, [0x5F69]⟩, ⟨0xFA85, 1, 0, [0x5FAD]⟩,
  ⟨0xFA86, 1, 0, [0x60D8]⟩, ⟨0xFA87, 1, 0, [0x614E]⟩, ⟨0xFA88, 1, 0, [0x6108]⟩,
  ⟨0xFA89, 1, 0, [0x618E]⟩, ⟨0xFA8A, 1, 0, [0x6160]⟩, ⟨0xFA8B, 1, 0, [0x61F2]⟩,
  ⟨0xFA8C, 1, 0, [0x6234]⟩, ⟨0xFA8D, 1, 0, [0x63C4]⟩, ⟨0xFA8E, 1, 0, [0x641C]⟩,
  ⟨0xFA8F, 1, 0, [0x6452]⟩, ⟨0xFA90, 1, 0, [0x6556]⟩, ⟨0xFA91, 1, 0, [0x6674]⟩,
  ⟨0xFA92, 1, 0, [0x6717]⟩, ⟨0xFA93, 1, 0, [0x671B]⟩, ⟨0xFA94, 1, 0, [0x6756]⟩,
  ⟨0xFA95, 1, 0, [0x6B79]⟩, ⟨0xFA96, 1, 0, [0x6BBA]⟩, ⟨0xFA97, 1, 0, [0x6D41]⟩,
  ⟨0xFA98, 1, 0, [0x6EDB]⟩, ⟨0xFA99, 1, 0, [0x6ECB]⟩, ⟨0xFA9A, 1, 0, [0x6F22]⟩,
  ⟨0xFA9B, 1, 0, [0x701E]⟩, ⟨0xFA9C, 1, 0, [0x716E]⟩, ⟨0xFA9D, 1, 0, [0x77A7]⟩,
  ⟨0xFA9E, 1, 0, [0x7235]⟩]

/-- Runs of compatibility ideographs of the basic plane, part 2. -/
def ideographsRunsB : List Run := [
  ⟨0xFA9F, 1, 0, [0x72AF]⟩, ⟨0xFAA0, 1, 0, [0x732A]⟩, ⟨0xFAA1, 1, 0, [0x7471]⟩,
  ⟨0xFAA2, 1, 0, [0x7506]⟩, ⟨0xFAA3, 1, 0, [0x753B]⟩, ⟨0xFAA4, 1, 0, [0x761D]⟩,
  ⟨0xFAA5, 1, 0, [0x761F]⟩, ⟨0xFAA6, 1, 0, [0x76CA]⟩, ⟨0xFAA7, 1, 0, [0x76DB]⟩,
  ⟨0xFAA8, 1, 0, [0x76F4]⟩, ⟨0xFAA9, 1, 0, [0x774A]⟩, ⟨0xFAAA, 1, 0, [0x7740]⟩,
  ⟨0xFAAB, 1, 0, [0x78CC]⟩, ⟨0xFAAC, 1, 0, [0x7AB1]⟩, ⟨0xFAAD, 1, 0, [0x7BC0]⟩,
  ⟨0xFAAE, 1, 0, [0x7C7B]⟩, ⟨0xFAAF, 1, 0, [0x7D5B]⟩, ⟨0xFAB0, 1, 0, [0x7DF4]⟩,
  ⟨0xFAB1, 1, 0, [0x7F3E]⟩, ⟨0xFAB2, 1, 0, [0x8005]⟩, ⟨0xFAB3, 1, 0, [0x8352]⟩,
  ⟨0xFAB4, 1, 0, [0x83EF]⟩, ⟨0xFAB5, 1, 0, [0x8779]⟩, ⟨0xFAB6, 1, 0, [0x8941]⟩,
  ⟨0xFAB7, 1, 0, [0x8986]⟩, ⟨0xFAB8, 1, 0, [0x8996]⟩, ⟨0xFAB9, 1, 0, [0x8ABF]⟩,
  ⟨0xFABA, 1, 0, [0x8AF8]⟩, ⟨0xFABB, 1, 0, [0x8ACB]⟩, ⟨0xFABC, 1, 0, [0x8B01]⟩,
  ⟨0xFABD, 1, 0, [0x8AFE]⟩, ⟨0xFABE, 1, 0, [0x8AED]⟩, ⟨0xFABF, 1, 0, [0x8B39]⟩,
  ⟨0xFAC0, 1, 0, [0x8B8A]⟩, ⟨0xFAC1, 1, 0, [0x8D08]⟩, ⟨0xFAC2, 1, 0, [0x8F38]⟩,
  ⟨0xFAC3, 1, 0, [0x9072]⟩, ⟨0xFAC4, 1, 0, [0x9199]⟩, ⟨0xFAC5, 1, 0, [0x9276]⟩,
  ⟨0xFAC6, 1, 0, [0x967C]⟩, ⟨0xFAC7, 1, 0, [0x96E3]⟩, ⟨0xFAC8, 1, 0, [0x9756]⟩,
  ⟨0xFAC9, 1, 0, [0x97DB]⟩, ⟨0xFACA, 1, 0, [0x97FF]⟩, ⟨0xFACB, 1, 0, [0x980B]⟩,
  ⟨0xFACC, 1, 0, [0x983B]⟩, ⟨0xFACD, 1, 0, [0x9B12]⟩, ⟨0xFACE, 1, 0, [0x9F9C]⟩,
  ⟨0xFACF, 1, 0, [0x2284A]⟩, ⟨0xFAD0, 1, 0, [0x22844]⟩, ⟨0xFAD1, 1, 0, [0x233D5]⟩,
  ⟨0xFAD2, 1, 0, [0x3B9D]⟩, ⟨0xFAD3, 1, 0, [0x4018]⟩, ⟨0xFAD4, 1, 0, [0x4039]⟩,
  ⟨0xFAD5, 1, 0, [0x25249]⟩, ⟨0xFAD6, 1, 0, [0x25CD0]⟩, ⟨0xFAD7, 1, 0, [0x27ED3]⟩,
  ⟨0xFAD8, 1, 0, [0x9F43]⟩, ⟨0xFAD9, 1, 0, [0x9F8E]⟩]

/-- Runs of compatibility ideographs of the basic plane. -/
def ideographsRuns : List Run := ideographsRunsA ++ ideographsRunsB

end PortfolioShell.Text.Decomposition
