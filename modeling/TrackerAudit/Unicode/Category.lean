import TrackerAudit.Unicode.Runs

/-!
# General categories

Each code point has one of thirty general categories, with a name of two letters. Other names stand for one category or
for several.
-/

namespace TrackerAudit.Unicode

/-- The runs of code points with the same general category. -/
def categoryRuns : Runs := Runs.ofRows 2
  ["Cc20 Zs1 Po3 Sc1 Po3 Ps1 Pe1 Po1 Sm1 Po1 Pd1 Po2 NdA Po2 Sm3 Po2 Lu1A Ps1 Po1 Pe1 Sk1 Pc1 Sk1 Ll1A Ps1 Sm1 Pe1",
   "Sm1 Cc21 Zs1 Po1 Sc4 So1 Po1 Sk1 So1 Lo1 Pi1 Sm1 Cf1 So1 Sk1 So1 Sm1 No2 Sk1 Ll1 Po2 Sk1 No1 Lo1 Pf1 No3 Po1",
   "Lu17 Sm1 Lu7 Ll18 Sm1 Ll8 Lu1 Ll1 Lu1 Ll1 Lu1 Ll1 Lu1 Ll1 Lu1 Ll1 Lu1 Ll1 Lu1 Ll1 Lu1 Ll1 Lu1 Ll1 Lu1 Ll1 Lu1",
   "Ll1 Lu1 Ll1 Lu1 Ll1 Lu1 Ll1 Lu1 Ll1 Lu1 Ll1 Lu1 Ll1 Lu1 Ll1 Lu1 Ll1 Lu1 Ll1 Lu1 Ll1 Lu1 Ll1 Lu1 Ll1 Lu1 Ll1 Lu1",
   "Ll1 Lu1 Ll1 Lu1 Ll1 Lu1 Ll2 Lu1 Ll1 Lu1 Ll1 Lu1 Ll1 Lu1 Ll1 Lu1 Ll1 Lu1 Ll1 Lu1 Ll1 Lu1 Ll2 Lu1 Ll1 Lu1 Ll1 Lu1",
   "Ll1 Lu1 Ll1 Lu1 Ll1 Lu1 Ll1 Lu1 Ll1 Lu1 Ll1 Lu1 Ll1 Lu1 Ll1 Lu1 Ll1 Lu1 Ll1 Lu1 Ll1 Lu1 Ll1 Lu1 Ll1 Lu1 Ll1 Lu1",
   "Ll1 Lu1 Ll1 Lu1 Ll1 Lu1 Ll1 Lu1 Ll1 Lu1 Ll1 Lu1 Ll1 Lu2 Ll1 Lu1 Ll1 Lu1 Ll3 Lu2 Ll1 Lu1 Ll1 Lu2 Ll1 Lu3 Ll2 Lu4",
   "Ll1 Lu2 Ll1 Lu3 Ll3 Lu2 Ll1 Lu2 Ll1 Lu1 Ll1 Lu1 Ll1 Lu2 Ll1 Lu1 Ll2 Lu1 Ll1 Lu2 Ll1 Lu3 Ll1 Lu1 Ll1 Lu2 Ll2 Lo1",
   "Lu1 Ll3 Lo4 Lu1 Lt1 Ll1 Lu1 Lt1 Ll1 Lu1 Lt1 Ll1 Lu1 Ll1 Lu1 Ll1 Lu1 Ll1 Lu1 Ll1 Lu1 Ll1 Lu1 Ll1 Lu1 Ll1 Lu1 Ll2",
   "Lu1 Ll1 Lu1 Ll1 Lu1 Ll1 Lu1 Ll1 Lu1 Ll1 Lu1 Ll1 Lu1 Ll1 Lu1 Ll1 Lu1 Ll2 Lu1 Lt1 Ll1 Lu1 Ll1 Lu3 Ll1 Lu1 Ll1 Lu1",
   "Ll1 Lu1 Ll1 Lu1 Ll1 Lu1 Ll1 Lu1 Ll1 Lu1 Ll1 Lu1 Ll1 Lu1 Ll1 Lu1 Ll1 Lu1 Ll1 Lu1 Ll1 Lu1 Ll1 Lu1 Ll1 Lu1 Ll1 Lu1",
   "Ll1 Lu1 Ll1 Lu1 Ll1 Lu1 Ll1 Lu1 Ll1 Lu1 Ll1 Lu1 Ll1 Lu1 Ll1 Lu1 Ll1 Lu1 Ll1 Lu1 Ll1 Lu1 Ll1 Lu1 Ll1 Lu1 Ll7 Lu2",
   "Ll1 Lu2 Ll2 Lu1 Ll1 Lu4 Ll1 Lu1 Ll1 Lu1 Ll1 Lu1 Ll1 Lu1 Ll45 Lo1 Ll1B Lm12 Sk4 LmC SkE Lm5 Sk7 Lm1 Sk1 Lm1 Sk11",
   "Mn70 Lu1 Ll1 Lu1 Ll1 Lm1 Sk1 Lu1 Ll1 Cn2 Lm1 Ll3 Po1 Lu1 Cn4 Sk2 Lu1 Po1 Lu3 Cn1 Lu1 Cn1 Lu2 Ll1 Lu11 Cn1 Lu9",
   "Ll23 Lu1 Ll2 Lu3 Ll3 Lu1 Ll1 Lu1 Ll1 Lu1 Ll1 Lu1 Ll1 Lu1 Ll1 Lu1 Ll1 Lu1 Ll1 Lu1 Ll1 Lu1 Ll1 Lu1 Ll1 Lu1 Ll1 Lu1",
   "Ll5 Lu1 Ll1 Sm1 Lu1 Ll1 Lu2 Ll2 Lu33 Ll30 Lu1 Ll1 Lu1 Ll1 Lu1 Ll1 Lu1 Ll1 Lu1 Ll1 Lu1 Ll1 Lu1 Ll1 Lu1 Ll1 Lu1",
   "Ll1 Lu1 Ll1 Lu1 Ll1 Lu1 Ll1 Lu1 Ll1 Lu1 Ll1 Lu1 Ll1 Lu1 Ll1 Lu1 Ll1 So1 Mn5 Me2 Lu1 Ll1 Lu1 Ll1 Lu1 Ll1 Lu1 Ll1",
   "Lu1 Ll1 Lu1 Ll1 Lu1 Ll1 Lu1 Ll1 Lu1 Ll1 Lu1 Ll1 Lu1 Ll1 Lu1 Ll1 Lu1 Ll1 Lu1 Ll1 Lu1 Ll1 Lu1 Ll1 Lu1 Ll1 Lu1 Ll1",
   "Lu1 Ll1 Lu1 Ll1 Lu1 Ll1 Lu1 Ll1 Lu1 Ll1 Lu1 Ll1 Lu1 Ll1 Lu1 Ll1 Lu1 Ll1 Lu2 Ll1 Lu1 Ll1 Lu1 Ll1 Lu1 Ll1 Lu1 Ll1",
   "Lu1 Ll1 Lu1 Ll2 Lu1 Ll1 Lu1 Ll1 Lu1 Ll1 Lu1 Ll1 Lu1 Ll1 Lu1 Ll1 Lu1 Ll1 Lu1 Ll1 Lu1 Ll1 Lu1 Ll1 Lu1 Ll1 Lu1 Ll1",
   "Lu1 Ll1 Lu1 Ll1 Lu1 Ll1 Lu1 Ll1 Lu1 Ll1 Lu1 Ll1 Lu1 Ll1 Lu1 Ll1 Lu1 Ll1 Lu1 Ll1 Lu1 Ll1 Lu1 Ll1 Lu1 Ll1 Lu1 Ll1",
   "Lu1 Ll1 Lu1 Ll1 Lu1 Ll1 Lu1 Ll1 Lu1 Ll1 Lu1 Ll1 Lu1 Ll1 Lu1 Ll1 Lu1 Ll1 Lu1 Ll1 Lu1 Ll1 Lu1 Ll1 Lu1 Ll1 Lu1 Ll1",
   "Lu1 Ll1 Lu1 Ll1 Lu1 Ll1 Lu1 Ll1 Lu1 Ll1 Lu1 Ll1 Lu1 Ll1 Lu1 Ll1 Cn1 Lu26 Cn2 Lm1 Po6 Ll29 Po1 Pd1 Cn2 So2 Sc1",
   "Cn1 Mn2D Pd1 Mn1 Po1 Mn2 Po1 Mn2 Po1 Mn1 Cn8 Lo1B Cn4 Lo4 Po2 CnB Cf6 Sm3 Po2 Sc1 Po2 So2 MnB Po1 Cf1 Po3 Lo20",
   "Lm1 LoA Mn15 NdA Po4 Lo2 Mn1 Lo63 Po1 Lo1 Mn7 Cf1 So1 Mn6 Lm2 Mn2 So1 Mn4 Lo2 NdA Lo3 So2 Lo1 PoE Cn1 Cf1 Lo1",
   "Mn1 Lo1E Mn1B Cn2 Lo59 MnB Lo1 CnE NdA Lo21 Mn9 Lm2 So1 Po3 Lm1 Cn2 Mn1 Sc2 Lo16 Mn4 Lm1 Mn9 Lm1 Mn3 Lm1 Mn5 Cn2",
   "PoF Cn1 Lo19 Mn3 Cn2 Po1 Cn1 LoB Cn5 Lo18 Sk1 Lo6 Cn1 Cf2 Cn6 Mn8 Lo29 Lm1 Mn18 Cf1 Mn20 Mc1 Lo36 Mn1 Mc1 Mn1",
   "Lo1 Mc3 Mn8 Mc4 Mn1 Mc2 Lo1 Mn7 LoA Mn2 Po2 NdA Po1 Lm1 LoF Mn1 Mc2 Cn1 Lo8 Cn2 Lo2 Cn2 Lo16 Cn1 Lo7 Cn1 Lo1 Cn3",
   "Lo4 Cn2 Mn1 Lo1 Mc3 Mn4 Cn2 Mc2 Cn2 Mc2 Mn1 Lo1 Cn8 Mc1 Cn4 Lo2 Cn1 Lo3 Mn2 Cn2 NdA Lo2 Sc2 No6 So1 Sc1 Lo1 Po1",
   "Mn1 Cn2 Mn2 Mc1 Cn1 Lo6 Cn4 Lo2 Cn2 Lo16 Cn1 Lo7 Cn1 Lo2 Cn1 Lo2 Cn1 Lo2 Cn2 Mn1 Cn1 Mc3 Mn2 Cn4 Mn2 Cn2 Mn3 Cn3",
   "Mn1 Cn7 Lo4 Cn1 Lo1 Cn7 NdA Mn2 Lo3 Mn1 Po1 CnA Mn2 Mc1 Cn1 Lo9 Cn1 Lo3 Cn1 Lo16 Cn1 Lo7 Cn1 Lo2 Cn1 Lo5 Cn2 Mn1",
   "Lo1 Mc3 Mn5 Cn1 Mn2 Mc1 Cn1 Mc2 Mn1 Cn2 Lo1 CnF Lo2 Mn2 Cn2 NdA Po1 Sc1 Cn7 Lo1 Mn6 Cn1 Mn1 Mc2 Cn1 Lo8 Cn2 Lo2",
   "Cn2 Lo16 Cn1 Lo7 Cn1 Lo2 Cn1 Lo5 Cn2 Mn1 Lo1 Mc1 Mn1 Mc1 Mn4 Cn2 Mc2 Cn2 Mc2 Mn1 Cn7 Mn2 Mc1 Cn4 Lo2 Cn1 Lo3 Mn2",
   "Cn2 NdA So1 Lo1 No6 CnA Mn1 Lo1 Cn1 Lo6 Cn3 Lo3 Cn1 Lo4 Cn3 Lo2 Cn1 Lo1 Cn1 Lo2 Cn3 Lo2 Cn3 Lo3 Cn3 LoC Cn4 Mc2",
   "Mn1 Mc2 Cn3 Mc3 Cn1 Mc3 Mn1 Cn2 Lo1 Cn6 Mc1 CnE NdA No3 So6 Sc1 So1 Cn5 Mn1 Mc3 Mn1 Lo8 Cn1 Lo3 Cn1 Lo17 Cn1",
   "Lo10 Cn2 Mn1 Lo1 Mn3 Mc4 Cn1 Mn3 Cn1 Mn4 Cn7 Mn2 Cn1 Lo3 Cn2 Lo1 Cn2 Lo2 Mn2 Cn2 NdA Cn7 Po1 No7 So1 Lo1 Mn1 Mc2",
   "Po1 Lo8 Cn1 Lo3 Cn1 Lo17 Cn1 LoA Cn1 Lo5 Cn2 Mn1 Lo1 Mc1 Mn1 Mc5 Cn1 Mn1 Mc2 Cn1 Mc2 Mn2 Cn7 Mc2 Cn6 Lo2 Cn1 Lo2",
   "Mn2 Cn2 NdA Cn1 Lo2 Mc1 CnC Mn2 Mc2 Lo9 Cn1 Lo3 Cn1 Lo29 Mn2 Lo1 Mc3 Mn4 Cn1 Mc3 Cn1 Mc3 Mn1 Lo1 So1 Cn4 Lo3 Mc1",
   "No7 Lo3 Mn2 Cn2 NdA No9 So1 Lo6 Cn1 Mn1 Mc2 Cn1 Lo12 Cn3 Lo18 Cn1 Lo9 Cn1 Lo1 Cn2 Lo7 Cn3 Mn1 Cn4 Mc3 Mn3 Cn1",
   "Mn1 Cn1 Mc8 Cn6 NdA Cn2 Mc2 Po1 CnC Lo30 Mn1 Lo2 Mn7 Cn4 Sc1 Lo6 Lm1 Mn8 Po1 NdA Po2 Cn25 Lo2 Cn1 Lo1 Cn1 Lo5",
   "Cn1 Lo18 Cn1 Lo1 Cn1 LoA Mn1 Lo2 Mn9 Lo1 Cn2 Lo5 Cn1 Lm1 Cn1 Mn7 Cn1 NdA Cn2 Lo4 Cn20 Lo1 So3 PoF So1 Po1 So3",
   "Mn2 So6 NdA NoA So1 Mn1 So1 Mn1 So1 Mn1 Ps1 Pe1 Ps1 Pe1 Mc2 Lo8 Cn1 Lo24 Cn4 MnE Mc1 Mn5 Po1 Mn2 Lo5 MnB Cn1",
   "Mn24 Cn1 So8 Mn1 So6 Cn1 So2 Po5 So4 Po2 Cn25 Lo2B Mc2 Mn4 Mc1 Mn6 Mc1 Mn2 Mc2 Mn2 Lo1 NdA Po6 Lo6 Mc2 Mn2 Lo4",
   "Mn3 Lo1 Mc3 Lo2 Mc7 Lo3 Mn4 LoD Mn1 Mc2 Mn2 Mc6 Mn1 Lo1 Mc1 NdA Mc3 Mn1 So2 Lu26 Cn1 Lu1 Cn5 Lu1 Cn2 Ll2B Po1",
   "Lm1 Ll3 Lo149 Cn1 Lo4 Cn2 Lo7 Cn1 Lo1 Cn1 Lo4 Cn2 Lo29 Cn1 Lo4 Cn2 Lo21 Cn1 Lo4 Cn2 Lo7 Cn1 Lo1 Cn1 Lo4 Cn2 LoF",
   "Cn1 Lo39 Cn1 Lo4 Cn2 Lo43 Cn2 Mn3 Po9 No14 Cn3 Lo10 SoA Cn6 Lu56 Cn2 Ll6 Cn2 Pd1 Lo26C So1 Po1 Lo11 Zs1 Lo1A Ps1",
   "Pe1 Cn3 Lo4B Po3 Nl3 Lo8 Cn7 Lo12 Mn3 Mc1 Cn9 Lo13 Mn2 Mc1 Po2 Cn9 Lo12 Mn2 CnC LoD Cn1 Lo3 Cn1 Mn2 CnC Lo34 Mn2",
   "Mc1 Mn7 Mc8 Mn1 Mc2 MnB Po3 Lm1 Po3 Sc1 Lo1 Mn1 Cn2 NdA Cn6 NoA Cn6 Po6 Pd1 Po4 Mn3 Cf1 Mn1 NdA Cn6 Lo23 Lm1",
   "Lo35 Cn7 Lo5 Mn2 Lo22 Mn1 Lo1 Cn5 Lo46 CnA Lo1F Cn1 Mn3 Mc4 Mn2 Mc3 Cn4 Mc2 Mn1 Mc6 Mn3 Cn4 So1 Cn3 Po2 NdA Lo1E",
   "Cn2 Lo5 CnB Lo2C Cn4 Lo1A Cn6 NdA No1 Cn3 So22 Lo17 Mn2 Mc2 Mn1 Cn2 Po2 Lo35 Mc1 Mn1 Mc1 Mn7 Cn1 Mn1 Mc1 Mn1 Mc2",
   "Mn8 Mc6 MnA Cn2 Mn1 NdA Cn6 NdA Cn6 Po7 Lm1 Po6 Cn2 MnE Me1 Mn10 Cn31 Mn4 Mc1 Lo2F Mn1 Mc1 Mn5 Mc1 Mn1 Mc5 Mn1",
   "Mc2 Lo8 Cn3 NdA Po7 SoA Mn9 So9 Po2 Cn1 Mn2 Mc1 Lo1E Mc1 Mn4 Mc2 Mn2 Mc1 Mn3 Lo2 NdA Lo2C Mn1 Mc1 Mn2 Mc3 Mn1",
   "Mc1 Mn3 Mc2 Cn8 Po4 Lo24 Mc8 Mn8 Mc2 Mn2 Cn3 Po5 NdA Cn3 Lo3 NdA Lo1E Lm6 Po2 Ll9 Cn7 Lu2B Cn2 Lu3 Po8 Cn8 Mn3",
   "Po1 MnD Mc1 Mn7 Lo4 Mn1 Lo6 Mn1 Lo2 Mc1 Mn2 Lo1 Cn5 Ll2C Lm3F LlD Lm1 Ll22 Lm25 Mn40 Lu1 Ll1 Lu1 Ll1 Lu1 Ll1 Lu1",
   "Ll1 Lu1 Ll1 Lu1 Ll1 Lu1 Ll1 Lu1 Ll1 Lu1 Ll1 Lu1 Ll1 Lu1 Ll1 Lu1 Ll1 Lu1 Ll1 Lu1 Ll1 Lu1 Ll1 Lu1 Ll1 Lu1 Ll1 Lu1",
   "Ll1 Lu1 Ll1 Lu1 Ll1 Lu1 Ll1 Lu1 Ll1 Lu1 Ll1 Lu1 Ll1 Lu1 Ll1 Lu1 Ll1 Lu1 Ll1 Lu1 Ll1 Lu1 Ll1 Lu1 Ll1 Lu1 Ll1 Lu1",
   "Ll1 Lu1 Ll1 Lu1 Ll1 Lu1 Ll1 Lu1 Ll1 Lu1 Ll1 Lu1 Ll1 Lu1 Ll1 Lu1 Ll1 Lu1 Ll1 Lu1 Ll1 Lu1 Ll1 Lu1 Ll1 Lu1 Ll1 Lu1",
   "Ll1 Lu1 Ll1 Lu1 Ll1 Lu1 Ll1 Lu1 Ll1 Lu1 Ll1 Lu1 Ll1 Lu1 Ll1 Lu1 Ll1 Lu1 Ll1 Lu1 Ll1 Lu1 Ll1 Lu1 Ll1 Lu1 Ll1 Lu1",
   "Ll1 Lu1 Ll1 Lu1 Ll1 Lu1 Ll1 Lu1 Ll1 Lu1 Ll1 Lu1 Ll1 Lu1 Ll1 Lu1 Ll1 Lu1 Ll1 Lu1 Ll1 Lu1 Ll1 Lu1 Ll1 Lu1 Ll1 Lu1",
   "Ll1 Lu1 Ll9 Lu1 Ll1 Lu1 Ll1 Lu1 Ll1 Lu1 Ll1 Lu1 Ll1 Lu1 Ll1 Lu1 Ll1 Lu1 Ll1 Lu1 Ll1 Lu1 Ll1 Lu1 Ll1 Lu1 Ll1 Lu1",
   "Ll1 Lu1 Ll1 Lu1 Ll1 Lu1 Ll1 Lu1 Ll1 Lu1 Ll1 Lu1 Ll1 Lu1 Ll1 Lu1 Ll1 Lu1 Ll1 Lu1 Ll1 Lu1 Ll1 Lu1 Ll1 Lu1 Ll1 Lu1",
   "Ll1 Lu1 Ll1 Lu1 Ll1 Lu1 Ll1 Lu1 Ll1 Lu1 Ll1 Lu1 Ll1 Lu1 Ll1 Lu1 Ll1 Lu1 Ll1 Lu1 Ll1 Lu1 Ll1 Lu1 Ll1 Lu1 Ll1 Lu1",
   "Ll1 Lu1 Ll1 Lu1 Ll1 Lu1 Ll1 Lu1 Ll1 Lu1 Ll1 Lu1 Ll1 Lu1 Ll1 Lu1 Ll9 Lu8 Ll6 Cn2 Lu6 Cn2 Ll8 Lu8 Ll8 Lu8 Ll6 Cn2",
   "Lu6 Cn2 Ll8 Cn1 Lu1 Cn1 Lu1 Cn1 Lu1 Cn1 Lu1 Ll8 Lu8 LlE Cn2 Ll8 Lt8 Ll8 Lt8 Ll8 Lt8 Ll5 Cn1 Ll2 Lu4 Lt1 Sk1 Ll1",
   "Sk3 Ll3 Cn1 Ll2 Lu4 Lt1 Sk3 Ll4 Cn2 Ll2 Lu4 Cn1 Sk3 Ll8 Lu5 Sk3 Cn2 Ll3 Cn1 Ll2 Lu4 Lt1 Sk2 Cn1 ZsB Cf5 Pd6 Po2",
   "Pi1 Pf1 Ps1 Pi2 Pf1 Ps1 Pi1 Po8 Zl1 Zp1 Cf5 Zs1 Po9 Pi1 Pf1 Po4 Pc2 Po3 Sm1 Ps1 Pe1 PoB Sm1 Po1 Pc1 PoA Zs1 Cf5",
   "Cn1 CfA No1 Lm1 Cn2 No6 Sm3 Ps1 Pe1 Lm1 NoA Sm3 Ps1 Pe1 Cn1 LmD Cn3 Sc21 CnF MnD Me4 Mn1 Me3 MnC CnF So2 Lu1 So4",
   "Lu1 So2 Ll1 Lu3 Ll2 Lu3 Ll1 So1 Lu1 So2 Sm1 Lu5 So6 Lu1 So1 Lu1 So1 Lu1 So1 Lu4 So1 Ll1 Lu4 Ll1 Lo4 Ll1 So2 Ll2",
   "Lu2 Sm5 Lu1 Ll4 So1 Sm1 So2 Ll1 So1 No10 Nl23 Lu1 Ll1 Nl4 No1 So2 Cn4 Sm5 So5 Sm2 So4 Sm1 So2 Sm1 So2 Sm1 So7",
   "Sm1 So1F Sm2 So2 Sm1 So1 Sm1 So1F Sm10C So8 Ps1 Pe1 Ps1 Pe1 So14 Sm2 So7 Ps1 Pe1 So51 Sm1 So1E Sm19 So28 Sm6",
   "So45 Cn19 SoB Cn15 No3C So4E No16 SoB7 Sm1 So9 Sm1 So36 Sm8 So6F Sm1 SoF8 Ps1 Pe1 Ps1 Pe1 Ps1 Pe1 Ps1 Pe1 Ps1",
   "Pe1 Ps1 Pe1 Ps1 Pe1 No1E So2C Sm5 Ps1 Pe1 Sm1F Ps1 Pe1 Ps1 Pe1 Ps1 Pe1 Ps1 Pe1 Ps1 Pe1 Sm10 So100 Sm83 Ps1 Pe1",
   "Ps1 Pe1 Ps1 Pe1 Ps1 Pe1 Ps1 Pe1 Ps1 Pe1 Ps1 Pe1 Ps1 Pe1 Ps1 Pe1 Ps1 Pe1 Ps1 Pe1 Sm3F Ps1 Pe1 Ps1 Pe1 Sm20 Ps1",
   "Pe1 Sm102 So30 Sm15 So2 Sm6 So27 Cn2 So20 Cn1 So69 Lu30 Ll30 Lu1 Ll1 Lu3 Ll2 Lu1 Ll1 Lu1 Ll1 Lu1 Ll1 Lu4 Ll1 Lu1",
   "Ll2 Lu1 Ll6 Lm2 Lu3 Ll1 Lu1 Ll1 Lu1 Ll1 Lu1 Ll1 Lu1 Ll1 Lu1 Ll1 Lu1 Ll1 Lu1 Ll1 Lu1 Ll1 Lu1 Ll1 Lu1 Ll1 Lu1 Ll1",
   "Lu1 Ll1 Lu1 Ll1 Lu1 Ll1 Lu1 Ll1 Lu1 Ll1 Lu1 Ll1 Lu1 Ll1 Lu1 Ll1 Lu1 Ll1 Lu1 Ll1 Lu1 Ll1 Lu1 Ll1 Lu1 Ll1 Lu1 Ll1",
   "Lu1 Ll1 Lu1 Ll1 Lu1 Ll1 Lu1 Ll1 Lu1 Ll1 Lu1 Ll1 Lu1 Ll1 Lu1 Ll1 Lu1 Ll1 Lu1 Ll1 Lu1 Ll1 Lu1 Ll1 Lu1 Ll1 Lu1 Ll1",
   "Lu1 Ll1 Lu1 Ll1 Lu1 Ll1 Lu1 Ll1 Lu1 Ll1 Lu1 Ll1 Lu1 Ll1 Lu1 Ll1 Lu1 Ll1 Lu1 Ll2 So6 Lu1 Ll1 Lu1 Ll1 Mn3 Lu1 Ll1",
   "Cn5 Po4 No1 Po2 Ll26 Cn1 Ll1 Cn5 Ll1 Cn2 Lo38 Cn7 Lm1 Po1 CnE Mn1 Lo17 Cn9 Lo7 Cn1 Lo7 Cn1 Lo7 Cn1 Lo7 Cn1 Lo7",
   "Cn1 Lo7 Cn1 Lo7 Cn1 Lo7 Cn1 Mn20 Po2 Pi1 Pf1 Pi1 Pf1 Po3 Pi1 Pf1 Po1 Pi1 Pf1 Po9 Pd1 Po2 Pd1 Po1 Pi1 Pf1 Po2 Pi1",
   "Pf1 Ps1 Pe1 Ps1 Pe1 Ps1 Pe1 Ps1 Pe1 Po5 Lm1 PoA Pd2 Po4 Pd1 Po1 Ps1 PoD So2 Po3 Ps1 Pe1 Ps1 Pe1 Ps1 Pe1 Ps1 Pe1",
   "Pd1 Cn22 So1A Cn1 So59 CnC SoD6 Cn1A SoC Cn4 Zs1 Po3 So1 Lm1 Lo1 Nl1 Ps1 Pe1 Ps1 Pe1 Ps1 Pe1 Ps1 Pe1 Ps1 Pe1 So2",
   "Ps1 Pe1 Ps1 Pe1 Ps1 Pe1 Ps1 Pe1 Pd1 Ps1 Pe2 So1 Nl9 Mn4 Mc2 Pd1 Lm5 So2 Nl3 Lm1 Lo1 Po1 So2 Cn1 Lo56 Cn2 Mn2 Sk2",
   "Lm2 Lo1 Pd1 Lo5A Po1 Lm3 Lo1 Cn5 Lo2B Cn1 Lo5E Cn1 So2 No4 SoA Lo20 So24 CnC Lo10 So1F Cn1 NoA So1E No8 So1 NoF",
   "So20 NoA So27 NoF So140 Lo19C0 So40 Lo5215 Lm1 Lo477 Cn3 So37 Cn9 Lo28 Lm6 Po2 Lo10C Lm1 Po3 Lo10 NdA Lo2 Cn14",
   "Lu1 Ll1 Lu1 Ll1 Lu1 Ll1 Lu1 Ll1 Lu1 Ll1 Lu1 Ll1 Lu1 Ll1 Lu1 Ll1 Lu1 Ll1 Lu1 Ll1 Lu1 Ll1 Lu1 Ll1 Lu1 Ll1 Lu1 Ll1",
   "Lu1 Ll1 Lu1 Ll1 Lu1 Ll1 Lu1 Ll1 Lu1 Ll1 Lu1 Ll1 Lu1 Ll1 Lu1 Ll1 Lu1 Ll1 Lo1 Mn1 Me3 Po1 MnA Po1 Lm1 Lu1 Ll1 Lu1",
   "Ll1 Lu1 Ll1 Lu1 Ll1 Lu1 Ll1 Lu1 Ll1 Lu1 Ll1 Lu1 Ll1 Lu1 Ll1 Lu1 Ll1 Lu1 Ll1 Lu1 Ll1 Lu1 Ll1 Lu1 Ll1 Lm2 Mn2 Lo46",
   "NlA Mn2 Po6 Cn8 Sk17 Lm9 Sk2 Lu1 Ll1 Lu1 Ll1 Lu1 Ll1 Lu1 Ll1 Lu1 Ll1 Lu1 Ll1 Lu1 Ll3 Lu1 Ll1 Lu1 Ll1 Lu1 Ll1 Lu1",
   "Ll1 Lu1 Ll1 Lu1 Ll1 Lu1 Ll1 Lu1 Ll1 Lu1 Ll1 Lu1 Ll1 Lu1 Ll1 Lu1 Ll1 Lu1 Ll1 Lu1 Ll1 Lu1 Ll1 Lu1 Ll1 Lu1 Ll1 Lu1",
   "Ll1 Lu1 Ll1 Lu1 Ll1 Lu1 Ll1 Lu1 Ll1 Lu1 Ll1 Lu1 Ll1 Lu1 Ll1 Lu1 Ll1 Lu1 Ll1 Lu1 Ll1 Lu1 Ll1 Lu1 Ll1 Lu1 Ll1 Lm1",
   "Ll8 Lu1 Ll1 Lu1 Ll1 Lu2 Ll1 Lu1 Ll1 Lu1 Ll1 Lu1 Ll1 Lu1 Ll1 Lm1 Sk2 Lu1 Ll1 Lu1 Ll1 Lo1 Lu1 Ll1 Lu1 Ll3 Lu1 Ll1",
   "Lu1 Ll1 Lu1 Ll1 Lu1 Ll1 Lu1 Ll1 Lu1 Ll1 Lu1 Ll1 Lu1 Ll1 Lu1 Ll1 Lu1 Ll1 Lu5 Ll1 Lu5 Ll1 Lu1 Ll1 Lu1 Ll1 Lu1 Ll1",
   "Lu1 Ll1 Lu1 Ll1 Lu1 Ll1 Lu1 Ll1 Lu4 Ll1 Lu1 Ll1 Cn5 Lu1 Ll1 Cn1 Ll1 Cn1 Ll1 Lu1 Ll1 Lu1 Ll1 Cn18 Lm3 Lu1 Ll1 Lo1",
   "Lm2 Ll1 Lo7 Mn1 Lo3 Mn1 Lo4 Mn1 Lo17 Mc2 Mn2 Mc1 So4 Mn1 Cn3 No6 So2 Sc1 So1 Cn6 Lo34 Po4 Cn8 Mc2 Lo32 Mc10 Mn2",
   "Cn8 Po2 NdA Cn6 Mn12 Lo6 Po3 Lo1 Po1 Lo2 Mn1 NdA Lo1C Mn8 Po2 Lo17 MnB Mc2 CnB Po1 Lo1D Cn3 Mn3 Mc1 Lo2F Mn1 Mc2",
   "Mn4 Mc2 Mn2 Mc3 PoD Cn1 Lm1 NdA Cn4 Po2 Lo5 Mn1 Lm1 Lo9 NdA Lo5 Cn1 Lo29 Mn6 Mc2 Mn2 Mc2 Mn2 Cn9 Lo3 Mn1 Lo8 Mn1",
   "Mc1 Cn2 NdA Cn2 Po4 Lo10 Lm1 Lo6 So3 Lo1 Mc1 Mn1 Mc1 Lo32 Mn1 Lo1 Mn3 Lo2 Mn2 Lo5 Mn2 Lo1 Mn1 Lo1 Cn18 Lo2 Lm1",
   "Po2 LoB Mc1 Mn2 Mc2 Po2 Lo1 Lm2 Mc1 Mn1 CnA Lo6 Cn2 Lo6 Cn2 Lo6 Cn9 Lo7 Cn1 Lo7 Cn1 Ll2B Sk1 Lm4 Ll9 Lm1 Sk2 Cn4",
   "Ll50 Lo23 Mc2 Mn1 Mc2 Mn1 Mc2 Po1 Mc1 Mn1 Cn2 NdA Cn6 Lo2BA4 CnC Lo17 Cn4 Lo31 Cn4 Cs800 Co1900 Lo16E Cn2 Lo6A",
   "Cn26 Ll7 CnC Ll5 Cn5 Lo1 Mn1 LoA Sm1 LoD Cn1 Lo5 Cn1 Lo1 Cn1 Lo2 Cn1 Lo2 Cn1 Lo6C Sk11 Cn10 Lo16B Pe1 Ps1 So10",
   "Lo40 Cn2 Lo36 Cn7 So1 Cn20 LoC Sc1 So3 Mn10 Po7 Ps1 Pe1 Po1 Cn6 Mn10 Po1 Pd2 Pc2 Ps1 Pe1 Ps1 Pe1 Ps1 Pe1 Ps1 Pe1",
   "Ps1 Pe1 Ps1 Pe1 Ps1 Pe1 Ps1 Pe1 Po2 Ps1 Pe1 Po4 Pc3 Po3 Cn1 Po4 Pd1 Ps1 Pe1 Ps1 Pe1 Ps1 Pe1 Po3 Sm1 Pd1 Sm3 Cn1",
   "Po1 Sc1 Po2 Cn4 Lo5 Cn1 Lo87 Cn2 Cf1 Cn1 Po3 Sc1 Po3 Ps1 Pe1 Po1 Sm1 Po1 Pd1 Po2 NdA Po2 Sm3 Po2 Lu1A Ps1 Po1",
   "Pe1 Sk1 Pc1 Sk1 Ll1A Ps1 Sm1 Pe1 Sm1 Ps1 Pe1 Po1 Ps1 Pe1 Po2 LoA Lm1 Lo2D Lm2 Lo1F Cn3 Lo6 Cn2 Lo6 Cn2 Lo6 Cn2",
   "Lo3 Cn3 Sc2 Sm1 Sk1 So1 Sc2 Cn1 So1 Sm4 So2 CnA Cf3 So2 Cn2 LoC Cn1 Lo1A Cn1 Lo13 Cn1 Lo2 Cn1 LoF Cn2 LoE Cn22",
   "Lo7B Cn5 Po3 Cn4 No2D Cn3 So9 Nl35 No4 So11 No2 So3 Cn1 SoD Cn3 So1 Cn2F So2D Mn1 Cn82 Lo1D Cn3 Lo31 CnF Mn1",
   "No1B Cn4 Lo20 No4 Cn9 Lo14 Nl1 Lo8 Nl1 Cn5 Lo26 Mn5 Cn5 Lo1E Cn1 Po1 Lo24 Cn4 Lo8 Po1 Nl5 Cn2A Lu28 Ll28 Lo4E",
   "Cn2 NdA Cn6 Lu24 Cn4 Ll24 Cn4 Lo28 Cn8 Lo34 CnB Po1 LuB Cn1 LuF Cn1 Lu7 Cn1 Lu2 Cn1 LlB Cn1 LlF Cn1 Ll7 Cn1 Ll2",
   "Cn43 Lo137 Cn9 Lo16 CnA Lo8 Cn18 Lm6 Cn1 Lm2A Cn1 Lm9 Cn45 Lo6 Cn2 Lo1 Cn1 Lo2C Cn1 Lo2 Cn3 Lo1 Cn2 Lo17 Cn1 Po1",
   "No8 Lo17 So2 No7 Lo1F Cn8 No9 Cn30 Lo13 Cn1 Lo2 Cn5 No5 Lo16 No6 Cn3 Po1 Lo1A Cn5 Po1 Cn40 Lo38 Cn4 No2 Lo2 No10",
   "Cn2 No2E Lo1 Mn3 Cn1 Mn2 Cn5 Mn4 Lo4 Cn1 Lo3 Cn1 Lo1D Cn2 Mn3 Cn4 Mn1 No9 Cn7 Po9 Cn7 Lo1D No2 Po1 Lo1D No3 Cn20",
   "Lo8 So1 Lo1C Mn2 Cn4 No5 Po7 Cn9 Lo36 Cn3 Po7 Lo16 Cn2 No8 Lo13 Cn5 No8 Lo12 Cn7 Po4 CnC No7 Cn50 Lo49 Cn37 Lu33",
   "CnD Ll33 Cn7 No6 Lo24 Mn4 Cn8 NdA Cn126 No1F Cn1 Lo2A Cn1 Mn2 Pd1 Cn2 Lo2 Cn4B Mn3 Lo1D NoA Lo1 Cn8 Lo16 MnB No4",
   "Po5 Cn16 Lo12 Mn4 Po4 Cn26 Lo15 No7 Cn14 Lo17 Cn9 Mc1 Mn1 Mc1 Lo35 MnF Po7 Cn4 No14 NdA Mn1 Lo2 Mn2 Lo1 Cn9 Mn3",
   "Mc1 Lo2D Mc3 Mn4 Mc2 Mn2 Po2 Cf1 Po4 Mn1 CnA Cf1 Cn2 Lo19 Cn7 NdA Cn6 Mn3 Lo24 Mn5 Mc1 Mn8 Cn1 NdA Po4 Lo1 Mc2",
   "Lo1 Cn8 Lo23 Mn1 Po2 Lo1 Cn9 Mn2 Mc1 Lo30 Mc3 Mn9 Mc2 Lo4 Po4 Mn4 Po1 Mc1 Mn1 NdA Lo1 Po1 Lo1 Po3 Cn1 No14 CnB",
   "Lo12 Cn1 Lo19 Mc3 Mn3 Mc2 Mn1 Mc1 Mn2 Po6 Mn1 Lo2 Mn1 Cn3E Lo7 Cn1 Lo1 Cn1 Lo4 Cn1 LoF Cn1 LoA Po1 Cn6 Lo2F Mn1",
   "Mc3 Mn8 Cn5 NdA Cn6 Mn2 Mc2 Cn1 Lo8 Cn2 Lo2 Cn2 Lo16 Cn1 Lo7 Cn1 Lo2 Cn1 Lo5 Cn1 Mn2 Lo1 Mc2 Mn1 Mc4 Cn2 Mc2 Cn2",
   "Mc3 Cn2 Lo1 Cn6 Mc1 Cn5 Lo5 Mc2 Cn2 Mn7 Cn3 Mn5 Cn8B Lo35 Mc3 Mn8 Mc2 Mn3 Mc1 Mn1 Lo4 Po5 NdA Po2 Cn1 Po1 Mn1",
   "Lo3 Cn1E Lo30 Mc3 Mn6 Mc1 Mn1 Mc4 Mn2 Mc1 Mn2 Lo2 Po1 Lo1 Cn8 NdA CnA6 Lo2F Mc3 Mn4 Cn2 Mc4 Mn2 Mc1 Mn2 Po17 Lo4",
   "Mn2 Cn22 Lo30 Mc3 Mn8 Mc2 Mn1 Mc1 Mn2 Po3 Lo1 CnB NdA Cn6 PoD Cn13 Lo2B Mn1 Mc1 Mn1 Mc2 Mn6 Mc1 Mn1 Lo1 Po1 Cn6",
   "NdA Cn36 Lo1B Cn2 Mn3 Mc2 Mn4 Mc1 Mn5 Cn4 NdA No2 Po3 So1 Lo7 CnB9 Lo2C Mc3 Mn9 Mc1 Mn2 Po1 Cn64 Lu20 Ll20 NdA",
   "No9 CnC Lo8 Cn2 Lo1 Cn2 Lo8 Cn1 Lo2 Cn1 Lo18 Mc6 Cn1 Mc2 Cn2 Mn2 Mc1 Mn1 Lo1 Mc1 Lo1 Mc1 Mn1 Po3 Cn9 NdA Cn46",
   "Lo8 Cn2 Lo27 Mc3 Mn4 Cn2 Mn2 Mc4 Mn1 Lo1 Po1 Lo1 Mc1 Cn1B Lo1 MnA Lo28 Mn6 Mc1 Lo1 Mn4 Po8 Mn1 Cn8 Lo1 Mn6 Mc2",
   "Mn3 Lo2E MnD Mc1 Mn2 Po3 Lo1 Po5 CnD Lo49 Cn7 PoA CnF6 Lo9 Cn1 Lo25 Mc1 Mn7 Cn1 Mn6 Mc1 Mn1 Lo1 Po5 CnA NdA No13",
   "Cn3 Po2 Lo1E Cn2 Mn16 Cn1 Mc1 Mn7 Mc1 Mn2 Mc1 Mn2 Cn49 Lo7 Cn1 Lo2 Cn1 Lo26 Mn6 Cn3 Mn1 Cn1 Mn2 Cn1 Mn7 Lo1 Mn1",
   "Cn8 NdA Cn6 Lo6 Cn1 Lo2 Cn1 Lo20 Mc5 Cn1 Mn2 Cn1 Mc2 Mn1 Mc1 Mn1 Lo1 Cn7 NdA Cn136 Lo13 Mn2 Mc2 Po2 Cn7 Mn2 Lo1",
   "Mc1 LoD Cn1 Lo22 Mc2 Mn5 Cn3 Mc2 Mn1 Mc1 Mn1 PoD NdA Cn56 Lo1 CnF No15 So8 Sc4 So11 CnD Po1 Lo39A Cn66 Nl6F Cn1",
   "Po5 CnB LoC4 CnA4C Lo61 Po2 CnD Lo430 Cf10 Mn1 Lo6 MnF CnFAA Lo247 Cn21B9 Lo239 Cn7 Lo1F Cn1 NdA Cn4 Po2 Lo4F",
   "Cn1 NdA Cn6 Lo1E Cn2 Mn5 Po1 CnA Lo30 Mn7 Po5 So4 Lm4 Po1 So1 CnA NdA Cn1 No7 Cn1 Lo15 Cn5 Lo13 Cn2B0 Lu20 Ll20",
   "No17 Po4 Cn65 Lo4B Cn4 Mn1 Lo1 Mc37 Cn7 Mn4 LmD Cn40 Lm2 Po1 Lm1 Mn1 CnB Mc2 CnE Lo17F8 Cn8 Lo4D6 Cn2A Lo9",
   "Cn22E7 Lm4 Cn1 Lm7 Cn1 Lm2 Cn1 Lo123 CnF Lo1 Cn1D Lo3 Cn2 Lo1 CnE Lo4 Cn8 Lo18C Cn904 Lo6B Cn5 LoD Cn3 Lo9 Cn7",
   "LoA Cn2 So1 Mn2 Po1 Cf4 Cn125C Mn2E Cn2 Mn17 Cn9 So74 Cn3C SoF6 CnA So27 Cn2 So3C Mc2 Mn3 So3 Mc6 Cf8 Mn8 So2",
   "Mn7 So1E Mn4 So3D Cn15 So42 Mn3 So1 Cn7A No14 CnC No14 CnC So57 Cn9 No19 Cn87 Lu1A Ll1A Lu1A Ll7 Cn1 Ll12 Lu1A",
   "Ll1A Lu1 Cn1 Lu2 Cn2 Lu1 Cn2 Lu2 Cn2 Lu4 Cn1 Lu8 Ll4 Cn1 Ll1 Cn1 Ll7 Cn1 LlB Lu1A Ll1A Lu2 Cn1 Lu4 Cn2 Lu8 Cn1",
   "Lu7 Cn1 Ll1A Lu2 Cn1 Lu4 Cn1 Lu5 Cn1 Lu1 Cn3 Lu7 Cn1 Ll1A Lu1A Ll1A Lu1A Ll1A Lu1A Ll1A Lu1A Ll1A Lu1A Ll1A Lu1A",
   "Ll1C Cn2 Lu19 Sm1 Ll19 Sm1 Ll6 Lu19 Sm1 Ll19 Sm1 Ll6 Lu19 Sm1 Ll19 Sm1 Ll6 Lu19 Sm1 Ll19 Sm1 Ll6 Lu19 Sm1 Ll19",
   "Sm1 Ll6 Lu1 Ll1 Cn2 Nd32 So200 Mn37 So4 Mn32 So8 Mn1 SoE Mn1 So2 Po5 CnF Mn5 Cn1 MnF Cn450 LlA Lo1 Ll14 Cn6 Ll6",
   "CnD5 Mn7 Cn1 Mn11 Cn2 Mn7 Cn1 Mn2 Cn1 Mn5 Cn5 Lm3E Cn21 Mn1 Cn70 Lo2D Cn3 Mn7 Lm7 Cn2 NdA Cn4 Lo1 So1 Cn140 Lo1E",
   "Mn1 Cn11 Lo2C Mn4 NdA Cn5 Sc1 Cn1D0 Lo1B Lm1 Mn4 NdA Cn2E6 Lo7 Cn1 Lo4 Cn1 Lo2 Cn1 LoF Cn1 LoC5 Cn2 No9 Mn7 Cn29",
   "Lu22 Ll22 Mn7 Lm1 Cn4 NdA Cn4 Po2 Cn311 No3B So1 No3 Sc1 No4 Cn4C No2D So1 NoF CnC2 Lo4 Cn1 Lo1B Cn1 Lo2 Cn1 Lo1",
   "Cn2 Lo1 Cn1 LoA Cn1 Lo4 Cn1 Lo1 Cn1 Lo1 Cn6 Lo1 Cn4 Lo1 Cn1 Lo1 Cn1 Lo1 Cn1 Lo3 Cn1 Lo2 Cn1 Lo1 Cn2 Lo1 Cn1 Lo1",
   "Cn1 Lo1 Cn1 Lo1 Cn1 Lo1 Cn1 Lo2 Cn1 Lo1 Cn2 Lo4 Cn1 Lo7 Cn1 Lo4 Cn1 Lo4 Cn1 Lo1 Cn1 LoA Cn1 Lo11 Cn5 Lo3 Cn1 Lo5",
   "Cn1 Lo11 Cn34 Sm2 Cn10E So2C Cn4 So64 CnC SoF Cn2 SoF Cn1 SoF Cn1 So25 CnA NoD SoA1 Cn38 So1D CnD So2C Cn4 So9",
   "Cn7 So2 CnE So6 Cn9A SoFB Sk5 So2D8 Cn4 So11 Cn3 SoD Cn3 So77 Cn4 So5F Cn6 SoC Cn4 So1 CnF SoC Cn4 So38 Cn8 SoA",
   "Cn6 So28 Cn8 So1E Cn2 So2 Cn4E So154 CnC SoE Cn2 SoD Cn3 So9 Cn7 So2E Cn1 So7 Cn8 SoE Cn4 So9 Cn7 So9 Cn7 So93",
   "Cn1 So37 Cn25 NdA Cn406 LoA6E0 Cn20 Lo103A Cn6 LoDE Cn2 Lo1682 CnE Lo1D31 CnC1F Lo21E Cn5E2 Lo134B Cn5 Lo1060",
   "CnADC51 Cf1 Cn1E Cf60 Cn80 MnF0 CnFE10 CoFFFE Cn2 CoFFFE Cn2 Cn0"]

/-- The categories whose names start with the given letter. -/
def categoriesOf (initial : Char) : List Text :=
  ["Lu", "Ll", "Lt", "Lm", "Lo", "Mn", "Mc", "Me", "Nd", "Nl", "No", "Pc", "Pd", "Ps", "Pe", "Pi", "Pf", "Po", "Sm",
    "Sc", "Sk", "So", "Zs", "Zl", "Zp", "Cc", "Cf", "Co", "Cn"].map String.toList |>.filter (·.head? == some initial)

/-- Names of single categories. -/
def categoryNames : List (String × String) :=
  [("cc", "Cc"), ("control", "Cc"), ("cntrl", "Cc"), ("cf", "Cf"), ("format", "Cf"), ("cn", "Cn"),
   ("unassigned", "Cn"), ("co", "Co"), ("privateuse", "Co"), ("ll", "Ll"), ("lowercaseletter", "Ll"), ("lm", "Lm"),
   ("modifierletter", "Lm"), ("lo", "Lo"), ("otherletter", "Lo"), ("lt", "Lt"), ("titlecaseletter", "Lt"),
   ("lu", "Lu"), ("uppercaseletter", "Lu"), ("mc", "Mc"), ("spacingmark", "Mc"), ("me", "Me"),
   ("enclosingmark", "Me"), ("mn", "Mn"), ("nonspacingmark", "Mn"), ("nd", "Nd"), ("decimalnumber", "Nd"),
   ("digit", "Nd"), ("nl", "Nl"), ("letternumber", "Nl"), ("no", "No"), ("othernumber", "No"), ("pc", "Pc"),
   ("connectorpunctuation", "Pc"), ("pd", "Pd"), ("dashpunctuation", "Pd"), ("pe", "Pe"),
   ("closepunctuation", "Pe"), ("pf", "Pf"), ("finalpunctuation", "Pf"), ("pi", "Pi"),
   ("initialpunctuation", "Pi"), ("po", "Po"), ("otherpunctuation", "Po"), ("ps", "Ps"), ("openpunctuation", "Ps"),
   ("sc", "Sc"), ("currencysymbol", "Sc"), ("sk", "Sk"), ("modifiersymbol", "Sk"), ("sm", "Sm"),
   ("mathsymbol", "Sm"), ("so", "So"), ("othersymbol", "So"), ("zl", "Zl"), ("lineseparator", "Zl"), ("zp", "Zp"),
   ("paragraphseparator", "Zp"), ("zs", "Zs"), ("spaceseparator", "Zs")]

/-- Names of groups of categories, with the letter that the names of their members start with. -/
def categoryGroups : List (String × Char) :=
  [("letter", 'L'), ("l", 'L'), ("mark", 'M'), ("combiningmark", 'M'), ("m", 'M'), ("number", 'N'), ("n", 'N'),
    ("punctuation", 'P'), ("punct", 'P'), ("p", 'P'), ("symbol", 'S'), ("s", 'S'), ("separator", 'Z'), ("z", 'Z'),
    ("other", 'C'), ("c", 'C')]

/-- The categories with a name, which is written in small letters without blanks. -/
def categories? (name : Text) : Option (List Text) :=
  if name = "lc".toList || name = "casedletter".toList then some (["Lu", "Ll", "Lt"].map String.toList)
  else
    match categoryNames.find? (·.1.toList == name) with
    | some (_, category) => some [category.toList]
    | none => (categoryGroups.find? (·.1.toList == name)).map fun g => categoriesOf g.2

end TrackerAudit.Unicode
