import TrackerAudit.Unicode.Runs

/-!
# Scripts

Each code point belongs to a script, which has a code of four letters and a name.
-/

namespace TrackerAudit.Unicode

/-- The runs of code points of the same script. -/
def scriptRuns : Runs := Runs.ofRows 4
  ["Zyyy41 Latn1A Zyyy6 Latn1A Zyyy2F Latn1 ZyyyF Latn1 Zyyy5 Latn17 Zyyy1 Latn1F Zyyy1 Latn1C1 Zyyy27 Latn5 Zyyy5",
   "Bopo2 Zyyy14 Zinh70 Grek4 Zyyy1 Grek3 Zzzz2 Grek4 Zyyy1 Grek1 Zzzz4 Grek1 Zyyy1 Grek1 Zyyy1 Grek3 Zzzz1 Grek1",
   "Zzzz1 Grek14 Zzzz1 Grek3F CoptE Grek10 Cyrl85 Zinh2 CyrlA9 Zzzz1 Armn26 Zzzz2 Armn32 Zzzz2 Armn3 Zzzz1 Hebr37",
   "Zzzz8 Hebr1B Zzzz4 Hebr6 ZzzzB Arab5 Zyyy1 Arab6 Zyyy1 ArabE Zyyy1 Arab3 Zyyy1 Arab20 Zyyy1 ArabA ZinhB Arab1A",
   "Zinh1 Arab6C Zyyy1 Arab22 SyrcE Zzzz1 Syrc3C Zzzz2 Syrc3 Arab30 Thaa32 ZzzzE Nkoo3B Zzzz2 Nkoo3 Samr2E Zzzz2",
   "SamrF Zzzz1 Mand1C Zzzz2 Mand1 Zzzz1 SyrcB Zzzz5 Arab1F Zzzz1 Arab2 Zzzz6 Arab4A Zyyy1 Arab1D Deva51 Zinh4 DevaF",
   "Zyyy2 Deva1A Beng4 Zzzz1 Beng8 Zzzz2 Beng2 Zzzz2 Beng16 Zzzz1 Beng7 Zzzz1 Beng1 Zzzz3 Beng4 Zzzz2 Beng9 Zzzz2",
   "Beng2 Zzzz2 Beng4 Zzzz8 Beng1 Zzzz4 Beng2 Zzzz1 Beng5 Zzzz2 Beng19 Zzzz2 Guru3 Zzzz1 Guru6 Zzzz4 Guru2 Zzzz2",
   "Guru16 Zzzz1 Guru7 Zzzz1 Guru2 Zzzz1 Guru2 Zzzz1 Guru2 Zzzz2 Guru1 Zzzz1 Guru5 Zzzz4 Guru2 Zzzz2 Guru3 Zzzz3",
   "Guru1 Zzzz7 Guru4 Zzzz1 Guru1 Zzzz7 Guru11 ZzzzA Gujr3 Zzzz1 Gujr9 Zzzz1 Gujr3 Zzzz1 Gujr16 Zzzz1 Gujr7 Zzzz1",
   "Gujr2 Zzzz1 Gujr5 Zzzz2 GujrA Zzzz1 Gujr3 Zzzz1 Gujr3 Zzzz2 Gujr1 ZzzzF Gujr4 Zzzz2 GujrC Zzzz7 Gujr7 Zzzz1",
   "Orya3 Zzzz1 Orya8 Zzzz2 Orya2 Zzzz2 Orya16 Zzzz1 Orya7 Zzzz1 Orya2 Zzzz1 Orya5 Zzzz2 Orya9 Zzzz2 Orya2 Zzzz2",
   "Orya3 Zzzz7 Orya3 Zzzz4 Orya2 Zzzz1 Orya5 Zzzz2 Orya12 ZzzzA Taml2 Zzzz1 Taml6 Zzzz3 Taml3 Zzzz1 Taml4 Zzzz3",
   "Taml2 Zzzz1 Taml1 Zzzz1 Taml2 Zzzz3 Taml2 Zzzz3 Taml3 Zzzz3 TamlC Zzzz4 Taml5 Zzzz3 Taml3 Zzzz1 Taml4 Zzzz2",
   "Taml1 Zzzz6 Taml1 ZzzzE Taml15 Zzzz5 TeluD Zzzz1 Telu3 Zzzz1 Telu17 Zzzz1 Telu10 Zzzz2 Telu9 Zzzz1 Telu3 Zzzz1",
   "Telu4 Zzzz7 Telu2 Zzzz1 Telu3 Zzzz2 Telu1 Zzzz2 Telu4 Zzzz2 TeluA Zzzz7 Telu9 KndaD Zzzz1 Knda3 Zzzz1 Knda17",
   "Zzzz1 KndaA Zzzz1 Knda5 Zzzz2 Knda9 Zzzz1 Knda3 Zzzz1 Knda4 Zzzz7 Knda2 Zzzz6 Knda2 Zzzz1 Knda4 Zzzz2 KndaA",
   "Zzzz1 Knda3 ZzzzC MlymD Zzzz1 Mlym3 Zzzz1 Mlym33 Zzzz1 Mlym3 Zzzz1 Mlym6 Zzzz4 Mlym10 Zzzz2 Mlym1A Zzzz1 Sinh3",
   "Zzzz1 Sinh12 Zzzz3 Sinh18 Zzzz1 Sinh9 Zzzz1 Sinh1 Zzzz2 Sinh7 Zzzz3 Sinh1 Zzzz4 Sinh6 Zzzz1 Sinh1 Zzzz1 Sinh8",
   "Zzzz6 SinhA Zzzz2 Sinh3 ZzzzC Thai3A Zzzz4 Zyyy1 Thai1C Zzzz25 Laoo2 Zzzz1 Laoo1 Zzzz1 Laoo5 Zzzz1 Laoo18 Zzzz1",
   "Laoo1 Zzzz1 Laoo17 Zzzz2 Laoo5 Zzzz1 Laoo1 Zzzz1 Laoo7 Zzzz1 LaooA Zzzz2 Laoo4 Zzzz20 Tibt48 Zzzz1 Tibt24 Zzzz4",
   "Tibt27 Zzzz1 Tibt24 Zzzz1 TibtF Zzzz1 Tibt7 Zyyy4 Tibt2 Zzzz25 MymrA0 Geor26 Zzzz1 Geor1 Zzzz5 Geor1 Zzzz2",
   "Geor2B Zyyy1 Geor4 Hang100 Ethi49 Zzzz1 Ethi4 Zzzz2 Ethi7 Zzzz1 Ethi1 Zzzz1 Ethi4 Zzzz2 Ethi29 Zzzz1 Ethi4 Zzzz2",
   "Ethi21 Zzzz1 Ethi4 Zzzz2 Ethi7 Zzzz1 Ethi1 Zzzz1 Ethi4 Zzzz2 EthiF Zzzz1 Ethi39 Zzzz1 Ethi4 Zzzz2 Ethi43 Zzzz2",
   "Ethi20 Zzzz3 Ethi1A Zzzz6 Cher56 Zzzz2 Cher6 Zzzz2 Cans280 Ogam1D Zzzz3 Runr4B Zyyy3 RunrB Zzzz7 Tglg16 Zzzz9",
   "Tglg1 Hano15 Zyyy2 Zzzz9 Buhd14 ZzzzC TagbD Zzzz1 Tagb3 Zzzz1 Tagb2 ZzzzC Khmr5E Zzzz2 KhmrA Zzzz6 KhmrA Zzzz6",
   "Mong2 Zyyy2 Mong1 Zyyy1 Mong14 Zzzz6 Mong59 Zzzz7 Mong2B Zzzz5 Cans46 ZzzzA Limb1F Zzzz1 LimbC Zzzz4 LimbC Zzzz4",
   "Limb1 Zzzz3 LimbC Tale1E Zzzz2 Tale5 ZzzzB Talu2C Zzzz4 Talu1A Zzzz6 TaluB Zzzz3 Talu2 Khmr20 Bugi1C Zzzz2 Bugi2",
   "Lana3F Zzzz1 Lana1D Zzzz2 LanaB Zzzz6 LanaA Zzzz6 LanaE Zzzz2 Zinh1F Zzzz31 Bali4D Zzzz3 Bali2F Zzzz1 Sund40",
   "Batk34 Zzzz8 Batk4 Lepc38 Zzzz3 LepcF Zzzz3 Lepc3 Olck30 Cyrl9 Zzzz7 Geor2B Zzzz2 Geor3 Sund8 Zzzz8 Zinh3 Zyyy1",
   "ZinhD Zyyy1 Zinh7 Zyyy4 Zinh1 Zyyy6 Zinh1 Zyyy3 Zinh2 Zyyy1 Zzzz5 Latn26 Grek5 Cyrl1 Latn31 Grek5 Latn4 Grek5",
   "LatnD Cyrl1 Latn46 Grek1 Zinh40 Latn100 Grek16 Zzzz2 Grek6 Zzzz2 Grek26 Zzzz2 Grek6 Zzzz2 Grek8 Zzzz1 Grek1",
   "Zzzz1 Grek1 Zzzz1 Grek1 Zzzz1 Grek1F Zzzz2 Grek35 Zzzz1 GrekF Zzzz1 GrekE Zzzz2 Grek6 Zzzz1 Grek13 Zzzz2 Grek3",
   "Zzzz1 Grek9 Zzzz1 ZyyyC Zinh2 Zyyy57 Zzzz1 ZyyyB Latn1 Zzzz2 ZyyyB Latn1 ZyyyF Zzzz1 LatnD Zzzz3 Zyyy21 ZzzzF",
   "Zinh21 ZzzzF Zyyy26 Grek1 Zyyy3 Latn2 Zyyy6 Latn1 Zyyy1B Latn1 Zyyy11 Latn29 Zyyy3 Zzzz4 Zyyy297 Zzzz19 ZyyyB",
   "Zzzz15 Zyyy3A0 Brai100 Zyyy274 Zzzz2 Zyyy20 Zzzz1 Zyyy69 Glag60 Latn20 Copt74 Zzzz5 Copt7 Geor26 Zzzz1 Geor1",
   "Zzzz5 Geor1 Zzzz2 Tfng38 Zzzz7 Tfng2 ZzzzE Tfng1 Ethi17 Zzzz9 Ethi7 Zzzz1 Ethi7 Zzzz1 Ethi7 Zzzz1 Ethi7 Zzzz1",
   "Ethi7 Zzzz1 Ethi7 Zzzz1 Ethi7 Zzzz1 Ethi7 Zzzz1 Cyrl20 Zyyy5E Zzzz22 Hani1A Zzzz1 Hani59 ZzzzC HaniD6 Zzzz1A",
   "ZyyyC Zzzz4 Zyyy5 Hani1 Zyyy1 Hani1 Zyyy19 Hani9 Zinh4 Hang2 Zyyy8 Hani4 Zyyy4 Zzzz1 Hira56 Zzzz2 Zinh2 Zyyy2",
   "Hira3 Zyyy1 Kana5A Zyyy2 Kana3 Zzzz5 Bopo2B Zzzz1 Hang5E Zzzz1 Zyyy10 Bopo20 Zyyy24 ZzzzC Kana10 Hang1F Zzzz1",
   "Zyyy40 Hang1F Zyyy51 Kana2F Zyyy1 Kana58 ZyyyA8 Hani19C0 Zyyy40 Hani5200 Yiii48D Zzzz3 Yiii37 Zzzz9 Lisu30",
   "Vaii12C Zzzz14 Cyrl60 Bamu58 Zzzz8 Zyyy22 Latn66 Zyyy3 Latn40 Zzzz5 Latn2 Zzzz1 Latn1 Zzzz1 Latn5 Zzzz18 LatnE",
   "Sylo2D Zzzz3 ZyyyA Zzzz6 Phag38 Zzzz8 Saur46 Zzzz8 SaurC Zzzz6 Deva20 Kali2E Zyyy1 Kali1 Rjng24 ZzzzB Rjng1",
   "Hang1D Zzzz3 Java4E Zzzz1 Zyyy1 JavaA Zzzz4 Java2 Mymr1F Zzzz1 Cham37 Zzzz9 ChamE Zzzz2 ChamA Zzzz2 Cham4 Mymr20",
   "Tavt43 Zzzz18 Tavt5 Mtei17 ZzzzA Ethi6 Zzzz2 Ethi6 Zzzz2 Ethi6 Zzzz9 Ethi7 Zzzz1 Ethi7 Zzzz1 Latn2B Zyyy1 Latn9",
   "Grek1 Latn4 Zyyy2 Zzzz4 Cher50 Mtei2E Zzzz2 MteiA Zzzz6 Hang2BA4 ZzzzC Hang17 Zzzz4 Hang31 Zzzz2104 Hani16E",
   "Zzzz2 Hani6A Zzzz26 Latn7 ZzzzC Armn5 Zzzz5 Hebr1A Zzzz1 Hebr5 Zzzz1 Hebr1 Zzzz1 Hebr2 Zzzz1 Hebr2 Zzzz1 HebrA",
   "Arab73 Zzzz10 Arab16B Zyyy2 Arab50 Zzzz2 Arab36 Zzzz7 Arab1 Zzzz20 Arab10 Zinh10 ZyyyA Zzzz6 ZinhE Cyrl2 Zyyy23",
   "Zzzz1 Zyyy13 Zzzz1 Zyyy4 Zzzz4 Arab5 Zzzz1 Arab87 Zzzz2 Zyyy1 Zzzz1 Zyyy20 Latn1A Zyyy6 Latn1A ZyyyB KanaA Zyyy1",
   "Kana2D Zyyy2 Hang1F Zzzz3 Hang6 Zzzz2 Hang6 Zzzz2 Hang6 Zzzz2 Hang3 Zzzz3 Zyyy7 Zzzz1 Zyyy7 ZzzzA Zyyy5 Zzzz2",
   "LinbC Zzzz1 Linb1A Zzzz1 Linb13 Zzzz1 Linb2 Zzzz1 LinbF Zzzz2 LinbE Zzzz22 Linb7B Zzzz5 Zyyy3 Zzzz4 Zyyy2D Zzzz3",
   "Zyyy9 Grek4F Zzzz1 ZyyyD Zzzz3 Grek1 Zzzz2F Zyyy2D Zinh1 Zzzz82 Lyci1D Zzzz3 Cari31 ZzzzF Zinh1 Zyyy1B Zzzz4",
   "Ital24 Zzzz9 Ital3 Goth1B Zzzz5 Perm2B Zzzz5 Ugar1E Zzzz1 Ugar1 Xpeo24 Zzzz4 XpeoE Zzzz2A Dsrt50 Shaw30 Osma1E",
   "Zzzz2 OsmaA Zzzz6 Osge24 Zzzz4 Osge24 Zzzz4 Elba28 Zzzz8 Aghb34 ZzzzB Aghb1 VithB Zzzz1 VithF Zzzz1 Vith7 Zzzz1",
   "Vith2 Zzzz1 VithB Zzzz1 VithF Zzzz1 Vith7 Zzzz1 Vith2 Zzzz43 Lina137 Zzzz9 Lina16 ZzzzA Lina8 Zzzz18 Latn6 Zzzz1",
   "Latn2A Zzzz1 Latn9 Zzzz45 Cprt6 Zzzz2 Cprt1 Zzzz1 Cprt2C Zzzz1 Cprt2 Zzzz3 Cprt1 Zzzz2 Cprt1 Armi16 Zzzz1 Armi9",
   "Palm20 Nbat1F Zzzz8 Nbat9 Zzzz30 Hatr13 Zzzz1 Hatr2 Zzzz5 Hatr5 Phnx1C Zzzz3 Phnx1 Lydi1A Zzzz5 Lydi1 Zzzz40",
   "Mero20 Merc18 Zzzz4 Merc14 Zzzz2 Merc2E Khar4 Zzzz1 Khar2 Zzzz5 Khar8 Zzzz1 Khar3 Zzzz1 Khar1D Zzzz2 Khar3 Zzzz4",
   "KharA Zzzz7 Khar9 Zzzz7 Sarb20 Narb20 Zzzz20 Mani27 Zzzz4 ManiC Zzzz9 Avst36 Zzzz3 Avst7 Prti16 Zzzz2 Prti8",
   "Phli13 Zzzz5 Phli8 Phlp12 Zzzz7 Phlp4 ZzzzC Phlp7 Zzzz50 Orkh49 Zzzz37 Hung33 ZzzzD Hung33 Zzzz7 Hung6 Rohg28",
   "Zzzz8 RohgA Zzzz126 Arab1F Zzzz1 Yezi2A Zzzz1 Yezi3 Zzzz2 Yezi2 Zzzz4B Arab3 Sogo28 Zzzz8 Sogd2A Zzzz16 Ougr1A",
   "Zzzz26 Chrs1C Zzzz14 Elym17 Zzzz9 Brah4E Zzzz4 Brah24 Zzzz9 Brah1 Kthi43 ZzzzA Kthi1 Zzzz2 Sora19 Zzzz7 SoraA",
   "Zzzz6 Cakm35 Zzzz1 Cakm12 Zzzz8 Mahj27 Zzzz9 Shrd60 Zzzz1 Sinh14 ZzzzB Khoj12 Zzzz1 Khoj2F Zzzz3E Mult7 Zzzz1",
   "Mult1 Zzzz1 Mult4 Zzzz1 MultF Zzzz1 MultB Zzzz6 Sind3B Zzzz5 SindA Zzzz6 Gran4 Zzzz1 Gran8 Zzzz2 Gran2 Zzzz2",
   "Gran16 Zzzz1 Gran7 Zzzz1 Gran2 Zzzz1 Gran5 Zzzz1 Zinh1 Gran9 Zzzz2 Gran2 Zzzz2 Gran3 Zzzz2 Gran1 Zzzz6 Gran1",
   "Zzzz5 Gran7 Zzzz2 Gran7 Zzzz3 Gran5 Zzzz8B Newa5C Zzzz1 Newa5 Zzzz1E Tirh48 Zzzz8 TirhA ZzzzA6 Sidd36 Zzzz2",
   "Sidd26 Zzzz22 Modi45 ZzzzB ModiA Zzzz6 MongD Zzzz13 Takr3A Zzzz6 TakrA Zzzz36 Ahom1B Zzzz2 AhomF Zzzz4 Ahom17",
   "ZzzzB9 Dogr3C Zzzz64 Wara53 ZzzzC Wara1 Diak7 Zzzz2 Diak1 Zzzz2 Diak8 Zzzz1 Diak2 Zzzz1 Diak1E Zzzz1 Diak2 Zzzz2",
   "DiakC Zzzz9 DiakA Zzzz46 Nand8 Zzzz2 Nand2E Zzzz2 NandB Zzzz1B Zanb48 Zzzz8 Soyo53 ZzzzD Cans10 Pauc39 Zzzz7",
   "DevaA ZzzzF6 Bhks9 Zzzz1 Bhks2D Zzzz1 BhksE ZzzzA Bhks1D Zzzz3 Marc20 Zzzz2 Marc16 Zzzz1 MarcE Zzzz49 Gonm7",
   "Zzzz1 Gonm2 Zzzz1 Gonm2C Zzzz3 Gonm1 Zzzz1 Gonm2 Zzzz1 Gonm9 Zzzz8 GonmA Zzzz6 Gong6 Zzzz1 Gong2 Zzzz1 Gong25",
   "Zzzz1 Gong2 Zzzz1 Gong6 Zzzz7 GongA Zzzz136 Maka19 Zzzz7 Kawi11 Zzzz1 Kawi29 Zzzz3 Kawi1C Zzzz56 Lisu1 ZzzzF",
   "Taml32 ZzzzD Taml1 Xsux39A Zzzz66 Xsux6F Zzzz1 Xsux5 ZzzzB XsuxC4 ZzzzA4C Cpmn63 ZzzzD Egyp456 ZzzzFAA Hluw247",
   "Zzzz21B9 Bamu239 Zzzz7 Mroo1F Zzzz1 MrooA Zzzz4 Mroo2 Tnsa4F Zzzz1 TnsaA Zzzz6 Bass1E Zzzz2 Bass6 ZzzzA Hmng46",
   "ZzzzA HmngA Zzzz1 Hmng7 Zzzz1 Hmng15 Zzzz5 Hmng13 Zzzz2B0 Medf5B Zzzz65 Plrd4B Zzzz4 Plrd39 Zzzz7 Plrd11 Zzzz40",
   "Tang1 Nshu1 Hani2 Kits1 ZzzzB Hani2 ZzzzE Tang17F8 Zzzz8 Tang300 Kits1D6 Zzzz2A Tang9 Zzzz22E7 Kana4 Zzzz1 Kana7",
   "Zzzz1 Kana2 Zzzz1 Kana1 Hira11F Kana3 ZzzzF Hira1 Zzzz1D Hira3 Zzzz2 Kana1 ZzzzE Kana4 Zzzz8 Nshu18C Zzzz904",
   "Dupl6B Zzzz5 DuplD Zzzz3 Dupl9 Zzzz7 DuplA Zzzz2 Dupl4 Zyyy4 Zzzz125C Zinh2E Zzzz2 Zinh17 Zzzz9 Zyyy74 Zzzz3C",
   "ZyyyF6 ZzzzA Zyyy27 Zzzz2 Zyyy3E Zinh3 Zyyy11 Zinh8 Zyyy2 Zinh7 Zyyy1E Zinh4 Zyyy3D Zzzz15 Grek46 Zzzz7A Zyyy14",
   "ZzzzC Zyyy14 ZzzzC Zyyy57 Zzzz9 Zyyy19 Zzzz87 Zyyy55 Zzzz1 Zyyy47 Zzzz1 Zyyy2 Zzzz2 Zyyy1 Zzzz2 Zyyy2 Zzzz2",
   "Zyyy4 Zzzz1 ZyyyC Zzzz1 Zyyy1 Zzzz1 Zyyy7 Zzzz1 Zyyy41 Zzzz1 Zyyy4 Zzzz2 Zyyy8 Zzzz1 Zyyy7 Zzzz1 Zyyy1C Zzzz1",
   "Zyyy4 Zzzz1 Zyyy5 Zzzz1 Zyyy1 Zzzz3 Zyyy7 Zzzz1 Zyyy154 Zzzz2 Zyyy124 Zzzz2 Zyyy32 Sgnw28C ZzzzF Sgnw5 Zzzz1",
   "SgnwF Zzzz450 Latn1F Zzzz6 Latn6 ZzzzD5 Glag7 Zzzz1 Glag11 Zzzz2 Glag7 Zzzz1 Glag2 Zzzz1 Glag5 Zzzz5 Cyrl3E",
   "Zzzz21 Cyrl1 Zzzz70 Hmnp2D Zzzz3 HmnpE Zzzz2 HmnpA Zzzz4 Hmnp2 Zzzz140 Toto1F Zzzz11 Wcho3A Zzzz5 Wcho1 Zzzz1D0",
   "Nagm2A Zzzz2E6 Ethi7 Zzzz1 Ethi4 Zzzz1 Ethi2 Zzzz1 EthiF Zzzz1 MendC5 Zzzz2 Mend10 Zzzz29 Adlm4C Zzzz4 AdlmA",
   "Zzzz4 Adlm2 Zzzz311 Zyyy44 Zzzz4C Zyyy3D ZzzzC2 Arab4 Zzzz1 Arab1B Zzzz1 Arab2 Zzzz1 Arab1 Zzzz2 Arab1 Zzzz1",
   "ArabA Zzzz1 Arab4 Zzzz1 Arab1 Zzzz1 Arab1 Zzzz6 Arab1 Zzzz4 Arab1 Zzzz1 Arab1 Zzzz1 Arab1 Zzzz1 Arab3 Zzzz1",
   "Arab2 Zzzz1 Arab1 Zzzz2 Arab1 Zzzz1 Arab1 Zzzz1 Arab1 Zzzz1 Arab1 Zzzz1 Arab1 Zzzz1 Arab2 Zzzz1 Arab1 Zzzz2",
   "Arab4 Zzzz1 Arab7 Zzzz1 Arab4 Zzzz1 Arab4 Zzzz1 Arab1 Zzzz1 ArabA Zzzz1 Arab11 Zzzz5 Arab3 Zzzz1 Arab5 Zzzz1",
   "Arab11 Zzzz34 Arab2 Zzzz10E Zyyy2C Zzzz4 Zyyy64 ZzzzC ZyyyF Zzzz2 ZyyyF Zzzz1 ZyyyF Zzzz1 Zyyy25 ZzzzA ZyyyAE",
   "Zzzz38 Zyyy1A Hira1 Zyyy2 ZzzzD Zyyy2C Zzzz4 Zyyy9 Zzzz7 Zyyy2 ZzzzE Zyyy6 Zzzz9A Zyyy3D8 Zzzz4 Zyyy11 Zzzz3",
   "ZyyyD Zzzz3 Zyyy77 Zzzz4 Zyyy5F Zzzz6 ZyyyC Zzzz4 Zyyy1 ZzzzF ZyyyC Zzzz4 Zyyy38 Zzzz8 ZyyyA Zzzz6 Zyyy28 Zzzz8",
   "Zyyy1E Zzzz2 Zyyy2 Zzzz4E Zyyy154 ZzzzC ZyyyE Zzzz2 ZyyyD Zzzz3 Zyyy9 Zzzz7 Zyyy2E Zzzz1 Zyyy7 Zzzz8 ZyyyE Zzzz4",
   "Zyyy9 Zzzz7 Zyyy9 Zzzz7 Zyyy93 Zzzz1 Zyyy37 Zzzz25 ZyyyA Zzzz406 HaniA6E0 Zzzz20 Hani103A Zzzz6 HaniDE Zzzz2",
   "Hani1682 ZzzzE Hani1D31 ZzzzC1F Hani21E Zzzz5E2 Hani134B Zzzz5 Hani1060 ZzzzADC51 Zyyy1 Zzzz1E Zyyy60 Zzzz80",
   "ZinhF0 Zzzz2FE10 Zzzz0"]

/-- The names of scripts, in small letters without blanks, with their codes. -/
def scriptNames : List (String × String) :=
  [("adlm", "Adlm"), ("adlam", "Adlm"), ("aghb", "Aghb"), ("caucasianalbanian", "Aghb"), ("ahom", "Ahom"),
   ("arab", "Arab"), ("arabic", "Arab"), ("armi", "Armi"), ("imperialaramaic", "Armi"), ("armn", "Armn"),
   ("armenian", "Armn"), ("avst", "Avst"), ("avestan", "Avst"), ("bali", "Bali"), ("balinese", "Bali"),
   ("bamu", "Bamu"), ("bamum", "Bamu"), ("bass", "Bass"), ("bassavah", "Bass"), ("batk", "Batk"),
   ("batak", "Batk"), ("beng", "Beng"), ("bengali", "Beng"), ("bhks", "Bhks"), ("bhaiksuki", "Bhks"),
   ("bopo", "Bopo"), ("bopomofo", "Bopo"), ("brah", "Brah"), ("brahmi", "Brah"), ("brai", "Brai"),
   ("braille", "Brai"), ("bugi", "Bugi"), ("buginese", "Bugi"), ("buhd", "Buhd"), ("buhid", "Buhd"),
   ("cakm", "Cakm"), ("chakma", "Cakm"), ("cans", "Cans"), ("canadianaboriginal", "Cans"), ("cari", "Cari"),
   ("carian", "Cari"), ("cham", "Cham"), ("cher", "Cher"), ("cherokee", "Cher"), ("chrs", "Chrs"),
   ("chorasmian", "Chrs"), ("copt", "Copt"), ("coptic", "Copt"), ("qaac", "Copt"), ("cpmn", "Cpmn"),
   ("cyprominoan", "Cpmn"), ("cprt", "Cprt"), ("cypriot", "Cprt"), ("cyrl", "Cyrl"), ("cyrillic", "Cyrl"),
   ("deva", "Deva"), ("devanagari", "Deva"), ("diak", "Diak"), ("divesakuru", "Diak"), ("dogr", "Dogr"),
   ("dogra", "Dogr"), ("dsrt", "Dsrt"), ("deseret", "Dsrt"), ("dupl", "Dupl"), ("duployan", "Dupl"),
   ("egyp", "Egyp"), ("egyptianhieroglyphs", "Egyp"), ("elba", "Elba"), ("elbasan", "Elba"), ("elym", "Elym"),
   ("elymaic", "Elym"), ("ethi", "Ethi"), ("ethiopic", "Ethi"), ("geor", "Geor"), ("georgian", "Geor"),
   ("glag", "Glag"), ("glagolitic", "Glag"), ("gong", "Gong"), ("gunjalagondi", "Gong"), ("gonm", "Gonm"),
   ("masaramgondi", "Gonm"), ("goth", "Goth"), ("gothic", "Goth"), ("gran", "Gran"), ("grantha", "Gran"),
   ("grek", "Grek"), ("greek", "Grek"), ("gujr", "Gujr"), ("gujarati", "Gujr"), ("guru", "Guru"),
   ("gurmukhi", "Guru"), ("hang", "Hang"), ("hangul", "Hang"), ("hani", "Hani"), ("han", "Hani"), ("hano", "Hano"),
   ("hanunoo", "Hano"), ("hatr", "Hatr"), ("hatran", "Hatr"), ("hebr", "Hebr"), ("hebrew", "Hebr"),
   ("hira", "Hira"), ("hiragana", "Hira"), ("hluw", "Hluw"), ("anatolianhieroglyphs", "Hluw"), ("hmng", "Hmng"),
   ("pahawhhmong", "Hmng"), ("hmnp", "Hmnp"), ("nyiakengpuachuehmong", "Hmnp"), ("", ""), ("hung", "Hung"),
   ("oldhungarian", "Hung"), ("ital", "Ital"), ("olditalic", "Ital"), ("java", "Java"), ("javanese", "Java"),
   ("kali", "Kali"), ("kayahli", "Kali"), ("kana", "Kana"), ("katakana", "Kana"), ("kawi", "Kawi"),
   ("khar", "Khar"), ("kharoshthi", "Khar"), ("khmr", "Khmr"), ("khmer", "Khmr"), ("khoj", "Khoj"),
   ("khojki", "Khoj"), ("kits", "Kits"), ("khitansmallscript", "Kits"), ("knda", "Knda"), ("kannada", "Knda"),
   ("kthi", "Kthi"), ("kaithi", "Kthi"), ("lana", "Lana"), ("taitham", "Lana"), ("laoo", "Laoo"), ("lao", "Laoo"),
   ("latn", "Latn"), ("latin", "Latn"), ("lepc", "Lepc"), ("lepcha", "Lepc"), ("limb", "Limb"), ("limbu", "Limb"),
   ("lina", "Lina"), ("lineara", "Lina"), ("linb", "Linb"), ("linearb", "Linb"), ("lisu", "Lisu"),
   ("lyci", "Lyci"), ("lycian", "Lyci"), ("lydi", "Lydi"), ("lydian", "Lydi"), ("mahj", "Mahj"),
   ("mahajani", "Mahj"), ("maka", "Maka"), ("makasar", "Maka"), ("mand", "Mand"), ("mandaic", "Mand"),
   ("mani", "Mani"), ("manichaean", "Mani"), ("marc", "Marc"), ("marchen", "Marc"), ("medf", "Medf"),
   ("medefaidrin", "Medf"), ("mend", "Mend"), ("mendekikakui", "Mend"), ("merc", "Merc"),
   ("meroiticcursive", "Merc"), ("mero", "Mero"), ("meroitichieroglyphs", "Mero"), ("mlym", "Mlym"),
   ("malayalam", "Mlym"), ("modi", "Modi"), ("mong", "Mong"), ("mongolian", "Mong"), ("mroo", "Mroo"),
   ("mro", "Mroo"), ("mtei", "Mtei"), ("meeteimayek", "Mtei"), ("mult", "Mult"), ("multani", "Mult"),
   ("mymr", "Mymr"), ("myanmar", "Mymr"), ("nagm", "Nagm"), ("nagmundari", "Nagm"), ("nand", "Nand"),
   ("nandinagari", "Nand"), ("narb", "Narb"), ("oldnortharabian", "Narb"), ("nbat", "Nbat"), ("nabataean", "Nbat"),
   ("newa", "Newa"), ("nkoo", "Nkoo"), ("nko", "Nkoo"), ("nshu", "Nshu"), ("nushu", "Nshu"), ("ogam", "Ogam"),
   ("ogham", "Ogam"), ("olck", "Olck"), ("olchiki", "Olck"), ("orkh", "Orkh"), ("oldturkic", "Orkh"),
   ("orya", "Orya"), ("oriya", "Orya"), ("osge", "Osge"), ("osage", "Osge"), ("osma", "Osma"), ("osmanya", "Osma"),
   ("ougr", "Ougr"), ("olduyghur", "Ougr"), ("palm", "Palm"), ("palmyrene", "Palm"), ("pauc", "Pauc"),
   ("paucinhau", "Pauc"), ("perm", "Perm"), ("oldpermic", "Perm"), ("phag", "Phag"), ("phagspa", "Phag"),
   ("phli", "Phli"), ("inscriptionalpahlavi", "Phli"), ("phlp", "Phlp"), ("psalterpahlavi", "Phlp"),
   ("phnx", "Phnx"), ("phoenician", "Phnx"), ("plrd", "Plrd"), ("miao", "Plrd"), ("prti", "Prti"),
   ("inscriptionalparthian", "Prti"), ("rjng", "Rjng"), ("rejang", "Rjng"), ("rohg", "Rohg"),
   ("hanifirohingya", "Rohg"), ("runr", "Runr"), ("runic", "Runr"), ("samr", "Samr"), ("samaritan", "Samr"),
   ("sarb", "Sarb"), ("oldsoutharabian", "Sarb"), ("saur", "Saur"), ("saurashtra", "Saur"), ("sgnw", "Sgnw"),
   ("signwriting", "Sgnw"), ("shaw", "Shaw"), ("shavian", "Shaw"), ("shrd", "Shrd"), ("sharada", "Shrd"),
   ("sidd", "Sidd"), ("siddham", "Sidd"), ("sind", "Sind"), ("khudawadi", "Sind"), ("sinh", "Sinh"),
   ("sinhala", "Sinh"), ("sogd", "Sogd"), ("sogdian", "Sogd"), ("sogo", "Sogo"), ("oldsogdian", "Sogo"),
   ("sora", "Sora"), ("sorasompeng", "Sora"), ("soyo", "Soyo"), ("soyombo", "Soyo"), ("sund", "Sund"),
   ("sundanese", "Sund"), ("sylo", "Sylo"), ("sylotinagri", "Sylo"), ("syrc", "Syrc"), ("syriac", "Syrc"),
   ("tagb", "Tagb"), ("tagbanwa", "Tagb"), ("takr", "Takr"), ("takri", "Takr"), ("tale", "Tale"),
   ("taile", "Tale"), ("talu", "Talu"), ("newtailue", "Talu"), ("taml", "Taml"), ("tamil", "Taml"),
   ("tang", "Tang"), ("tangut", "Tang"), ("tavt", "Tavt"), ("taiviet", "Tavt"), ("telu", "Telu"),
   ("telugu", "Telu"), ("tfng", "Tfng"), ("tifinagh", "Tfng"), ("tglg", "Tglg"), ("tagalog", "Tglg"),
   ("thaa", "Thaa"), ("thaana", "Thaa"), ("thai", "Thai"), ("tibt", "Tibt"), ("tibetan", "Tibt"), ("tirh", "Tirh"),
   ("tirhuta", "Tirh"), ("tnsa", "Tnsa"), ("tangsa", "Tnsa"), ("toto", "Toto"), ("ugar", "Ugar"),
   ("ugaritic", "Ugar"), ("vaii", "Vaii"), ("vai", "Vaii"), ("vith", "Vith"), ("vithkuqi", "Vith"),
   ("wara", "Wara"), ("warangciti", "Wara"), ("wcho", "Wcho"), ("wancho", "Wcho"), ("xpeo", "Xpeo"),
   ("oldpersian", "Xpeo"), ("xsux", "Xsux"), ("cuneiform", "Xsux"), ("yezi", "Yezi"), ("yezidi", "Yezi"),
   ("yiii", "Yiii"), ("yi", "Yiii"), ("zanb", "Zanb"), ("zanabazarsquare", "Zanb"), ("zinh", "Zinh"),
   ("inherited", "Zinh"), ("qaai", "Zinh"), ("zyyy", "Zyyy"), ("common", "Zyyy")]

/-- The code of the script with a name, which is written in small letters without blanks. -/
def script? (name : Text) : Option Text := (scriptNames.find? (·.1.toList == name)).map (·.2.toList)

end TrackerAudit.Unicode
