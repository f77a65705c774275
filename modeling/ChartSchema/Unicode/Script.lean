import ChartSchema.Unicode.Table
/-!
# Scripts

A script is a writing system, named by four letters as in `Latn`. Every character belongs to one
script, where `Zyyy` stands for characters of many scripts and `Zinh` for marks that take the
script of what they mark. Some characters are known to be used with several scripts; these are
their extensions.
-/

namespace ChartSchema.Unicode.Script

/-- The scripts by name, with their codes. -/
def names : List (String × String) :=
  [("Adlam", "Adlm"), ("Ahom", "Ahom"), ("Anatolian_Hieroglyphs", "Hluw"), ("Arabic", "Arab"),
   ("Armenian", "Armn"), ("Avestan", "Avst"), ("Balinese", "Bali"), ("Bamum", "Bamu"),
   ("Bassa_Vah", "Bass"), ("Batak", "Batk"), ("Bengali", "Beng"), ("Bhaiksuki", "Bhks"),
   ("Bopomofo", "Bopo"), ("Brahmi", "Brah"), ("Braille", "Brai"), ("Buginese", "Bugi"),
   ("Buhid", "Buhd"), ("Canadian_Aboriginal", "Cans"), ("Carian", "Cari"),
   ("Caucasian_Albanian", "Aghb"), ("Chakma", "Cakm"), ("Cham", "Cham"), ("Cherokee", "Cher"),
   ("Chorasmian", "Chrs"), ("Common", "Zyyy"), ("Coptic", "Copt"), ("Cuneiform", "Xsux"),
   ("Cypriot", "Cprt"), ("Cypro_Minoan", "Cpmn"), ("Cyrillic", "Cyrl"), ("Deseret", "Dsrt"),
   ("Devanagari", "Deva"), ("Dives_Akuru", "Diak"), ("Dogra", "Dogr"), ("Duployan", "Dupl"),
   ("Egyptian_Hieroglyphs", "Egyp"), ("Elbasan", "Elba"), ("Elymaic", "Elym"),
   ("Ethiopic", "Ethi"), ("Garay", "Gara"), ("Georgian", "Geor"), ("Glagolitic", "Glag"),
   ("Gothic", "Goth"), ("Grantha", "Gran"), ("Greek", "Grek"), ("Gujarati", "Gujr"),
   ("Gunjala_Gondi", "Gong"), ("Gurmukhi", "Guru"), ("Gurung_Khema", "Gukh"), ("Han", "Hani"),
   ("Hangul", "Hang"), ("Hanifi_Rohingya", "Rohg"), ("Hanunoo", "Hano"), ("Hatran", "Hatr"),
   ("Hebrew", "Hebr"), ("Hiragana", "Hira"), ("Imperial_Aramaic", "Armi"), ("Inherited", "Zinh"),
   ("Inscriptional_Pahlavi", "Phli"), ("Inscriptional_Parthian", "Prti"), ("Javanese", "Java"),
   ("Kaithi", "Kthi"), ("Kannada", "Knda"), ("Katakana", "Kana"), ("Kawi", "Kawi"),
   ("Kayah_Li", "Kali"), ("Kharoshthi", "Khar"), ("Khitan_Small_Script", "Kits"),
   ("Khmer", "Khmr"), ("Khojki", "Khoj"), ("Khudawadi", "Sind"), ("Kirat_Rai", "Krai"),
   ("Lao", "Laoo"), ("Latin", "Latn"), ("Lepcha", "Lepc"), ("Limbu", "Limb"),
   ("Linear_A", "Lina"), ("Linear_B", "Linb"), ("Lisu", "Lisu"), ("Lycian", "Lyci"),
   ("Lydian", "Lydi"), ("Mahajani", "Mahj"), ("Makasar", "Maka"), ("Malayalam", "Mlym"),
   ("Mandaic", "Mand"), ("Manichaean", "Mani"), ("Marchen", "Marc"), ("Masaram_Gondi", "Gonm"),
   ("Medefaidrin", "Medf"), ("Meetei_Mayek", "Mtei"), ("Mende_Kikakui", "Mend"),
   ("Meroitic_Cursive", "Merc"), ("Meroitic_Hieroglyphs", "Mero"), ("Miao", "Plrd"),
   ("Modi", "Modi"), ("Mongolian", "Mong"), ("Mro", "Mroo"), ("Multani", "Mult"),
   ("Myanmar", "Mymr"), ("Nabataean", "Nbat"), ("Nag_Mundari", "Nagm"), ("Nandinagari", "Nand"),
   ("New_Tai_Lue", "Talu"), ("Newa", "Newa"), ("Nko", "Nkoo"), ("Nushu", "Nshu"),
   ("Nyiakeng_Puachue_Hmong", "Hmnp"), ("Ogham", "Ogam"), ("Ol_Chiki", "Olck"),
   ("Ol_Onal", "Onao"), ("Old_Hungarian", "Hung"), ("Old_Italic", "Ital"),
   ("Old_North_Arabian", "Narb"), ("Old_Permic", "Perm"), ("Old_Persian", "Xpeo"),
   ("Old_Sogdian", "Sogo"), ("Old_South_Arabian", "Sarb"), ("Old_Turkic", "Orkh"),
   ("Old_Uyghur", "Ougr"), ("Oriya", "Orya"), ("Osage", "Osge"), ("Osmanya", "Osma"),
   ("Pahawh_Hmong", "Hmng"), ("Palmyrene", "Palm"), ("Pau_Cin_Hau", "Pauc"),
   ("Phags_Pa", "Phag"), ("Phoenician", "Phnx"), ("Psalter_Pahlavi", "Phlp"), ("Rejang", "Rjng"),
   ("Runic", "Runr"), ("Samaritan", "Samr"), ("Saurashtra", "Saur"), ("Sharada", "Shrd"),
   ("Shavian", "Shaw"), ("Siddham", "Sidd"), ("SignWriting", "Sgnw"), ("Sinhala", "Sinh"),
   ("Sogdian", "Sogd"), ("Sora_Sompeng", "Sora"), ("Soyombo", "Soyo"), ("Sundanese", "Sund"),
   ("Sunuwar", "Sunu"), ("Syloti_Nagri", "Sylo"), ("Syriac", "Syrc"), ("Tagalog", "Tglg"),
   ("Tagbanwa", "Tagb"), ("Tai_Le", "Tale"), ("Tai_Tham", "Lana"), ("Tai_Viet", "Tavt"),
   ("Takri", "Takr"), ("Tamil", "Taml"), ("Tangsa", "Tnsa"), ("Tangut", "Tang"),
   ("Telugu", "Telu"), ("Thaana", "Thaa"), ("Thai", "Thai"), ("Tibetan", "Tibt"),
   ("Tifinagh", "Tfng"), ("Tirhuta", "Tirh"), ("Todhri", "Todr"), ("Toto", "Toto"),
   ("Tulu_Tigalari", "Tutg"), ("Ugaritic", "Ugar"), ("Vai", "Vaii"), ("Vithkuqi", "Vith"),
   ("Wancho", "Wcho"), ("Warang_Citi", "Wara"), ("Yezidi", "Yezi"), ("Yi", "Yiii"),
   ("Zanabazar_Square", "Zanb")]

/-- Further names of scripts. -/
def aliases : List (String × String) := [("Qaac", "Copt"), ("Qaai", "Zinh")]

/-- The scripts of all code points, in runs. -/
def runs : Runs String := Runs.ofText id
  (String.join ["Zyyy65Latn26Zyyy6Latn26Zyyy47Latn1Zyyy15Latn1Zyyy5Latn23Zyyy1Latn31Zyyy1Latn449",
    "Zyyy39Latn5Zyyy5Bopo2Zyyy20Zinh112Grek4Zyyy1Grek3Zzzz2Grek4Zyyy1Grek1Zzzz4Grek1",
    "Zyyy1Grek1Zyyy1Grek3Zzzz1Grek1Zzzz1Grek20Zzzz1Grek63Copt14Grek16Cyrl133Zinh2",
    "Cyrl169Zzzz1Armn38Zzzz2Armn50Zzzz2Armn3Zzzz1Hebr55Zzzz8Hebr27Zzzz4Hebr6Zzzz11",
    "Arab5Zyyy1Arab6Zyyy1Arab14Zyyy1Arab3Zyyy1Arab32Zyyy1Arab10Zinh11Arab26Zinh1",
    "Arab108Zyyy1Arab34Syrc14Zzzz1Syrc60Zzzz2Syrc3Arab48Thaa50Zzzz14Nkoo59Zzzz2Nkoo3",
    "Samr46Zzzz2Samr15Zzzz1Mand28Zzzz2Mand1Zzzz1Syrc11Zzzz5Arab31Zzzz1Arab2Zzzz5",
    "Arab75Zyyy1Arab29Deva81Zinh4Deva15Zyyy2Deva26Beng4Zzzz1Beng8Zzzz2Beng2Zzzz2",
    "Beng22Zzzz1Beng7Zzzz1Beng1Zzzz3Beng4Zzzz2Beng9Zzzz2Beng2Zzzz2Beng4Zzzz8Beng1",
    "Zzzz4Beng2Zzzz1Beng5Zzzz2Beng25Zzzz2Guru3Zzzz1Guru6Zzzz4Guru2Zzzz2Guru22Zzzz1",
    "Guru7Zzzz1Guru2Zzzz1Guru2Zzzz1Guru2Zzzz2Guru1Zzzz1Guru5Zzzz4Guru2Zzzz2Guru3",
    "Zzzz3Guru1Zzzz7Guru4Zzzz1Guru1Zzzz7Guru17Zzzz10Gujr3Zzzz1Gujr9Zzzz1Gujr3Zzzz1",
    "Gujr22Zzzz1Gujr7Zzzz1Gujr2Zzzz1Gujr5Zzzz2Gujr10Zzzz1Gujr3Zzzz1Gujr3Zzzz2Gujr1",
    "Zzzz15Gujr4Zzzz2Gujr12Zzzz7Gujr7Zzzz1Orya3Zzzz1Orya8Zzzz2Orya2Zzzz2Orya22Zzzz1",
    "Orya7Zzzz1Orya2Zzzz1Orya5Zzzz2Orya9Zzzz2Orya2Zzzz2Orya3Zzzz7Orya3Zzzz4Orya2",
    "Zzzz1Orya5Zzzz2Orya18Zzzz10Taml2Zzzz1Taml6Zzzz3Taml3Zzzz1Taml4Zzzz3Taml2Zzzz1",
    "Taml1Zzzz1Taml2Zzzz3Taml2Zzzz3Taml3Zzzz3Taml12Zzzz4Taml5Zzzz3Taml3Zzzz1Taml4",
    "Zzzz2Taml1Zzzz6Taml1Zzzz14Taml21Zzzz5Telu13Zzzz1Telu3Zzzz1Telu23Zzzz1Telu16",
    "Zzzz2Telu9Zzzz1Telu3Zzzz1Telu4Zzzz7Telu2Zzzz1Telu3Zzzz2Telu1Zzzz2Telu4Zzzz2",
    "Telu10Zzzz7Telu9Knda13Zzzz1Knda3Zzzz1Knda23Zzzz1Knda10Zzzz1Knda5Zzzz2Knda9Zzzz1",
    "Knda3Zzzz1Knda4Zzzz7Knda2Zzzz6Knda2Zzzz1Knda4Zzzz2Knda10Zzzz1Knda3Zzzz12Mlym13",
    "Zzzz1Mlym3Zzzz1Mlym51Zzzz1Mlym3Zzzz1Mlym6Zzzz4Mlym16Zzzz2Mlym26Zzzz1Sinh3Zzzz1",
    "Sinh18Zzzz3Sinh24Zzzz1Sinh9Zzzz1Sinh1Zzzz2Sinh7Zzzz3Sinh1Zzzz4Sinh6Zzzz1Sinh1",
    "Zzzz1Sinh8Zzzz6Sinh10Zzzz2Sinh3Zzzz12Thai58Zzzz4Zyyy1Thai28Zzzz37Laoo2Zzzz1",
    "Laoo1Zzzz1Laoo5Zzzz1Laoo24Zzzz1Laoo1Zzzz1Laoo23Zzzz2Laoo5Zzzz1Laoo1Zzzz1Laoo7",
    "Zzzz1Laoo10Zzzz2Laoo4Zzzz32Tibt72Zzzz1Tibt36Zzzz4Tibt39Zzzz1Tibt36Zzzz1Tibt15",
    "Zzzz1Tibt7Zyyy4Tibt2Zzzz37Mymr160Geor38Zzzz1Geor1Zzzz5Geor1Zzzz2Geor43Zyyy1",
    "Geor4Hang256Ethi73Zzzz1Ethi4Zzzz2Ethi7Zzzz1Ethi1Zzzz1Ethi4Zzzz2Ethi41Zzzz1Ethi4",
    "Zzzz2Ethi33Zzzz1Ethi4Zzzz2Ethi7Zzzz1Ethi1Zzzz1Ethi4Zzzz2Ethi15Zzzz1Ethi57Zzzz1",
    "Ethi4Zzzz2Ethi67Zzzz2Ethi32Zzzz3Ethi26Zzzz6Cher86Zzzz2Cher6Zzzz2Cans640Ogam29",
    "Zzzz3Runr75Zyyy3Runr11Zzzz7Tglg22Zzzz9Tglg1Hano21Zyyy2Zzzz9Buhd20Zzzz12Tagb13",
    "Zzzz1Tagb3Zzzz1Tagb2Zzzz12Khmr94Zzzz2Khmr10Zzzz6Khmr10Zzzz6Mong2Zyyy2Mong1Zyyy1",
    "Mong20Zzzz6Mong89Zzzz7Mong43Zzzz5Cans70Zzzz10Limb31Zzzz1Limb12Zzzz4Limb12Zzzz4",
    "Limb1Zzzz3Limb12Tale30Zzzz2Tale5Zzzz11Talu44Zzzz4Talu26Zzzz6Talu11Zzzz3Talu2",
    "Khmr32Bugi28Zzzz2Bugi2Lana63Zzzz1Lana29Zzzz2Lana11Zzzz6Lana10Zzzz6Lana14Zzzz2",
    "Zinh31Zzzz49Bali77Zzzz1Bali50Sund64Batk52Zzzz8Batk4Lepc56Zzzz3Lepc15Zzzz3Lepc3",
    "Olck48Cyrl11Zzzz5Geor43Zzzz2Geor3Sund8Zzzz8Zinh3Zyyy1Zinh13Zyyy1Zinh7Zyyy4Zinh1",
    "Zyyy6Zinh1Zyyy3Zinh2Zyyy1Zzzz5Latn38Grek5Cyrl1Latn49Grek5Latn4Grek5Latn13Cyrl1",
    "Latn70Grek1Zinh64Latn256Grek22Zzzz2Grek6Zzzz2Grek38Zzzz2Grek6Zzzz2Grek8Zzzz1",
    "Grek1Zzzz1Grek1Zzzz1Grek1Zzzz1Grek31Zzzz2Grek53Zzzz1Grek15Zzzz1Grek14Zzzz2Grek6",
    "Zzzz1Grek19Zzzz2Grek3Zzzz1Grek9Zzzz1Zyyy12Zinh2Zyyy87Zzzz1Zyyy11Latn1Zzzz2",
    "Zyyy11Latn1Zyyy15Zzzz1Latn13Zzzz3Zyyy33Zzzz15Zinh33Zzzz15Zyyy38Grek1Zyyy3Latn2",
    "Zyyy6Latn1Zyyy27Latn1Zyyy17Latn41Zyyy3Zzzz4Zyyy666Zzzz22Zyyy11Zzzz21Zyyy928",
    "Brai256Zyyy628Zzzz2Zyyy32Zzzz1Zyyy105Glag96Latn32Copt116Zzzz5Copt7Geor38Zzzz1",
    "Geor1Zzzz5Geor1Zzzz2Tfng56Zzzz7Tfng2Zzzz14Tfng1Ethi23Zzzz9Ethi7Zzzz1Ethi7Zzzz1",
    "Ethi7Zzzz1Ethi7Zzzz1Ethi7Zzzz1Ethi7Zzzz1Ethi7Zzzz1Ethi7Zzzz1Cyrl32Zyyy94Zzzz34",
    "Hani26Zzzz1Hani89Zzzz12Hani214Zzzz26Zyyy21Hani1Zyyy1Hani1Zyyy25Hani9Zinh4Hang2",
    "Zyyy8Hani4Zyyy4Zzzz1Hira86Zzzz2Zinh2Zyyy2Hira3Zyyy1Kana90Zyyy2Kana3Zzzz5Bopo43",
    "Zzzz1Hang94Zzzz1Zyyy16Bopo32Zyyy38Zzzz9Zyyy1Kana16Hang31Zzzz1Zyyy64Hang31Zyyy81",
    "Kana47Zyyy1Kana88Zyyy168Hani6592Zyyy64Hani20992Yiii1165Zzzz3Yiii55Zzzz9Lisu48",
    "Vaii300Zzzz20Cyrl96Bamu88Zzzz8Zyyy34Latn102Zyyy3Latn67Zzzz2Latn2Zzzz1Latn1Zzzz1",
    "Latn8Zzzz21Latn14Sylo45Zzzz3Zyyy10Zzzz6Phag56Zzzz8Saur70Zzzz8Saur12Zzzz6Deva32",
    "Kali46Zyyy1Kali1Rjng36Zzzz11Rjng1Hang29Zzzz3Java78Zzzz1Zyyy1Java10Zzzz4Java2",
    "Mymr31Zzzz1Cham55Zzzz9Cham14Zzzz2Cham10Zzzz2Cham4Mymr32Tavt67Zzzz24Tavt5Mtei23",
    "Zzzz10Ethi6Zzzz2Ethi6Zzzz2Ethi6Zzzz9Ethi7Zzzz1Ethi7Zzzz1Latn43Zyyy1Latn9Grek1",
    "Latn4Zyyy2Zzzz4Cher80Mtei46Zzzz2Mtei10Zzzz6Hang11172Zzzz12Hang23Zzzz4Hang49",
    "Zzzz8452Hani366Zzzz2Hani106Zzzz38Latn7Zzzz12Armn5Zzzz5Hebr26Zzzz1Hebr5Zzzz1",
    "Hebr1Zzzz1Hebr2Zzzz1Hebr2Zzzz1Hebr10Arab115Zzzz16Arab363Zyyy2Arab80Zzzz2Arab54",
    "Zzzz7Arab1Zzzz32Arab16Zinh16Zyyy10Zzzz6Zinh14Cyrl2Zyyy35Zzzz1Zyyy19Zzzz1Zyyy4",
    "Zzzz4Arab5Zzzz1Arab135Zzzz2Zyyy1Zzzz1Zyyy32Latn26Zyyy6Latn26Zyyy11Kana10Zyyy1",
    "Kana45Zyyy2Hang31Zzzz3Hang6Zzzz2Hang6Zzzz2Hang6Zzzz2Hang3Zzzz3Zyyy7Zzzz1Zyyy7",
    "Zzzz10Zyyy5Zzzz2Linb12Zzzz1Linb26Zzzz1Linb19Zzzz1Linb2Zzzz1Linb15Zzzz2Linb14",
    "Zzzz34Linb123Zzzz5Zyyy3Zzzz4Zyyy45Zzzz3Zyyy9Grek79Zzzz1Zyyy13Zzzz3Grek1Zzzz47",
    "Zyyy45Zinh1Zzzz130Lyci29Zzzz3Cari49Zzzz15Zinh1Zyyy27Zzzz4Ital36Zzzz9Ital3Goth27",
    "Zzzz5Perm43Zzzz5Ugar30Zzzz1Ugar1Xpeo36Zzzz4Xpeo14Zzzz42Dsrt80Shaw48Osma30Zzzz2",
    "Osma10Zzzz6Osge36Zzzz4Osge36Zzzz4Elba40Zzzz8Aghb52Zzzz11Aghb1Vith11Zzzz1Vith15",
    "Zzzz1Vith7Zzzz1Vith2Zzzz1Vith11Zzzz1Vith15Zzzz1Vith7Zzzz1Vith2Zzzz3Todr52Zzzz12",
    "Lina311Zzzz9Lina22Zzzz10Lina8Zzzz24Latn6Zzzz1Latn42Zzzz1Latn9Zzzz69Cprt6Zzzz2",
    "Cprt1Zzzz1Cprt44Zzzz1Cprt2Zzzz3Cprt1Zzzz2Cprt1Armi22Zzzz1Armi9Palm32Nbat31Zzzz8",
    "Nbat9Zzzz48Hatr19Zzzz1Hatr2Zzzz5Hatr5Phnx28Zzzz3Phnx1Lydi26Zzzz5Lydi1Zzzz64",
    "Mero32Merc24Zzzz4Merc20Zzzz2Merc46Khar4Zzzz1Khar2Zzzz5Khar8Zzzz1Khar3Zzzz1",
    "Khar29Zzzz2Khar3Zzzz4Khar10Zzzz7Khar9Zzzz7Sarb32Narb32Zzzz32Mani39Zzzz4Mani12",
    "Zzzz9Avst54Zzzz3Avst7Prti22Zzzz2Prti8Phli19Zzzz5Phli8Phlp18Zzzz7Phlp4Zzzz12",
    "Phlp7Zzzz80Orkh73Zzzz55Hung51Zzzz13Hung51Zzzz7Hung6Rohg40Zzzz8Rohg10Zzzz6Gara38",
    "Zzzz3Gara29Zzzz8Gara2Zzzz208Arab31Zzzz1Yezi42Zzzz1Yezi3Zzzz2Yezi2Zzzz16Arab3",
    "Zzzz55Arab4Sogo40Zzzz8Sogd42Zzzz22Ougr26Zzzz38Chrs28Zzzz20Elym23Zzzz9Brah78",
    "Zzzz4Brah36Zzzz9Brah1Kthi67Zzzz10Kthi1Zzzz2Sora25Zzzz7Sora10Zzzz6Cakm53Zzzz1",
    "Cakm18Zzzz8Mahj39Zzzz9Shrd96Zzzz1Sinh20Zzzz11Khoj18Zzzz1Khoj47Zzzz62Mult7Zzzz1",
    "Mult1Zzzz1Mult4Zzzz1Mult15Zzzz1Mult11Zzzz6Sind59Zzzz5Sind10Zzzz6Gran4Zzzz1Gran8",
    "Zzzz2Gran2Zzzz2Gran22Zzzz1Gran7Zzzz1Gran2Zzzz1Gran5Zzzz1Zinh1Gran9Zzzz2Gran2",
    "Zzzz2Gran3Zzzz2Gran1Zzzz6Gran1Zzzz5Gran7Zzzz2Gran7Zzzz3Gran5Zzzz11Tutg10Zzzz1",
    "Tutg1Zzzz2Tutg1Zzzz1Tutg38Zzzz1Tutg10Zzzz1Tutg1Zzzz2Tutg1Zzzz1Tutg4Zzzz1Tutg10",
    "Zzzz1Tutg2Zzzz8Tutg2Zzzz29Newa92Zzzz1Newa5Zzzz30Tirh72Zzzz8Tirh10Zzzz166Sidd54",
    "Zzzz2Sidd38Zzzz34Modi69Zzzz11Modi10Zzzz6Mong13Zzzz19Takr58Zzzz6Takr10Zzzz6",
    "Mymr20Zzzz28Ahom27Zzzz2Ahom15Zzzz4Ahom23Zzzz185Dogr60Zzzz100Wara83Zzzz12Wara1",
    "Diak7Zzzz2Diak1Zzzz2Diak8Zzzz1Diak2Zzzz1Diak30Zzzz1Diak2Zzzz2Diak12Zzzz9Diak10",
    "Zzzz70Nand8Zzzz2Nand46Zzzz2Nand11Zzzz27Zanb72Zzzz8Soyo83Zzzz13Cans16Pauc57Zzzz7",
    "Deva10Zzzz182Sunu34Zzzz14Sunu10Zzzz6Bhks9Zzzz1Bhks45Zzzz1Bhks14Zzzz10Bhks29",
    "Zzzz3Marc32Zzzz2Marc22Zzzz1Marc14Zzzz73Gonm7Zzzz1Gonm2Zzzz1Gonm44Zzzz3Gonm1",
    "Zzzz1Gonm2Zzzz1Gonm9Zzzz8Gonm10Zzzz6Gong6Zzzz1Gong2Zzzz1Gong37Zzzz1Gong2Zzzz1",
    "Gong6Zzzz7Gong10Zzzz310Maka25Zzzz7Kawi17Zzzz1Kawi41Zzzz3Kawi29Zzzz85Lisu1Zzzz15",
    "Taml50Zzzz13Taml1Xsux922Zzzz102Xsux111Zzzz1Xsux5Zzzz11Xsux196Zzzz2636Cpmn99",
    "Zzzz13Egyp1110Zzzz10Egyp3995Zzzz5Hluw583Zzzz6841Gukh58Zzzz1734Bamu569Zzzz7",
    "Mroo31Zzzz1Mroo10Zzzz4Mroo2Tnsa79Zzzz1Tnsa10Zzzz6Bass30Zzzz2Bass6Zzzz10Hmng70",
    "Zzzz10Hmng10Zzzz1Hmng7Zzzz1Hmng21Zzzz5Hmng19Zzzz432Krai58Zzzz198Medf91Zzzz101",
    "Plrd75Zzzz4Plrd57Zzzz7Plrd17Zzzz64Tang1Nshu1Hani2Kits1Zzzz11Hani2Zzzz14Tang6136",
    "Zzzz8Tang768Kits470Zzzz41Kits1Tang9Zzzz8935Kana4Zzzz1Kana7Zzzz1Kana2Zzzz1Kana1",
    "Hira287Kana3Zzzz15Hira1Zzzz29Hira3Zzzz2Kana1Zzzz14Kana4Zzzz8Nshu396Zzzz2308",
    "Dupl107Zzzz5Dupl13Zzzz3Dupl9Zzzz7Dupl10Zzzz2Dupl4Zyyy4Zzzz3932Zyyy250Zzzz6",
    "Zyyy436Zzzz76Zinh46Zzzz2Zinh23Zzzz9Zyyy116Zzzz60Zyyy246Zzzz10Zyyy39Zzzz2Zyyy62",
    "Zinh3Zyyy17Zinh8Zyyy2Zinh7Zyyy30Zinh4Zyyy61Zzzz21Grek70Zzzz122Zyyy20Zzzz12",
    "Zyyy20Zzzz12Zyyy87Zzzz9Zyyy25Zzzz135Zyyy85Zzzz1Zyyy71Zzzz1Zyyy2Zzzz2Zyyy1Zzzz2",
    "Zyyy2Zzzz2Zyyy4Zzzz1Zyyy12Zzzz1Zyyy1Zzzz1Zyyy7Zzzz1Zyyy65Zzzz1Zyyy4Zzzz2Zyyy8",
    "Zzzz1Zyyy7Zzzz1Zyyy28Zzzz1Zyyy4Zzzz1Zyyy5Zzzz1Zyyy1Zzzz3Zyyy7Zzzz1Zyyy340Zzzz2",
    "Zyyy292Zzzz2Zyyy50Sgnw652Zzzz15Sgnw5Zzzz1Sgnw15Zzzz1104Latn31Zzzz6Latn6Zzzz213",
    "Glag7Zzzz1Glag17Zzzz2Glag7Zzzz1Glag2Zzzz1Glag5Zzzz5Cyrl62Zzzz33Cyrl1Zzzz112",
    "Hmnp45Zzzz3Hmnp14Zzzz2Hmnp10Zzzz4Hmnp2Zzzz320Toto31Zzzz17Wcho58Zzzz5Wcho1",
    "Zzzz464Nagm42Zzzz214Onao43Zzzz4Onao1Zzzz480Ethi7Zzzz1Ethi4Zzzz1Ethi2Zzzz1Ethi15",
    "Zzzz1Mend197Zzzz2Mend16Zzzz41Adlm76Zzzz4Adlm10Zzzz4Adlm2Zzzz785Zyyy68Zzzz76",
    "Zyyy61Zzzz194Arab4Zzzz1Arab27Zzzz1Arab2Zzzz1Arab1Zzzz2Arab1Zzzz1Arab10Zzzz1",
    "Arab4Zzzz1Arab1Zzzz1Arab1Zzzz6Arab1Zzzz4Arab1Zzzz1Arab1Zzzz1Arab1Zzzz1Arab3",
    "Zzzz1Arab2Zzzz1Arab1Zzzz2Arab1Zzzz1Arab1Zzzz1Arab1Zzzz1Arab1Zzzz1Arab1Zzzz1",
    "Arab2Zzzz1Arab1Zzzz2Arab4Zzzz1Arab7Zzzz1Arab4Zzzz1Arab4Zzzz1Arab1Zzzz1Arab10",
    "Zzzz1Arab17Zzzz5Arab3Zzzz1Arab5Zzzz1Arab17Zzzz52Arab2Zzzz270Zyyy44Zzzz4Zyyy100",
    "Zzzz12Zyyy15Zzzz2Zyyy15Zzzz1Zyyy15Zzzz1Zyyy37Zzzz10Zyyy174Zzzz56Zyyy26Hira1",
    "Zyyy2Zzzz13Zyyy44Zzzz4Zyyy9Zzzz7Zyyy2Zzzz14Zyyy6Zzzz154Zyyy984Zzzz4Zyyy17Zzzz3",
    "Zyyy13Zzzz3Zyyy119Zzzz4Zyyy95Zzzz6Zyyy12Zzzz4Zyyy1Zzzz15Zyyy12Zzzz4Zyyy56Zzzz8",
    "Zyyy10Zzzz6Zyyy40Zzzz8Zyyy30Zzzz2Zyyy12Zzzz4Zyyy2Zzzz62Zyyy340Zzzz12Zyyy14Zzzz2",
    "Zyyy13Zzzz3Zyyy10Zzzz5Zyyy56Zzzz7Zyyy15Zzzz2Zyyy11Zzzz6Zyyy9Zzzz7Zyyy147Zzzz1",
    "Zyyy102Zzzz1030Hani42720Zzzz32Hani4154Zzzz6Hani222Zzzz2Hani5762Zzzz14Hani7473",
    "Zzzz15Hani622Zzzz2466Hani542Zzzz1506Hani4939Zzzz5Hani4192Zzzz711761Zyyy1Zzzz30",
    "Zyyy96Zzzz128Zinh240Zzzz196112"])

/-- The code points that are used with other scripts than their own, from first to last, and the
codes of these scripts. -/
def extensionRanges : List (Nat × Nat × String) :=
  [
   (183, 183, "Avst Cari Copt Dupl Elba Geor Glag Gong Goth Grek Hani Latn Lydi Mahj Perm " ++
    "Shaw"),
   (700, 700, "Beng Cyrl Deva Latn Lisu Thai Toto"), (711, 711, "Bopo Latn"),
   (713, 715, "Bopo Latn"), (717, 717, "Latn Lisu"), (727, 727, "Latn Thai"),
   (729, 729, "Bopo Latn"), (768, 768, "Cher Copt Cyrl Grek Latn Perm Sunu Tale"),
   (769, 769, "Cher Cyrl Grek Latn Osge Sunu Tale Todr"), (770, 770, "Cher Cyrl Latn Tfng"),
   (771, 771, "Glag Latn Sunu Syrc Thai"),
   (772, 772, "Aghb Cher Copt Cyrl Goth Grek Latn Osge Syrc Tfng Todr"),
   (773, 773, "Copt Elba Glag Goth Kana Latn"), (774, 774, "Cyrl Grek Latn Perm Tfng"),
   (775, 775, "Copt Dupl Hebr Latn Perm Syrc Tale Tfng Todr"),
   (776, 776, "Armn Cyrl Dupl Goth Grek Hebr Latn Perm Syrc Tale Tfng"), (777, 777, "Latn Tfng"),
   (778, 778, "Dupl Latn Syrc"), (779, 779, "Cher Cyrl Latn Osge"), (780, 780, "Cher Latn Tale"),
   (781, 781, "Latn Sunu"), (782, 782, "Ethi Latn"), (784, 784, "Latn Sunu"),
   (785, 785, "Cyrl Latn Todr"), (787, 787, "Grek Latn Perm Todr"),
   (803, 803, "Cher Dupl Kana Latn Syrc Tfng"), (804, 804, "Cher Dupl Latn Syrc"),
   (805, 805, "Latn Syrc"), (813, 813, "Latn Sunu Syrc"), (814, 814, "Latn Syrc"),
   (816, 816, "Cher Latn Syrc"), (817, 817, "Aghb Cher Goth Latn Sunu Syrc Thai"),
   (834, 834, "Grek"), (837, 837, "Grek"), (856, 856, "Latn Osge"), (862, 862, "Aghb Latn Todr"),
   (867, 879, "Latn"), (884, 885, "Copt Grek"), (1155, 1155, "Cyrl Perm"),
   (1156, 1156, "Cyrl Glag"), (1157, 1158, "Cyrl Latn"), (1159, 1159, "Cyrl Glag"),
   (1417, 1417, "Armn Geor Glag"), (1548, 1548, "Arab Gara Nkoo Rohg Syrc Thaa Yezi"),
   (1563, 1563, "Arab Gara Nkoo Rohg Syrc Thaa Yezi"), (1564, 1564, "Arab Syrc Thaa"),
   (1567, 1567, "Adlm Arab Gara Nkoo Rohg Syrc Thaa Yezi"),
   (1600, 1600, "Adlm Arab Mand Mani Ougr Phlp Rohg Sogd Syrc"), (1611, 1621, "Arab Syrc"),
   (1632, 1641, "Arab Thaa Yezi"), (1648, 1648, "Arab Syrc"), (1748, 1748, "Arab Rohg"),
   (2385, 2385, "Beng Deva Gran Gujr Guru Knda Latn Mlym Nand Newa Orya Shrd Taml Telu Tirh"),
   (2386, 2386, "Beng Deva Gran Gujr Guru Knda Latn Mlym Newa Orya Taml Telu Tirh"),
   (2404, 2404, "Beng Deva Dogr Gong Gonm Gran Gujr Guru Knda Mahj Mlym Nand Onao Orya Sind " ++
    "Sinh Sylo Takr Taml Telu Tirh"),
   (2405, 2405, "Beng Deva Dogr Gong Gonm Gran Gujr Gukh Guru Knda Limb Mahj Mlym Nand Onao " ++
    "Orya Sind Sinh Sylo Takr Taml Telu Tirh"),
   (2406, 2415, "Deva Dogr Kthi Mahj"), (2534, 2543, "Beng Cakm Sylo"),
   (2662, 2671, "Guru Mult"), (2790, 2799, "Gujr Khoj"), (3046, 3059, "Gran Taml"),
   (3302, 3311, "Knda Nand Tutg"), (4160, 4169, "Cakm Mymr Tale"),
   (4347, 4347, "Geor Glag Latn"), (5867, 5869, "Runr"), (5941, 5942, "Buhd Hano Tagb Tglg"),
   (6146, 6147, "Mong Phag"), (6149, 6149, "Mong Phag"), (7376, 7376, "Beng Deva Gran Knda"),
   (7377, 7377, "Deva"), (7378, 7378, "Beng Deva Gran Knda"), (7379, 7379, "Deva Gran Knda"),
   (7380, 7380, "Deva"), (7381, 7381, "Beng Deva Newa Telu Tirh"),
   (7382, 7382, "Beng Deva Telu"), (7383, 7383, "Deva Newa Shrd"),
   (7384, 7384, "Beng Deva Newa Telu"), (7385, 7385, "Deva Shrd"),
   (7386, 7386, "Deva Knda Mlym Orya Taml Telu"), (7387, 7387, "Deva"),
   (7388, 7389, "Deva Shrd"), (7390, 7391, "Deva"), (7392, 7392, "Deva Shrd"),
   (7393, 7393, "Beng Deva"), (7394, 7394, "Deva Newa Tirh"), (7395, 7400, "Deva"),
   (7401, 7401, "Deva Nand Newa"), (7402, 7402, "Beng Deva Shrd"), (7403, 7403, "Deva Newa"),
   (7404, 7404, "Deva"), (7405, 7405, "Beng Deva Newa Shrd"), (7406, 7409, "Deva"),
   (7410, 7410, "Beng Deva Gran Knda Mlym Nand Orya Sinh Telu Tirh Tutg"),
   (7411, 7411, "Deva Gran"), (7412, 7412, "Deva Gran Knda Tutg"), (7413, 7414, "Beng Deva"),
   (7415, 7415, "Beng"), (7416, 7417, "Deva Gran"), (7418, 7418, "Nand"), (7616, 7617, "Grek"),
   (7672, 7672, "Cyrl Latn Syrc"), (7674, 7674, "Syrc"), (8239, 8239, "Latn Mong Phag"),
   (8271, 8271, "Adlm Arab"), (8282, 8282, "Cari Geor Glag Hung Lyci Orkh"),
   (8285, 8285, "Cari Grek Hung Mero"), (8432, 8432, "Deva Gran Latn"),
   (11799, 11799, "Copt Latn"), (11824, 11824, "Avst Orkh"),
   (11825, 11825, "Avst Cari Geor Hung Kthi Lydi Samr"), (11836, 11836, "Dupl"),
   (11841, 11841, "Adlm Arab Hung"), (11843, 11843, "Cyrl Glag"), (12272, 12287, "Hani Tang"),
   (12289, 12289, "Bopo Hang Hani Hira Kana Mong Yiii"),
   (12290, 12290, "Bopo Hang Hani Hira Kana Mong Phag Yiii"),
   (12291, 12291, "Bopo Hang Hani Hira Kana"), (12294, 12294, "Hani"),
   (12296, 12297, "Bopo Hang Hani Hira Kana Mong Tibt Yiii"),
   (12298, 12299, "Bopo Hang Hani Hira Kana Lisu Mong Tibt Yiii"),
   (12300, 12305, "Bopo Hang Hani Hira Kana Yiii"), (12307, 12307, "Bopo Hang Hani Hira Kana"),
   (12308, 12315, "Bopo Hang Hani Hira Kana Yiii"), (12316, 12319, "Bopo Hang Hani Hira Kana"),
   (12330, 12333, "Bopo Hani"), (12336, 12336, "Bopo Hang Hani Hira Kana"),
   (12337, 12341, "Hira Kana"), (12343, 12343, "Bopo Hang Hani Hira Kana"),
   (12348, 12349, "Hani Hira Kana"), (12350, 12351, "Hani"), (12441, 12444, "Hira Kana"),
   (12448, 12448, "Hira Kana"), (12539, 12539, "Bopo Hang Hani Hira Kana Yiii"),
   (12540, 12540, "Hira Kana"), (12688, 12703, "Hani"), (12736, 12773, "Hani"),
   (12783, 12783, "Hani Tang"), (12832, 12871, "Hani"), (12928, 12976, "Hani"),
   (12992, 13003, "Hani"), (13055, 13055, "Hani"), (13144, 13168, "Hani"),
   (13179, 13183, "Hani"), (13280, 13310, "Hani"), (42607, 42607, "Cyrl Glag"),
   (42752, 42759, "Hani Latn"),
   (43056, 43058, "Deva Dogr Gujr Guru Khoj Knda Kthi Mahj Mlym Modi Nand Shrd Sind Takr Tirh " ++
    "Tutg"),
   (43059, 43061, "Deva Dogr Gujr Guru Khoj Knda Kthi Mahj Modi Nand Shrd Sind Takr Tirh Tutg"),
   (43062, 43063, "Deva Dogr Gujr Guru Khoj Kthi Mahj Modi Sind Takr Tirh"),
   (43064, 43064, "Deva Dogr Gujr Guru Khoj Kthi Mahj Modi Shrd Sind Takr Tirh"),
   (43065, 43065, "Deva Dogr Gujr Guru Khoj Kthi Mahj Modi Sind Takr Tirh"),
   (43249, 43249, "Beng Deva Tutg"), (43251, 43251, "Deva Taml"),
   (43310, 43310, "Kali Latn Mymr"), (43471, 43471, "Bugi Java"), (64830, 64831, "Arab Nkoo"),
   (65010, 65010, "Arab Thaa"), (65021, 65021, "Arab Thaa"),
   (65093, 65094, "Bopo Hang Hani Hira Kana"), (65377, 65381, "Bopo Hang Hani Hira Kana Yiii"),
   (65392, 65392, "Hira Kana"), (65438, 65439, "Hira Kana"), (65792, 65793, "Cpmn Cprt Linb"),
   (65794, 65794, "Cprt Linb"), (65799, 65843, "Cprt Lina Linb"), (65847, 65855, "Cprt Linb"),
   (66272, 66299, "Arab Copt"), (68338, 68338, "Mani Ougr"), (70401, 70401, "Gran Taml"),
   (70403, 70403, "Gran Taml"), (70459, 70460, "Gran Taml"), (73680, 73681, "Gran Taml"),
   (73683, 73683, "Gran Taml"), (113824, 113827, "Dupl"), (119648, 119665, "Hani"),
   (127568, 127569, "Hani")]

/-- The characters of a script. -/
def members (script : String) : Ranges := Ranges.ofRuns runs (· == script)

/-- The characters that are used with a script. -/
def users (script : String) : Ranges :=
  let others := Ranges.ofList (extensionRanges.map fun range => (range.1, range.2.1))
  let extended := extensionRanges.filter fun range => (range.2.2.splitOn " ").contains script
  ((members script).diff others).union
    (Ranges.ofList (extended.map fun range => (range.1, range.2.1)))

end ChartSchema.Unicode.Script
