import ConsoleSweep.Text.Runs

/-!
# Scripts

The property `Script` of Unicode 17: the writing system that a character belongs to.

* `Script.of`: the script of a character, by its abbreviation.
* `Script.named`: the abbreviation of the script that a name stands for.
-/

namespace ConsoleSweep

namespace Script

/-- The abbreviations of the scripts, each followed by the name. -/
def names : List (String × String) :=
  pairs <| (String.join [
      "Adlm adlam Aghb caucasianalbanian Ahom ahom Arab arabic Armi imperialaramaic Armn armenian",
      " Avst avestan Bali balinese Bamu bamum Bass bassavah Batk batak Beng bengali Bhks bhaiksuk",
      "i Bopo bopomofo Brah brahmi Brai braille Bugi buginese Buhd buhid Cakm chakma Cans canadia",
      "naboriginal Cari carian Cham cham Cher cherokee Chrs chorasmian Copt coptic Cpmn cypromino",
      "an Cprt cypriot Cyrl cyrillic Deva devanagari Diak divesakuru Dogr dogra Dsrt deseret Dupl",
      " duployan Egyp egyptianhieroglyphs Elba elbasan Elym elymaic Ethi ethiopic Gara garay Geor",
      " georgian Glag glagolitic Gong gunjalagondi Gonm masaramgondi Goth gothic Gran grantha Gre",
      "k greek Gujr gujarati Gukh gurungkhema Guru gurmukhi Hang hangul Hani han Hano hanunoo Hat",
      "r hatran Hebr hebrew Hira hiragana Hluw anatolianhieroglyphs Hmng pahawhhmong Hmnp nyiaken",
      "gpuachuehmong Hung oldhungarian Ital olditalic Java javanese Kali kayahli Kana katakana Ka",
      "wi kawi Khar kharoshthi Khmr khmer Khoj khojki Kits khitansmallscript Knda kannada Krai ki",
      "ratrai Kthi kaithi Lana taitham Laoo lao Latn latin Lepc lepcha Limb limbu Lina lineara Li",
      "nb linearb Lisu lisu Lyci lycian Lydi lydian Mahj mahajani Maka makasar Mand mandaic Mani ",
      "manichaean Marc marchen Medf medefaidrin Mend mendekikakui Merc meroiticcursive Mero meroi",
      "tichieroglyphs Mlym malayalam Modi modi Mong mongolian Mroo mro Mtei meeteimayek Mult mult",
      "ani Mymr myanmar Nagm nagmundari Nand nandinagari Narb oldnortharabian Nbat nabataean Newa",
      " newa Nkoo nko Nshu nushu Ogam ogham Olck olchiki Onao olonal Orkh oldturkic Orya oriya Os",
      "ge osage Osma osmanya Ougr olduyghur Palm palmyrene Pauc paucinhau Perm oldpermic Phag pha",
      "gspa Phli inscriptionalpahlavi Phlp psalterpahlavi Phnx phoenician Plrd miao Prti inscript",
      "ionalparthian Rjng rejang Rohg hanifirohingya Runr runic Samr samaritan Sarb oldsoutharabi",
      "an Saur saurashtra Sgnw signwriting Shaw shavian Shrd sharada Sidd siddham Sind khudawadi ",
      "Sinh sinhala Sogd sogdian Sogo oldsogdian Sora sorasompeng Soyo soyombo Sund sundanese Sun",
      "u sunuwar Sylo sylotinagri Syrc syriac Tagb tagbanwa Takr takri Tale taile Talu newtailue ",
      "Taml tamil Tang tangut Tavt taiviet Telu telugu Tfng tifinagh Tglg tagalog Thaa thaana Tha",
      "i thai Tibt tibetan Tirh tirhuta Tnsa tangsa Todr todhri Toto toto Tutg tulutigalari Ugar ",
      "ugaritic Vaii vai Vith vithkuqi Wara warangciti Wcho wancho Xpeo oldpersian Xsux cuneiform",
      " Yezi yezidi Yiii yi Zanb zanabazarsquare Zinh inherited Zyyy common"]).splitOn " "
where
  /-- The texts two by two. -/
  pairs : List String → List (String × String)
    | short :: long :: rest => (short, long) :: pairs rest
    | _ => []

/-- The abbreviation of the script that a name stands for. It has small letters only and no
separators. -/
def named (name : String) : Option String :=
  match name with
  | "qaac" => some "Copt"
  | "qaai" => some "Zinh"
  | _ => (names.find? fun (short, long) => short.toLower == name || long == name).map (·.1)

/-- The code points in runs of one script each. -/
def runs : List (Nat × String) :=
  labelledRuns 4
    (String.join [
      "41Zyyy1aLatn6Zyyy1aLatn2fZyyy1LatnfZyyy1Latn5Zyyy17Latn1Zyyy1fLatn1Zyyy1c1Latn27Zyyy5Latn5",
      "Zyyy2Bopo14Zyyy70Zinh4Grek1Zyyy3Grek2Zzzz4Grek1Zyyy1Grek4Zzzz1Grek1Zyyy1Grek1Zyyy3Grek1Zzz",
      "z1Grek1Zzzz14Grek1Zzzz3fGrekeCopt10Grek85Cyrl2Zinha9Cyrl1Zzzz26Armn2Zzzz32Armn2Zzzz3Armn1Z",
      "zzz37Hebr8Zzzz1bHebr4Zzzz6HebrbZzzz5Arab1Zyyy6Arab1ZyyyeArab1Zyyy3Arab1Zyyy20Arab1ZyyyaAra",
      "bbZinh1aArab1Zinh6cArab1Zyyy22ArabeSyrc1Zzzz3cSyrc2Zzzz3Syrc30Arab32ThaaeZzzz3bNkoo2Zzzz3N",
      "koo2eSamr2ZzzzfSamr1Zzzz1cMand2Zzzz1Mand1ZzzzbSyrc5Zzzz22Arab5Zzzz4bArab1Zyyy1dArab51Deva4",
      "ZinhfDeva2Zyyy1aDeva4Beng1Zzzz8Beng2Zzzz2Beng2Zzzz16Beng1Zzzz7Beng1Zzzz1Beng3Zzzz4Beng2Zzz",
      "z9Beng2Zzzz2Beng2Zzzz4Beng8Zzzz1Beng4Zzzz2Beng1Zzzz5Beng2Zzzz19Beng2Zzzz3Guru1Zzzz6Guru4Zz",
      "zz2Guru2Zzzz16Guru1Zzzz7Guru1Zzzz2Guru1Zzzz2Guru1Zzzz2Guru2Zzzz1Guru1Zzzz5Guru4Zzzz2Guru2Z",
      "zzz3Guru3Zzzz1Guru7Zzzz4Guru1Zzzz1Guru7Zzzz11GuruaZzzz3Gujr1Zzzz9Gujr1Zzzz3Gujr1Zzzz16Gujr",
      "1Zzzz7Gujr1Zzzz2Gujr1Zzzz5Gujr2ZzzzaGujr1Zzzz3Gujr1Zzzz3Gujr2Zzzz1GujrfZzzz4Gujr2ZzzzcGujr",
      "7Zzzz7Gujr1Zzzz3Orya1Zzzz8Orya2Zzzz2Orya2Zzzz16Orya1Zzzz7Orya1Zzzz2Orya1Zzzz5Orya2Zzzz9Ory",
      "a2Zzzz2Orya2Zzzz3Orya7Zzzz3Orya4Zzzz2Orya1Zzzz5Orya2Zzzz12OryaaZzzz2Taml1Zzzz6Taml3Zzzz3Ta",
      "ml1Zzzz4Taml3Zzzz2Taml1Zzzz1Taml1Zzzz2Taml3Zzzz2Taml3Zzzz3Taml3ZzzzcTaml4Zzzz5Taml3Zzzz3Ta",
      "ml1Zzzz4Taml2Zzzz1Taml6Zzzz1TamleZzzz15Taml5ZzzzdTelu1Zzzz3Telu1Zzzz17Telu1Zzzz10Telu2Zzzz",
      "9Telu1Zzzz3Telu1Zzzz4Telu7Zzzz2Telu1Zzzz3Telu1Zzzz2Telu2Zzzz4Telu2ZzzzaTelu7Zzzz9TeludKnda",
      "1Zzzz3Knda1Zzzz17Knda1ZzzzaKnda1Zzzz5Knda2Zzzz9Knda1Zzzz3Knda1Zzzz4Knda7Zzzz2Knda5Zzzz3Knd",
      "a1Zzzz4Knda2ZzzzaKnda1Zzzz3KndacZzzzdMlym1Zzzz3Mlym1Zzzz33Mlym1Zzzz3Mlym1Zzzz6Mlym4Zzzz10M",
      "lym2Zzzz1aMlym1Zzzz3Sinh1Zzzz12Sinh3Zzzz18Sinh1Zzzz9Sinh1Zzzz1Sinh2Zzzz7Sinh3Zzzz1Sinh4Zzz",
      "z6Sinh1Zzzz1Sinh1Zzzz8Sinh6ZzzzaSinh2Zzzz3SinhcZzzz3aThai4Zzzz1Zyyy1cThai25Zzzz2Laoo1Zzzz1",
      "Laoo1Zzzz5Laoo1Zzzz18Laoo1Zzzz1Laoo1Zzzz17Laoo2Zzzz5Laoo1Zzzz1Laoo1Zzzz7Laoo1ZzzzaLaoo2Zzz",
      "z4Laoo20Zzzz48Tibt1Zzzz24Tibt4Zzzz27Tibt1Zzzz24Tibt1ZzzzfTibt1Zzzz7Tibt4Zyyy2Tibt25Zzzza0M",
      "ymr26Geor1Zzzz1Geor5Zzzz1Geor2Zzzz2bGeor1Zyyy4Geor100Hang49Ethi1Zzzz4Ethi2Zzzz7Ethi1Zzzz1E",
      "thi1Zzzz4Ethi2Zzzz29Ethi1Zzzz4Ethi2Zzzz21Ethi1Zzzz4Ethi2Zzzz7Ethi1Zzzz1Ethi1Zzzz4Ethi2Zzzz",
      "fEthi1Zzzz39Ethi1Zzzz4Ethi2Zzzz43Ethi2Zzzz20Ethi3Zzzz1aEthi6Zzzz56Cher2Zzzz6Cher2Zzzz280Ca",
      "ns1dOgam3Zzzz4bRunr3ZyyybRunr7Zzzz16Tglg9Zzzz1Tglg15Hano2Zyyy9Zzzz14BuhdcZzzzdTagb1Zzzz3Ta",
      "gb1Zzzz2TagbcZzzz5eKhmr2ZzzzaKhmr6ZzzzaKhmr6Zzzz2Mong2Zyyy1Mong1Zyyy14Mong6Zzzz59Mong7Zzzz",
      "2bMong5Zzzz46CansaZzzz1fLimb1ZzzzcLimb4ZzzzcLimb4Zzzz1Limb3ZzzzcLimb1eTale2Zzzz5TalebZzzz2",
      "cTalu4Zzzz1aTalu6ZzzzbTalu3Zzzz2Talu20Khmr1cBugi2Zzzz2Bugi3fLana1Zzzz1dLana2ZzzzbLana6Zzzz",
      "aLana6ZzzzeLana2Zzzz2eZinh2ZzzzcZinh14Zzzz4dBali1Zzzz32Bali40Sund34Batk8Zzzz4Batk38Lepc3Zz",
      "zzfLepc3Zzzz3Lepc30OlckbCyrl5Zzzz2bGeor2Zzzz3Geor8Sund8Zzzz3Zinh1ZyyydZinh1Zyyy7Zinh4Zyyy1",
      "Zinh6Zyyy1Zinh3Zyyy2Zinh1Zyyy5Zzzz26Latn5Grek1Cyrl31Latn5Grek4Latn5GrekdLatn1Cyrl46Latn1Gr",
      "ek40Zinh100Latn16Grek2Zzzz6Grek2Zzzz26Grek2Zzzz6Grek2Zzzz8Grek1Zzzz1Grek1Zzzz1Grek1Zzzz1Gr",
      "ek1Zzzz1fGrek2Zzzz35Grek1ZzzzfGrek1ZzzzeGrek2Zzzz6Grek1Zzzz13Grek2Zzzz3Grek1Zzzz9Grek1Zzzz",
      "cZyyy2Zinh57Zyyy1ZzzzbZyyy1Latn2ZzzzbZyyy1LatnfZyyy1ZzzzdLatn3Zzzz22ZyyyeZzzz21ZinhfZzzz26",
      "Zyyy1Grek3Zyyy2Latn6Zyyy1Latn1bZyyy1Latn11Zyyy29Latn3Zyyy4Zzzz29aZyyy16ZzzzbZyyy15Zzzz3a0Z",
      "yyy100Brai274Zyyy2Zzzz8aZyyy60Glag20Latn74Copt5Zzzz7Copt26Geor1Zzzz1Geor5Zzzz1Geor2Zzzz38T",
      "fng7Zzzz2TfngeZzzz1Tfng17Ethi9Zzzz7Ethi1Zzzz7Ethi1Zzzz7Ethi1Zzzz7Ethi1Zzzz7Ethi1Zzzz7Ethi1",
      "Zzzz7Ethi1Zzzz7Ethi1Zzzz20Cyrl5eZyyy22Zzzz1aHani1Zzzz59HanicZzzzd6Hani1aZzzz15Zyyy1Hani1Zy",
      "yy1Hani19Zyyy9Hani4Zinh2Hang8Zyyy4Hani4Zyyy1Zzzz56Hira2Zzzz2Zinh2Zyyy3Hira1Zyyy5aKana2Zyyy",
      "3Kana5Zzzz2bBopo1Zzzz5eHang1Zzzz10Zyyy20Bopo26Zyyy9Zzzz1Zyyy10Kana1fHang1Zzzz40Zyyy1fHang5",
      "1Zyyy2fKana1Zyyy58Kanaa8Zyyy19c0Hani40Zyyy5200Hani48dYiii3Zzzz37Yiii9Zzzz30Lisu12cVaii14Zz",
      "zz60Cyrl58Bamu8Zzzz22Zyyy66Latn3Zyyy52Latn14ZzzzfLatn2dSylo3ZzzzaZyyy6Zzzz38Phag8Zzzz46Sau",
      "r8ZzzzcSaur6Zzzz20Deva2eKali1Zyyy1Kali24RjngbZzzz1Rjng1dHang3Zzzz4eJava1Zzzz1ZyyyaJava4Zzz",
      "z2Java1fMymr1Zzzz37Cham9ZzzzeCham2ZzzzaCham2Zzzz4Cham20Mymr43Tavt18Zzzz5Tavt17MteiaZzzz6Et",
      "hi2Zzzz6Ethi2Zzzz6Ethi9Zzzz7Ethi1Zzzz7Ethi1Zzzz2bLatn1Zyyy9Latn1Grek4Latn2Zyyy4Zzzz50Cher2",
      "eMtei2ZzzzaMtei6Zzzz2ba4HangcZzzz17Hang4Zzzz31Hang2104Zzzz16eHani2Zzzz6aHani26Zzzz7LatncZz",
      "zz5Armn5Zzzz1aHebr1Zzzz5Hebr1Zzzz1Hebr1Zzzz2Hebr1Zzzz2Hebr1ZzzzaHebr1eeArab2Zyyy90Arab20Zz",
      "zz10Arab10ZinhaZyyy6ZzzzeZinh2Cyrl23Zyyy1Zzzz13Zyyy1Zzzz4Zyyy4Zzzz5Arab1Zzzz87Arab2Zzzz1Zy",
      "yy1Zzzz20Zyyy1aLatn6Zyyy1aLatnbZyyyaKana1Zyyy2dKana2Zyyy1fHang3Zzzz6Hang2Zzzz6Hang2Zzzz6Ha",
      "ng2Zzzz3Hang3Zzzz7Zyyy1Zzzz7ZyyyaZzzz5Zyyy2ZzzzcLinb1Zzzz1aLinb1Zzzz13Linb1Zzzz2Linb1Zzzzf",
      "Linb2ZzzzeLinb22Zzzz7bLinb5Zzzz3Zyyy4Zzzz2dZyyy3Zzzz9Zyyy4fGrek1ZzzzdZyyy3Zzzz1Grek2fZzzz2",
      "dZyyy1Zinh82Zzzz1dLyci3Zzzz31CarifZzzz1Zinh1bZyyy4Zzzz24Ital9Zzzz3Ital1bGoth5Zzzz2bPerm5Zz",
      "zz1eUgar1Zzzz1Ugar24Xpeo4ZzzzeXpeo2aZzzz50Dsrt30Shaw1eOsma2ZzzzaOsma6Zzzz24Osge4Zzzz24Osge",
      "4Zzzz28Elba8Zzzz34AghbbZzzz1AghbbVith1ZzzzfVith1Zzzz7Vith1Zzzz2Vith1ZzzzbVith1ZzzzfVith1Zz",
      "zz7Vith1Zzzz2Vith3Zzzz34TodrcZzzz137Lina9Zzzz16LinaaZzzz8Lina18Zzzz6Latn1Zzzz2aLatn1Zzzz9L",
      "atn45Zzzz6Cprt2Zzzz1Cprt1Zzzz2cCprt1Zzzz2Cprt3Zzzz1Cprt2Zzzz1Cprt16Armi1Zzzz9Armi20Palm1fN",
      "bat8Zzzz9Nbat30Zzzz13Hatr1Zzzz2Hatr5Zzzz5Hatr1cPhnx3Zzzz1Phnx1aLydi5Zzzz1Lydi40Zzzz20Mero1",
      "8Merc4Zzzz14Merc2Zzzz2eMerc4Khar1Zzzz2Khar5Zzzz8Khar1Zzzz3Khar1Zzzz1dKhar2Zzzz3Khar4ZzzzaK",
      "har7Zzzz9Khar7Zzzz20Sarb20Narb20Zzzz27Mani4ZzzzcMani9Zzzz36Avst3Zzzz7Avst16Prti2Zzzz8Prti1",
      "3Phli5Zzzz8Phli12Phlp7Zzzz4PhlpcZzzz7Phlp50Zzzz49Orkh37Zzzz33HungdZzzz33Hung7Zzzz6Hung28Ro",
      "hg8ZzzzaRohg6Zzzz26Gara3Zzzz1dGara8Zzzz2Garad0Zzzz1fArab1Zzzz2aYezi1Zzzz3Yezi2Zzzz2Yezi10Z",
      "zzz6Arab8Zzzz9Arab21Zzzz6Arab28Sogo8Zzzz2aSogd16Zzzz1aOugr26Zzzz1cChrs14Zzzz17Elym9Zzzz4eB",
      "rah4Zzzz24Brah9Zzzz1Brah43KthiaZzzz1Kthi2Zzzz19Sora7ZzzzaSora6Zzzz35Cakm1Zzzz12Cakm8Zzzz27",
      "Mahj9Zzzz60Shrd1Zzzz14SinhbZzzz12Khoj1Zzzz2fKhoj3eZzzz7Mult1Zzzz1Mult1Zzzz4Mult1ZzzzfMult1",
      "ZzzzbMult6Zzzz3bSind5ZzzzaSind6Zzzz4Gran1Zzzz8Gran2Zzzz2Gran2Zzzz16Gran1Zzzz7Gran1Zzzz2Gra",
      "n1Zzzz5Gran1Zzzz1Zinh9Gran2Zzzz2Gran2Zzzz3Gran2Zzzz1Gran6Zzzz1Gran5Zzzz7Gran2Zzzz7Gran3Zzz",
      "z5GranbZzzzaTutg1Zzzz1Tutg2Zzzz1Tutg1Zzzz26Tutg1ZzzzaTutg1Zzzz1Tutg2Zzzz1Tutg1Zzzz4Tutg1Zz",
      "zzaTutg1Zzzz2Tutg8Zzzz2Tutg1dZzzz5cNewa1Zzzz5Newa1eZzzz48Tirh8ZzzzaTirha6Zzzz36Sidd2Zzzz26",
      "Sidd22Zzzz45ModibZzzzaModi6ZzzzdMong13Zzzz3aTakr6ZzzzaTakr6Zzzz14Mymr1cZzzz1bAhom2ZzzzfAho",
      "m4Zzzz17Ahomb9Zzzz3cDogr64Zzzz53WaracZzzz1Wara7Diak2Zzzz1Diak2Zzzz8Diak1Zzzz2Diak1Zzzz1eDi",
      "ak1Zzzz2Diak2ZzzzcDiak9ZzzzaDiak46Zzzz8Nand2Zzzz2eNand2ZzzzbNand1bZzzz48Zanb8Zzzz53SoyodZz",
      "zz10Cans39Pauc7ZzzzaDeva56Zzzz8Shrd58Zzzz22SunueZzzzaSunu6Zzzz9Bhks1Zzzz2dBhks1ZzzzeBhksaZ",
      "zzz1dBhks3Zzzz20Marc2Zzzz16Marc1ZzzzeMarc49Zzzz7Gonm1Zzzz2Gonm1Zzzz2cGonm3Zzzz1Gonm1Zzzz2G",
      "onm1Zzzz9Gonm8ZzzzaGonm6Zzzz6Gong1Zzzz2Gong1Zzzz25Gong1Zzzz2Gong1Zzzz6Gong7ZzzzaGong136Zzz",
      "z19Maka7Zzzz11Kawi1Zzzz29Kawi3Zzzz1dKawi55Zzzz1LisufZzzz32TamldZzzz1Taml39aXsux66Zzzz6fXsu",
      "x1Zzzz5XsuxbZzzzc4Xsuxa4cZzzz63CpmndZzzz456EgypaZzzzf9bEgyp5Zzzz247Hluw1ab9Zzzz3aGukh6c6Zz",
      "zz239Bamu7Zzzz1fMroo1ZzzzaMroo4Zzzz2Mroo4fTnsa1ZzzzaTnsa6Zzzz1eBass2Zzzz6BassaZzzz46HmngaZ",
      "zzzaHmng1Zzzz7Hmng1Zzzz15Hmng5Zzzz13Hmng1b0Zzzz3aKraic6Zzzz5bMedf65Zzzz4bPlrd4Zzzz39Plrd7Z",
      "zzz11Plrd40Zzzz1Tang1Nshu2Hani1KitsbZzzz7Hani9Zzzz1b00Tang1d6Kits29Zzzz1Kits1fTang61Zzzz73",
      "Tang21fdZzzz4Kana1Zzzz7Kana1Zzzz2Kana1Zzzz1Kana11fHira3KanafZzzz1Hira1dZzzz3Hira2Zzzz1Kana",
      "eZzzz4Kana8Zzzz18cNshu904Zzzz6bDupl5ZzzzdDupl3Zzzz9Dupl7ZzzzaDupl2Zzzz4Dupl4Zyyyf5cZzzzfdZ",
      "yyy3Zzzz1b4Zyyy6Zzzz17ZyyyfZzzz11ZyyyfZzzz2eZinh2Zzzz17Zinh9Zzzz74Zyyy3cZzzzf6ZyyyaZzzz27Z",
      "yyy2Zzzz3eZyyy3Zinh11Zyyy8Zinh2Zyyy7Zinh1eZyyy4Zinh3dZyyy15Zzzz46Grek7aZzzz14ZyyycZzzz14Zy",
      "yycZzzz57Zyyy9Zzzz19Zyyy87Zzzz55Zyyy1Zzzz47Zyyy1Zzzz2Zyyy2Zzzz1Zyyy2Zzzz2Zyyy2Zzzz4Zyyy1Zz",
      "zzcZyyy1Zzzz1Zyyy1Zzzz7Zyyy1Zzzz41Zyyy1Zzzz4Zyyy2Zzzz8Zyyy1Zzzz7Zyyy1Zzzz1cZyyy1Zzzz4Zyyy1",
      "Zzzz5Zyyy1Zzzz1Zyyy3Zzzz7Zyyy1Zzzz154Zyyy2Zzzz124Zyyy2Zzzz32Zyyy28cSgnwfZzzz5Sgnw1ZzzzfSgn",
      "w450Zzzz1fLatn6Zzzz6Latnd5Zzzz7Glag1Zzzz11Glag2Zzzz7Glag1Zzzz2Glag1Zzzz5Glag5Zzzz3eCyrl21Z",
      "zzz1Cyrl70Zzzz2dHmnp3ZzzzeHmnp2ZzzzaHmnp4Zzzz2Hmnp140Zzzz1fToto11Zzzz3aWcho5Zzzz1Wcho1d0Zz",
      "zz2aNagmd6Zzzz2bOnao4Zzzz1Onao1e0Zzzz7Ethi1Zzzz4Ethi1Zzzz2Ethi1ZzzzfEthi1Zzzzc5Mend2Zzzz10",
      "Mend29Zzzz4cAdlm4ZzzzaAdlm4Zzzz2Adlm311Zzzz44Zyyy4cZzzz3dZyyyc2Zzzz4Arab1Zzzz1bArab1Zzzz2A",
      "rab1Zzzz1Arab2Zzzz1Arab1ZzzzaArab1Zzzz4Arab1Zzzz1Arab1Zzzz1Arab6Zzzz1Arab4Zzzz1Arab1Zzzz1A",
      "rab1Zzzz1Arab1Zzzz3Arab1Zzzz2Arab1Zzzz1Arab2Zzzz1Arab1Zzzz1Arab1Zzzz1Arab1Zzzz1Arab1Zzzz1A",
      "rab1Zzzz2Arab1Zzzz1Arab2Zzzz4Arab1Zzzz7Arab1Zzzz4Arab1Zzzz4Arab1Zzzz1Arab1ZzzzaArab1Zzzz11",
      "Arab5Zzzz3Arab1Zzzz5Arab1Zzzz11Arab34Zzzz2Arab10eZzzz2cZyyy4Zzzz64ZyyycZzzzfZyyy2ZzzzfZyyy",
      "1ZzzzfZyyy1Zzzz25ZyyyaZzzzaeZyyy38Zzzz1aZyyy1Hira2ZyyydZzzz2cZyyy4Zzzz9Zyyy7Zzzz2ZyyyeZzzz",
      "6Zyyy9aZzzz3d9Zyyy3Zzzz11Zyyy3ZzzzdZyyy3ZzzzdaZyyy6ZzzzcZyyy4Zzzz1ZyyyfZzzzcZyyy4Zzzz38Zyy",
      "y8ZzzzaZyyy6Zzzz28Zyyy8Zzzz1eZyyy2ZzzzcZyyy4Zzzz2ZyyyeZzzz9Zyyy27Zzzz158Zyyy8ZzzzeZyyy2Zzz",
      "zdZyyy3ZzzzbZyyy3Zzzz39Zyyy1Zzzz1Zyyy4Zzzz10Zyyy2ZzzzcZyyy4ZzzzaZyyy7Zzzz93Zyyy1Zzzz67Zyyy",
      "405Zzzza6e0Hani20Zzzz111eHani2Zzzz168eHani2Zzzz1d31HanifZzzz26eHani9a2Zzzz21eHani5e2Zzzz13",
      "4bHani5Zzzz212aHaniacb87Zzzz1Zyyy1eZzzz60Zyyy80Zzzzf0Zinh2fe10Zzzz"])

/-- The script of a character; `Zzzz` if it has none. -/
def of (c : Char) : String := (runAt c.toNat runs).getD "Zzzz"

end Script

end ConsoleSweep
