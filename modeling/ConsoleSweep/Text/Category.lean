import ConsoleSweep.Text.Runs

/-!
# General categories

The property `General_Category` of Unicode 17: each character is a letter, mark, number,
punctuation, symbol, separator or other character of some kind.

* `Category.of`: the category of a character.
* `Category.named`: the categories that a name stands for.
-/

namespace ConsoleSweep

/-- A general category, by its abbreviation. -/
inductive Category where
  | lu | ll | lt | lm | lo
  | mn | mc | me
  | nd | nl | no
  | pc | pd | ps | pe | pi | pf | po
  | sm | sc | sk | so
  | zs | zl | zp
  | cc | cf | cs | co | cn
  deriving DecidableEq, Repr

namespace Category

/-- The categories with their abbreviations and their names. -/
def all : List (Category × String × String) :=
  [(lu, "Lu", "uppercaseletter"), (ll, "Ll", "lowercaseletter"), (lt, "Lt", "titlecaseletter"),
    (lm, "Lm", "modifierletter"), (lo, "Lo", "otherletter"), (mn, "Mn", "nonspacingmark"),
    (mc, "Mc", "spacingmark"), (me, "Me", "enclosingmark"), (nd, "Nd", "decimalnumber"),
    (nl, "Nl", "letternumber"), (no, "No", "othernumber"), (pc, "Pc", "connectorpunctuation"),
    (pd, "Pd", "dashpunctuation"), (ps, "Ps", "openpunctuation"), (pe, "Pe", "closepunctuation"),
    (pi, "Pi", "initialpunctuation"), (pf, "Pf", "finalpunctuation"),
    (po, "Po", "otherpunctuation"), (sm, "Sm", "mathsymbol"), (sc, "Sc", "currencysymbol"),
    (sk, "Sk", "modifiersymbol"), (so, "So", "othersymbol"), (zs, "Zs", "spaceseparator"),
    (zl, "Zl", "lineseparator"), (zp, "Zp", "paragraphseparator"), (cc, "Cc", "control"),
    (cf, "Cf", "format"), (cs, "Cs", "surrogate"), (co, "Co", "privateuse"),
    (cn, "Cn", "unassigned")]

/-- The category of this abbreviation. -/
def ofAbbreviation? (abbreviation : String) : Option Category :=
  (all.find? fun (_, short, _) => short == abbreviation).map (·.1)

/-- The groups of categories, and the further names of single ones. -/
def groups : List (List String × List Category) :=
  [(["l", "letter"], [lu, ll, lt, lm, lo]), (["lc", "casedletter"], [lu, ll, lt]),
    (["m", "mark", "combiningmark"], [mn, mc, me]), (["n", "number"], [nd, nl, no]),
    (["p", "punctuation", "punct"], [pc, pd, ps, pe, pi, pf, po]),
    (["s", "symbol"], [sm, sc, sk, so]), (["z", "separator"], [zs, zl, zp]),
    (["c", "other"], [cc, cf, cs, co, cn]), (["digit"], [nd]), (["cntrl"], [cc])]

/-- The categories that a name stands for. It has small letters only and no separators. -/
def named (name : String) : Option (List Category) :=
  match all.find? fun (_, short, long) => short.toLower == name || long == name with
  | some (category, _) => some [category]
  | none => (groups.find? fun (names, _) => names.contains name).map (·.2)

/-- The code points in runs of one category each. -/
def runs : List (Nat × Category) :=
  (labelledRuns 2
    (String.join [
      "20Cc1Zs3Po1Sc3Po1Ps1Pe1Po1Sm1Po1Pd2PoaNd2Po3Sm2Po1aLu1Ps1Po1Pe1Sk1Pc1Sk1aLl1Ps1Sm1Pe1Sm21C",
      "c1Zs1Po4Sc1So1Po1Sk1So1Lo1Pi1Sm1Cf1So1Sk1So1Sm2No1Sk1Ll2Po1Sk1No1Lo1Pf3No1Po17Lu1Sm7Lu18Ll",
      "1Sm8Ll1Lu1Ll1Lu1Ll1Lu1Ll1Lu1Ll1Lu1Ll1Lu1Ll1Lu1Ll1Lu1Ll1Lu1Ll1Lu1Ll1Lu1Ll1Lu1Ll1Lu1Ll1Lu1Ll",
      "1Lu1Ll1Lu1Ll1Lu1Ll1Lu1Ll1Lu1Ll1Lu1Ll1Lu1Ll1Lu1Ll1Lu1Ll1Lu1Ll1Lu1Ll1Lu1Ll1Lu1Ll1Lu2Ll1Lu1Ll",
      "1Lu1Ll1Lu1Ll1Lu1Ll1Lu1Ll1Lu1Ll1Lu1Ll1Lu2Ll1Lu1Ll1Lu1Ll1Lu1Ll1Lu1Ll1Lu1Ll1Lu1Ll1Lu1Ll1Lu1Ll",
      "1Lu1Ll1Lu1Ll1Lu1Ll1Lu1Ll1Lu1Ll1Lu1Ll1Lu1Ll1Lu1Ll1Lu1Ll1Lu1Ll1Lu1Ll1Lu1Ll1Lu1Ll1Lu1Ll1Lu1Ll",
      "2Lu1Ll1Lu1Ll1Lu3Ll2Lu1Ll1Lu1Ll2Lu1Ll3Lu2Ll4Lu1Ll2Lu1Ll3Lu3Ll2Lu1Ll2Lu1Ll1Lu1Ll1Lu1Ll2Lu1Ll",
      "1Lu2Ll1Lu1Ll2Lu1Ll3Lu1Ll1Lu1Ll2Lu2Ll1Lo1Lu3Ll4Lo1Lu1Lt1Ll1Lu1Lt1Ll1Lu1Lt1Ll1Lu1Ll1Lu1Ll1Lu",
      "1Ll1Lu1Ll1Lu1Ll1Lu1Ll1Lu1Ll1Lu2Ll1Lu1Ll1Lu1Ll1Lu1Ll1Lu1Ll1Lu1Ll1Lu1Ll1Lu1Ll1Lu1Ll1Lu2Ll1Lu",
      "1Lt1Ll1Lu1Ll3Lu1Ll1Lu1Ll1Lu1Ll1Lu1Ll1Lu1Ll1Lu1Ll1Lu1Ll1Lu1Ll1Lu1Ll1Lu1Ll1Lu1Ll1Lu1Ll1Lu1Ll",
      "1Lu1Ll1Lu1Ll1Lu1Ll1Lu1Ll1Lu1Ll1Lu1Ll1Lu1Ll1Lu1Ll1Lu1Ll1Lu1Ll1Lu1Ll1Lu1Ll1Lu1Ll1Lu1Ll1Lu1Ll",
      "1Lu1Ll1Lu7Ll2Lu1Ll2Lu2Ll1Lu1Ll4Lu1Ll1Lu1Ll1Lu1Ll1Lu1Ll1Lu45Ll2Lo1aLl12Lm4SkcLmeSk5Lm7Sk1Lm",
      "1Sk1Lm11Sk70Mn1Lu1Ll1Lu1Ll1Lm1Sk1Lu1Ll2Cn1Lm3Ll1Po1Lu4Cn2Sk1Lu1Po3Lu1Cn1Lu1Cn2Lu1Ll11Lu1Cn",
      "9Lu23Ll1Lu2Ll3Lu3Ll1Lu1Ll1Lu1Ll1Lu1Ll1Lu1Ll1Lu1Ll1Lu1Ll1Lu1Ll1Lu1Ll1Lu1Ll1Lu1Ll1Lu1Ll1Lu5L",
      "l1Lu1Ll1Sm1Lu1Ll2Lu2Ll33Lu30Ll1Lu1Ll1Lu1Ll1Lu1Ll1Lu1Ll1Lu1Ll1Lu1Ll1Lu1Ll1Lu1Ll1Lu1Ll1Lu1Ll",
      "1Lu1Ll1Lu1Ll1Lu1Ll1Lu1Ll1Lu1Ll1Lu1Ll1Lu1Ll1So5Mn2Me1Lu1Ll1Lu1Ll1Lu1Ll1Lu1Ll1Lu1Ll1Lu1Ll1Lu",
      "1Ll1Lu1Ll1Lu1Ll1Lu1Ll1Lu1Ll1Lu1Ll1Lu1Ll1Lu1Ll1Lu1Ll1Lu1Ll1Lu1Ll1Lu1Ll1Lu1Ll1Lu1Ll1Lu1Ll1Lu",
      "1Ll1Lu1Ll1Lu1Ll1Lu1Ll1Lu1Ll1Lu1Ll2Lu1Ll1Lu1Ll1Lu1Ll1Lu1Ll1Lu1Ll1Lu1Ll1Lu2Ll1Lu1Ll1Lu1Ll1Lu",
      "1Ll1Lu1Ll1Lu1Ll1Lu1Ll1Lu1Ll1Lu1Ll1Lu1Ll1Lu1Ll1Lu1Ll1Lu1Ll1Lu1Ll1Lu1Ll1Lu1Ll1Lu1Ll1Lu1Ll1Lu",
      "1Ll1Lu1Ll1Lu1Ll1Lu1Ll1Lu1Ll1Lu1Ll1Lu1Ll1Lu1Ll1Lu1Ll1Lu1Ll1Lu1Ll1Lu1Ll1Lu1Ll1Lu1Ll1Lu1Ll1Lu",
      "1Ll1Lu1Ll1Lu1Ll1Lu1Ll1Lu1Ll1Lu1Ll1Lu1Ll1Lu1Ll1Lu1Ll1Lu1Ll1Lu1Ll1Lu1Ll1Lu1Ll1Lu1Ll1Lu1Ll1Lu",
      "1Ll1Cn26Lu2Cn1Lm6Po29Ll1Po1Pd2Cn2So1Sc1Cn2dMn1Pd1Mn1Po2Mn1Po2Mn1Po1Mn8Cn1bLo4Cn4Lo2PobCn6C",
      "f3Sm2Po1Sc2Po2SobMn1Po1Cf3Po20Lo1LmaLo15MnaNd4Po2Lo1Mn63Lo1Po1Lo7Mn1Cf1So6Mn2Lm2Mn1So4Mn2L",
      "oaNd3Lo2So1LoePo1Cn1Cf1Lo1Mn1eLo1bMn2Cn59LobMn1LoeCnaNd21Lo9Mn2Lm1So3Po1Lm2Cn1Mn2Sc16Lo4Mn",
      "1Lm9Mn1Lm3Mn1Lm5Mn2CnfPo1Cn19Lo3Mn2Cn1Po1CnbLo5Cn18Lo1Sk7Lo2Cf5Cn9Mn29Lo1Lm18Mn1Cf20Mn1Mc3",
      "6Lo1Mn1Mc1Mn1Lo3Mc8Mn4Mc1Mn2Mc1Lo7MnaLo2Mn2PoaNd1Po1LmfLo1Mn2Mc1Cn8Lo2Cn2Lo2Cn16Lo1Cn7Lo1C",
      "n1Lo3Cn4Lo2Cn1Mn1Lo3Mc4Mn2Cn2Mc2Cn2Mc1Mn1Lo8Cn1Mc4Cn2Lo1Cn3Lo2Mn2CnaNd2Lo2Sc6No1So1Sc1Lo1P",
      "o1Mn2Cn2Mn1Mc1Cn6Lo4Cn2Lo2Cn16Lo1Cn7Lo1Cn2Lo1Cn2Lo1Cn2Lo2Cn1Mn1Cn3Mc2Mn4Cn2Mn2Cn3Mn3Cn1Mn7",
      "Cn4Lo1Cn1Lo7CnaNd2Mn3Lo1Mn1PoaCn2Mn1Mc1Cn9Lo1Cn3Lo1Cn16Lo1Cn7Lo1Cn2Lo1Cn5Lo2Cn1Mn1Lo3Mc5Mn",
      "1Cn2Mn1Mc1Cn2Mc1Mn2Cn1LofCn2Lo2Mn2CnaNd1Po1Sc7Cn1Lo6Mn1Cn1Mn2Mc1Cn8Lo2Cn2Lo2Cn16Lo1Cn7Lo1C",
      "n2Lo1Cn5Lo2Cn1Mn1Lo1Mc1Mn1Mc4Mn2Cn2Mc2Cn2Mc1Mn7Cn2Mn1Mc4Cn2Lo1Cn3Lo2Mn2CnaNd1So1Lo6NoaCn1M",
      "n1Lo1Cn6Lo3Cn3Lo1Cn4Lo3Cn2Lo1Cn1Lo1Cn2Lo3Cn2Lo3Cn3Lo3CncLo4Cn2Mc1Mn2Mc3Cn3Mc1Cn3Mc1Mn2Cn1L",
      "o6Cn1MceCnaNd3No6So1Sc1So5Cn1Mn3Mc1Mn8Lo1Cn3Lo1Cn17Lo1Cn10Lo2Cn1Mn1Lo3Mn4Mc1Cn3Mn1Cn4Mn7Cn",
      "2Mn1Cn3Lo1Cn2Lo2Cn2Lo2Mn2CnaNd7Cn1Po7No1So1Lo1Mn2Mc1Po8Lo1Cn3Lo1Cn17Lo1CnaLo1Cn5Lo2Cn1Mn1L",
      "o1Mc1Mn5Mc1Cn1Mn2Mc1Cn2Mc2Mn7Cn2Mc5Cn3Lo1Cn2Lo2Mn2CnaNd1Cn2Lo1MccCn2Mn2Mc9Lo1Cn3Lo1Cn29Lo2",
      "Mn1Lo3Mc4Mn1Cn3Mc1Cn3Mc1Mn1Lo1So4Cn3Lo1Mc7No3Lo2Mn2CnaNd9No1So6Lo1Cn1Mn2Mc1Cn12Lo3Cn18Lo1C",
      "n9Lo1Cn1Lo2Cn7Lo3Cn1Mn4Cn3Mc3Mn1Cn1Mn1Cn8Mc6CnaNd2Cn2Mc1PocCn30Lo1Mn2Lo7Mn4Cn1Sc6Lo1Lm8Mn1",
      "PoaNd2Po25Cn2Lo1Cn1Lo1Cn5Lo1Cn18Lo1Cn1Lo1CnaLo1Mn2Lo9Mn1Lo2Cn5Lo1Cn1Lm1Cn7Mn1CnaNd2Cn4Lo20",
      "Cn1Lo3SofPo1So1Po3So2Mn6SoaNdaNo1So1Mn1So1Mn1So1Mn1Ps1Pe1Ps1Pe2Mc8Lo1Cn24Lo4CneMn1Mc5Mn1Po",
      "2Mn5LobMn1Cn24Mn1Cn8So1Mn6So1Cn2So5Po4So2Po25Cn2bLo2Mc4Mn1Mc6Mn1Mc2Mn2Mc2Mn1LoaNd6Po6Lo2Mc",
      "2Mn4Lo3Mn1Lo3Mc2Lo7Mc3Lo4MndLo1Mn2Mc2Mn6Mc1Mn1Lo1McaNd3Mc1Mn2So26Lu1Cn1Lu5Cn1Lu2Cn2bLl1Po1",
      "Lm3Ll149Lo1Cn4Lo2Cn7Lo1Cn1Lo1Cn4Lo2Cn29Lo1Cn4Lo2Cn21Lo1Cn4Lo2Cn7Lo1Cn1Lo1Cn4Lo2CnfLo1Cn39L",
      "o1Cn4Lo2Cn43Lo2Cn3Mn9Po14No3Cn10LoaSo6Cn56Lu2Cn6Ll2Cn1Pd26cLo1So1Po11Lo1Zs1aLo1Ps1Pe3Cn4bL",
      "o3Po3Nl8Lo7Cn12Lo3Mn1Mc9Cn13Lo2Mn1Mc2Po9Cn12Lo2MncCndLo1Cn3Lo1Cn2MncCn34Lo2Mn1Mc7Mn8Mc1Mn2",
      "McbMn3Po1Lm3Po1Sc1Lo1Mn2CnaNd6CnaNo6Cn6Po1Pd4Po3Mn1Cf1MnaNd6Cn23Lo1Lm35Lo7Cn5Lo2Mn22Lo1Mn1",
      "Lo5Cn46LoaCn1fLo1Cn3Mn4Mc2Mn3Mc4Cn2Mc1Mn6Mc3Mn4Cn1So3Cn2PoaNd1eLo2Cn5LobCn2cLo4Cn1aLo6CnaN",
      "d1No3Cn22So17Lo2Mn2Mc1Mn2Cn2Po35Lo1Mc1Mn1Mc7Mn1Cn1Mn1Mc1Mn2Mc8Mn6McaMn2Cn1MnaNd6CnaNd6Cn7P",
      "o1Lm6Po2CneMn1Me1fMn2CncMn14Cn4Mn1Mc2fLo1Mn1Mc5Mn1Mc1Mn5Mc1Mn2Mc8Lo1Cn2PoaNd7PoaSo9Mn9So3P",
      "o2Mn1Mc1eLo1Mc4Mn2Mc2Mn1Mc3Mn2LoaNd2cLo1Mn1Mc2Mn3Mc1Mn1Mc3Mn2Mc8Cn4Po24Lo8Mc8Mn2Mc2Mn3Cn5P",
      "oaNd3Cn3LoaNd1eLo6Lm2Po9Ll1Lu1Ll5Cn2bLu2Cn3Lu8Po8Cn3Mn1PodMn1Mc7Mn4Lo1Mn6Lo1Mn2Lo1Mc2Mn1Lo",
      "5Cn2cLl3fLmdLl1Lm22Ll25Lm40Mn1Lu1Ll1Lu1Ll1Lu1Ll1Lu1Ll1Lu1Ll1Lu1Ll1Lu1Ll1Lu1Ll1Lu1Ll1Lu1Ll1",
      "Lu1Ll1Lu1Ll1Lu1Ll1Lu1Ll1Lu1Ll1Lu1Ll1Lu1Ll1Lu1Ll1Lu1Ll1Lu1Ll1Lu1Ll1Lu1Ll1Lu1Ll1Lu1Ll1Lu1Ll1",
      "Lu1Ll1Lu1Ll1Lu1Ll1Lu1Ll1Lu1Ll1Lu1Ll1Lu1Ll1Lu1Ll1Lu1Ll1Lu1Ll1Lu1Ll1Lu1Ll1Lu1Ll1Lu1Ll1Lu1Ll1",
      "Lu1Ll1Lu1Ll1Lu1Ll1Lu1Ll1Lu1Ll1Lu1Ll1Lu1Ll1Lu1Ll1Lu1Ll1Lu1Ll1Lu1Ll1Lu1Ll1Lu1Ll1Lu1Ll1Lu1Ll1",
      "Lu1Ll1Lu1Ll1Lu1Ll1Lu1Ll1Lu1Ll1Lu1Ll1Lu1Ll1Lu1Ll1Lu1Ll1Lu1Ll1Lu1Ll1Lu1Ll1Lu1Ll1Lu1Ll1Lu1Ll1",
      "Lu1Ll1Lu1Ll1Lu1Ll1Lu1Ll1Lu9Ll1Lu1Ll1Lu1Ll1Lu1Ll1Lu1Ll1Lu1Ll1Lu1Ll1Lu1Ll1Lu1Ll1Lu1Ll1Lu1Ll1",
      "Lu1Ll1Lu1Ll1Lu1Ll1Lu1Ll1Lu1Ll1Lu1Ll1Lu1Ll1Lu1Ll1Lu1Ll1Lu1Ll1Lu1Ll1Lu1Ll1Lu1Ll1Lu1Ll1Lu1Ll1",
      "Lu1Ll1Lu1Ll1Lu1Ll1Lu1Ll1Lu1Ll1Lu1Ll1Lu1Ll1Lu1Ll1Lu1Ll1Lu1Ll1Lu1Ll1Lu1Ll1Lu1Ll1Lu1Ll1Lu1Ll1",
      "Lu1Ll1Lu1Ll1Lu1Ll1Lu1Ll1Lu1Ll1Lu1Ll1Lu1Ll1Lu1Ll1Lu9Ll8Lu6Ll2Cn6Lu2Cn8Ll8Lu8Ll8Lu6Ll2Cn6Lu2",
      "Cn8Ll1Cn1Lu1Cn1Lu1Cn1Lu1Cn1Lu8Ll8LueLl2Cn8Ll8Lt8Ll8Lt8Ll8Lt5Ll1Cn2Ll4Lu1Lt1Sk1Ll3Sk3Ll1Cn2",
      "Ll4Lu1Lt3Sk4Ll2Cn2Ll4Lu1Cn3Sk8Ll5Lu3Sk2Cn3Ll1Cn2Ll4Lu1Lt2Sk1CnbZs5Cf6Pd2Po1Pi1Pf1Ps2Pi1Pf1",
      "Ps1Pi8Po1Zl1Zp5Cf1Zs9Po1Pi1Pf4Po2Pc3Po1Sm1Ps1PebPo1Sm1Po1PcaPo1Zs5Cf1CnaCf1No1Lm2Cn6No3Sm1",
      "Ps1Pe1LmaNo3Sm1Ps1Pe1CndLm3Cn22SceCndMn4Me1Mn3MecMnfCn2So1Lu4So1Lu2So1Ll3Lu2Ll3Lu1Ll1So1Lu",
      "2So1Sm5Lu6So1Lu1So1Lu1So1Lu1So4Lu1So1Ll4Lu1Ll4Lo1Ll2So2Ll2Lu5Sm1Lu4Ll1So1Sm2So1Ll1So10No23",
      "Nl1Lu1Ll4Nl1No2So4Cn5Sm5So2Sm4So1Sm2So1Sm2So1Sm7So1Sm1fSo2Sm2So1Sm1So1Sm1fSo10cSm8So1Ps1Pe",
      "1Ps1Pe14So2Sm7So1Ps1Pe51So1Sm1eSo19Sm28So6Sm48So16CnbSo15Cn3cNo4eSo16Nob7So1Sm9So1Sm36So8S",
      "m6fSo1Smf8So1Ps1Pe1Ps1Pe1Ps1Pe1Ps1Pe1Ps1Pe1Ps1Pe1Ps1Pe1eNo2cSo5Sm1Ps1Pe1fSm1Ps1Pe1Ps1Pe1Ps",
      "1Pe1Ps1Pe1Ps1Pe10Sm100So83Sm1Ps1Pe1Ps1Pe1Ps1Pe1Ps1Pe1Ps1Pe1Ps1Pe1Ps1Pe1Ps1Pe1Ps1Pe1Ps1Pe1P",
      "s1Pe3fSm1Ps1Pe1Ps1Pe20Sm1Ps1Pe102Sm30So15Sm2So6Sm27So2Cn8aSo30Lu30Ll1Lu1Ll3Lu2Ll1Lu1Ll1Lu1",
      "Ll1Lu1Ll4Lu1Ll1Lu2Ll1Lu6Ll2Lm3Lu1Ll1Lu1Ll1Lu1Ll1Lu1Ll1Lu1Ll1Lu1Ll1Lu1Ll1Lu1Ll1Lu1Ll1Lu1Ll1",
      "Lu1Ll1Lu1Ll1Lu1Ll1Lu1Ll1Lu1Ll1Lu1Ll1Lu1Ll1Lu1Ll1Lu1Ll1Lu1Ll1Lu1Ll1Lu1Ll1Lu1Ll1Lu1Ll1Lu1Ll1",
      "Lu1Ll1Lu1Ll1Lu1Ll1Lu1Ll1Lu1Ll1Lu1Ll1Lu1Ll1Lu1Ll1Lu1Ll1Lu1Ll1Lu1Ll1Lu1Ll1Lu1Ll1Lu1Ll1Lu1Ll1",
      "Lu1Ll1Lu1Ll1Lu1Ll1Lu1Ll1Lu1Ll1Lu1Ll1Lu1Ll1Lu1Ll1Lu1Ll1Lu2Ll6So1Lu1Ll1Lu1Ll3Mn1Lu1Ll5Cn4Po1",
      "No2Po26Ll1Cn1Ll5Cn1Ll2Cn38Lo7Cn1Lm1PoeCn1Mn17Lo9Cn7Lo1Cn7Lo1Cn7Lo1Cn7Lo1Cn7Lo1Cn7Lo1Cn7Lo1",
      "Cn7Lo1Cn20Mn2Po1Pi1Pf1Pi1Pf3Po1Pi1Pf1Po1Pi1Pf9Po1Pd2Po1Pd1Po1Pi1Pf2Po1Pi1Pf1Ps1Pe1Ps1Pe1Ps",
      "1Pe1Ps1Pe5Po1LmaPo2Pd4Po1Pd1Po1PsdPo2So3Po1Ps1Pe1Ps1Pe1Ps1Pe1Ps1Pe1Pd22Cn1aSo1Cn59SocCnd6S",
      "o1aCn10So1Zs3Po1So1Lm1Lo1Nl1Ps1Pe1Ps1Pe1Ps1Pe1Ps1Pe1Ps1Pe2So1Ps1Pe1Ps1Pe1Ps1Pe1Ps1Pe1Pd1Ps",
      "2Pe1So9Nl4Mn2Mc1Pd5Lm2So3Nl1Lm1Lo1Po2So1Cn56Lo2Cn2Mn2Sk2Lm1Lo1Pd5aLo1Po3Lm1Lo5Cn2bLo1Cn5eL",
      "o1Cn2So4NoaSo20Lo26So9Cn1So10Lo1fSo1CnaNo1eSo8No1SofNo20SoaNo27SofNo140So19c0Lo40So5215Lo1",
      "Lm477Lo3Cn37So9Cn28Lo6Lm2Po10cLo1Lm3Po10LoaNd2Lo14Cn1Lu1Ll1Lu1Ll1Lu1Ll1Lu1Ll1Lu1Ll1Lu1Ll1L",
      "u1Ll1Lu1Ll1Lu1Ll1Lu1Ll1Lu1Ll1Lu1Ll1Lu1Ll1Lu1Ll1Lu1Ll1Lu1Ll1Lu1Ll1Lu1Ll1Lu1Ll1Lu1Ll1Lu1Ll1L",
      "u1Ll1Lu1Ll1Lo1Mn3Me1PoaMn1Po1Lm1Lu1Ll1Lu1Ll1Lu1Ll1Lu1Ll1Lu1Ll1Lu1Ll1Lu1Ll1Lu1Ll1Lu1Ll1Lu1L",
      "l1Lu1Ll1Lu1Ll1Lu1Ll1Lu1Ll2Lm2Mn46LoaNl2Mn6Po8Cn17Sk9Lm2Sk1Lu1Ll1Lu1Ll1Lu1Ll1Lu1Ll1Lu1Ll1Lu",
      "1Ll1Lu3Ll1Lu1Ll1Lu1Ll1Lu1Ll1Lu1Ll1Lu1Ll1Lu1Ll1Lu1Ll1Lu1Ll1Lu1Ll1Lu1Ll1Lu1Ll1Lu1Ll1Lu1Ll1Lu",
      "1Ll1Lu1Ll1Lu1Ll1Lu1Ll1Lu1Ll1Lu1Ll1Lu1Ll1Lu1Ll1Lu1Ll1Lu1Ll1Lu1Ll1Lu1Ll1Lu1Ll1Lu1Ll1Lu1Ll1Lu",
      "1Ll1Lu1Ll1Lu1Ll1Lm8Ll1Lu1Ll1Lu1Ll2Lu1Ll1Lu1Ll1Lu1Ll1Lu1Ll1Lu1Ll1Lm2Sk1Lu1Ll1Lu1Ll1Lo1Lu1Ll",
      "1Lu3Ll1Lu1Ll1Lu1Ll1Lu1Ll1Lu1Ll1Lu1Ll1Lu1Ll1Lu1Ll1Lu1Ll1Lu1Ll1Lu1Ll5Lu1Ll5Lu1Ll1Lu1Ll1Lu1Ll",
      "1Lu1Ll1Lu1Ll1Lu1Ll1Lu1Ll1Lu1Ll4Lu1Ll1Lu1Ll2Lu1Ll1Lu1Ll1Lu1Ll1Lu1Ll1Lu1Ll1Lu1Ll1Lu1Ll1Lu1Ll",
      "1Lu14Cn4Lm1Lu1Ll1Lo2Lm1Ll7Lo1Mn3Lo1Mn4Lo1Mn17Lo2Mc2Mn1Mc4So1Mn3Cn6No2So1Sc1So6Cn34Lo4Po8Cn",
      "2Mc32Lo10Mc2Mn8Cn2PoaNd6Cn12Mn6Lo3Po1Lo1Po2Lo1MnaNd1cLo8Mn2Po17LobMn2McbCn1Po1dLo3Cn3Mn1Mc",
      "2fLo1Mn2Mc4Mn2Mc2Mn3McdPo1Cn1LmaNd4Cn2Po5Lo1Mn1Lm9LoaNd5Lo1Cn29Lo6Mn2Mc2Mn2Mc2Mn9Cn3Lo1Mn8",
      "Lo1Mn1Mc2CnaNd2Cn4Po10Lo1Lm6Lo3So1Lo1Mc1Mn1Mc32Lo1Mn1Lo3Mn2Lo2Mn5Lo2Mn1Lo1Mn1Lo18Cn2Lo1Lm2",
      "PobLo1Mc2Mn2Mc2Po1Lo2Lm1Mc1MnaCn6Lo2Cn6Lo2Cn6Lo9Cn7Lo1Cn7Lo1Cn2bLl1Sk4Lm9Ll1Lm2Sk4Cn50Ll23",
      "Lo2Mc1Mn2Mc1Mn2Mc1Po1Mc1Mn2CnaNd6Cn2ba4LocCn17Lo4Cn31Lo4Cn800Cs1900Co16eLo2Cn6aLo26Cn7LlcC",
      "n5Ll5Cn1Lo1MnaLo1SmdLo1Cn5Lo1Cn1Lo1Cn2Lo1Cn2Lo1Cn6cLo11Sk10So16bLo1Pe1Ps10So40Lo2So36Lo8So",
      "20CncLo1Sc3So10Mn7Po1Ps1Pe1Po6Cn10Mn1Po2Pd2Pc1Ps1Pe1Ps1Pe1Ps1Pe1Ps1Pe1Ps1Pe1Ps1Pe1Ps1Pe1Ps",
      "1Pe2Po1Ps1Pe4Po3Pc3Po1Cn4Po1Pd1Ps1Pe1Ps1Pe1Ps1Pe3Po1Sm1Pd3Sm1Cn1Po1Sc2Po4Cn5Lo1Cn87Lo2Cn1C",
      "f1Cn3Po1Sc3Po1Ps1Pe1Po1Sm1Po1Pd2PoaNd2Po3Sm2Po1aLu1Ps1Po1Pe1Sk1Pc1Sk1aLl1Ps1Sm1Pe1Sm1Ps1Pe",
      "1Po1Ps1Pe2PoaLo1Lm2dLo2Lm1fLo3Cn6Lo2Cn6Lo2Cn6Lo2Cn3Lo3Cn2Sc1Sm1Sk1So2Sc1Cn1So4Sm2SoaCn3Cf2",
      "So2CncLo1Cn1aLo1Cn13Lo1Cn2Lo1CnfLo2CneLo22Cn7bLo5Cn3Po4Cn2dNo3Cn9So35Nl4No11So2No3So1CndSo",
      "3Cn1So2fCn2dSo1Mn82Cn1dLo3Cn31LofCn1Mn1bNo4Cn20Lo4No9Cn14Lo1Nl8Lo1Nl5Cn26Lo5Mn5Cn1eLo1Cn1P",
      "o24Lo4Cn8Lo1Po5Nl2aCn28Lu28Ll4eLo2CnaNd6Cn24Lu4Cn24Ll4Cn28Lo8Cn34LobCn1PobLu1CnfLu1Cn7Lu1C",
      "n2Lu1CnbLl1CnfLl1Cn7Ll1Cn2Ll3Cn34LocCn137Lo9Cn16LoaCn8Lo18Cn6Lm1Cn2aLm1Cn9Lm45Cn6Lo2Cn1Lo1",
      "Cn2cLo1Cn2Lo3Cn1Lo2Cn17Lo1Cn1Po8No17Lo2So7No1fLo8Cn9No30Cn13Lo1Cn2Lo5Cn5No16Lo6No3Cn1Po1aL",
      "o5Cn1Po1aLo26Cn38Lo4Cn2No2Lo10No2Cn2eNo1Lo3Mn1Cn2Mn5Cn4Mn4Lo1Cn3Lo1Cn1dLo2Cn3Mn4Cn1Mn9No7C",
      "n9Po7Cn1dLo2No1Po1dLo3No20Cn8Lo1So1cLo2Mn4Cn5No7Po9Cn36Lo3Cn7Po16Lo2Cn8No13Lo5Cn8No12Lo7Cn",
      "4PocCn7No50Cn49Lo37Cn33LudCn33Ll7Cn6No24Lo4Mn8CnaNd6CnaNd4Lo1Lm1Lo16Lu3Cn5Mn1Pd1Lm16Ll8Cn2",
      "Smd0Cn1fNo1Cn2aLo1Cn2Mn1Pd2Cn2Lo10Cn3Lo1Lm2Lo8Cn1Po8So21Cn6Mn1dLoaNo1Lo8Cn16LobMn4No5Po16C",
      "n12Lo4Mn4Po26Cn15Lo7No14Cn17Lo9Cn1Mc1Mn1Mc35LofMn7Po4Cn14NoaNd1Mn2Lo2Mn1Lo9Cn3Mn1Mc2dLo3Mc",
      "4Mn2Mc2Mn2Po1Cf4Po1MnaCn1Cf2Cn19Lo7CnaNd6Cn3Mn24Lo5Mn1Mc8Mn1CnaNd4Po1Lo2Mc1Lo8Cn23Lo1Mn2Po",
      "1Lo9Cn2Mn1Mc30Lo3Mc9Mn2Mc4Lo4Po4Mn1Po1Mc1MnaNd1Lo1Po1Lo3Po1Cn14NobCn12Lo1Cn19Lo3Mc3Mn2Mc1M",
      "n1Mc2Mn6Po1Mn2Lo1Mn3eCn7Lo1Cn1Lo1Cn4Lo1CnfLo1CnaLo1Po6Cn2fLo1Mn3Mc8Mn5CnaNd6Cn2Mn2Mc1Cn8Lo",
      "2Cn2Lo2Cn16Lo1Cn7Lo1Cn2Lo1Cn5Lo1Cn2Mn1Lo2Mc1Mn4Mc2Cn2Mc2Cn3Mc2Cn1Lo6Cn1Mc5Cn5Lo2Mc2Cn7Mn3C",
      "n5MnbCnaLo1Cn1Lo2Cn1Lo1Cn26Lo1Cn1Lo3Mc6Mn1Cn1Mc2Cn1Mc1Cn4Mc1Cn2Mc1Mn1Mc1Mn1Lo1Mn1Lo2Po1Cn2",
      "Po8Cn2Mn1dCn35Lo3Mc8Mn2Mc3Mn1Mc1Mn4Lo5PoaNd2Po1Cn1Po1Mn3Lo1eCn30Lo3Mc6Mn1Mc1Mn4Mc2Mn1Mc2Mn",
      "2Lo1Po1Lo8CnaNda6Cn2fLo3Mc4Mn2Cn4Mc2Mn1Mc2Mn17Po4Lo2Mn22Cn30Lo3Mc8Mn2Mc1Mn1Mc2Mn3Po1LobCna",
      "Nd6CndPo13Cn2bLo1Mn1Mc1Mn2Mc6Mn1Mc1Mn1Lo1Po6CnaNd6Cn14Nd1cCn1bLo2Cn1Mn1Mc1Mn2Mc4Mn1Mc5Mn4C",
      "naNd2No3Po1So7Lob9Cn2cLo3Mc9Mn1Mc2Mn1Po64Cn20Lu20LlaNd9NocCn8Lo2Cn1Lo2Cn8Lo1Cn2Lo1Cn18Lo6M",
      "c1Cn2Mc2Cn2Mn1Mc1Mn1Lo1Mc1Lo1Mc1Mn3Po9CnaNd46Cn8Lo2Cn27Lo3Mc4Mn2Cn2Mn4Mc1Mn1Lo1Po1Lo1Mc1bC",
      "n1LoaMn28Lo6Mn1Mc1Lo4Mn8Po1Mn8Cn1Lo6Mn2Mc3Mn2eLodMn1Mc2Mn3Po1Lo5PodCn49Lo7CnaPo56Cn1Mn1Mc3",
      "Mn1Mc1Mn1Mc58Cn21Lo1PoeCnaNd6Cn9Lo1Cn25Lo1Mc7Mn1Cn6Mn1Mc1Mn1Lo5PoaCnaNd13No3Cn2Po1eLo2Cn16",
      "Mn1Cn1Mc7Mn1Mc2Mn1Mc2Mn49Cn7Lo1Cn2Lo1Cn26Lo6Mn3Cn1Mn1Cn2Mn1Cn7Mn1Lo1Mn8CnaNd6Cn6Lo1Cn2Lo1C",
      "n20Lo5Mc1Cn2Mn1Cn2Mc1Mn1Mc1Mn1Lo7CnaNd6Cn29Lo1Lm2Lo4CnaNdf6Cn13Lo2Mn2Mc2Po7Cn2Mn1Lo1McdLo1",
      "Cn22Lo2Mc5Mn3Cn2Mc1Mn1Mc1MndPoaNd1Mn55Cn1LofCn15No8So4Sc11SodCn1Po39aLo66Cn6fNl1Cn5PobCnc4",
      "Loa4cCn61Lo2PodCn430Lo10Cf1Mn6LofMnaCnf9bLo5Cn247Lo1ab9Cn1eLocMn3Mc3MnaNd6c6Cn239Lo7Cn1fLo",
      "1CnaNd4Cn2Po4fLo1CnaNd6Cn1eLo2Cn5Mn1PoaCn30Lo7Mn5Po4So4Lm1Po1SoaCnaNd1Cn7No1Cn15Lo5Cn13Lo1",
      "b0Cn3Lm28Lo2Lm3PoaNdc6Cn20Lu20Ll17No4Po5Cn19Lu2Cn19Ll2cCn4bLo4Cn1Mn1Lo37Mc7Cn4MndLm40Cn2Lm",
      "1Po1Lm1MnbCn2Mc2Lm3Nl9Cn1cd6Lo29Cn20Lo61Cn73Lo21fdCn4Lm1Cn7Lm1Cn2Lm1Cn123LofCn1Lo1dCn3Lo2C",
      "n1LoeCn4Lo8Cn18cLo904Cn6bLo5CndLo3Cn9Lo7CnaLo2Cn1So2Mn1Po4Cff5cCnf0SoaNd3So3Cn1b4So6Cn17So",
      "fCn10So1SmfCn2eMn2Cn17Mn9Cn74So3cCnf6SoaCn27So2Cn3cSo2Mc3Mn3So6Mc8Cf8Mn2So7Mn1eSo4Mn3dSo15",
      "Cn42So3Mn1So7aCn14NocCn14NocCn57So9Cn19No87Cn1aLu1aLl1aLu7Ll1Cn12Ll1aLu1aLl1Lu1Cn2Lu2Cn1Lu",
      "2Cn2Lu2Cn4Lu1Cn8Lu4Ll1Cn1Ll1Cn7Ll1CnbLl1aLu1aLl2Lu1Cn4Lu2Cn8Lu1Cn7Lu1Cn1aLl2Lu1Cn4Lu1Cn5Lu",
      "1Cn1Lu3Cn7Lu1Cn1aLl1aLu1aLl1aLu1aLl1aLu1aLl1aLu1aLl1aLu1aLl1aLu1cLl2Cn19Lu1Sm19Ll1Sm6Ll19L",
      "u1Sm19Ll1Sm6Ll19Lu1Sm19Ll1Sm6Ll19Lu1Sm19Ll1Sm6Ll19Lu1Sm19Ll1Sm6Ll1Lu1Ll2Cn32Nd200So37Mn4So",
      "32Mn8So1MneSo1Mn2So5PofCn5Mn1CnfMn450CnaLl1Lo14Ll6Cn6Lld5Cn7Mn1Cn11Mn2Cn7Mn1Cn2Mn1Cn5Mn5Cn",
      "3eLm21Cn1Mn70Cn2dLo3Cn7Mn7Lm2CnaNd4Cn1Lo1So140Cn1eLo1Mn11Cn2cLo4MnaNd5Cn1Sc1d0Cn1bLo1Lm4Mn",
      "aNdd6Cn1eLo2Mn1LoaNd4Cn1Poc0Cn1fLo1Cn3Lo1Mn2Lo1Mn7Lo2Mn5Lo1Mn8Cn1Lo1Lme0Cn7Lo1Cn4Lo1Cn2Lo1",
      "CnfLo1Cnc5Lo2Cn9No7Mn29Cn22Lu22Ll7Mn1Lm4CnaNd4Cn2Po311Cn3bNo1So3No1Sc4No4cCn2dNo1SofNoc2Cn",
      "4Lo1Cn1bLo1Cn2Lo1Cn1Lo2Cn1Lo1CnaLo1Cn4Lo1Cn1Lo1Cn1Lo6Cn1Lo4Cn1Lo1Cn1Lo1Cn1Lo1Cn3Lo1Cn2Lo1C",
      "n1Lo2Cn1Lo1Cn1Lo1Cn1Lo1Cn1Lo1Cn1Lo1Cn2Lo1Cn1Lo2Cn4Lo1Cn7Lo1Cn4Lo1Cn4Lo1Cn1Lo1CnaLo1Cn11Lo5",
      "Cn3Lo1Cn5Lo1Cn11Lo34Cn2Sm10eCn2cSo4Cn64SocCnfSo2CnfSo1CnfSo1Cn25SoaCndNoa1So38Cn1dSodCn2cS",
      "o4Cn9So7Cn2SoeCn6So9aCnfbSo5Sk2d9So3Cn11So3CndSo3CndaSo6CncSo4Cn1SofCncSo4Cn38So8CnaSo6Cn2",
      "8So8Cn1eSo2CncSo4Cn2SoeCn9Sm27Cn158So8CneSo2CndSo3CnbSo3Cn39So1Cn1So4Cn10So2CncSo4CnaSo7Cn",
      "93So1Cn5cSoaNd1So405Cna6e0Lo20Cn111eLo2Cn168eLo2Cn1d31LofCn26eLo9a2Cn21eLo5e2Cn134bLo5Cn21",
      "2aLoacb87Cn1Cf1eCn60Cf80Cnf0Mnfe10CnfffeCo2CnfffeCo2Cn"])).map
    fun (length, label) => (length, (ofAbbreviation? label).getD cn)

/-- The category of a character. -/
def of (c : Char) : Category := (runAt c.toNat runs).getD cn

end Category

end ConsoleSweep
