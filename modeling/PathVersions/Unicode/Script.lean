import PathVersions.Unicode.CharClass

/-!
# Scripts

The script of every character, by four-letter script code, and the names under which a
script can be asked for. Unassigned characters have no script here.
-/

namespace PathVersions
namespace Unicode
namespace Script

/-- Each script code with its ranges, written as `CodeRange.decode` reads them. -/
def tables : List (String × String) :=
  [("Adlm", "hdeUcXEJEB"),
   ("Aghb", "duxSbZLA"),
   ("Ahom", "ebrCbACOEW"),
   ("Arab", "chCEBFBNBCBbFBJLZBeDBbHdCbVjGbEBBFcWBbCdntWeKQnYCdBCcBHAbGPeIEBfEfvNbEcPCcDDdglSDBbABBBACAB
     JBDBABAGAEABABABCBBBACABABABABABBBACDBGBDBDBABJBQFCBEBQcAB"),
   ("Armi", "dwbWVBI"),
   ("Armn", "bzDbLCbXCCdozJE"),
   ("Avst", "dxcYcBDG"),
   ("Bali", "kfWcYBbX"),
   ("Bamu", "clcQdJcvcQvW"),
   ("Bass", "fhkIbDCF"),
   ("Batk", "knGbZID"),
   ("Beng", "dpODBHCBCVBGBADDCICBCDIAEBBECY"),
   ("Bhks", "edoIIBbSBNKbC"),
   ("Bopo", "bcSBrlXbQeIbF"),
   ("Brah", "dzaEcZEbJJA"),
   ("Brai", "pdWjV"),
   ("Bugi", "jwAbBCB"),
   ("Buhd", "iuYT"),
   ("Cakm", "dzkAcABR"),
   ("Cans", "hoYyPvOcRdtpQP"),
   ("Cari", "dtyMbW"),
   ("Cham", "cmjWcCJNCJCD"),
   ("Cher", "hlGdHCFcfjEdB"),
   ("Chrs", "dyxCbB"),
   ("Copt", "bmGNpjKeLFG"),
   ("Cpmn", "ekyYdU"),
   ("Cprt", "dvzKFCABbRBBDACA"),
   ("Cyrl", "bnKfCCgMivOKgEAcYAgfNbFbtoAdRbheCBdhpGcJbHA"),
   ("Deva", "dkQdCEOCZcijGbFbreMJ"),
   ("Diak", "eckUGCACHBBBbDBBCLJJ"),
   ("Dogr", "ecaYcH"),
   ("Dsrt", "dumAdB"),
   ("Dupl", "gmdSeCFMDIHJCD"),
   ("Egyp", "eldGbqRKfxQ"),
   ("Elba", "duvWbN"),
   ("Elym", "dyyYW"),
   ("Ethi", "gvGcUBDCGBABDCbOBDCbGBDCGBABDCOBcEBDCcOCbFDZjvAWJGBGBGBGBGBGBGBGbvkCFCFCFJGBGepyFGBDBBBO"),
   ("Gara", "dxzCbLDbCIB"),
   ("Geor", "ghSbLBAFACbQBDejWbQCCgeAbLBAFA"),
   ("Glag", "qrGdRgizGGBQCGBBBE"),
   ("Gong", "eebWFBBBbKBBBFHJ"),
   ("Gonm", "edyEGBBBbRDABBBIIJ"),
   ("Goth", "dueAbA"),
   ("Gran", "eadSDBHCBCVBGBBBECICBCCCAGAFGCGDE"),
   ("Grek", "bhWDBCCDBAEABABCBABTBcKOPjnQEbYEEEdGAmIVCFCbLCFCHBABABABbECcABOBNCFBSCCBIlJAcajEAbgnIdARAda
     xRcR"),
   ("Gujr", "dzLCBIBCBVBGBBBECJBCBCCAPDCLHG"),
   ("Gukh", "fdrScF"),
   ("Guru", "duNCBFEBCVBGBBBBBBCABEEBCCDAHDBAHQ"),
   ("Hang", "glKjVllEBjXdPeJbEcNbEbtaNbCyTqnRMWEbWpaIbEDFCFCFCC"),
   ("Hani", "rpWZBdKMiFbVABAZIODblCjtNcMbfbJbhsIoBCeBbsiIBMBccoKclfBbGgdTGiNCinPOlbKPxXdqWuVcfYhhYFgfF"),
   ("Hano", "itSU"),
   ("Hatr", "dwiASBBFE"),
   ("Hebr", "ccVcCIbAEFdovWZBEBABBBBBJ"),
   ("Hira", "shDdHGCfpeVlASAbDCymVA"),
   ("Hluw", "essEwK"),
   ("Hmng", "fhmEcRKJBGBUFS"),
   ("Hmnp", "haeAbSDNCJEB"),
   ("Hung", "dxrSbYNbYHF"),
   ("Ital", "ducEbJJC"),
   ("Java", "cmeYcZCJEB"),
   ("Kali", "cmaAbTBA"),
   ("Kana", "skVdLCCjGPiAbUBdJczhEJBbScouCDBGBBBAlBCbYAOD"),
   ("Kawi", "eerWQBbODbC"),
   ("Khar", "dwtCDBBFHBCBbCCCEJHI"),
   ("Khmr", "ixKdPCJGJsSbF"),
   ("Khoj", "dztWRBbU"),
   ("Kits", "fjiIAkgXsBbPA"),
   ("Knda", "etCMBCBWBJBECIBCBDHBGBBDCJBC"),
   ("Krai", "fiiIcF"),
   ("Kthi", "dzfCcOKA"),
   ("Lana", "jxGcKBbCCKGJGN"),
   ("Laoo", "fmVBBABEBXBABWCEBABGBJCD"),
   ("Latn", "cNZGZbVAPAFWBbEBrGbNEjxBbLGbWFDFMBcRcNjVoFANAQMfLBGAbBARbOecTbFbulMdXDcOCBBABHVNbfKbQBIBDbe
     dQGboKZGZdcFFBbPBIddnPbEGF"),
   ("Lepc", "kpScDDODC"),
   ("Limb", "jmEbEBLELEADL"),
   ("Lina", "dvfSlYJVKH"),
   ("Linb", "dsyQLBZBSBBBOCNbIeS"),
   ("Lisu", "ckkUbVbumAA"),
   ("Lyci", "dtxGbC"),
   ("Lydi", "dwkMZFA"),
   ("Mahj", "dznCbM"),
   ("Maka", "eeqQY"),
   ("Mand", "ddGbBCA"),
   ("Mani", "dxaMbMEL"),
   ("Marc", "edsQbFCVBN"),
   ("Medf", "fisEdM"),
   ("Mend", "hcuYhOCP"),
   ("Merc", "dwpKXETCbT"),
   ("Mero", "dwoEbF"),
   ("Mlym", "eyAMBCBbYBCBFEPCZ"),
   ("Modi", "ebhGcQLJ"),
   ("Mong", "jcIBCABTGdKHbQdscBM"),
   ("Mroo", "fheUbEBJEB"),
   ("Mtei", "cmsMWhTbTCJ"),
   ("Mult", "dzyUGBABDBOBK"),
   ("Mymr", "gbOgDcgaYbEdTbFbpaMT"),
   ("Nagm", "hbpObP"),
   ("Nand", "ecqYHCbTCK"),
   ("Narb", "dwyAbF"),
   ("Nbat", "dweIbEII"),
   ("Newa", "eanOdNBE"),
   ("Nkoo", "cyIcGCC"),
   ("Nshu", "fjiFAyvMpF"),
   ("Ogam", "inObC"),
   ("Olck", "ksUbV"),
   ("Onao", "hbzKbQEA"),
   ("Orkh", "dxmUcU"),
   ("Orya", "eeJCBHCBCVBGBBBECICBCCHCEBBECR"),
   ("Osge", "dusUbJEbJ"),
   ("Osma", "duqYbDCJ"),
   ("Ougr", "dyuQZ"),
   ("Palm", "dwdCbF"),
   ("Pauc", "edcAcE"),
   ("Perm", "dufGbQ"),
   ("Phag", "clsQcD"),
   ("Phli", "dxgQSFH"),
   ("Phlp", "dxhWRHDMG"),
   ("Phnx", "dwjGbBDA"),
   ("Plrd", "fizOcWEcEHQ"),
   ("Prti", "dxfKVCH"),
   ("Rjng", "cmbWbJLA"),
   ("Rohg", "dxwQbNIJ"),
   ("Runr", "ioUcWDK"),
   ("Samr", "daUbTCO"),
   ("Sarb", "dwwUbF"),
   ("Saur", "clvCcRIL"),
   ("Sgnw", "gwtKzBPEBO"),
   ("Shaw", "dupCbV"),
   ("Shrd", "dzoYdR"),
   ("Sidd", "ebcIcBCbL"),
   ("Sind", "eaaQcGFJ"),
   ("Sinh", "fcZCBRDXBIBACGDAEFBABHGJCCdulGT"),
   ("Sogd", "dysEbP"),
   ("Sogo", "dyqIbN"),
   ("Sora", "dziEYHJ"),
   ("Soyo", "ecxSdE"),
   ("Sund", "kkUcLjWH"),
   ("Sunu", "edlWbHOJ"),
   ("Sylo", "clqEbS"),
   ("Syrc", "cqYNBcHCCkMK"),
   ("Tagb", "iwEMBCBB"),
   ("Takr", "ebmEcFGJ"),
   ("Tale", "jpGbDCE"),
   ("Talu", "jrCbREZGKDB"),
   ("Taml", "ejIBBFDCBDDBBABBDBDCDLEEDCBDCAGAOUealHbXNA"),
   ("Tang", "fjiEAbFjbZIbdNtSI"),
   ("Tavt", "cmoUcOYE"),
   ("Telu", "eoEMBCBWBPCIBCBDHBBCCACDCJHI"),
   ("Tfng", "rcYcDHBOA"),
   ("Tglg", "isMVJA"),
   ("Thaa", "cvWbX"),
   ("Thai", "fhXcFFbB"),
   ("Tibt", "frScTBbJEbMBbJBOBGEB"),
   ("Tirh", "easMcTIJ"),
   ("Tnsa", "fhgQdABJ"),
   ("Todr", "dvdGbZ"),
   ("Toto", "hatKbE"),
   ("Tutg", "eaiQJBACABbLBJBACABDBJBBIB"),
   ("Ugar", "duhCbDBA"),
   ("Vaii", "ckmQlN"),
   ("Vith", "dvaEKBOBGBBBKBOBGBB"),
   ("Wara", "echCdEMA"),
   ("Wcho", "havGcFFA"),
   ("Xpeo", "duiIbJEN"),
   ("Xsux", "efbSbjLdYeGBELhN"),
   ("Yezi", "dylKbPBCCB"),
   ("Yiii", "cipKbsUDcC"),
   ("Zanb", "ecuQcT"),
   ("Zinh", "bdOeHkRBrKKbAAbcIDgoXbEtTCBMBGEAGADBhQcLuEBhMbGftXDeDBczuJPQNblNAiSAgfAActcUbTCWuYCRHCGbEDb
     tlhIjF"),
   ("Zyyy", "AcMbAFbAbUBOBEXAbFArHbMFECTeMAJAGABAyNAGAOADAbGAgAAtWAeZBbvTApPDlEAcgLCcTBhVBBAbvHANAHDBFBC
     CAbdTLCdIBKDKBORbGcLbLBCCFBbABQbPCEzPWKVbjRjWyDCbFBeAtSdPpMUBABYPHEDdNBDAdMBfRPbGbLJAbWcLbF
     dCbVAdKgLjtOcLbhsIbHdYCgJJjKAgEApFAOBbezQBiAJWbIBSBDfRABbFbAFbAKKAbTBcMGBGKEjYCEbSDIdCMbZbS
     iUbAcshWDfvGjPGqTgAeLcIjLKbMCcJDQIBHbDEcIiFTMTMdIJYfFdGBcSBBCACBCDBLBABGBcMBDCHBGBbBBDBEBAD
     GBnBClFCbXhtHcPcYcIbbEbREdVMOCOBOBbKKgRcEZBBNbREIHBOFfYblVEQDMDeOEdQGLEAPLEcDIJGbNIbDCLEBcK
     nBMNCMDJFcDHOCKGIHfQBdXbsuxBAbEdR")]

/-- Every loosely matched name of a script, with its code. -/
def aliases : List (String × String) :=
  [("adlam", "Adlm"), ("adlm", "Adlm"), ("aghb", "Aghb"), ("ahom", "Ahom"),
   ("anatolianhieroglyphs", "Hluw"), ("arab", "Arab"), ("arabic", "Arab"), ("armenian", "Armn"),
   ("armi", "Armi"), ("armn", "Armn"), ("avestan", "Avst"), ("avst", "Avst"), ("bali", "Bali"),
   ("balinese", "Bali"), ("bamu", "Bamu"), ("bamum", "Bamu"), ("bass", "Bass"),
   ("bassavah", "Bass"), ("batak", "Batk"), ("batk", "Batk"), ("beng", "Beng"),
   ("bengali", "Beng"), ("bhaiksuki", "Bhks"), ("bhks", "Bhks"), ("bopo", "Bopo"),
   ("bopomofo", "Bopo"), ("brah", "Brah"), ("brahmi", "Brah"), ("brai", "Brai"),
   ("braille", "Brai"), ("bugi", "Bugi"), ("buginese", "Bugi"), ("buhd", "Buhd"),
   ("buhid", "Buhd"), ("cakm", "Cakm"), ("canadianaboriginal", "Cans"), ("cans", "Cans"),
   ("cari", "Cari"), ("carian", "Cari"), ("caucasianalbanian", "Aghb"), ("chakma", "Cakm"),
   ("cham", "Cham"), ("cher", "Cher"), ("cherokee", "Cher"), ("chorasmian", "Chrs"),
   ("chrs", "Chrs"), ("common", "Zyyy"), ("copt", "Copt"), ("coptic", "Copt"), ("cpmn", "Cpmn"),
   ("cprt", "Cprt"), ("cuneiform", "Xsux"), ("cypriot", "Cprt"), ("cyprominoan", "Cpmn"),
   ("cyrillic", "Cyrl"), ("cyrl", "Cyrl"), ("deseret", "Dsrt"), ("deva", "Deva"),
   ("devanagari", "Deva"), ("diak", "Diak"), ("divesakuru", "Diak"), ("dogr", "Dogr"),
   ("dogra", "Dogr"), ("dsrt", "Dsrt"), ("dupl", "Dupl"), ("duployan", "Dupl"),
   ("egyp", "Egyp"), ("egyptianhieroglyphs", "Egyp"), ("elba", "Elba"), ("elbasan", "Elba"),
   ("elym", "Elym"), ("elymaic", "Elym"), ("ethi", "Ethi"), ("ethiopic", "Ethi"),
   ("gara", "Gara"), ("garay", "Gara"), ("geor", "Geor"), ("georgian", "Geor"),
   ("glag", "Glag"), ("glagolitic", "Glag"), ("gong", "Gong"), ("gonm", "Gonm"),
   ("goth", "Goth"), ("gothic", "Goth"), ("gran", "Gran"), ("grantha", "Gran"),
   ("greek", "Grek"), ("grek", "Grek"), ("gujarati", "Gujr"), ("gujr", "Gujr"),
   ("gukh", "Gukh"), ("gunjalagondi", "Gong"), ("gurmukhi", "Guru"), ("guru", "Guru"),
   ("gurungkhema", "Gukh"), ("han", "Hani"), ("hang", "Hang"), ("hangul", "Hang"),
   ("hani", "Hani"), ("hanifirohingya", "Rohg"), ("hano", "Hano"), ("hanunoo", "Hano"),
   ("hatr", "Hatr"), ("hatran", "Hatr"), ("hebr", "Hebr"), ("hebrew", "Hebr"), ("hira", "Hira"),
   ("hiragana", "Hira"), ("hluw", "Hluw"), ("hmng", "Hmng"), ("hmnp", "Hmnp"), ("hung", "Hung"),
   ("imperialaramaic", "Armi"), ("inherited", "Zinh"), ("inscriptionalpahlavi", "Phli"),
   ("inscriptionalparthian", "Prti"), ("ital", "Ital"), ("java", "Java"), ("javanese", "Java"),
   ("kaithi", "Kthi"), ("kali", "Kali"), ("kana", "Kana"), ("kannada", "Knda"),
   ("katakana", "Kana"), ("kawi", "Kawi"), ("kayahli", "Kali"), ("khar", "Khar"),
   ("kharoshthi", "Khar"), ("khitansmallscript", "Kits"), ("khmer", "Khmr"), ("khmr", "Khmr"),
   ("khoj", "Khoj"), ("khojki", "Khoj"), ("khudawadi", "Sind"), ("kiratrai", "Krai"),
   ("kits", "Kits"), ("knda", "Knda"), ("krai", "Krai"), ("kthi", "Kthi"), ("lana", "Lana"),
   ("lao", "Laoo"), ("laoo", "Laoo"), ("latin", "Latn"), ("latn", "Latn"), ("lepc", "Lepc"),
   ("lepcha", "Lepc"), ("limb", "Limb"), ("limbu", "Limb"), ("lina", "Lina"), ("linb", "Linb"),
   ("lineara", "Lina"), ("linearb", "Linb"), ("lisu", "Lisu"), ("lyci", "Lyci"),
   ("lycian", "Lyci"), ("lydi", "Lydi"), ("lydian", "Lydi"), ("mahajani", "Mahj"),
   ("mahj", "Mahj"), ("maka", "Maka"), ("makasar", "Maka"), ("malayalam", "Mlym"),
   ("mand", "Mand"), ("mandaic", "Mand"), ("mani", "Mani"), ("manichaean", "Mani"),
   ("marc", "Marc"), ("marchen", "Marc"), ("masaramgondi", "Gonm"), ("medefaidrin", "Medf"),
   ("medf", "Medf"), ("meeteimayek", "Mtei"), ("mend", "Mend"), ("mendekikakui", "Mend"),
   ("merc", "Merc"), ("mero", "Mero"), ("meroiticcursive", "Merc"),
   ("meroitichieroglyphs", "Mero"), ("miao", "Plrd"), ("mlym", "Mlym"), ("modi", "Modi"),
   ("mong", "Mong"), ("mongolian", "Mong"), ("mro", "Mroo"), ("mroo", "Mroo"), ("mtei", "Mtei"),
   ("mult", "Mult"), ("multani", "Mult"), ("myanmar", "Mymr"), ("mymr", "Mymr"),
   ("nabataean", "Nbat"), ("nagm", "Nagm"), ("nagmundari", "Nagm"), ("nand", "Nand"),
   ("nandinagari", "Nand"), ("narb", "Narb"), ("nbat", "Nbat"), ("newa", "Newa"),
   ("newtailue", "Talu"), ("nko", "Nkoo"), ("nkoo", "Nkoo"), ("nshu", "Nshu"),
   ("nushu", "Nshu"), ("nyiakengpuachuehmong", "Hmnp"), ("ogam", "Ogam"), ("ogham", "Ogam"),
   ("olchiki", "Olck"), ("olck", "Olck"), ("oldhungarian", "Hung"), ("olditalic", "Ital"),
   ("oldnortharabian", "Narb"), ("oldpermic", "Perm"), ("oldpersian", "Xpeo"),
   ("oldsogdian", "Sogo"), ("oldsoutharabian", "Sarb"), ("oldturkic", "Orkh"),
   ("olduyghur", "Ougr"), ("olonal", "Onao"), ("onao", "Onao"), ("oriya", "Orya"),
   ("orkh", "Orkh"), ("orya", "Orya"), ("osage", "Osge"), ("osge", "Osge"), ("osma", "Osma"),
   ("osmanya", "Osma"), ("ougr", "Ougr"), ("pahawhhmong", "Hmng"), ("palm", "Palm"),
   ("palmyrene", "Palm"), ("pauc", "Pauc"), ("paucinhau", "Pauc"), ("perm", "Perm"),
   ("phag", "Phag"), ("phagspa", "Phag"), ("phli", "Phli"), ("phlp", "Phlp"), ("phnx", "Phnx"),
   ("phoenician", "Phnx"), ("plrd", "Plrd"), ("prti", "Prti"), ("psalterpahlavi", "Phlp"),
   ("qaac", "Copt"), ("qaai", "Zinh"), ("rejang", "Rjng"), ("rjng", "Rjng"), ("rohg", "Rohg"),
   ("runic", "Runr"), ("runr", "Runr"), ("samaritan", "Samr"), ("samr", "Samr"),
   ("sarb", "Sarb"), ("saur", "Saur"), ("saurashtra", "Saur"), ("sgnw", "Sgnw"),
   ("sharada", "Shrd"), ("shavian", "Shaw"), ("shaw", "Shaw"), ("shrd", "Shrd"),
   ("sidd", "Sidd"), ("siddham", "Sidd"), ("signwriting", "Sgnw"), ("sind", "Sind"),
   ("sinh", "Sinh"), ("sinhala", "Sinh"), ("sogd", "Sogd"), ("sogdian", "Sogd"),
   ("sogo", "Sogo"), ("sora", "Sora"), ("sorasompeng", "Sora"), ("soyo", "Soyo"),
   ("soyombo", "Soyo"), ("sund", "Sund"), ("sundanese", "Sund"), ("sunu", "Sunu"),
   ("sunuwar", "Sunu"), ("sylo", "Sylo"), ("sylotinagri", "Sylo"), ("syrc", "Syrc"),
   ("syriac", "Syrc"), ("tagalog", "Tglg"), ("tagb", "Tagb"), ("tagbanwa", "Tagb"),
   ("taile", "Tale"), ("taitham", "Lana"), ("taiviet", "Tavt"), ("takr", "Takr"),
   ("takri", "Takr"), ("tale", "Tale"), ("talu", "Talu"), ("tamil", "Taml"), ("taml", "Taml"),
   ("tang", "Tang"), ("tangsa", "Tnsa"), ("tangut", "Tang"), ("tavt", "Tavt"), ("telu", "Telu"),
   ("telugu", "Telu"), ("tfng", "Tfng"), ("tglg", "Tglg"), ("thaa", "Thaa"), ("thaana", "Thaa"),
   ("thai", "Thai"), ("tibetan", "Tibt"), ("tibt", "Tibt"), ("tifinagh", "Tfng"),
   ("tirh", "Tirh"), ("tirhuta", "Tirh"), ("tnsa", "Tnsa"), ("todhri", "Todr"),
   ("todr", "Todr"), ("toto", "Toto"), ("tulutigalari", "Tutg"), ("tutg", "Tutg"),
   ("ugar", "Ugar"), ("ugaritic", "Ugar"), ("vai", "Vaii"), ("vaii", "Vaii"), ("vith", "Vith"),
   ("vithkuqi", "Vith"), ("wancho", "Wcho"), ("wara", "Wara"), ("warangciti", "Wara"),
   ("wcho", "Wcho"), ("xpeo", "Xpeo"), ("xsux", "Xsux"), ("yezi", "Yezi"), ("yezidi", "Yezi"),
   ("yi", "Yiii"), ("yiii", "Yiii"), ("zanabazarsquare", "Zanb"), ("zanb", "Zanb"),
   ("zinh", "Zinh"), ("zyyy", "Zyyy")]

/-- The ranges of a script, by its code. -/
def ranges (code : String) : List CodeRange :=
  CodeRange.decode ((tables.lookup code).getD "")

/-- The characters of a script, by a loosely matched name. -/
def find? (name : String) : Option CharClass :=
  (aliases.lookup name).map fun code => .ranges (ranges code)

end Script
end Unicode
end PathVersions
