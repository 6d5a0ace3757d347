/-!
# Scripts

Each entry holds the names of a property, without case, blanks, hyphens and underscores, and its
ranges of code points. A range is written as the gap from the end of the range before and then its
length less one; a number is written in base sixteen with the letters `a` to `p`, the last digit
in upper case.
-/

namespace Stencil.Regex

/-- The scripts. -/
def scriptTable : List (String × String) := [
  ("adlm adlam",
   "bojaAeLFJFB"),
  ("aghb caucasianalbanian",
   "bafdAdDMA"),
  ("ahom",
   "bbhaAbKDOFbG"),
  ("arab arabic",
   "gaAECFCNCCCbPCJMbJCgLCcBfBcPpBcBGeKCbMpcfBboNDiPcBPhBECiGpgEbOeEFJIcCFnpaBDCbKCBCADACJCDCA" ++
    "CAHAFACACACCCBCADACACACACACBCADDCGCDCDCACJCbAGCCECbAdFB"),
  ("armi imperialaramaic",
   "baieAbFCI"),
  ("armn armenian",
   "fdBcFDdBDCpfiEE"),
  ("avst avestan",
   "balaAdFEG"),
  ("bali balinese",
   "blaAeMCdB"),
  ("bamu bamum",
   "kgkAfHmbaJcdI"),
  ("bass bassavah",
   "bgknAbNDF"),
  ("batk batak",
   "blmAdDJD"),
  ("beng bengali",
   "jiADCHDBDbFCGCAEDDIDBDDJAFBCEDbI"),
  ("bhks bhaiksuki",
   "bbmaAICcMCNLbM"),
  ("bopo bopomofo",
   "coKBcobKcKhBbP"),
  ("brah brahmi",
   "bbaaAeNFcDKA"),
  ("brai braille",
   "ciaApP"),
  ("bugi buginese",
   "bkaAbLDB"),
  ("buhd buhid",
   "bheAbD"),
  ("cakm chakma",
   "bbbaAdECbB"),
  ("cans canadianaboriginal",
   "beaAchPcdBeFbablLP"),
  ("cari carian",
   "backAdA"),
  ("cham",
   "kkaAdGKNDJDD"),
  ("cher cherokee",
   "bdkAfFDFjhhDeP"),
  ("chrs chorasmian",
   "baplAbL"),
  ("copt coptic qaac",
   "doCNcijBhDGG"),
  ("cpmn cyprominoan",
   "bcpjAgC"),
  ("cprt cypriot",
   "baiaAFDACcLCBEADA"),
  ("cyrl cyrillic",
   "eaAiEDkIbhfBKkBAeNAbagIbPhieBfPfhiPBocaBdNcCA"),
  ("deva devanagari",
   "jaAfAFODbJjpgBbPhcaBJ"),
  ("diak divesakuru",
   "bbjaAGDADHCBCbNCBDLKJ"),
  ("dogr dogra",
   "bbiaAdL"),
  ("dsrt deseret",
   "baeaAeP"),
  ("dupl duployan",
   "blmaAgKGMEIIJDD"),
  ("egyp egyptianhieroglyphs",
   "bdaaAefFLpjK"),
  ("elba elbasan",
   "bafaAcH"),
  ("elym elymaic",
   "bapoAbG"),
  ("ethi ethiopic",
   "bcaAeICDDGCACDDcICDDcACDDGCACDDOCdICDDeCDbPEbJbjoHbGKGCGCGCGCGCGCGCGhncDFDFDFKGCGbdmlCGCDC" ++
    "BCO"),
  ("geor georgian",
   "bakAcFCAGADcKCDljBcKDCbaeBcFCAGA"),
  ("glag glagolitic",
   "cmaAfPbldkBGCbADGCBCE"),
  ("gong gunjalagondi",
   "bbngAFCBCcECBCFIJ"),
  ("gonm masaramgondi",
   "bbnaAGCBCcLEACBCIJJ"),
  ("goth gothic",
   "baddAbK"),
  ("gran grantha",
   "bbdaADCHDBDbFCGCBCEDIDBDCDAHAGGDGEE"),
  ("grek greek",
   "dhADCCDDCAFACACCCACbDCdOPPbjcHEdDEFEfFAbeBbFDFDcFDFDHCACACACbODdECOCNDFCbCDCCIbcIAikdPAffn" ++
    "LeObCAnagAeF"),
  ("gujr gujarati",
   "kiBCCICCCbFCGCBCEDJCCCCDAbADDLIG"),
  ("guru gurmukhi",
   "kaBCCFFBDbFCGCBCBCBDACEFBDCEAIDCAIbA"),
  ("hang hangul",
   "bbaApPbocPBbaCfNhCbOeCbOhgoCbMciEclkDNbGFdAchkFbOEFDFDFDC"),
  ("hani han",
   "coiAbJCfINnFdAACAbKIPDdmFbjlPeBfbpPfjaBbgNDgJhfaJBNGjaaKkgnPcBbbbNDbgiNDbndAbAcgNjkDcbNfoD" ++
    "bdeKGcbcJ"),
  ("hano hanunoo",
   "bhcAbE"),
  ("hatr hatran",
   "baioAbCCBGE"),
  ("hebr hebrew",
   "fjBdGJbKFFpfcJbJCECACBCBCJ"),
  ("hira hiragana",
   "daeBfFHCbhpgCbbObDAbOCeakOA"),
  ("hluw anatolianhieroglyphs",
   "beeaAceG"),
  ("hmng pahawhhmong",
   "bglaAeFLJCGCbEGbC"),
  ("hmnp nyiakengpuachuehmong",
   "bobaAcMENDJFB"),
  ("hung oldhungarian",
   "bamiAdCOdCIF"),
  ("ital olditalic",
   "badaAcDKC"),
  ("java javanese",
   "kjiAeNDJFB"),
  ("kali kayahli",
   "kjaAcNCA"),
  ("kana katakana",
   "dakBfJDCpBPnBcOCfHmmaPJCcMlafDDCGCBCAbcACdDAPD"),
  ("kawi",
   "bbpaAbACcIEbM"),
  ("khar kharoshthi",
   "bakaADCBGHCCCbMDCFJII"),
  ("khmr khmer",
   "bhiAfNDJHJboHbP"),
  ("khoj khojki",
   "bbcaAbBCcO"),
  ("kits khitansmallscript",
   "bgpoEAblbMbnFcKA"),
  ("knda kannada",
   "miAMCCCbGCJCEDICCCDIBGCCDDJCC"),
  ("kthi kaithi",
   "bbaiAeCLA"),
  ("lana taitham",
   "bkcAdOCbMDKHJHN"),
  ("laoo lao",
   "oiBBCACECbHCACbGDECACGCJDD"),
  ("latn latin",
   "eBbJHbJdAAbAAGbGCbOCbmAcIEbkbMcFHdAGDGMCeFeCpPbhCAOAbBMiOBHAbMAbCcIknIbPhkkDgFEfBbFOddBcKC" ++
    "ICDepjHGebLbJHbJicGFCcJCInheGbOHF"),
  ("lepc lepcha",
   "bmaAdHEOEC"),
  ("limb limbu",
   "bjaAbOCLFLFAEL"),
  ("lina lineara",
   "bagaAbdGKbFLH"),
  ("linb linearb",
   "baaaALCbJCbCCBCODNcDhK"),
  ("lisu",
   "kenAcPhklBA"),
  ("lyci lycian",
   "baciAbM"),
  ("lydi lydian",
   "bajcAbJGA"),
  ("mahj mahajani",
   "bbbfAcG"),
  ("maka makasar",
   "bbooAbI"),
  ("mand mandaic",
   "ieAbLDA"),
  ("mani manichaean",
   "bakmAcGFL"),
  ("marc marchen",
   "bbmhAbPDbFCN"),
  ("medf medefaidrin",
   "bgoeAfK"),
  ("mend mendekikakui",
   "boiaAmEDP"),
  ("merc meroiticcursive",
   "bajkAbHFbDDcN"),
  ("mero meroitichieroglyphs",
   "bajiAbP"),
  ("mlym malayalam",
   "naAMCCCdCCCCFFPDbJ"),
  ("modi",
   "bbgaAeEMJ"),
  ("mong mongolian",
   "biaABDACbDHfIIcKpnlGM"),
  ("mroo mro",
   "bgkeAbOCJFB"),
  ("mtei meeteimayek",
   "kkoAbGmKcNDJ"),
  ("mult multani",
   "bbciAGCACDCOCK"),
  ("mymr myanmar",
   "baaAjPjjeBbOgCbPgmfBbD"),
  ("nagm nagmundari",
   "boenAcJ"),
  ("nand nandinagari",
   "bbjkAHDcNDK"),
  ("narb oldnortharabian",
   "bakiAbP"),
  ("nbat nabataean",
   "baiiAbOJI"),
  ("newa",
   "bbeaAfLCE"),
  ("nkoo nko",
   "hmAdKDC"),
  ("nshu nushu",
   "bgpoBAebiPbiL"),
  ("ogam ogham",
   "bgiAbM"),
  ("olck olchiki",
   "bmfAcP"),
  ("orkh oldturkic",
   "bamaAeI"),
  ("orya oriya",
   "laBCCHDBDbFCGCBCEDIDBDCICFBCEDbB"),
  ("osge osage",
   "baelAcDFcD"),
  ("osma osmanya",
   "baeiAbNDJ"),
  ("ougr olduyghur",
   "baphAbJ"),
  ("palm palmyrene",
   "baigAbP"),
  ("pauc paucinhau",
   "bbkmAdI"),
  ("perm oldpermic",
   "badfAcK"),
  ("phag phagspa",
   "kieAdH"),
  ("phli inscriptionalpahlavi",
   "balgAbCGH"),
  ("phlp psalterpahlavi",
   "baliAbBIDNG"),
  ("phnx phoenician",
   "bajaAbLEA"),
  ("plrd miao",
   "bgpaAeKFdIIbA"),
  ("prti inscriptionalparthian",
   "baleAbFDH"),
  ("rjng rejang",
   "kjdAcDMA"),
  ("rohg hanifirohingya",
   "banaAcHJJ"),
  ("runr runic",
   "bgkAeKEK"),
  ("samr samaritan",
   "iaAcNDO"),
  ("sarb oldsoutharabian",
   "bakgAbP"),
  ("saur saurashtra",
   "kiiAeFJL"),
  ("sgnw signwriting",
   "bniaAciLbAECO"),
  ("shaw shavian",
   "baefAcP"),
  ("shrd sharada",
   "bbbiAfPjiBH"),
  ("sidd siddham",
   "bbfiAdFDcF"),
  ("sind khudawadi",
   "bbclAdKGJ"),
  ("sinh sinhala",
   "niBCCbBEbHCICADGEAFFCACHHJDCbadoNbD"),
  ("sogd sogdian",
   "bapdAcJ"),
  ("sogo oldsogdian",
   "bapaAcH"),
  ("sora sorasompeng",
   "bbanAbIIJ"),
  ("soyo soyombo",
   "bbkfAfC"),
  ("sund sundanese",
   "bliAdPbaBH"),
  ("sylo sylotinagri",
   "kiaAcM"),
  ("syrc syriac",
   "haANCdLDCbbBK"),
  ("tagb tagbanwa",
   "bhgAMCCCB"),
  ("takr takri",
   "bbgiAdJHJ"),
  ("tale taile",
   "bjfAbNDE"),
  ("talu newtailue",
   "bjiAcLFbJHKEB"),
  ("taml tamil",
   "liCBCFECCDEBCACBEBECELFEECCDDAHAPbEbbdmGdBOA"),
  ("tang tangut",
   "bgpoAAcAbkpPcaBbOgChC"),
  ("tavt taiviet",
   "kkiAeCbJE"),
  ("telu telugu",
   "maAMCCCbGCPDICCCDIBCCCBDDDJII"),
  ("tfng tifinagh",
   "cndAdHIBPA"),
  ("tglg tagalog",
   "bhaAbFKA"),
  ("thaa thaana",
   "hiAdB"),
  ("thai",
   "oaBdJGbL"),
  ("tibt tibetan",
   "paAeHCcDFcGCcDCOCGFB"),
  ("tirh tirhuta",
   "bbeiAeHJJ"),
  ("tnsa tangsa",
   "bgkhAeOCJ"),
  ("toto",
   "bocjAbO"),
  ("ugar ugaritic",
   "badiAbNCA"),
  ("vaii vai",
   "kfaAbcL"),
  ("vith vithkuqi",
   "bafhAKCOCGCBCKCOCGCB"),
  ("wara warangciti",
   "bbikAfCNA"),
  ("wcho wancho",
   "bocmAdJGA"),
  ("xpeo oldpersian",
   "badkAcDFN"),
  ("xsux cuneiform",
   "bcaaAdjJgHgOCEMmD"),
  ("yezi yezidi",
   "baoiAcJCCDB"),
  ("yiii yi",
   "kaaAeiMEdG"),
  ("zanb zanabazarsquare",
   "bbkaAeH"),
  ("zinh inherited qaai",
   "daAgPbbGBbmFKbLAcoBDbbfMcNDLboFCCMCGFAHAEBmHdPcaNBmDcApdKDgMBmngGPbBNdnAAoDAbafLAllmFcNDbG" ++
    "ccBCbCHDGbPDmcpfDoP"),
  ("zyyy common",
   "AeAbLFbLcOCOCEbIAcAAbmCcGGEDbDhFAKAHACAchOAHAPAEAcBAjNAcaFAiCBenKAbjGDbcDAfpACeIBmMBCAemOA" ++
    "OAIDCFCCDAdaGLDfGCKEKCObCcBdPcFCCDFCbKCbAcKCFcjJbHKbGdjPbaBchDDiJcaBfNbjDbECACbIbAHFDfMBEA" ++
    "fLBjEPcBcFKAdBdPcAfAdAAfJkHbjmBdPfjaBcBgHCkGJpFAkBAbiMAPBfbnDBnBJbHcCCbCCDjEACbPbLFbLKLAcO" ++
    "BeBGCGLEbaDCFcMEIfBMdEcMoFbKljkFDpfNpMEblDHbGbAbAgAhDdNpFLcGDdNEbAJBIbNFdMnGbDNbDNfGKbIiIf" ++
    "ECeGCBDADBDDCLCACGCeACDDHCGCbLCDCECAEGCbfDDbcDDdBbehCeDeNdMcmDcLFgDNODOCOCcELkNdJbJCBOcLFI" ++
    "IBPFjLdnIEbAEMEnJHLFAbALFdHJJHcHJbNDLFBPIcIbfHJNDMEKEdICAFPDLFJIjCCgGmaeaHAbPfP"),
  ("zzzz unknown",
   "dhIBHDIACAbFAbiOAcHBdDBEAdIHbMDHKbaPAdNBgGNdMBdCBbAAbNBCAMEcDEoOAJBDBbHAIACCFBKBDBFHCDDAGB" ++
    "bKBEAHDDBbHAIADADADBCAGDDBECCGFACGbCJEAKAEAbHAIADAGBLAEAEBCOFBNGIAEAJBDBbHAIADAGBKBDBEGEDD" ++
    "AGBbDJDAHCEAFCDACADCDCECNDGCEAFBCFCNbGEOAEAbIAbBBKAEAFGDAEADBFBLGbHAEAbIALAGBKAEAFGDEEAFBL" ++
    "AELOAEAdEAEAHDbBBbLAEAbDCbJAKACBICCDHACAJFLBELdLDbOcEDACAGAbJACAbIBGACAIALBFbPeJAcFDcIAcFA" ++
    "bAAOcEmHACECBbhKAFBIACAFBcKAFBcCAFBIACAFBbAAdKAFBeEBcBCbLFfHBHBcjOCfKGbHIbJIbFLOAEADLfPBLF" ++
    "LFbLFfKGcMEeHJcAANDNDCCcLBGKcNDbLFMCdPBeCAbOBMFLFPBcPBNbDeOAkHHdNCbACdPEcMBMHcMEcbHBHBcHBH" ++
    "BJACACACAcABdGAbAAPBHAbEBEAKAgGANBbMAOCcDNcCOiNDcjLbFMbEhbFBbhPEcOACECBdJGDNbJIIAIAIAIAIAI" ++
    "AIAIAhPcBbLAfKLnHbJfBAfHBgIEcMAfPAfHIdBAhcgOCdIIbfNbDlJHnObDdNCLFdJHeHHNFhFKbPCePAMDcCAdII" ++
    "PBLBgIbHbNJHBHBHIIAIAdNDhPBLFclkFLbIDdCDiaBbipPbgPBgLcFILGEbLAGACADADAciLbPcLFdEAbEAFDGAiI" ++
    "BCAlPCHBHBHBECIAIJGBNAbLAbEADAbABPcBhMEEDcOCfJAOCCcOcPiBbOCdCObNDcFIbPEcMEbPAcGDPcJjPBLFcF" ++
    "DcFDcJHdFKNAbAAIADAMAbAAIADCdFLbdIIbHJJbHHAcLAKeEHBCAcNADCCBbIAeJHKcPbEADEcCCbMEbMcFdJDbFB" ++
    "dDADEJAEAbOBEDLGKGeBbPcIDNIdHCbOBbMEbLGFLIePeKdGdEMdEGcPHLFcHCbOHDmPcAAcLAEBDPHHKcAcPHcLbF" ++
    "bLcFbNbDbIIePDcFIeFJCBbKGLFdGAbDHcIIgBAbFKbDAdAdNIACAFAbAAMFdMELFFAJBDBbHAIADAGALBDBEBCFCE" ++
    "IBICGKLACBCAcHALACBCAFALADHDbMfNAGbNeJHLkFdHBcHcBeGKLFObCdLFLFbFbLbMBbADbIlIdNgDfELJBCBJAD" ++
    "AbPADBNILeFJBcPBMbKeJHfEMeKGLfFJfHcDNLFKAcOAPJbOCcBBbHAPeIIADAcNCCADAKHLFHADAcGADAHGLFcNDL" ++
    "pFbKGbCAcKCbOfECOdDMdjMgFhAAGKmFkeLgEMefHJpjMEceIbklIdLgmFcdKGcAALDfCALFbPBHJeHJLAIAbGEbEb" ++
    "kPdLmFfMEbKBbKcLeMDdKGbCdPGKIIbmnHcIcBgAhEcbpMFAIADAbcEOCbMEBCNFHbiNjaDgMEOCKGLBJpfLpOCblF" ++
    "FbIObCOcPBbIIhFdLpHJcIBmDbEeHhJbFLbFLfIIbKiGfGAeIADBCBDBFANACAIAeCAFBJAIAbNAFAGACCIAbfFBbc" ++
    "FBclPOGAbAeePcAFHnEIAbCBIADAGEdPcACgPcOCPBLDDbdPcAbAdLECbmPcLnFcMDClPcAAbHHDnPIAFADAbAAmGB" ++
    "bBcIeNDLDDdbAeFeLdOmBFAbMADACBCALAFACACFCDCACACAEADACBCACACACACADACBFAIAFAFACALAbCEEAGAbCd" ++
    "DDbaNcNDgFLbABbAAbAAcGJkPdHbOMcNDKGDNHjJdnKCbCCOCnLFNDCONDdJHLFcJHbPBNDDNKcGbfJHPBOCMCdKAC" ++
    "DbBBNDLGjEAgIeaEkgoBbPbbbPBbgiPBbndCOcgPjkBcbPfoBbdeMEcbcLkmliGCbNgBhPpBcpoaP"),
  ("gara garay",
   "baneAcFEbMJB"),
  ("gukh gurungkhema",
   "bgbaAdJ"),
  ("krai kiratrai",
   "bgneAdJ"),
  ("onao olonal",
   "bofnAcKFA"),
  ("sunu sunuwar",
   "bblmAcBPJ"),
  ("todr todhri",
   "bafmAdD"),
  ("tutg tulutigalari",
   "bbdiAJCADACcFCJCADACDCJCBJB")]

/-- The scripts whose extensions hold further characters. -/
def scriptExtensionTable : List (String × String) := [
  ("adlm adlam",
   "gbPAcBAbkaPAnpCAblklPeLFJFB"),
  ("aghb caucasianalbanian",
   "daEAcNAcNAbabnCdDMA"),
  ("arab arabic",
   "gaAECnGCcBfBcPpBcBGeKCbMbhfAAnpCAmnaPchPcBPhBECiGdoEbLlgFbOeEFJIcCFnpaBDCbKCBCADACJCDCACAH" ++
    "AFACACACCCBCADACACACACACBCADDCGCDCDCACJCbAGCCECbAdFB"),
  ("armn armenian",
   "daIAccJcFDdBDCpfiEE"),
  ("avst avestan",
   "lHAcnhJBnmmPdFEG"),
  ("beng bengali",
   "clMAgjFBbCBbLDCHDBDbFCGCAEDDIDBDDJAFBCEDbIbcnCACADBCAJAJADAFADCilpKA"),
  ("bopo bopomofo",
   "cmHACCOAbBBcnbGCFJCMLDDAHAmEAKcKhBbPmmiGBbbLE"),
  ("bugi buginese",
   "bkaAbLDBiplAA"),
  ("buhd buhid",
   "bhdFBKbD"),
  ("cakm chakma",
   "joGJgfBJbaalHdECbB"),
  ("cari carian",
   "lHAbpkDADAnnEAnegPdA"),
  ("cher cherokee",
   "daACCAHBbHBMBbagPfFDFjhhDeP"),
  ("copt coptic qaac",
   "lHAceJAEBCAgNBgNNcijBhDGGbbIAnemJbL"),
  ("cpmn cyprominoan",
   "babaABcoiPgC"),
  ("cprt cypriot",
   "babaACFcMEIgmBFDACcLCBEADA"),
  ("cyrl cyrillic",
   "clMAeECCACACADAGAoPbcPbhfBKkBAeNAiAApoIbPeEAhhpNfPfhiPBocaBdNcCA"),
  ("deva devanagari",
   "clMAgeEfCDcKbdfBcGCBdpHAiheAJkHbPhcaBJ"),
  ("dogr dogra",
   "jgELjomBJgpmHdL"),
  ("dupl duployan",
   "lHAcfABCAbJBclbIAbinmEgKGMEIIJDH"),
  ("elba elbasan",
   "lHAceOAbabpLcH"),
  ("ethi ethiopic",
   "daOAopCeICDDGCACDDcICDDcACDDGCACDDOCdICDDeCDbPEbJbjoHbGKGCGCGCGCGCGCGCGhncDFDFDFKGCGbdmlCG" ++
    "CDCBCO"),
  ("geor georgian",
   "lHAenCAlbHcFCAGADcPljBcKDCdjLAmkGcFCAGAbaEA"),
  ("glag glagolitic",
   "lHAceMACAbhPADAbaCAlhCApfPAlkGfPboEAhicMAbdjjBGCbADGCBCE"),
  ("gong gunjalagondi",
   "lHAikNBbbdpLFCBCcECBCFIJ"),
  ("gonm masaramgondi",
   "jgEBbbdjLGCBCcLEACBCIJJ"),
  ("goth gothic",
   "lHAceNBDAcJApppPbK"),
  ("gran grantha",
   "jfBBbCBciBNbanNACBbPCEBdpHApcbADCHDBDbFCGCBCECJDBDCDAHAGGDGEEmfMBCA"),
  ("grek greek",
   "lHAceJBDACACALAcPADAcLHDDCAFACACCCACbDCdOPPbjcHEdDEFEfFCbdPbFDFDcFDFDHCACACACbODdECOCNDFCb" ++
    "CDCCIfPAmJAikdPAffnLeObCAnagAeF"),
  ("gujr gujarati",
   "jfBBbCBbbMCCICCCbFCGCBCEDJCCCCDAbADDLIGjndBJ"),
  ("guru gurmukhi",
   "jfBBbCBjMCCFFBDbFCGCBCBCBDACEFBDCEAIDCAIbAjnlKJ"),
  ("hang hangul",
   "bbaApPboaCCFJCMPCHAmEAdGfNhCbOeCbOhgoCbMciEclkDNbGFdAcgeKBbbLEdLbOEFDFDFDC"),
  ("hani han",
   "lHAcnmJbJCfINnFbLPCCCMCMCMDAHIlMAjFPcBcFKAdBcHdJdAbALdEAfJbILEgBbOCbjlPeBfbpPhaBHfbpJbgNDg" ++
    "JdgMBbbLEhahNBNGgdgKbBbonPBnkPkgnPcBbbbNDbgiNDbndAbAcgNjkDcbNfoDbdeKGcbcJ"),
  ("hano hanunoo",
   "bhcAbG"),
  ("hebr hebrew",
   "daHBciJdGJbKFFpfcJbJCECACBCBCJ"),
  ("hira hiragana",
   "daaBCFJCMbBFCAFBEfFDHfLBmneJBbbLELAcOBlagCbbObDAbOCeakOA"),
  ("hung oldhungarian",
   "cafKADAnnEAbAAnodPdCOdCIF"),
  ("java javanese",
   "kjiAeNCKFB"),
  ("kali kayahli",
   "kjaAcP"),
  ("kana katakana",
   "daFAbOAcmnOCFJCMbBFCAFBfMDEfPpBPnBcOCfHmkoOBbbLdOlafBDCGCBCAbcACdDAPD"),
  ("khoj khojki",
   "koGJjneBJgjmHbBCcO"),
  ("knda kannada",
   "jfBBbCBdbLMCCCbGCJCEDICCCDIBGCCDDJCCpnNACBHAbIACAildMF"),
  ("kthi kaithi",
   "jgGJcemCAhjpPJgieHeCLA"),
  ("latn latin",
   "eBbJHbJdAANADAGbGCbOCbmAEALACCCAKACAHEbMOCBCAbACIBCBcHAGAFMbbGBemLBhkJAmaFcFHdAGDGMCeFdKAI" ++
    "pPbdAAeCAOAbBMfEAdKBHAbMAbCcIknIbPbjIAhioJHbLgFEfBbFObcPAcaCcKCICDepjHGebLbJHbJicGFCcJCInh" ++
    "eGbOHF"),
  ("limb limbu",
   "jgFApjLbOCLFLFAEL"),
  ("lina lineara",
   "babaHcMemNbdGKbFLH"),
  ("linb linearb",
   "baaaALCbJCbCCBCODNcDhKGCFcMEI"),
  ("lisu",
   "clMAbBAcndNBhemFcPhklBA"),
  ("lyci lycian",
   "cafKAoccGbM"),
  ("lydi lydian",
   "lHAcnhKAnkoPbJGA"),
  ("mahj mahajani",
   "lHAikNLjomBJgjbHcG"),
  ("mand mandaic",
   "geAAcaAbLDA"),
  ("mani manichaean",
   "geAAbaeiAcGFL"),
  ("mero meroitichieroglyphs",
   "cafNAojcDbP"),
  ("mlym malayalam",
   "jfBBbCBdjLMCCCdCCCCFFPDbJpfLAbIAildOC"),
  ("modi",
   "kidAJgnmHeEMJ"),
  ("mong mongolian",
   "biaAbJHfIIcKhiFApnCBGDogfFM"),
  ("mult multani",
   "kgGJbaibBGCACDCOCK"),
  ("mymr myanmar",
   "baaAjPjiiPAlCbOgCbPgmfBbD"),
  ("nand nandinagari",
   "jfBAbDBdiBJppKAJAIAildGFhbgLHDcNDK"),
  ("newa",
   "jfBBbdiDACBKAHACACAphbDfLCE"),
  ("nkoo nko",
   "gaMAPAEAbkBdKDCpfdPB"),
  ("orkh oldturkic",
   "cafKAnnGAnnnAeI"),
  ("orya oriya",
   "jfBBbCBbjMCCHDBDbFCGCBCEDIDBDCICFBCEDbBbbgDAbIA"),
  ("osge osage",
   "daBADAHAeNAbabfIcDFcD"),
  ("ougr olduyghur",
   "geAAbaelCAehObJ"),
  ("perm oldpermic",
   "lHAceJAGCLAbhAApomNcK"),
  ("phag phagspa",
   "biaCBCAicKApnDAhidOdH"),
  ("phlp psalterpahlavi",
   "geAAbafeAbBIDNG"),
  ("rohg hanifirohingya",
   "gaMAPAEAcBAjEAbagcMcHJJ"),
  ("runr runic",
   "bgkAfI"),
  ("samr samaritan",
   "iaAcNDOcfpDA"),
  ("shaw shavian",
   "lHAbadjJcP"),
  ("shrd sharada",
   "jfBAbdiGACADBDAKADAileDFDAgjeIfPjiBH"),
  ("sind khudawadi",
   "jgEBjomLJgkhHdKGJ"),
  ("sinh sinhala",
   "jgEBebMCCbBEbHCICADGEAFFCACHHJDCopOApeoPbD"),
  ("sogd sogdian",
   "geAAbaipAcJ"),
  ("sylo sylotinagri",
   "jgEBiBJjobBcM"),
  ("syrc syriac",
   "daDBDBCAbJCIBCBcnLAPBDAcBALKbLAjANCdLDCbbBKbfiOACA"),
  ("tagb tagbanwa",
   "bhdFBcKMCCCB"),
  ("takr takri",
   "jgEBjomLJgoeHdJHJ"),
  ("tale taile",
   "daABGBEAndEJjaHbNDE"),
  ("taml tamil",
   "jfBBbCBcbNBCFECCDEBCACBEBECELFEECCDDAHAPbEbaoAAimbJAgkaOACAdIBmiEdBOA"),
  ("tang tangut",
   "cppAPbpAAbdnpBAcAbkpPcaBbOgChC"),
  ("telu telugu",
   "jfBBbCBcjLMCCCbGCPDICCCDIBCCCBDDDJIIbafGBCACAbIA"),
  ("tfng tifinagh",
   "daCACACDbKAckaNdHIBPA"),
  ("tglg tagalog",
   "bhaAbFKAbGB"),
  ("thaa thaana",
   "gaMAPBDAeBJbbHdBpgeBALA"),
  ("thai",
   "clMAbLAcMAcOAknAdJGbL"),
  ("tibt tibetan",
   "paAeHCcDFcGCcDCOCGFBcacOD"),
  ("tirh tirhuta",
   "jfBBbCBbdhAANAbAAildOJgmeHeHJJ"),
  ("toto",
   "clMAbnpnEbO"),
  ("yezi yezidi",
   "gaMAPAEAeBJbaibHcJCCDB"),
  ("yiii yi",
   "daaBBGJDHoAAgpaFeiMEdGfkjLE"),
  ("zinh inherited qaai",
   "daPADACOEGDADPCBCbBCECDfpBBbbfMcNDLcnHdFCACEcaNBmDbPnnbBPbBNdnAAmnaDcNDbGccBCbCHDGbPDmcpfDoP"),
  ("zyyy common",
   "AeAbLFbLcOCLCBCEbIAcAAbmCCCJCAEACICACFGEDbDhPAHACAchOAnIAcaFAffNAbjGDbacILDcACbOCJCBCGCKEK" ++
    "CObCcBdPcFCCDFCbKCbAcKCFcjJbHKbGdjPbaBchDDiJcaBbGCbHDJCDCACbJbkDAEAOAOAbGAcbCbHcAAdCONDkCJ" ++
    "GfPcAAbjmBdPfjaJbJgHCdnBAPBfckFJbHbEDLCbCCDjEACbPbLFbLFiAGCGLEbjDMdEcMmkaEpMEblDHbGbAbAgAh" ++
    "DdNpFLcGDdNEbAJBIbNFdMnGbDNbDNfGbMGiIfECeGCBDADBDDCLCACGCeACDDHCGCbLCDCECAEGCbfDDbcDDdBbeh" ++
    "CeDeNdMcmDcLFgDNODOCOCcELkNdJbJCBOcLFIbIFjLdnIEbAEMEnJHLFAbALFdHJJHcHJbNDLFBPIcIbfHJNDMEKE" ++
    "dICAFPDLFJIjCCgGmaeaHAbPfP"),
  ("gara garay",
   "gaMAPAEAbahcBcFEbMJB"),
  ("gukh gurungkhema",
   "jgFAbfhjLdJ"),
  ("onao olonal",
   "jgEBbnmgLcKFA"),
  ("sunu sunuwar",
   "daABCAKADAbNAEAbbiiPcBPJ"),
  ("todr todhri",
   "daBADADAKACAeLAbacgCdD"),
  ("tutg tulutigalari",
   "moGJbaaDACAildMFlMAgkiPJCADACcFCJCADACDCJCBJB")]

end Stencil.Regex
