/-!
# General categories

Each entry holds the names of a property, without case, blanks, hyphens and underscores, and its
ranges of code points. A range is written as the gap from the end of the range before and then its
length less one; a number is written in base sixteen with the letters `a` to `p`, the last digit
in upper case.
-/

namespace Stencil.Regex

/-- The general categories. -/
def categoryTable : List (String × String) := [
  ("cc control cntrl",
   "AbPgAcA"),
  ("cf format",
   "kNAffDFbHAmBAdCAbiBBfBApcMAhpNEbLEdCECJnojAApKCbamCAbAAcdgDPiigBDbenAHmcoiHAbPfP"),
  ("cn unassigned",
   "dhIBHDIACAbFAbiOAcHBdDBEAdIHbMDHKbaPAdNBgGNdMBdCBbAAbNBCAMEcDEoOAJBDBbHAIACCFBKBDBFHCDDAGB" ++
    "bKBEAHDDBbHAIADADADBCAGDDBECCGFACGbCJEAKAEAbHAIADAGBLAEAEBCOFBNGIAEAJBDBbHAIADAGBKBDBEGEDD" ++
    "AGBbDJDAHCEAFCDACADCDCECNDGCEAFBCFCNbGEOAEAbIAbBBKAEAFGDAEADBFBLGbHAEAbIALAGBKAEAFGDEEAFBL" ++
    "AELOAEAdEAEAHDbBBbLAEAbDCbJAKACBICCDHACAJFLBELdLDbOcEDACAGAbJACAbIBGACAIALBFbPeJAcFDcIAcFA" ++
    "bAAOcEmHACECBbhKAFBIACAFBcKAFBcCAFBIACAFBbAAdKAFBeEBcBCbLFfHBHBcjOCfKGbHIbJIbFLOAEADLfPBLF" ++
    "LFbLFfKGcMEeHJcAANDNDCCcLBGKcNDbLFMCdPBeCAbOBMFLFPBcPBNbDeOAkHHdNCbACdPEcMBMHcMEcbHBHBcHBH" ++
    "BJACACACAcABdGAbAAPBHAbEBEAKAgGANBbMAOCcDNcCOiNDcjLbFMbEhbFBbhPEcOACECBdJGDNbJIIAIAIAIAIAI" ++
    "AIAIAhPcBbLAfKLnHbJfBAfHBgIEcMAfPAfHIdBAhcgOCdIIbfNbDlJHnObDdNCLFdJHeHHNFhFKbPCePAMDcCAdII" ++
    "PBLBgIbHbNJHBHBHIIAIAdNDhPBLFclkFLbIDdCDccgPBgLcFILGEbLAGACADADAciLbPcLFdEAbEAFDGAiIBCAlPC" ++
    "HBHBHBECIAIJGBNAbLAbEADAbABPcBhMEEDcOCfJAOCCcOcPiBbOCdCObNDcFIbPEcMEbPAcGDPcJjPBLFcFDcFDcJ" ++
    "HdFKNAbAAIADAMAbAAIADCdFLbdIIbHJJbHHAcLAKeEHBCAcNADCCBbIAeJHKcPbEADEcCCbMEbMcFdJDbFBdDADEJ" ++
    "AEAbOBEDLGKGeBbPcIDNIdHCbOBbMEbLGFLIePeKdGdEMdEGcPHLFcHCbOHDmPcAAcLAEBDPHHKcAcPHcLbFbLcFbN" ++
    "bDbIIePDcFIeFJCBbKGLFdGAbDHcIIgBAbFKbDAdAdNIACAFAbAAMFdMELFFAJBDBbHAIADAGALBDBEBCFCEIBICGK" ++
    "LACBCAcHALACBCAFALADHDbMfNAGbNeJHLkFdHBcHcBeGKLFObCdLFLFbFbLbMBbADbIlIdNgDfELJBCBJADAbPADB" ++
    "NILeFJBcPBMbKeJHfEMeKGLfFJfHcDNLFKAcOAPJbOCcBBbHAPeIIADAcNCCADAKHLFHADAcGADAHGLFcNDLpFbKGb" ++
    "CAcKCbOfECOdDMdjMgFhAAGKmFkeLgEMefHJpjMEceIbklIdLgmFcdKGcAALDfCALFbPBHJeHJLAIAbGEbEbkPdLmF" ++
    "fMEbKBbKcLeMDdKGbCdPGKIIbmnHcIcBgAhEcbpMFAIADAbcEOCbMEBCNFHbiNjaDgMEOCKGLBJpfLpOCblFFbIObC" ++
    "OcPBbIIhFdLpHJcIBmDbEeHhJbFLbFLfIIbKiGfGAeIADBCBDBFANACAIAeCAFBJAIAbNAFAGACCIAbfFBbcFBclPO" ++
    "GAbAeePcAFHnEIAbCBIADAGEdPcACgPcOCPBLDDbdPcAbAdLECbmPcLnFcMDClPcAAbHHDnPIAFADAbAAmGBbBcIeN" ++
    "DLDDdbAeFeLdOmBFAbMADACBCALAFACACFCDCACACAEADACBCACACACACADACBFAIAFAFACALAbCEEAGAbCdDDbaNc" ++
    "NDgFLbABbAAbAAcGJkPdHbOMcNDKGDNHjJdnKCbCCOCnLFNDCONDdJHLFcJHbPBNDDNKcGbfJHPBOCMCdKACDbBBND" ++
    "LGjEAgIeaEkgoBbPbbbPBbgiPBbndCOcgPjkBcbPfoBbdeMEcbcLkmliGCbNgBhPpBpoaPpppPBpppPB"),
  ("co privateuse",
   "oaaAbipPoahaBpppNDpppN"),
  ("cs surrogate",
   ""),
  ("ll lowercaseletter",
   "gBbJdLAcKbHCHCACACACACACACACACACACACACACACACACACACACACACACACACACACACBCACACACACACACACBCACAC" ++
    "ACACACACACACACACACACACACACACACACACACACACADACACCDACADAEBFADAECDADACACADACBCADAEACADBDCHADAD" ++
    "ACACACACACACACACBCACACACACACACACACBDACAEACACACACACACACACACACACACACACACACACACACACACACACACAC" ++
    "ACACACACGDADBCAFACACACACeEDbJmCACAEAECbDAbMcCCBECCACACACACACACACACACACACECADADBdEcPCACACAC" ++
    "ACACACACACACACACACACACACACAKACACACACACACACACACACACACACACACACACACACACACACACACACACADACACACAC" ++
    "ACACBCACACACACACACACACACACACACACACACACACACACACACACACACACACACACACACACACACACACACACACACACACAC" ++
    "ACACACACACAdBcIleIcKDCcpJFiiDICAhGcLeAMCcBgHACACACACACACACACACACACACACACACACACACACACACACAC" ++
    "ACACACACACACACACACACACACACACACACACACACACACACACACACACACACACACACACACACACACACACACACACACACACAC" ++
    "ACACACACACACICACACACACACACACACACACACACACACACACACACACACACACACACACACACACACACACACACACACACACAC" ++
    "ACACACACACACACACACACIJFLHJHJFLHJHJNDHJHJHJECBHAECCBJDDBJHLCCBbbDAEBEAbMAFAFADBJDFAdGAkkMcP" ++
    "CAEBCACACAFACBCFGACACACACACACACACACACACACACACACACACACACACACACACACACACACACACACACACACACACACA" ++
    "CACACACACACACACACACACACACBIACAFANcFCAGAhjbEACACACACACACACACACACACACACACACACACACACACACACAbE" ++
    "ACACACACACACACACACACACACACAiIACACACACACACCCACACACACACACACACACACACACACACACACACACACACACACACA" ++
    "CACACACACACACACHCACADACACACACAFACADACCCACACACACACACACACACAGAGACACACACACACACAFACADACACACACA" ++
    "CACACAbLAEAddGcKGIIePepeBGNEecKbJemOcHiJcDjMKCOCGCBhaEdChObFldLbPffiBbPdMbIgfeHbJbLGCbBbLb" ++
    "JbLDCACGCKbLbJbLbJbLbJbLbJbLbJbLbJbLbJbLbJbLbLbNbICFbLbICFbLbICFbLbICFbLbICFCAhdFJCbDHFjpI" ++
    "cB"),
  ("lm modifierletter",
   "clAbBFLPEIACAiGAGAbnPAoHAkFBbaOBFAcAAKAEAkBAkIAenFAiAAcdGAgnLAgMAcgEAbnBFkPdOOAcDcEclCAOAb" ++
    "BMloABpCAmAAbnGAcMEGAgCBfOCgpbHAeoDFbaPAhDAbNBhKIfBAbIAgJDEBbnGAbHAiKAgNAbGBgIDKAfeaHAcOBh" ++
    "oBFCcJCIfjEAcBAbfGApbEAengHDbpNCcJBccHMeBBCAPBdppNDCGCBdadCdNmKGdkOAcbEAceMA"),
  ("lo otherletter",
   "kKAbAAbaBAFDnBBddLbKFDcObPCJcEBCgCCAbJBLCDAbBACbNbOfIMAbJcAbGbFcLbIIKGbHCGbBcIdMdFEAbDAIJb" ++
    "BOFHDBDbFCGCAEDEAbBAOBCCPBLAJFFBDbFCGCBCBCBcADCAbECbBICCCbFCGCBCEEAbDAbABbIAMHDBDbFCGCBCEE" ++
    "AbPBCCbAAbCACFECCDEBCACBEBECELbHAdFHCCCbGCPEAbLCCBDBbPAFHCCCbGCJCEEAbPCCBbABbCICCCcIDAbBAG" ++
    "CJCbJFGbBEbHCICADGdLcPCBNFdMBCACECbHCACJCBKADEbIDcBAeAHCcDbMEhEcKbFAbBFFDEAEBICFMNAhCbeICD" ++
    "DGCACDDcICDDcACDDGCACDDOCdICDDeCcGPhCcgLDbACbJGeKHHIbBObCPbBPMCCbAdDcJAeEcCCdEIEDcBCAGeFLb" ++
    "OdCbNDEMcLFbJdHbGKdElBcObCHdHbNOBLcLbLcDcKCLbNhCDCFCBEAedLDlpIdHbJbGKGCGCGCGCGCGCGCGccIAdG" ++
    "AFfFJACfJFAGcKCfNbCbPdBPcaBbjlPeBfcbECehGeEcHJbaLFPLBeDAdCeFkKAgIAEGCCCDCbGbOdDPdBdPFEACBM" ++
    "bLLbGbKbMIcOcOEDILECcIbICCHbFPCFEAEdBCAEBDEDACAbJBEKIAPFDFDFKGCGjCcCbOclkDNbGFdAcbaFbgNDgJ" ++
    "eEACJCMCECACBCBCgLcCbgKbDdPDdFcJLhFECiGgKJCcMDbOEFDFDFDCcELCbJCbCCBCODNcDhKbiGbMEdAdAbPObD" ++
    "CHHcFLbNDcDFHiBeNgDcHJdDfNdDNbdGKbFLHjJFDACcLCBEADbGLbGKbOeCbCCBLbFLbJHbJcHdHHBeBAbADCCCbM" ++
    "cLbMEbMcEHCbLbMdFLbFLbCObBgPeIlIcDcHDCAbdBcJHBbBCCBdJbMLAJbFcLbBcPbEbMbGNdEdKBDAOcMcBbIbLc" ++
    "DbOADAJcCEANcPPDbGACAcEbBCbIbEBeAGCACDCOCJIcOcHHDBDbFCGCBCEEAbDANEbPJCADACcFCAbKACAcNdEbDD" ++
    "bFCbPcPbFBCAlJcOcKDcFcPbFAdMcKOAeIbKcGGlKcLnEHDADHCBCbHbAACAfPHDcGbBACAbNALcHIAbGAMcNbEAbD" ++
    "eImIcAcAICcEbCAdCbNhBGCBCcFbGAbKFCBCbPPAbIcICBbaFbCbAACMCcBhNAfAdjJoHmDkeNgAbAecPbCFbKpjKG" ++
    "ceGbklKbNgoDcdIIbObCeObCbNbDcPdEbEGbCblEcHbjGeKGAlAbmnFcKbPgChCccaObcCbAAbOCDAPDJbiLjaFgKG" ++
    "MEIIJcchBAbpGcMcCAbeCbNbDcLboFbKoGbNDAnAbOCCCBCGDEKAoCGCDCBCOCmEfdMDCbKCBCADACJCDCACAHAFAC" ++
    "ACACCCBCADACACACACACBCADDCGCDCDCACJCbAGCCECbAbbeFkgnPcBbbbNDbgiNDbndAbAcgNjkDcbNfoDbdeKGcb" ++
    "cJ"),
  ("lt titlecaseletter",
   "bmFADADAcHAbnjGHJHJHNAbAAdAA"),
  ("lu uppercaseletter",
   "eBbJgGbGCGcCACACACACACACACACACACACACACACACACACACACACACACACACACACACADACACACACACACACADACACAC" ++
    "ACACACACACACACACACACACACACACACACACACACACBCACAEBCACBCCDDCBCCEBCBCACACBCADACBCCCACBEAIADADAD" ++
    "ACACACACACACACADACACACACACACACACADADACCCACACACACACACACACACACACACACACACACACACACACACACACACAC" ++
    "ACACACAIBCBDACDCACACACAbcCACAEAJAHACCCACBCbACIcEADCEACACACACACACACACACACACAGADACBDdCdBACAC" ++
    "ACACACACACACACACACACACACACACAKACACACACACACACACACACACACACACACACACACACACACACACACACACACBCACAC" ++
    "ACACACADACACACACACACACACACACACACACACACACACACACACACACACACACACACACACACACACACACACACACACACACAC" ++
    "ACACACACACACADcFleKcFCAGAcnDfFijEAHcKDCbeBACACACACACACACACACACACACACACACACACACACACACACACAC" ++
    "ACACACACACACACACACACACACACACACACACACACACACACACACACACACACACACACACACACACACACACACACACACACACAC" ++
    "ACACACACACAKACACACACACACACACACACACACACACACACACACACACACACACACACACACACACACACACACACACACACACAC" ++
    "ACACACACACACACACACAKHJFLHJHJFMACACACAJHeJDNDNDNEMDbaHAFAECDCDAEEHACACACDDDLBGAdOAkhNcPdBAC" ++
    "CDACACACDCADAJCCACACACACACACACACACACACACACACACACACACACACACACACACACACACACACACACACACACACACAC" ++
    "ACACACACACACACACACACACAJACAFAhjeOACACACACACACACACACACACACACACACACACACACACACACAbEACACACACAC" ++
    "ACACACACACACACACAiIACACACACACACAEACACACACACACACACACACACACACACACACACACACACACACACACACACACACA" ++
    "CACALACACBCACACACAFACADACAEACACACACACACACACACACECECACACACACACACACDCACBCACACACACACACACAbJAf" ++
    "hcMbJemGcHiJcDjNKCOCGCBgoLdCjObFldLbPffiBbPeBbIgfeIbJbLbJbLbJbLACBDADBDDCHbLbJbLBCDDHCGbMB" ++
    "CDCECAEGbMbJbLbJbLbJbLbJbLbJbLbJbPbIcCbIcCbIcCbIcCbIcCAbbdGcB"),
  ("mc spacingmark",
   "jaDAdIADCJDCBdDBdLCHBDBLAcMAdLCeDAdLCJACBdGBdLACAHBDBLAgHBCBECCCLAcKCdODdOBdLACEDBCBKBbNAP" ++
    "BdLCGCCCLAcLBeMCHHbDBbeLBeAAkMBFAHADBbKBLCDGbGBDFDALCghJAbPAiCAIHCBbfLDDCFBCFoBBdLACAKACBJ" ++
    "FjCAdBAGACECBdOAbPAFBDAdNADCCAEBdBHJBkMAbGAbddHBhhpEBDAfJBdDPiPBdAAdBBFBDCgPBDBbJAcOACAgOA" ++
    "DBGAoOBCBCBCAgebEACAiAAcOCFBhEAbJBdMAdBCKBOAfOCEBCAkLCcABdLBCDDBDCKALBfFCIADACDCBCAgGCJBEA" ++
    "gLCHACDDAoOCHDDAhCCJBCAgOACBHAgIACBFAbaGCKApIFCBFADACAiPCJDFAfFAbOBdPAmKAEACAmIAPAgLAIADAn" ++
    "GEFBCAbfPBNAdBBJBCAeboJCocFdGgJBgbhEBHF"),
  ("me enclosingmark",
   "eiIBbgdFAgbPDCCifiMC"),
  ("mn nonspacingmark",
   "daAgPbbEEbaKcMCACBCBCAeJKdBbEbBAgGGDFDBCDcEAbPbKfMKdLIKAbJDCICCCEcMCdMIcLbHCbPdIACAFHFAEGL" ++
    "BbOAdLAFDJAbFBbLADBdKAFBFBDCEAbPBEAMBdKAFECBFAbFBbHFCAdLADACDJAIBMBbPAdOANAdDAEAdIACCGCCDI" ++
    "BMBbOAdLADAHAGBbFBbNBdKBFDJAbFBbOAeJAICCAfLADGNHgDADIMGeKBbMACACAdINCECBGKCcDKAgHDCFCBDBbK" ++
    "BFCbBDOADBHAbAAcmACdlDCbOBbPBbPBeBBCGJADKKAcOCCAhGBcDAhHCFBKAHCnMBDAdLACGCACADHHJDAdBNCbOD" ++
    "LbFDdBACECAGAcJINBcBDDBCCdJACBEACCdLHDBjJCCMCGFAHAEBmHdPcnBMFAELlpPCiOAgBbPccLDgMBhfnFAFJc" ++
    "BBfBBbbBAEAFAbKBGAjIBbLbBOAcHHbKKcPCdBADDDBcIAeEFDBDBNAJAdAAdEACCDBGBCAcLBJAoPADAFAepdBAco" ++
    "CPbBPdmOAoDAjGEgiHCCBGDcJCFAkGBcdODeCEbdOBeOFeHKdCDhMAdHOcKADBLCdCDDBIAdOCcFECHdPANBdFILDD" ++
    "AgACDACBHADAjOAEHbGBdKBEAcGGEEeHFOACACAPBfGHDCCAbIAfFFCAFBCBoPDHBCBbMBfGHDACBgLACADFCAgGAC" ++
    "ADDCEbaEICBbaBBCAFAjBDDBFAcBJcJFDDJAKFDCcPMCBmHACCCAmKGCFCAfDbFDGCBCBhLFEACBCGCAeJBEACAbfM" ++
    "BMBdFEGACAbIAbeoGAHOcmmJLECjmBEdMGebJAeADfCAemlJBbcgCcNDbGccBCbCHDGbPDjFChlMdGFdBJAPAbHECO" ++
    "ffBGCbADGCBCEgFAkBGbhIAdODbpNDpPBpEADAIBGAbnLGgOGmbhlGoP"),
  ("nd decimalnumber digit",
   "dAJgcHJiHJmHJbjNJhHJhHJhHJhHJhHJhHJhHJhHJhHJgBJhHJeHJbbHJeHJheHJcHJbcNJiBJkHJHJlHJfHJiHJHJ" ++
    "ijmHJckHJcHJmHJbHJfHJbjHJfdbHJfiHJiiHJHJdbNJiBJdNJjBJbbHJbfHJhHJbhHJgHJHbDeNJbkHJgHJcjHJfH" ++
    "JpHJeHJdHJbgHJebnHJjcHJfHJiHJcbHJfphHJknFdBjeBJbkHJbpHJpIJdfGJbcjHJ"),
  ("nl letternumber",
   "bgoOCkhAcCDDohPAbKIPChgkMJfkfBdEbmNAJAiHEcacLgOeliGC"),
  ("no othernumber",
   "lCBGADCjdGFbhJFhJCiGGnKGbCIblCJedGbDehEJboBAgjGAEFHJmHPcKAcnHdLePbFchHbNfgKAejFDiLJbPHCOcB" ++
    "JcIOhfhBFfinCcMeCDbCBbfGbKcFDfdFHbKGcIIeMEbHFkBBDPDcNeBIdFBbPCeMEgJHbJHcKGbeLFbgBbOjPJcLDh" ++
    "BGiHbDbhMbDfeGBbkPIdgIbCdfEbEeliHGdbPbGgecKbDNbDgNbIbfePIdkCdKCCCDeNcMCOdmDM"),
  ("pc connectorpunctuation",
   "fPAbpoABbEAnnnPBbJCpAA"),
  ("pd dashpunctuation",
   "cNAffNAdEAoeCAeaGAiaKFoaCADAcABFAbNAblPAbEAhAAmnjBBcGALAkKAogBAbdPA"),
  ("pe closepunctuation",
   "cJAdEAcAAolOACAhfPAjkKAdIAbAAchLACAbPAedPACACACACACACAfBAcBACACACACAbjFACACACACACACACACACA" ++
    "CAeBACAcCAecGACACACAcNACACACAbkNACACACACAEACACACADBmnbPAnKAbOACACACACACACACAEAbCACACAkLAdE" ++
    "AcAADADA"),
  ("pf finalpunctuation",
   "lLAbpfOAEAbNAnmJACAFADAbAAEA"),
  ("pi initialpunctuation",
   "kLAbpgNADBDAbKAnmJACAFADAbAAEA"),
  ("po otherpunctuation",
   "cBCCCDACACBLBEBbMAeFAGAPBIAclPAJAbnDFcKAdHADADAcNBbFBCBOACCeLDgHAcMNoKCdHOcAAbaGBLAiNAhJAh" ++
    "KAbiHANAbhAAfLALBkJOCAhBAeLEFBhAFkMAcgFIdaGAhNCeIBjOCCCcGFCDbdKBnJBiBGCFkBBLGbNChNDdMEdPBe" ++
    "BHMAdeDBJHJIDDDCEKCACJmjLDCBhBAjABFCDADICBCADBLECJDDCACMDCbkNCdKAlOAheaDBbaOCgEALAhEFbhNDf" ++
    "HBcJCCAdCBdAAgCMbBBhNDhPBbBBpKAfccFGDAbHAbFBDDECCDICHACBjGCCCDACACBLBEBbMAcFADBbjLCcjNAdBA" ++
    "bjPAcoIAmIAcAAbbBIcHAhBGeDGfKDddEAiFEcNDlOGgOBCDhPDdBBfADFAOACCfJFgMAbcLBCBhDELBCAgJApLbGg" ++
    "KCbNMeNAiDCpNAbaJCjMAfNHfECCEfOJnIAgAEcLBciGBeLMlAAehBElhNBdkhMBiGAeCEJAccJCbcIDbeIAemlNAb" ++
    "noIElhEAdfPB"),
  ("ps openpunctuation",
   "cIAdDAcAAolPACAhfPAjhPAEAcHAdIAbAAchLACAbPAedPACACACACACACAfBAcBACACACACAbjFACACACACACACAC" ++
    "ACACACAeBACAcCAecGACACACAbKAbDACACACAbkNACACACACAEACACACADAmncCAnIAbOACACACACACACACAEAbCAC" ++
    "ACAkLAdDAcAAEADA"),
  ("sc currencysymbol",
   "cEAhODeoKAhMAbpDBbpDBIApGAbaIAceGAjjMAimFcBihhHAffmEAgNAjLAnMBEBbppHDmdbPAjlBA"),
  ("sk modifiersymbol",
   "fOACAeIAHAFAEAcaKDNNGGCACbAhGAPBfaDAbhdFACCMCOCOCOBbajNBhggEbGKBgIBdnBAPBfaeHbAdhMACAkDApe" ++
    "bIE"),
  ("sm mathsymbol",
   "cLAbBCdOACAcOAFAcGAcAAcpPAcbACbkdMAOAcICOCiMAcIEHAeFEGBFADADAIAcABDACAcAbaLcBBfLAbPbIcJFbn" ++
    "GAKAdHHhAAbfBEDbOLPbaBiCbHdOFbPDbaBdBbEDFmpnNAddJACCkFAbBCdOACAiEAHDnkCBmbgBAhnBAbKAcAAbKA" ++
    "cAAbKAcAAbKAcAAbKAbhcNBjnPI"),
  ("so othersymbol",
   "kGADAFACAdnCAbaLBiABmPALAbEBpIAcaEAbhGAiDFCAiFAnAAcKAbiICbAACCDFbFACACAiGHCFCBGDmGBcpBJcnE" ++
    "AcnDAjOcBbgCJKIfiEBCDCBLACBHFCACACAFAMBPACBCAdLBKEDDCBCBCGCbODBCACbObaNHFbDDGDfACbNbKcHHeH" ++
    "bHKfCeNbHlGCICdFJgOCpHcNcLeBpPcaBcPbGBHcGDiJoGFbgGBcPbJCfINnFbLPFAOBNAbGBHBbfBBFJcBcFKAbBb" ++
    "OMbNJAbAbPLcGbAbdPbjmBdPfgjBdGdgCDLBCAcdOCfbeKPbgOPeBBdHHcOCboFAEAFBOBbdKIdKbADCCMEAdAcMgh" ++
    "LBcfAAeaJHigHAijGHFbAeleLDGAfbfHApgEoPLCEblDHbGbAPgBhDdNpFLcGDdLGCbHBIbNFdMbGeBEAlLfGekKbp" ++
    "PdIDdDHCNCBgmJAlfNAiCAcnCcLFgDNODOCOCcEbIkAdJbMOcLFIIBPFjLpKGcnIEbAEMEnJHLFAbALFdHJJHcHJbN" ++
    "DLFBdPbfHJNDMEKEdICAFPDLFJIjCCfLLA"),
  ("zl lineseparator",
   "cacIA"),
  ("zp paragraphseparator",
   "cacJA"),
  ("zs spaceseparator",
   "cAAiAAbfoAAjiAKcFAdAApkBA")]

end Stencil.Regex
