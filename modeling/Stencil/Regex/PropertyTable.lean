/-!
# Yes-or-no properties

Each entry holds the names of a property, without case, blanks, hyphens and underscores, and its
ranges of code points. A range is written as the gap from the end of the range before and then its
length less one; a number is written in base sixteen with the letters `a` to `p`, the last digit
in upper case.
-/

namespace Stencil.Regex

/-- The properties a character has or has not. -/
def propertyTable : List (String × String) := [
  ("alpha alphabetic",
   "eBbJHbJdAALAFAGbGCbOCbmJFLPEIACAfHAbObBCBDDCAHACCCACbDCfCCiKJkFCcFDAHcIcINCACBCBCAJbKFDbOK" ++
    "GdHCGPgFCHFHFCLCDAbBcPOgEbJcAKBFAGbHDbCbEbIIKGbHCGIAJcJLLEGHeLCPCCFOObCCHDBDbFCGCAEDEHDBDB" ++
    "CAJAFBCENBLAFCCFFBDbFCGCBCBCBFEFBDBFAIDCAbCFMCCICCCbFCGCBCEEICCCBEAbADbGDFCCHDBDbFCGCBCEEH" ++
    "DBDBKBFBCEOAbBBCFECCDEBCACBEBECELFEECCCEAHAcJMCCCbGCPEHCCCCJBCCCBDDbNDCHCCCbGCJCEEHCCCCJBG" ++
    "CCDOCNMCCCcIDHCCCCCAGDIEbHFCCCbBEbHCICADGJFCACHbDBOdJGGHAdEBCACECbHCACbCCCDECAHAPDcBAeAHCc" ++
    "DFbCFPCcDeEdGCADEbBdPLDDcFCAGADcKCbeMCDDGCACDDcICDDcACDDGCACDDOCdICDDeCcGPbBfFDFEcgLDbACbJ" ++
    "GeKEKIbDMbENbDNMCCCBNdDDbCPAFAeEfIIcKGeFLbOCLFIbIbNDEMcLFbJdHbLFdODbDdDAbIBMCdCdDCOCHdEcJD" ++
    "DLcLCKPdGbHCLcDDKGcKDCcKDCFCBEAGlPbEcBMbbFDFDcFDFDHCACACACbODdECGCAECCGEDDFFMGCCGhFAOAbBMg" ++
    "GAFADJCAEEHACACACDCKDDGEFAbCcIdcOdDhbHoEHDEBNcFCAGADdHIAbBbGKGCGCGCGCGCGCGCGCbPdAAbnGCbKII" ++
    "EDEFfFHCCfJCDGcKCfNbCbPdBPcaBbjlPeBfgiMeEcNDbaMEPLBbFcOGHEhAcIIDgGDfBbFbECcAbJdDNeDCAcNFEA" ++
    "CCLcAGcCObMEdCCLbAAbBPLECdGKNbDbGEeECACAbJCDPDDMFDFDFKGCGCcKCNHhKbGclkDNbGFdAcbaFbgNDgJcHG" ++
    "NEGLCMCECACBCBCgLcCbgKbDdPDdFcJLhFECiGcFbJHbJMfIEFDFDFDCcELCbJCbCCBCODNcDhKeGdEbaMbMEdAdAb" ++
    "PObNGcKGbNDcDFHCEcLjNbDcDFcDFcHJdDNKCOCGCBCKCOCGCBEdDNbdGKbFLHbJFCcJCIeGFDACcLCBEADbGLbGKb" ++
    "OeCbCCBLbFLbJHbJcHdHHBeBDCBGHCCCbMcLbMEbMcEHCbLbMdFLbFLbCObBgPeIdIdCOdCOcHcDbLEAGbGpLcJCBE" ++
    "BbBFdDCEbMLAJbFcLbBcPbEbMbGKeFcMELdIKAObIbIdCbCDJcCEAKdPCDKBLACAcEbBCcBDAHDdPGCACDCOCJIdIb" ++
    "IDCHDBDbFCGCBCEEHDBDBEAHAGGbNJCADACcFCJCADACDCBEACAcNeBCCCDbFCbPeBDBCAlJdFDGbKFcDdOCAEAdMd" ++
    "FDAeIbKDNbGGlKdIgIdPcAHDADHCBCbNCBDBDDfOHDcNDFCACBbMdCDJbCeHGAbDeIgIHfJcAcAICcMCGCAdCbNDbF" ++
    "CNeKGCBCcLEACBCCCADBbJFCBCcECBCDCAbIcLbaFbGKbACcIEChAAfAdjJgHgObCmDkeNgAbAecPbCFbKpjKGceGb" ++
    "klKcOgnCcdIIbObCeObCbNbDcPbBDcAbEGbCblBcMnEdPcBbIDbIcNeKFdIIbAeBBCANGKbmnFcKbPgChCcbpODCGC" ++
    "BCbcCbAAbOCDAPDJbiLjaFgKGMEIIJFAbhgCfECeGCBDADBDDCLCACGCeACDDHCGCbLCDCECAEGCbfDDbICbICbOCb" ++
    "ICbOCbICbOCbICbOCbICHhdFbOHFnGGCbADGCBCEGdNcCAhBcMLGbBAbeCbNbDcLboFbLoFbNDAnAbOCbFJBoBGCDC" ++
    "BCOCmEdMeDEAEAelFDCbKCBCADACJCDCACAHAFACACACCCBCADACACACACACBCADDCGCDCDCACJCbAGCCECbAchFbJ" ++
    "HbJHbJohHkgnPcBbbbNDbgiNDbndAbAcgNjkDcbNfoDbdeKGcbcJ"),
  ("bidic bidicontrol",
   "gbMAbjpCBbLEdID"),
  ("bidim bidimirrored",
   "cIBbDACAbNACAbOACAcOAbAAohPDhfOBjjNBLBdHBPBlCAmBDEFEAEBEDCDCACAFIGACbBGDKBCACHCbPDDGAKBDbC" ++
    "GBKEDBFbHDPJDbFBIBedONeLADDCBCCGDGCENbjEbFDFCNJAIFEAFECBDEFACCDBLFDBNbCCDDACADACDGBHCbJBMB" ++
    "FDCBDBFcKDHCcHGACAEEGCFAEECAbaBAcaEDEBCBPBDJcMHbkMJDHmodOFGBkDBbDACAbNACAbOACACBCBnhhIAdKA" ++
    "dKAdKAdKA"),
  ("ci caseignorable",
   "cHAHAMAcEACAeIAFACAFADBbpIlPFBFAKBCApMGnAAGAdCcMCACBCBCAcNAMFLKCAcEALbEbBAgGHCJCDcCACAbPbK" ++
    "fMKdLKFADAbJbHcMCcNAIBGIcKdJdIACAFHFAEGLBOAbAAdLAFDJAbFBbLADBdKAFBFBDCEAbPBEAMBdKAFECBFAbF" ++
    "BbHFCAdLADACDJAIBMBbPAdOANAdDAEAdIACCGCCDIBMBbOAdLADAHAGBbFBbNBdKBFDJAbFBbOAeJAICCAfLADGMI" ++
    "gDADIKACGeKBbMACACAdINCECBGKCcDKAgHDCFCBDBbKBFCbBDOADBHAbAAfPAcgBCdlDCbOBbPBbPBeBBCGJADKEA" ++
    "GAcOEdEAeCBcDAhHCFBKAHCnMBDAdLACGCACADHHJDAcIAJcNDLbFDdBACECAGAcJINBcBDDBCCdJACBEACCdLHDBe" ++
    "BFfDCCMCGFAHAEBdDdOOAcDgEblOACCMCOCOCOBNEJBLADADEdCECJCAOAbBMdEcAliMBhCChOAbAAgBbPdAAbnGAc" ++
    "FDEEGAfOFfOCgpbHAeoDFbaPAgDDCJCAbNDfBBPcBePAbICgHDEBJAEAFAbKBGAjIBbLbBOAcHHbKKcPCdBADDDBbC" ++
    "AbGBeDFDBDBNAJAcEAMAdEACCDBGBCAbMAPBGBCAgFEKChKADAFAepdBAjEbAcdOPEANPcDADAkKAIAHAMAcEACAdA" ++
    "AcOBeEAbGCcaCAoDAjGEeaGFCcJCIceHCCBGDcJCFAkGBcdODcHAbLECAbdMBbJAdFFeHKdCDhMAdHOcKADBLCdCDD" ++
    "BDAFALAdDCcFECHdPANBdFILDDAgACDACBHADAjOAEHbGBdKBEAcGGEEeHFOACACAPBfGHDCCAbIAfFFCAFBCBoPDH" ++
    "BCBbMBfGHDACBgLACADFCAgGACADDCEbaEICBbaBBCAFAjBDDBFAcBJcJFDDJAKFDCcPMCBmHACCCAmKGCFCAfDbFD" ++
    "GCBCBhLFEACBCGCAeJBEACAeCAbbKBMBdFEGACAbIAbenGbAHOcmmJLECjmBEdMGKDbpNCcJBboDAeAbAeBBCBOBdp" ++
    "pNDCGCBmjPBCDbcfNcNDbGccBCKPDGbPDjFChlMdGFdBJAPAbHECOffBGCbADGCBCEGdNcCAkBNbhBAdODbpMEpPBp" ++
    "EADAIBGAKAbnBGgOHklAEmamaCAbPfPiBoP"),
  ("cased",
   "eBbJHbJdAALAFAGbGCbOCmCCDFmPDcCIBbPEgBAcLDDBDDCAHACCCACbDCfCCiKJkFCcFKcIlbIcFCAGADcKCDckBf" ++
    "FDFiiDKGcKDCeBlPeBbbFDFDcFDFDHCACACACbODdECGCAECCGEDDFFMGCCGhFAOAbBMgGAFADJCAEEHACACACDCFF" ++
    "ADDGEFAbCbPEBddCdDhbHoEHDEBNcFCAGAhjbDcNbDbNiFgFEDCeMbFFCCddGcKCNHePepeBGNEeaKbJHbJekGePgB" ++
    "cDFcDhFKCOCGCBCKCOCGCBbmEADCCcJCIemGdCOdCfObFLbFlbLdPffgBdPcBbIDbIgfcNfECeGCBDADBDDCLCACGC" ++
    "eACDDHCGCbLCDCECAEGCbfDDbICbICbOCbICbOCbICbOCbICbOCbICHhdFJCbDHFbaGdNijDeDhoNbJHbJHbJ"),
  ("cwcf changeswhencasefolded",
   "eBbJfLALbGCHcBACACACACACACACACACACACACACACACACACACACACACACACACACACACADACACACACACACACACBCAC" ++
    "ACACACACACACACACACACACACACACACACACACACACACBCACACACBCACBCCDDCBCCEBCBCACACBCADACBCCCACBEAIBC" ++
    "BCBCACACACACACACACADACACACACACACACACADBCACCCACACACACACACACACACACACACACACACACACACACACACACAC" ++
    "ACACACACACAIBCBDACDCACACACApHAcLACAEAJAHACCCACBCbACIbHANCEBCACACACACACACACACACACACACBDBCAC" ++
    "BDdCdBACACACACACACACACACACACACACACACACAKACACACACACACACACACACACACACACACACACACACACACACACACAC" ++
    "ACACBCACACACACACADACACACACACACACACACACACACACACACACACACACACACACACACACACACACACACACACACACACAC" ++
    "ACACACACACACACACACACACADcFdBAlbJcFCAGAdcLFiiDJHcKDCbeBACACACACACACACACACACACACACACACACACAC" ++
    "ACACACACACACACACACACACACACACACACACACACACACACACACACACACACACACACACACACACACACACACACACACACACAC" ++
    "ACACACACACACACACACACACAGBDACACACACACACACACACACACACACACACACACACACACACACACACACACACACACACACAC" ++
    "ACACACACACACACACACACACACACACACACAKHJFLHJHJFMACACACAJHbBcPDCDFGCDFMDNEGCDFbcKAEBHAcOPbEAddD" ++
    "bJhdBcPdBACCDACACACDCADAJCCACACACACACACACACACACACACACACACACACACACACACACACACACACACACACACACA" ++
    "CACACACACACACACACACACACACACACACACAJACAFAhjeOACACACACACACACACACACACACACACACACACACACACACACAb" ++
    "EACACACACACACACACACACACACACAiIACACACACACACAEACACACACACACACACACACACACACACACACACACACACACACAC" ++
    "ACACACACACACACALACACBCACACACAFACADACAEACACACACACACACACACACECECACACACACACACACDCACBCACACACAC" ++
    "ACACACAbJAdhLePepeBGNEeaKbJemGcHiJcDjNKCOCGCBgoLdCjObFldLbPffiBbPeBbIhkeIcB"),
  ("cwcm changeswhencasemapped",
   "eBbJHbJdLALbGCbOCdPCfDCbLDNDBCAFfMCbBHbKCBCACBEBCDCEDACBDAIADACBEFGALBkHAcLDDBECCAHACCCACb" ++
    "DCcOEcACECiEJkFCcFLcGlbJcFCAGADcKDCckBfFDFiiDKGcKDClKAEAbBAhCjLDAChFDFDcFDFDHCACACACbODdEC" ++
    "GCAECCGEDDFFMGCCGbcKAEBHAbMAbCbPEBddCdDhbHhACBCBIgFIDEBNcFCAGAhjbDcNbDbLiHNDdNKOECDECbICcM" ++
    "bJBdfNAbNePepeBGNEeaKbJHbJekGePgBcDFcDhFKCOCGCBCKCOCGCBgmEdCOdCfObFLbFlbLdPffgBdPcBbIDbIhk" ++
    "cNeD"),
  ("cwl changeswhenlowercased",
   "eBbJgGbGCGcCACACACACACACACACACACACACACACACACACACACACACACACACACACACADACACACACACACACADACACAC" ++
    "ACACACACACACACACACACACACACACACACACACACACBCACAEBCACBCCDDCBCCEBCBCACACBCADACBCCCACBEAIBCBCBC" ++
    "ACACACACACACACADACACACACACACACACADBCACCCACACACACACACACACACACACACACACACACACACACACACACACACAC" ++
    "ACACACAIBCBDACDCACACACAbcCACAEAJAHACCCACBCbACIcEAJACACACACACACACACACACACAGADACBDdCdBACACAC" ++
    "ACACACACACACACACACACACACACAKACACACACACACACACACACACACACACACACACACACACACACACACACACACBCACACAC" ++
    "ACACADACACACACACACACACACACACACACACACACACACACACACACACACACACACACACACACACACACACACACACACACACAC" ++
    "ACACACACACADcFleKcFCAGAcnDfFijEAHcKDCbeBACACACACACACACACACACACACACACACACACACACACACACACACAC" ++
    "ACACACACACACACACACACACACACACACACACACACACACACACACACACACACACACACACACACACACACACACACACACACACAC" ++
    "ACACACACAKACACACACACACACACACACACACACACACACACACACACACACACACACACACACACACACACACACACACACACACAC" ++
    "ACACACACACACACACAKHJFLHJHJFMACACACAJHbJHJHJHJEMEMDNEMEbcKAEBHAcOPbEAddDbJhdBcPdBACCDACACAC" ++
    "DCADAJCCACACACACACACACACACACACACACACACACACACACACACACACACACACACACACACACACACACACACACACACACAC" ++
    "ACACACACACACACAJACAFAhjeOACACACACACACACACACACACACACACACACACACACACACACAbEACACACACACACACACAC" ++
    "ACACACACAiIACACACACACACAEACACACACACACACACACACACACACACACACACACACACACACACACACACACACACACALACA" ++
    "CBCACACACAFACADACAEACACACACACACACACACACECECACACACACACACACDCACBCACACACACACACACAbJAfhcMbJemG" ++
    "cHiJcDjNKCOCGCBgoLdCjObFldLbPffiBbPeBbIhkeIcB"),
  ("cwt changeswhentitlecased",
   "gBbJdLAcKbHCHCACACACACACACACACACACACACACACACACACACACACACACACACACACACADACACACACACACACBCACAC" ++
    "ACACACACACACACACACACACACACACACACACACACACADACACCDACADAEAGADAECDADACACADAFADAEACADAEACAFACBC" ++
    "BCACACACACACACACACBCACACACACACACACACCCACAEACACACACACACACACACACACACACACACACACACACAEACACACAC" ++
    "ACACACACAJADBCAFACACACACFCBCACBEBCDCEDACBDAIADACBEFGALBkHAcMACAEAECbDAbMcCCBECCACACACACACA" ++
    "CACACACACACECADADAdFcPCACACACACACACACACACACACACACACACACAKACACACACACACACACACACACACACACACACA" ++
    "CACACACACACACACACACADACACACACACACBCACACACACACACACACACACACACACACACACACACACACACACACACACACACA" ++
    "CACACACACACACACACACACACACACACACACACACACAdCcGohBFiiDICAoPAEAbBAhDACACACACACACACACACACACACAC" ++
    "ACACACACACACACACACACACACACACACACACACACACACACACACACACACACACACACACACACACACACACACACACACACACAC" ++
    "ACACACACACACACACACACACACACACACACGGACACACACACACACACACACACACACACACACACACACACACACACACACACACAC" ++
    "ACACACACACACACACACACACACACACACACACACACIJFLHJHJFLHJHJNDHJHJHJECBHAECCBJDDBJHLCCBbfHAcCPFAde" ++
    "MbJheHcPCAEBCACACAHADALACACACACACACACACACACACACACACACACACACACACACACACACACACACACACACACACACA" ++
    "CACACACACACACACACACACACACACACACAJACAFANcFCAGAhjbEACACACACACACACACACACACACACACACACACACACACA" ++
    "CACAbEACACACACACACACACACACACACACAiIACACACACACACAEACACACACACACACACACACACACACACACACACACACACA" ++
    "CACACACACACACACACACALACADACACACACAFAFACBDACACACACACACACACACAMACACACACACACACAFACADACACACACA" ++
    "CACACAbLAdfNAbNePepeBGNEecKbJemOcHiJcDjMKCOCGCBhaEdChObFldLbPffiBbPdMbIhkePcB"),
  ("cwu changeswhenuppercased",
   "gBbJdLAcKbHCHCACACACACACACACACACACACACACACACACACACACACACACACACACACACADACACACACACACACBCACAC" ++
    "ACACACACACACACACACACACACACACACACACACACACADACACCDACADAEAGADAECDADACACADAFADAEACADAEACAGBCBC" ++
    "BCACACACACACACACBCACACACACACACACACBCBCAEACACACACACACACACACACACACACACACACACACACAEACACACACAC" ++
    "ACACACAJADBCAFACACACACFCBCACBEBCDCEDACBDAIADACBEFGALBkHAcMACAEAECbDAbMcCCBECCACACACACACACA" ++
    "CACACACACECADADAdFcPCACACACACACACACACACACACACACACACACAKACACACACACACACACACACACACACACACACACA" ++
    "CACACACACACACACACADACACACACACACBCACACACACACACACACACACACACACACACACACACACACACACACACACACACACA" ++
    "CACACACACACACACACACACACACACACACACACACAdCcGleJcKDCcpJFiiDICAoPAEAbBAhDACACACACACACACACACACA" ++
    "CACACACACACACACACACACACACACACACACACACACACACACACACACACACACACACACACACACACACACACACACACACACACA" ++
    "CACACACACACACACACACACACACACACACACACACGGACACACACACACACACACACACACACACACACACACACACACACACACACA" ++
    "CACACACACACACACACACACACACACACACACACACACACACIJFLHJHJFLHJHJNDdECBFACAECCBFAEDDBJHLCCBFAbfCAc" ++
    "CPFAdeMbJheHcPCAEBCACACAHADALACACACACACACACACACACACACACACACACACACACACACACACACACACACACACACA" ++
    "CACACACACACACACACACACACACACACACACACACAJACAFANcFCAGAhjbEACACACACACACACACACACACACACACACACACA" ++
    "CACACACACAbEACACACACACACACACACACACACACAiIACACACACACACAEACACACACACACACACACACACACACACACACACA" ++
    "CACACACACACACACACACACACACALACADACACACACAFAFACBDACACACACACACACACACAMACACACACACACACAFACADACA" ++
    "CACACACACACAbLAdfNAbNePepeBGNEecKbJemOcHiJcDjMKCOCGCBhaEdChObFldLbPffiBbPdMbIhkePcB"),
  ("dash",
   "cNAffNAdEAoeCAeaGAiaKFdOAcIAbAAbiHAmaFADAcABFAbNAblPAbEAhAAmnjBBcGALAkKAogBAbdPA"),
  ("di defaultignorablecodepoint",
   "kNAckCAcmNAleDBgfEBfGEhpMEbLEdCPbapFAmmjMPpAAkBAfAIlmkIDbenAHmcoiGppP"),
  ("dep deprecated",
   "beJAfcKAjaEACAicKBimGFclKBnnmnHA"),
  ("dia diacritic",
   "fOACAeIAHAFADBbpIjOCHGFbCBFAKBpOEnCAdIcMCACBCBCAiEHFBiHBFBECeEbKfMKdLKcDBhPHcKJbBbLdOAbBAE" ++
    "DbNAeLAbBAgPAbBAgPAbBAdACdNAbBAIAhIAgPAbBAgPAbBAgOBbBAhNAhAANFCAgMAOEeMBbMACACAFBeDCCBdPAh" ++
    "BACBcJBFEbKGCALBcmCCdlFBbPAjFKKAbfMCbcFAbFHDAdBODKEODLeJAbAAcHIdHBdLAMBeDBeBFfDbIFAHADCdDd" ++
    "OdBcDGLcGKblOACCMCOCOCOBmpBCbdOAbpLFgKDgAAhfhDANBCAbNBfDBPcBgHCgHAHBNAcGAjIAbMbBdKDcFAgAAN" ++
    "AcFAjGCeCDdEAgFEKCiBBepdBAdaCPbaPACAdAAcOBeEAcpNAekAFCcJCIchOCFAkGBcdMFcHAbLEbiNADCeHKdCDm" ++
    "BAcKAeJBhJBdPAeNAKCgJBlDBfBBbBAbJGEEfKCCBOBgAAEAhMBpMBhPAhHBhEAbaOBbaDBFAjNAfEAbDAfCAbkGAb" ++
    "aDACBfCAeCAbgIBbIAbeoNOcmnKAjmBEdMGcdFBccDbAfBBdppPDCGCBbpaCcNDbGccBCEFJHDGbPDoiDdNmDGbhIA" ++
    "dODcpPBcoBGgOCCC"),
  ("emoji",
   "cDAHAGJhAAFAbpiOANAnJAbHAfLFbABbhABNAkHAbKKFCmIAoIBLAKAdLDCEKADADBDAFADACBDAEAEBJCGACAGLMB" ++
    "DACBCAbDADBbDFCACBEBGADBFBMBGBDAGBCACBbFBGFCDDAFADADFCADACACAHAEAHALBbAADAFACAFCCAMBdBCKAP" ++
    "APAbhFBbnACbEBdEAFAenLANAcfKACAblngLAmLAkBBNBPADJeMbJCBbIAbFADIbGBkPcBDgPDBCCDfCDCCbaGCdOM" ++
    "FCbHIBDHNADDDAFBOBDAJBKAGCNCJCDACAFAHAEAHfFdBeFGHDDEJEACBEADJoELFAbbMcOCJClIhBMEKEdICAFPDL" ++
    "FJ"),
  ("ecomp emojicomponent",
   "cDAHAGJbpnEAnGAnncMApdnHbJbpMEflBDmaggNfP"),
  ("emod emojimodifier",
   "bpdpLE"),
  ("ebase emojimodifierbase",
   "cgbNAnMAbBDbmmhIAdNCDADChGBDKbGbCEAFCCCIACAbJAmKBFAbGAFBkPCEEfEAbBCKAMAceAADAJHHAKJDCdJAdO" ++
    "BCBCAbCCCMoGCcLI"),
  ("epres emojipresentation",
   "cdbKBmODEADAcaKBbGBdDLcMAbEAOAJBbCBGBJAGAbGAIBCAFADAIAFBbNAcEACAFCCAdOCbJAPAdfMBdEAFAbmekP" ++
    "AmLAlPADJeMbJCAbJAbFADECCbGBkPcANICeFCbFNcKFENbAEAEeGCAClKDdOODCbHbDAbLBOAfHfEdBeFHAECDDED" ++
    "MBIIoELFAbbMcOCJClIhBMEKEdICAFPDLFJ"),
  ("extpict extendedpictographic",
   "kJAFAbpiOANAnJAbHAfLFbABbhABNAkHAbKKFCmIAoIBLAKAdLDCEKADADBDAFADACBDAEAEBJCGACAGLMBDACBCAb" ++
    "DADBbDFCACBEBGADBFBMBGBDAGBCACBbFBGFCDDAFADADFCADACACAHAEAHALBbAADAFACAFCCAMBdBCKAPAPAbhFB" ++
    "bnACbEBdEAFAenLANAcfKACAblngLAcIDgFLbABbAAPBcGJhBBNBPADJbEdHbMOLAbFADICDKbGHlLDgPDBCCDfCDC" ++
    "CDGpNCdOMFCbHIBDHNADDDAFBOBDAJBKAGCNCJCDACAFAHAEAHfFdBeFGHDbAEACFDMnLcFNDdJHLFcJHbPBNDDNKc" ++
    "GNcOCJClIfJHPjBbaBdpN"),
  ("ext extender",
   "lHAcbJBdgPAblKAchHAiKAfKAcpBAiAAjeEAdJAcgEAbiPAeFAbdiKAcMEgIBfOCgpbHAfpHAdmDAbHAiKAgNAbGBf" ++
    "ehMAibBBfmMAbMAFAemIAbcGAhFBbpDCenAAdeBAengJBejNBCAPBhbeJBelCAdfFC"),
  ("grbase graphemebase",
   "cAfOcCMCcfBhBHDFFGCACbDCnPIkFCcFDdBDCcPACADADAKbKFFbCJMACcNbGPCgEJAHBDAFbPDACbNbOfIMAPcKKG" ++
    "EbHFAKAEAIOCbIGACKGbPbBcJdKdGCACDJDCCIJDbMCBCHDBDbFCGCAEDEACBHBDBCAOBCCFbHGACFFBDbFCGCBCBC" ++
    "BFCbJDCAIJDCCANACICCCbFCGCBCEEDJACBEAbABFLIAJBCHDBDbFCGCBCEEADAHBDBbABCCFbBMACFECCDEBCACBE" ++
    "BECELGACBECCCEAbGbEHCCHCCCbGCPEAEDbECCBDBFJIJCKCCCbGCJCEEBDACBbICCBFJCCPKCCCcIDACBGCCCCBFC" ++
    "CJFbJDBCbBEbHCICADGKBHGIJDCNcPCBMHJMcGBCACECbHCACJCBKADECAKJDDcBbHDbKCACACNCcDbDAGADEdCHCF" ++
    "CMcGcMFAHADBDbIDDEPFMCBDFCOCcHCAGADbhICDDGCACDDcICDDcACDDGCACDDOCdICDDeCGbMEbJHfFDFDcjMEfI" ++
    "IbBObCEBKbBPMCCbAdDDAIHCBMIEJHJHKGJHfIIEDcBCAGeFLbOFDDCFBCFIAEcJDEMcLFbJHKEdIDBEdHCAKACBJF" ++
    "OJHJHNfHcPLDEHCbMKLDbPFBHdHCADCCAOcPJBGOEdNGcKDKMAOAIDCFCCDAGlPeBbbFDFDcFDFDHCACACACbODdEC" ++
    "OCNDFCbCDCCICKGbHIdAbBBDbKCMEcBdPiLFcjJbHKbGhbDDbhIEBGcMCAGADdHIBbAbGKGCGCGCGCGCGCGCGcCfNc" ++
    "DbJCfINnFbLdJHPCfFFgEGcKCfNCfFKcPChcgMEdGKbfLbFcOFALbPDePDFJnMbFbACCCDCbIDEFJHdHJeDLLbJMCc" ++
    "FJbIMANbNHcPCBFBDBCMCKFGCbICcIHBDBMCCHCADJDbPCdCCAEBDEDACAbJbADHMFDFDFKGCGCdLFhECBCDEJHclk" ++
    "DNbGFdAcbaFbgNDgJcHGNEGACbHCECACBCBCciJcBPbBJbHcCCbCCDFECiGFjMDbOEFDFDFDCEGCGOBDLCbJCbCCBC" ++
    "ODNcDhKGCFcMEfHCMEAdAcMiEbMEdAbBbKFcDKbNGcFLbNCcEFNcLjNDJHcDFcDFcHJdDMLCOCGCBCKCOCGCBEdDNb" ++
    "dGKbFLHbJFCcJCIeGFDACcLCBEADbGCeHJIdBbCCBGcAEbKGbKcHdHFbDDcObADCCCbMLIIIIdPcBcEHLKdFEbMDbK" ++
    "GbJIDNGfBeIdIdCOdCIcJNJHcFJbHJBnBbOCcJEADBbBFJIcIcHJbFMIbHbBFDcHbLbFbGKACdFbAGFbNCBDANdAFB" ++
    "DBCDPbIIJKcDGAKbBJcCCCMdDKACHFBCPCbDMbBCbLEBFFCBeAGCACDCOCKHcOCCOJJBCHDBDbFCGCBCEEACACDDBD" ++
    "BEANGbNJCADACcFCACBbAACBEACCCBcIdHJBEACbECACCbPcPCBHACBCADADDJJkHcOCBHDDADbKcFdCJBCADDMJHM" ++
    "bEcKCACBJBHJHbDbNbKEACBFAKbGlKcOKADAgFfCNHDADHCBCbHCECBHDCCKJeHHDcJJDCDbMALcHHBFHKAHBEcNOA" ++
    "DIOeIIJfIAEACAfJcBPJHICcFPACFLbMEbPbKAIADAeMGCBCcFbGAKJHFCBCcEFBCACAIJHcLFJpHbCDDKOCcDJBEb" ++
    "GfHAbAdBOdjKgHgOCEMmDkeNgCOecPbCFbKpjKGceGbklKbNNCEJgmHcdIIbOCJFfACJHbNIALcPIOLJCGCbEGbCbl" ++
    "BdJmHfKGbIDbIcNeKGdHMMeBDPEKbmnFcKbPgChCcbpODCGCBCbcCbAAbOCDAPDJbiLjaFgKGMEIIJDADApgBpMEbl" ++
    "DHbGbAbAgAhDdNpFLcGDdLGCbHBIbNFdMbGeBEAhLbDNbDNfGKbIiIfECeGCBDADBDDCLCACGCeACDDHCGCbLCDCEC" ++
    "AEGCbfDDbcDDcdBdIDdDHCNCGehFbOHFbaGdNjDcMLGDJFBbeBbNbDcLFJGAbnBbLFJnHbNDKFAmBbOCCCBCGDEKBo" ++
    "BGCDCBCOCmEDIdBeDIAFJFBdbCeDeNdMmDDCbKCBCADACJCDCACAHAFACACACCCBCADACACACACACBCADDCGCDCDCA" ++
    "CJCbAGCCECbAdFBbaPcLFgDNODOCOCcELkNdJbMOcLFIIBPFjLdnIEbAEMEnJHLFAbALFdHJJHcHJbNDLFBPIcIbfH" ++
    "JNDMEKEdICAFPDLFJIjCCgGeaGkgnPcBbbbNDbgiNDbndAbAcgNjkDcbNfoDbdeKGcbcJ"),
  ("grext graphemeextend",
   "daAgPbbEGbaIcMCACBCBCAeJKdBbEbBAgGGDFDBCDcEAbPbKfMKdLIKAbJDCICCCEcMCdMIcLbHCbPdIACAFHFAEGL" ++
    "BbOAdLACADDJAKALBbLADBdKAFBFBDCEAbPBEAMBdKAFECBFAbFBbHFCAdLACBCDJAICLBbPAdMACANAKAcJAEAdIA" ++
    "CCGCCDIBMBbOAdLADBCAECCDIBMBbNBdKBCADDJAKALBbOAeJAFADCCAJAfCADGNHgDADIMGeKBbMACACAdINCECBG" ++
    "KCcDKAgHDCFCBDBbKBFCbBDOADBHAbAAcmACdlDDbNCbOBbPBeBBCGJADKKAcOCCAhGBcDAhHCFBKAHCnMBDAdLACG" ++
    "CACADHHJDAdBcNDLbFDdBJFCcHINBcBDDFdJACBEACEdJHDBjJCCMCGFAHAEBmHdPcaNAmEcAlpPCiOAgBbPccLFgK" ++
    "BhfnFDCJcBBfBBbbBAEAFAbKBGAjIBbLbBOAcHHbKKCAcNCdBADDDBDAcFAeEFDBDBNAJAdAAdEACCDBGBCAcLBJAo" ++
    "PADAFAepdBAcoCPbBPbgPBcfOAoDAjGEgiHCCBGDcJCFAkGBcdODeCEbdOBeOFeHKdCDhMAdHOcKADBLCdCDDBIAdO" ++
    "CcFECHdPANBdFICAJDDAgACDDHADAjOAEHbGBdKBCACANAKAPGEEeEADFCADACCFCCAPBfGHDCCAbIAfCADFCADACB" ++
    "CBoMADDHBCBbMBfGHDACBgLACADHgGACADDCEbaEICBpGALDFAjBDDBFAcBJcJFDDJAKFDCcPMCBmHACCCAmKGCFCA" ++
    "fDbFDGCBCBhLFEACBCGCAeJBEACAbfMBMBdFEGCbIAbeoGAHOcmmJLECjmBEdMGebJAeADfCAMBemkMBbcgCcNDbGc" ++
    "bPEEFJHDGbPDjFChlMdGFdBJAPAbHECOffBGCbADGCBCEgFAkBGbhIAdODbpNDpPBpEADAIBGAbnLGgOGmbgnGfPiB" ++
    "oP"),
  ("hex hexdigit",
   "dAJIFbLFpokKJIFbLF"),
  ("ahex asciihexdigit",
   "dAJIFbLF"),
  ("idsb idsbinaryoperator",
   "cppABDJbpCA"),
  ("idst idstrinaryoperator",
   "cppCB"),
  ("idc idcontinue",
   "dAJIbJFACbJdAALACADAGbGCbOCbmJFLPEIACAbChECBDDCAHECACbDCfCCiKCEDkFCcFDAHcIJcMCACBCBCAJbKFD" ++
    "bOKGeJFgFCHDJCbCDAbBdKDgEPdFFADADcNbDbLFKGbHCGIeKCiADJCbCCHDBDbFCGCAEDDIDBDDJAFBCEDLLACADC" ++
    "CFFBDbFCGCBCBCBDACEFBDCEAIDCAIPMCCICCCbFCGCBCEDJCCCCDAbADDJKGCCCHDBDbFCGCBCEDIDBDCICFBCEDJ" ++
    "CAbBBCFECCDEBCACBEBECELFEECCDDAHAPJbBMCCCbGCPDICCCDIBCCCBDDDJbBDCHCCCbGCJCEDICCCDIBGCCDDJC" ++
    "CNMCCCdCCCCEGDIEDJLFCCCbBEbHCICADGEAFFCACHHJDBOdJGOCJcIBCACECbHCACbGDECACGCJDDcBAbIBHJMACA" ++
    "CAFJCcDFbDCbBCcDKAdKeJHeNDcFCAGADcKCbeMCDDGCACDDcICDDcACDDGCACDDOCdICDDeCDCKIPPbBfFDFEcgLD" ++
    "bACbJGeKEKIbFKbFMbDNMCCCBNfDEAFBDJcCCCKHfIIcKGeFLbOCLFLLcHDEMcLFbJHKcGbLFdOCbMDKHJOAJNCbOD" ++
    "LbFeMEJbCINhDNdHJJEdADKGcKDCbBCCcGGcbFDFDcFDFDHCACACACbODdECGCAECCGEDDFFMGCCGbABdCBbEAbNAO" ++
    "AbBMdEMFAELbCAFADJCADFHACACACPDDGEFAbCcIkhIoEHINcFCAGADdHIAbAbHKGCGCGCGCGCGCGCGCbPcaGCbKOC" ++
    "EDEFfFDGCfOGcKCfNbCbPdBPcaBbjlPeBfgiMeEcNDbaMEbLbFcPFJChCcGIDgGDfBbFdGFAbEdDNeFLJHbHEACdAD" ++
    "cDNbMEeAPKHbOCdGKNDJHbGEeIbJCDPDELFDFDFKGCGCcKCNHhKCBDJHclkDNbGFdAcbaFbgNDgJcHGNEGLCMCECAC" ++
    "BCBCgLcCbgKbDdPDdFcJLFPbBPEBbJCcBECiGbEJIbJFACbJLfJEFDFDFDCcELCbJCbCCBCODNcDhKeGdEiJAiDbME" ++
    "dAbAAcAbPObNGcKGbNDcDFHCEcLjNDJHcDFcDFcHJdDNKCOCGCBCKCOCGCBEdDNbdGKbFLHbJFCcJCIeGFDACcLCBE" ++
    "ADbGLbGKbOeCbCCBLbFLbJHbJcHdHHBeBDCBGHCCCbMDCFAcBbMEbMcEHCbNbKdFLbFLbCObBgPeIdIdCOdCOcHJJH" ++
    "cFEECbGpLcJCBEBbBFdDcCLAJcAcAbFcLbEbMbGKeGcAPKdLIAObIIJHdECJFDJcDDAKeEFDCMCAcEbBCcEHDdPGCA" ++
    "CDCOCJIdKGJHDCHDBDbFCGCBCECJDBDCDAHAGGDGEEMJCADACcFCJCADACDCHOBbOeKGJFDbPeFCAJJkHdFDIbIFcD" ++
    "eAEAMJcHdIIJHbDbNbKDOFJHGlKdKgGeJbGHDADHCBCbNCBDINJeHHDcNDHCBbMdOJAJeJEAbDeIgIHfJcAbAJHICc" ++
    "MCIbAJbJbNDbFCNeKGCBCcLEACBCIJJHFCBCcECBCFIJHcLFJpHbGKbACcIEEOKfGAfAdjJgHgObCmDkeNgAbAecPb" ++
    "BbFLpjKGceGbklKdJgmHcdIIbOCJHeOCJHbNDEMdGKDNJKbEGbCblBcMEJmHdPcBbIDbIcNeKFdIIbAeBBCBMGKbmn" ++
    "FcKbPgChCcbpODCGCBCbcCbAAbOCDAPDJbiLjaFgKGMEIIJEBbafCJcaHcNDbGcbPEEFJHDGbPDjFCblMfECeGCBDA" ++
    "DBDDCLCACGCeACDDHCGCbLCDCECAEGCbfDDbICbICbOCbICbOCbICbOCbICbOCbICHDdBcaBdGFdBJAPAbHECOefBb" ++
    "OHFnGGCbADGCBCEGdNcCAhBcMENDJFAbeCbObCdJbnHcJnHcKmGbOCbFJBoBGCDCBCOCmEMGcKeLFJekHDCbKCBCAD" ++
    "ACJCDCACAHAFACACACCCBCADACACACACACBCADDCGCDCDCACJCbAGCCECbAndFJeaHkgnPcBbbbNDbgiNDbndAbAcg" ++
    "NjkDcbNfoDbdeKGcbcJkmmiHoP"),
  ("ids idstart",
   "eBbJHbJdAALAFAGbGCbOCbmJFLPEIACAiCECBDDCAHACCCACbDCfCCiKJkFCcFDAHcIeIbKFDcOcKcEBCgCCAbABIB" ++
    "LCDAbBACbNbOfIMAbJcAKBFAGbFFAKAEAbIbIIKGbHCGbBcJdLdFEAbDAIJbAPFHDBDbFCGCAEDEAbBAOBCCPBLAJF" ++
    "FBDbFCGCBCBCBcADCAbECbBICCCbFCGCBCEEAbDAbABbIAMHDBDbFCGCBCEEAbPBCCbAAbCACFECCDEBCACBEBECEL" ++
    "bHAdFHCCCbGCPEAbLCCBDBbPAFHCCCbGCJCEEAbPCCBbABbCICCCcIDAbBAGCJCbJFGbBEbHCICADGdLcPCBNGdLBC" ++
    "ACECbHCACJCBKADECAbGDcBAeAHCcDbMEhEcKbFAbBFFDEAEBICFMNAbCcFCAGADcKCbeMCDDGCACDDcICDDcACDDG" ++
    "CACDDOCdICDDeCcGPbBfFDFEcgLDbACbJGeKEKIbBObCPbBPMCCbAdDcEAFAeEfIIcICAGeFLbOdCbNDEMcLFbJdHb" ++
    "GKdEfDAfOcObCHdHbNOBLcLbLcDcKCLcDDKGcKDCcKDCFCBEAGlPeBbbFDFDcFDFDHCACACACbODdECGCAECCGEDDF" ++
    "FMGCCGhFAOAbBMgGAFADJCADFHACACACPDDGEFAbCcIkhIoEHDEBNcFCAGADdHIAbBbGKGCGCGCGCGCGCGCGccHCbK" ++
    "IIEDEFfFFECfJCDGcKCfNbCbPdBPcaBbjlPeBfgiMeEcNDbaMEPLBbFcObBbODePcIIDgGDfBbFbACCCDCbGbOdDPd" ++
    "BdPFEACBMbLLbGbKbMIcObNAbBECJLECcIbICCHbFbGEAEdBCAEBDEDACAbJCDKICNFDFDFKGCGCcKCNHhCbOclkDN" ++
    "bGFdAcbaFbgNDgJcHGNEGACJCMCECACBCBCgLcCbgKbDdPDdFcJLhFECiGcFbJHbJMfIEFDFDFDCcELCbJCbCCBCOD" ++
    "NcDhKeGdEbaMbMEdAdAbPObNGcFLbNDcDFHCEcLjNbDcDFcDFcHJdDNKCOCGCBCKCOCGCBEdDNbdGKbFLHbJFCcJCI" ++
    "eGFDACcLCBEADbGLbGKbOeCbCCBLbFLbJHbJcHdHHBeBAbADCCCbMcLbMEbMcEHCbLbMdFLbFLbCObBgPeIdIdCOdC" ++
    "OcDcHbLKbGpLcJHBbBFdJbMLAJbFcLbBcPbEbMbGNdEdKBDAOcMcBbIbLcDbOADAJcCEANcPPDbGACAcEbBCbIbEBe" ++
    "AGCACDCOCJIcOcHHDBDbFCGCBCEEAbDANEbPJCADACcFCAbKACAcNdEbDDbFCbPcPbFBCAlJcOcKDcFcPbFAdMcKOA" ++
    "eIbKcGGlKcLhFdPcAHDADHCBCbHbAACAfPHDcGbBACAbNALcHIAbGAMcNbEAbDeImIcAcAICcEbCAdCbNhBGCBCcFb" ++
    "GAbKFCBCbPPAbIcLbaFbCbAACMCcBhNAfAdjJgHgObCmDkeNgAbAecPbCFbKpjKGceGbklKbNgoDcdIIbObCeObCbN" ++
    "bDcPbBDcAbEGbCblBcMnEdPcBbIDbIcNeKGAeDMeBBCAPEKbmnFcKbPgChCcbpODCGCBCbcCbAAbOCDAPDJbiLjaFg" ++
    "KGMEIIJbhgHfECeGCBDADBDDCLCACGCeACDDHCGCbLCDCECAEGCbfDDbICbICbOCbICbOCbICbOCbICbOCbICHhdFb" ++
    "OHFbaGdNjDcMLGbBAbeCbNbDcLboFbLoFbNDAnAbOCCCBCGDEKBoBGCDCBCOCmEdMeDIAelFDCbKCBCADACJCDCACA" ++
    "HAFACACACCCBCADACACACACACBCADDCGCDCDCACJCbAGCCECbAbbeFkgnPcBbbbNDbgiNDbndAbAcgNjkDcbNfoDbd" ++
    "eKGcbcJ"),
  ("ideo ideographic",
   "daaGBbKIPCdmGbjlPeBfbpPfjaBbgNDgJhfaLAOEKbmnFcKbPgChCcdhObiLenaFkgnPcBbbbNDbgiNDbndAbAcgNj" ++
    "kDcbNfoDbdeKGcbcJ"),
  ("joinc joincontrol",
   "caaMB"),
  ("loe logicalorderexception",
   "oeAEhMEkpBCDAjapLBDACB"),
  ("lower lowercase",
   "gBbJdAALAFAcFbHCHCACACACACACACACACACACACACACACACACACACACACACACACACACACACBCACACACACACACACBC" ++
    "ACACACACACACACACACACACACACACACACACACACACACACADACACCDACADAEBFADAECDADACACADACBCADAEACADBDCH" ++
    "ADADACACACACACACACACBCACACACACACACACACBDACAEACACACACACACACACACACACACACACACACACACACACACACAC" ++
    "ACACACACACACGDADBCAFACACACACeEDcCIBbPEgBAcMACAEADDbDAbMcCCBECCACACACACACACACACACACACECADAD" ++
    "BdEcPCACACACACACACACACACACACACACACACACAKACACACACACACACACACACACACACACACACACACACACACACACACAC" ++
    "ACADACACACACACACBCACACACACACACACACACACACACACACACACACACACACACACACACACACACACACACACACACACACAC" ++
    "ACACACACACACACACACACACAdBcIleIcKCDcpJFiiDICAhGlPeCACACACACACACACACACACACACACACACACACACACAC" ++
    "ACACACACACACACACACACACACACACACACACACACACACACACACACACACACACACACACACACACACACACACACACACACACAC" ++
    "ACACACACACACACACACICACACACACACACACACACACACACACACACACACACACACACACACACACACACACACACACACACACAC" ++
    "ACACACACACACACACACACACACACIJFLHJHJFLHJHJNDHJHJHJECBHAECCBJDDBJHLCCBhKAOAbBMgOAEBEAbMAFAFAD" ++
    "BJDFAcCPFAdeMbJheHcPCAEBCACACAFACBCHEACACACACACACACACACACACACACACACACACACACACACACACACACACA" ++
    "CACACACACACACACACACACACACACACACACACACACACACACBIACAFANcFCAGAhjbEACACACACACACACACACACACACACA" ++
    "CACACACACACACACACAbEACACACACACACACACACACACACACCiGACACACACACACCCACACACACACACACACACACACACACA" ++
    "CACACACACACACACACACACACACACACACACJCACADACACACACAFACADACCCACACACACACACACACACAGAGACACACACACA" ++
    "CACAFACADACACACACACACACAbGDCACCddGcKCNHePepeBGNEecKbJemOcHiJcDjMKCOCGCBbmEADCCcJCIfaGdChOb" ++
    "FldLbPffiBbPdMbIgfeHbJbLGCbBbLbJbLDCACGCKbLbJbLbJbLbJbLbJbLbJbLbJbLbJbLbJbLbLbNbICFbLbICFb" ++
    "LbICFbLbICFbLbICFCAhdFJCbDHFbaGdNilFcB"),
  ("math",
   "cLAbBCcAAbOACAcOAFAcGAcAAcnJCDAbLBDCcbACbkaOAbMCMAEAOAPDbGEMEeCMFAEBFEbDAFADJCADFHAEBDBCCC" ++
    "FENCAeFbHCFCBFBFbPCAHBPbaLJDbFBfLAbPbKCAbJAMGblOBNJFFFBDBEEPACADFMHGBdKACAbODKCbfBdPbaBbpP" ++
    "dBbEDFmpnNAddIFCAkDAbBCbOACAbOACAiEAHDnkCBmbgBAfbAfECeGCBDADBDDCLCACGCeACDDHCGCbLCDCECAEGC" ++
    "bfDDbcDDdBbgaBDCbKCBCADACJCDCACAHAFACACACCCBCADACACACACACBCADDCGCDCDCACJCbAGCCECbAdFBjnPI"),
  ("nchar noncharactercodepoint",
   "pnnAbPcaPBpppPBpppPBpppPBpppPBpppPBpppPBpppPBpppPBpppPBpppPBpppPBpppPBpppPBpppPBpppPBpppPB"),
  ("patsyn patternsyntax",
   "cBOLGbLDCAbLDcDGCACBCACBFAFAEAbIAcAAbpbJbHJODbCCJbdCcmPkBchFbPegLcaBhPbiCCFbIbAAmnaOBbaGB"),
  ("patws patternwhitespace",
   "JEbDAgFAbpiJBbJB"),
  ("qmark quotationmark",
   "cCAFAiEAbAAbpfNHbKBoaIAbmKDOCmocCDlOAFAfLB"),
  ("radical",
   "coiAbJCfINnF"),
  ("ri regionalindicator",
   "bpboGbJ"),
  ("sterm sentenceterminal",
   "cBANAbBAfeKAjEClFAcMCpHAdOACAEBbcGBgoFBdbHAFBdaGAmHBjOBcOAGAbdLBbgDDkDBLBDBbOClMBeCBdkFAbI" ++
    "BKCmlACbdDAOAbHBbkOAhepNAbaPBoEAEAbhPBfHBgAAjJBjECjBBpKAfccHADBdMAEBkKANAbBAeCAkpFBepOEcND" ++
    "lOBhGDiACiCBHAbBBfJBCBgNAbcLBhGBbhGBGOgKBpKCcaGACApMBfIBbkFBclFBeLBelcKBiGAeCBMAccKBbcJAeo" ++
    "aHAbnoJA"),
  ("sd softdotted",
   "gJBmFAbbKAbPAdFAbFAbeBAgDACAbjaKAdEAOAEAiFAjOAbkGAnHBldDAbkhkGBdDBdDBdDBdDBdDBdDBdDBdDBdDB" ++
    "dDBdDBdDBiiHAbdCBbLA"),
  ("term terminalpunctuation",
   "cBALACAMBEAddPAJAcaCAdKAeJAPACClFAcMKCAoMBdHFCHcAAbaGBepFBkNAFFbdIBdbGHdaGAhNCeIBjOCEAcIDD" ++
    "BbdLBbgDDkDBLBCCbOClMEdPBdkFAbIBKCmlACbdDAOAFALACBEBbkNBhepMBbaOCoEEbhPBfHBgAAjICjECiAAbBB" ++
    "pKAfccHADBdKCCDkKALACAMBEAeCADAedLAdBAeiHAmIAbdHBjJFeFFfKDdlJEcNDlOGhBDiACiCBHAbBBfJEgNAbc" ++
    "LBhGCNBbgHDEOgKBpKCcaGACApMBfIBFBbjPCcOAciGBeLBfcMEefpKBiGAeCCLAccKBbcIBeoaHAbnoID"),
  ("uideo unifiedideograph",
   "deaAbjlPeBfbpPfkaPBCACBLACACBDCbafnHkgnPcBbbbNDbgiNDbndAbAcgNbbkDbdeKGcbcJ"),
  ("upper uppercase",
   "eBbJgGbGCGcCACACACACACACACACACACACACACACACACACACACACACACACACACACACADACACACACACACACADACACAC" ++
    "ACACACACACACACACACACACACACACACACACACACACBCACAEBCACBCCDDCBCCEBCBCACACBCADACBCCCACBEAIADADAD" ++
    "ACACACACACACACADACACACACACACACACADADACCCACACACACACACACACACACACACACACACACACACACACACACACACAC" ++
    "ACACACAIBCBDACDCACACACAbcCACAEAJAHACCCACBCbACIcEADCEACACACACACACACACACACACAGADACBDdCdBACAC" ++
    "ACACACACACACACACACACACACACACAKACACACACACACACACACACACACACACACACACACACACACACACACACACACBCACAC" ++
    "ACACACADACACACACACACACACACACACACACACACACACACACACACACACACACACACACACACACACACACACACACACACACAC" ++
    "ACACACACACACADcFleKcFCAGAcnDfFijEAHcKDCbeBACACACACACACACACACACACACACACACACACACACACACACACAC" ++
    "ACACACACACACACACACACACACACACACACACACACACACACACACACACACACACACACACACACACACACACACACACACACACAC" ++
    "ACACACACACAKACACACACACACACACACACACACACACACACACACACACACACACACACACACACACACACACACACACACACACAC" ++
    "ACACACACACACACACACAKHJFLHJHJFMACACACAJHeJDNDNDNEMDbaHAFAECDCDAEEHACACACDDDLBGAbLPbEAddDbJh" ++
    "dBcPdBACCDACACACDCADAJCCACACACACACACACACACACACACACACACACACACACACACACACACACACACACACACACACAC" ++
    "ACACACACACACACACACACACACACACACAJACAFAhjeOACACACACACACACACACACACACACACACACACACACACACACAbEAC" ++
    "ACACACACACACACACACACACACAiIACACACACACACAEACACACACACACACACACACACACACACACACACACACACACACACACA" ++
    "CACACACACACALACACBCACACACAFACADACAEACACACACACACACACACACECECACACACACACACACDCACBCACACACACACA" ++
    "CACAbJAfhcMbJemGcHiJcDjNKCOCGCBgoLdCjObFldLbPffiBbPeBbIgfeIbJbLbJbLbJbLACBDADBDDCHbLbJbLBC" ++
    "DDHCGbMBCDCECAEGbMbJbLbJbLbJbLbJbLbJbLbJbPbIcCbIcCbIcCbIcCbIcCAbbdGcBiaPbJHbJHbJ"),
  ("vs variationselector",
   "biaLCCAofpBPnacpBoP"),
  ("wspace whitespace space",
   "JEbDAgFAbLAbfoAAjiAKbOBGAdAApkBA"),
  ("xidc xidcontinue",
   "dAJIbJFACbJdAALACADAGbGCbOCbmJFLPEIACAbChECBECCAHECACbDCfCCiKCEDkFCcFDAHcIJcMCACBCBCAJbKFD" ++
    "bOKGeJFgFCHDJCbCDAbBdKDgEPdFFADADcNbDbLFKGbHCGIeKCiADJCbCCHDBDbFCGCAEDDIDBDDJAFBCEDLLACADC" ++
    "CFFBDbFCGCBCBCBDACEFBDCEAIDCAIPMCCICCCbFCGCBCEDJCCCCDAbADDJKGCCCHDBDbFCGCBCEDIDBDCICFBCEDJ" ++
    "CAbBBCFECCDEBCACBEBECELFEECCDDAHAPJbBMCCCbGCPDICCCDIBCCCBDDDJbBDCHCCCbGCJCEDICCCDIBGCCDDJC" ++
    "CNMCCCdCCCCEGDIEDJLFCCCbBEbHCICADGEAFFCACHHJDBOdJGOCJcIBCACECbHCACbGDECACGCJDDcBAbIBHJMACA" ++
    "CAFJCcDFbDCbBCcDKAdKeJHeNDcFCAGADcKCbeMCDDGCACDDcICDDcACDDGCACDDOCdICDDeCDCKIPPbBfFDFEcgLD" ++
    "bACbJGeKEKIbFKbFMbDNMCCCBNfDEAFBDJcCCCKHfIIcKGeFLbOCLFLLcHDEMcLFbJHKcGbLFdOCbMDKHJOAJNCbOD" ++
    "LbFeMEJbCINhDNdHJJEdADKGcKDCbBCCcGGcbFDFDcFDFDHCACACACbODdECGCAECCGEDDFFMGCCGbABdCBbEAbNAO" ++
    "AbBMdEMFAELbCAFADJCADFHACACACPDDGEFAbCcIkhIoEHINcFCAGADdHIAbAbHKGCGCGCGCGCGCGCGCbPcaGCbKOC" ++
    "EDEFfFDBDCCfOGcKCfNbCbPdBPcaBbjlPeBfgiMeEcNDbaMEbLbFcPFJChCcGIDgGDfBbFdGFAbEdDNeFLJHbHEACd" ++
    "ADcDNbMEeAPKHbOCdGKNDJHbGEeIbJCDPDELFDFDFKGCGCcKCNHhKCBDJHclkDNbGFdAcbaFbgNDgJcHGNEGLCMCEC" ++
    "ACBCBCgLcCiKHnJbDdPDdFcJJHPbBPEBbJCcCACAEACACACAChNbEJIbJFACbJLfJEFDFDFDCcELCbJCbCCBCODNcD" ++
    "hKeGdEiJAiDbMEdAbAAcAbPObNGcKGbNDcDFHCEcLjNDJHcDFcDFcHJdDNKCOCGCBCKCOCGCBEdDNbdGKbFLHbJFCc" ++
    "JCIeGFDACcLCBEADbGLbGKbOeCbCCBLbFLbJHbJcHdHHBeBDCBGHCCCbMDCFAcBbMEbMcEHCbNbKdFLbFLbCObBgPe" ++
    "IdIdCOdCOcHJJHcFEECbGpLcJCBEBbBFdDcCLAJcAcAbFcLbEbMbGKeGcAPKdLIAObIIJHdECJFDJcDDAKeEFDCMCA" ++
    "cEbBCcEHDdPGCACDCOCJIdKGJHDCHDBDbFCGCBCECJDBDCDAHAGGDGEEMJCADACcFCJCADACDCHOBbOeKGJFDbPeFC" ++
    "AJJkHdFDIbIFcDeAEAMJcHdIIJHbDbNbKDOFJHGlKdKgGeJbGHDADHCBCbNCBDINJeHHDcNDHCBbMdOJAJeJEAbDeI" ++
    "gIHfJcAbAJHICcMCIbAJbJbNDbFCNeKGCBCcLEACBCIJJHFCBCcECBCFIJHcLFJpHbGKbACcIEEOKfGAfAdjJgHgOb" ++
    "CmDkeNgAbAecPbBbFLpjKGceGbklKdJgmHcdIIbOCJHeOCJHbNDEMdGKDNJKbEGbCblBcMEJmHdPcBbIDbIcNeKFdI" ++
    "IbAeBBCBMGKbmnFcKbPgChCcbpODCGCBCbcCbAAbOCDAPDJbiLjaFgKGMEIIJEBbafCJcaHcNDbGcbPEEFJHDGbPDj" ++
    "FCblMfECeGCBDADBDDCLCACGCeACDDHCGCbLCDCECAEGCbfDDbICbICbOCbICbOCbICbOCbICbOCbICHDdBcaBdGFd" ++
    "BJAPAbHECOefBbOHFnGGCbADGCBCEGdNcCAhBcMENDJFAbeCbObCdJbnHcJnHcKmGbOCbFJBoBGCDCBCOCmEMGcKeL" ++
    "FJekHDCbKCBCADACJCDCACAHAFACACACCCBCADACACACACACBCADDCGCDCDCACJCbAGCCECbAndFJeaHkgnPcBbbbN" ++
    "DbgiNDbndAbAcgNjkDcbNfoDbdeKGcbcJkmmiHoP"),
  ("xids xidstart",
   "eBbJHbJdAALAFAGbGCbOCbmJFLPEIACAiCECBECCAHACCCACbDCfCCiKJkFCcFDAHcIeIbKFDcOcKcEBCgCCAbABIB" ++
    "LCDAbBACbNbOfIMAbJcAKBFAGbFFAKAEAbIbIIKGbHCGbBcJdLdFEAbDAIJbAPFHDBDbFCGCAEDEAbBAOBCCPBLAJF" ++
    "FBDbFCGCBCBCBcADCAbECbBICCCbFCGCBCEEAbDAbABbIAMHDBDbFCGCBCEEAbPBCCbAAbCACFECCDEBCACBEBECEL" ++
    "bHAdFHCCCbGCPEAbLCCBDBbPAFHCCCbGCJCEEAbPCCBbABbCICCCcIDAbBAGCJCbJFGbBEbHCICADGdLcPCAOGdLBC" ++
    "ACECbHCACJCALADECAbGDcBAeAHCcDbMEhEcKbFAbBFFDEAEBICFMNAbCcFCAGADcKCbeMCDDGCACDDcICDDcACDDG" ++
    "CACDDOCdICDDeCcGPbBfFDFEcgLDbACbJGeKEKIbBObCPbBPMCCbAdDcEAFAeEfIIcICAGeFLbOdCbNDEMcLFbJdHb" ++
    "GKdEfDAfOcObCHdHbNOBLcLbLcDcKCLcDDKGcKDCcKDCFCBEAGlPeBbbFDFDcFDFDHCACACACbODdECGCAECCGEDDF" ++
    "FMGCCGhFAOAbBMgGAFADJCADFHACACACPDDGEFAbCcIkhIoEHDEBNcFCAGADdHIAbBbGKGCGCGCGCGCGCGCGccHCbK" ++
    "IIEDEFfFHCCfJCDGcKCfNbCbPdBPcaBbjlPeBfgiMeEcNDbaMEPLBbFcObBbODePcIIDgGDfBbFbACCCDCbGbOdDPd" ++
    "BdPFEACBMbLLbGbKbMIcObNAbBECJLECcIbICCHbFbGEAEdBCAEBDEDACAbJCDKICNFDFDFKGCGCcKCNHhCbOclkDN" ++
    "bGFdAcbaFbgNDgJcHGNEGACJCMCECACBCBCgLcCiKHnJbDdPDdFcJJhIACAEACACACAChNcFbJHbJMdHDbOEFDFDFD" ++
    "CcELCbJCbCCBCODNcDhKeGdEbaMbMEdAdAbPObNGcFLbNDcDFHCEcLjNbDcDFcDFcHJdDNKCOCGCBCKCOCGCBEdDNb" ++
    "dGKbFLHbJFCcJCIeGFDACcLCBEADbGLbGKbOeCbCCBLbFLbJHbJcHdHHBeBAbADCCCbMcLbMEbMcEHCbLbMdFLbFLb" ++
    "CObBgPeIdIdCOdCOcDcHbLKbGpLcJHBbBFdJbMLAJbFcLbBcPbEbMbGNdEdKBDAOcMcBbIbLcDbOADAJcCEANcPPDb" ++
    "GACAcEbBCbIbEBeAGCACDCOCJIcOcHHDBDbFCGCBCEEAbDANEbPJCADACcFCAbKACAcNdEbDDbFCbPcPbFBCAlJcOc" ++
    "KDcFcPbFAdMcKOAeIbKcGGlKcLhFdPcAHDADHCBCbHbAACAfPHDcGbBACAbNALcHIAbGAMcNbEAbDeImIcAcAICcEb" ++
    "CAdCbNhBGCBCcFbGAbKFCBCbPPAbIcLbaFbCbAACMCcBhNAfAdjJgHgObCmDkeNgAbAecPbCFbKpjKGceGbklKbNgo" ++
    "DcdIIbObCeObCbNbDcPbBDcAbEGbCblBcMnEdPcBbIDbIcNeKGAeDMeBBCAPEKbmnFcKbPgChCcbpODCGCBCbcCbAA" ++
    "bOCDAPDJbiLjaFgKGMEIIJbhgHfECeGCBDADBDDCLCACGCeACDDHCGCbLCDCECAEGCbfDDbICbICbOCbICbOCbICbO" ++
    "CbICbOCbICHhdFbOHFbaGdNjDcMLGbBAbeCbNbDcLboFbLoFbNDAnAbOCCCBCGDEKBoBGCDCBCOCmEdMeDIAelFDCb" ++
    "KCBCADACJCDCACAHAFACACACCCBCADACACACACACBCADDCGCDCDCACJCbAGCCECbAbbeFkgnPcBbbbNDbgiNDbndAb" ++
    "AcgNjkDcbNfoDbdeKGcbcJ")]

end Stencil.Regex
