import PathVersions.Unicode.CharClass

/-!
# General categories

The general category of every character, one table of ranges for each two-letter
category, and the groups of categories that have a name of their own.
-/

namespace PathVersions
namespace Unicode
namespace GeneralCategory

/-- Each two-letter category with its ranges, written as `CodeRange.decode` reads them. -/
def tables : List (String × String) :=
  [("Lu", "cNZdXWBGbHABABABABABABABABABABABABABABABABABABABABABABABABABABABACABABABABABABABACABABABABA
     BABABABABABABABABABABABABABABABABABABBBABADBBABBBCCDBBBCDBBBBABABBBACABBBCBABBDAHACACACABAB
     ABABABABABACABABABABABABABABACACABCBABABABABABABABABABABABABABABABABABABABABABABABABABABABA
     BAHBBBCABDBABABABAlDABADAIAGABCBABBBQBIbJACCDABABABABABABABABABABABAFACABBCbYbWABABABABABAB
     ABABABABABABABABABABAJABABABABABABABABABABABABABABABABABABABABABABABABABABABBBABABABABABACA
     BABABABABABABABABABABABABABABABABABABABABABABABABABABABABABABABABABABABABABABABABABABABABAB
     ABACbLehDbLBAFAbbUdHdgLAGbQCCmIABABABABABABABABABABABABABABABABABABABABABABABABABABABABABAB
     ABABABABABABABABABABABABABABABABABABABABABABABABABABABABABABABABABABABABABABABABABABABABAJA
     BABABABABABABABABABABABABABABABABABABABABABABABABABABABABABABABABABABABABABABABABABABABABAB
     ABABAJHIFKHIHIFLABABABAIHcUDMDMDMELDkCAEADCCCCADEGABABABDCDKBFAcJAdzGbVbWABCCABABABDBACAICB
     ABABABABABABABABABABABABABABABABABABABABABABABABABABABABABABABABABABABABABABABABABABABABABA
     BABABAIABAEAbtyJABABABABABABABABABABABABABABABABABABABABABABATABABABABABABABABABABABABABAfF
     ABABABABABABADABABABABABABABABABABABABABABABABABABABABABABABABABABABABABABAKABABBBABABABAEA
     BACABADABABABABABABABABABABEBEBABABABABABABABDBABBDAFABABABAYAbhaHZbuZbNfGbJgAKBOBGBBcqCbYg
     BVegObFbgjWbFbmmQZbAZbAZbAABBCACBCDBHbAZbABBDCHBGbBBBDBEBADGbBZbAZbAZbAZbAZbAZbEYbHYbHYbHYb
     HYbHAgnLbH"),
   ("Ll", "dTZcGAbPXBHBABABABABABABABABABABABABABABABABABABABABABABABABABABABBBABABABABABABABBBABABABA
     BABABABABABABABABABABABABABABABABABABACABABCCABACADBEACADCCACABABACABBBACADABACBCCGACACABAB
     ABABABABABABBBABABABABABABABABBCABADABABABABABABABABABABABABABABABABABABABABABABABABABABABA
     BABGCACBBAEABABABABcQBbAhLABADADCSAbBbIBBDCBABABABABABABABABABABABEBACACBbZbVBABABABABABABA
     BABABABABABABABABABAJABABABABABABABABABABABABABABABABABABABABABABABABABABACABABABABABABBBAB
     ABABABABABABABABABABABABABABABABABABABABABABABABABABABABABABABABABABABABABABABABABABABABABA
     BAbWbOehBbQCCbdGFdfUIBAeNbRcLMBbHdYABABABABABABABABABABABABABABABABABABABABABABABABABABABAB
     ABABABABABABABABABABABABABABABABABABABABABABABABABABABABABABABABABABABABABABABABABABABABABA
     BIBABABABABABABABABABABABABABABABABABABABABABABABABABABABABABABABABABABABABABABABABABABABAB
     ABABABABIIFKHIHIFKHIHINCHIHIHIEBBGADCBBIDCBIHKCBBkOADBDAbBAEAEACBIDEAcBAebBbVBADBBABABAEABB
     BFFABABABABABABABABABABABABABABABABABABABABABABABABABABABABABABABABABABABABABABABABABABABAB
     ABABABABABBHABAEAMbLBAFAbtwDABABABABABABABABABABABABABABABABABABABABABABATABABABABABABABABA
     BABABABABAfFABABABABABABCBABABABABABABABABABABABABABABABABABABABABABABABABABABABABABABABHBA
     BACABABABABAEABACABCBABABABABABABABABABAFAFABABABABABABABAEABACADABABABABABAbAADAbfPbQFIHdB
     beaIGMEboZZbvHbNfGbJfZKBOBGBBcrBbYeVVegObFbgjWbFbmmKZbAGBRbAZbADBABGBKbAZbAZbAZbAZbAZbAZbAZ
     bAZbAbBbCYBFbAYBFbAYBFbAYBFbAYBFBAcsYJBTGFduDbH"),
   ("Lt", "rLACACAbMAlfHHIHIHMAPAbVA"),
   ("Lm", "baMRELOEHABAfDAFAsKAiWAgIBkJBEAbFAJADAgEAgLAbvOAeXAvTAcpMAeDAxNArWFgScKNAbIbKbaNANAQMemXBjH
     AhJAsBAbREFAdTBdPCbqbUAbwCFkKAeKAbCBeRIdCAXAeBCDBsBAWAfHAeEAVBdZDJAbfvIAbTBczOFBbPBIccXAbGA
     bjnSDtOCbOBvEMcMBBAygQDBGBBsgNcJhTGbkFAbrBA"),
   ("Lo", "gOAPAjWAEDiAAbfVbAEDbTbFBJbJBBdUBAYBKCCAQABbDbDdKLAYbGVVbQYHKFXBFRbOcHcBDASAHJQOEHCBCVBGBAD
     DDAQANBBCOBKAIFEBCVBGBBBBBBbFDBATCQIBCBVBGBBBEDASAPBXALHCBCVBGBBBEDAbEBBCPARABFDCBDDBBABBDB
     DCDLWAcAHBCBWBPDAbACCACBbEAEHBCBWBJBEDAbFBBBPBRIBCBbOCAQAFCICYFFRDXBIBACGcGbVBBMFcHBBABEBXB
     ABJBBJACEXDbGAcLHBbJbBEeLbQUAQFEDDADBHCEMMAeJmQBDCGBABDCbOBDCbGBDCGBABDCOBcEBDCcObLPeJxVCQB
     ZFcWGHHRNSOROMBCPbZbOAcPbIBcAHECbHBAFcRKbEbXbDCELbREZcCWJcAgUbURHcCbDNBKbRbAbJbPCKbDeJDBFBB
     DAbpQDenVcDYWJGBGBGBGBGBGBGBGvFAcBAEdHIABdLEAFbQBdPRbFbWPtSjtNcMbfcEBbrYcPbNIkHEPKBcOAbXcRg
     NAdZADGBCBDBWbDbZObXcKFDABBLbBKWZbCHbUbTECIKEBbOXCBHUPBFDADbXBADBCECABAYBDKHAOFCFCFJGBGfPbI
     bDqnRMWEbWmnCoBCeBcPABJBMBEBABBBBBeDbHnYScLCcBbOLeMEBfEeBJBbSCbEDFCFCFCCbJLBZBSBBBOCNbIeSoZ
     bCDbWbVbFNTBHGbLKbDCbJEHeYcZdUbNIbZdObZMlYJVKHfWFCABbRBBDACWKWJbEcNSBBKVKZcScDGBcMAPDBCBbCb
     QbCDbCbJHBbBbBcBKVKSNReGcUhBbJbMDBAlSbPGBQCcHbCKAIVbQRbUUbBWMcAcFBCANbSbGYbAbJbDACAIbIDAMbV
     ODVABAbJRBYTBcLGBABDBOBJHbUbMHCBCVBGBBBEDASAMEbEJBACABbLBAZABAbScASDUCbEbVUBBAhCbUbPDbKbVUA
     cHbQNAcTbAbLGhDbRiDHCACHBBBXPABAdQHCbMQABAbCAKbNHAVALbTTAScUhRbGbFIBbKRAbXbDeIGBBBbLVAZFBBB
     bFOAmPSPABMBbHeUAdBbjLiWhNdxKdSPbpFRFZfxQFwKkdDbDcpUvWHbERdARbDSbVbZUFSqTbNpPcWFAgTjbZIbvPb
     PJngHlEPAbDCCAODIpFdkUeCFMDIHJnbCAtHbSbHAmJbDSbRsQbAiVbDCAtBGBDBBBOBhObzNDBbABBBACABJBDBABA
     GAEABABABCBBBACABABABABABBBACDBGBDBDBABJBQFCBEBQgoAclfBbGgdTGiNCinPOlbKPxXdqWuVcfYhhYFgfF"),
   ("Mn", "bdOeHkPEkFbSBABBBBBAcUKbWUQAdXGCFCBBDbJAbEbAdNKcGIJAYDBIBCBEbRCcHIbQXBbFcDABAEHEADGKBbDAcGA
     EDIAUBbAACBcFAEBEBCCDAbEBDALBcFAEEBBEAUBWFBAcGACABDIAHBLBbEAcJAMAbYADAcDABCFCBDHBLBbDAcGACA
     GAFBUBbCBcFBEDIAUBbDAcUAHCBAdMACGMHdUACILGcVBbBABABAcDNBEBBFKBbJJAdYDBFBBCBZBECQDNACBGAPAbb
     BCbkKCbDBbEBbEBcMBBGIACKJAbTCBAeNBbIAeOCEBJAGCiLBCAcGABGBABACHGJCAbWNBPbXDbWABEBAFAbOIMBbGD
     CBBCcEABBDABCcGHCBfWCBMBGEAGADBhQcLbbSMEADLeoCCfLAdSbFvIDeDBbsqEAEJbGBdCBkMADAEAZBFAfVBbARN
     AbMHZKbUCbWACDCBbNAcPFCBCBMAIAbVAbZABCCBFBBAbQBIAjEACAEAbdzSAbcJPQPblLAiSAfTEcmGCBBFDbOCEAg
     JBwBDcNEmFBdBDcSKbXDeTAcCObPACBKCbXDCBHAcJCbKEBHcKAMBcAIKDCAdRCCABBGACAgBADHVBcFBDAbLGDEcSF
     NABABAOBdHHCCBAXAdGFBAEBBBjEDGBBBbBBdHHCABBeCABACFBAdXABACDBEjZIBBjWBBAEAfODCBEAbGJbOFCDIAJ
     FCCbUMBBpQGBFBAdEVCGBBBBeSFDABBBGBAcUBDABAnJBLBcAEFABAXAhxTAGOqyYLDCdsAEcHGboIAcLDdDAbdbKBg
     yZbTCWuYCRHCGbEDfSCcyDcCEbXIAOAWEBOcaIGBQCGBBBEdWAgEGoLAcJDtODjUBbcIGeFGbtciVjF"),
   ("Mc", "dkTAcDACCIDBBbYBcGCGBCBKAbRAcGCcOAcGCIABBcBBcGABAGBCBKAdYBBBDCBCKAbPCcJDcJBcGABECBBBJBbCAOB
     cGCFCBCKAbQBcXCGHSBmSBcLAgPBEAGACBZBKCCGVBCFCAKCclSAbEAeZAHHBBnIDCCEBBFiQBcGABAJABBIFfPAbWA
     FABEBBcJAbEAEBCAcIACCBADBbWHIBgPAVAhhEBbtlBBCAdKBbYPfMBbVAbWBEBCCeGBCBYAbTABAeFACBFAjDBBBBB
     BAblxJABAeXAbTCEBeLAYBcHAbWCJBNAdPCDBBAgOCbFBcGBBDCBCCJAKBdGCHACABDBBBAdXCIBDAeCCGABDCAjDCG
     DCAeJCIBBAeFABBGAdZABBEAkBCJAjNFBBEACABAfMCIDEAdGAbDBcKApRAOAeCAHACAiFEEBBAnMBMAbWBIBBAyyYC
     fjGcCeABbkxNBGF"),
   ("Me", "bsQBikQAciGDBCbyoXC"),
   ("Nd", "bWJciOJfEJhQJpWJeOJeOJeOJeOJeOJeOJeOJeOJeOJdSJeOJcSJkSJcSJctQJbMJlOJeYJgKJGJhAJdIJfEJGJcaeO
     JbaCJbMJhQJWJdIJpQJbfmCJccKJdfYJGJbeQJeYJcIJfOJkSJnEJeOJoKJdYJGTcYJqGJdYJzMJdIJjMJcSJqGJyyG
     JdmCJdIJfEJuOJbkdYJecQbXdnCJqGJtIJjNJbgVJhbAJ"),
   ("Nl", "irUCdyTbICDfmSAZIOCbsyLJbifGcArSAIAfEEmeSeG"),
   ("No", "gWBFACCdmRFoMFeQCfDGiJGRIqRJbpLTbrVJsMAcmVADFGJhQPbPAbbYcHdAVyGbDcbHAbtCDfIJbEHBObGJbNObsmI
     FbhqNbScNDRBnDbAbKDbzGHZGbNIcXEWFgEBCPCbTcMIcABbECcXEeAHYHbPGmSFnObEgCJbQDeIGfEToPTbzXBqOIb
     hNSbgTUbcpQGbeSWblyFTMTeEYibUIbjTcGBCBDcYbSBOblAM"),
   ("Pc", "dRAmbVBTAdgaOBYCjFA"),
   ("Pd", "bTAcaUAbZAfkJAbnPAdbDFfhXACAbFBEAbCArEATAeHAczwABbLAKAgNAflOAmGA"),
   ("Ps", "bOAbYAbFAfpEABAcuOAdpMADAbMAcDAPAyKABAbEAbpUABABABABABABAdCAbGABABABABApOABABABABABABABABAB
     ABAcMABAbHAboVABABABAZASABABABAqMABABABABADABABABACAczrTAiHAbDABABABABABABABADARABABAgOAbYA
     bFADACA"),
   ("Pe", "bPAbZAbFAfpDABAcuOAdrDAcDAPAyKABAbEAbpUABABABABABABAdCAbGABABABABApOABABABABABABABABABABAcM
     ABAbHAboVABABABAbSABABABAqMABABABABADABABABACBczrQAiJAbDABABABABABABABADARABABAgOAbZAbFACAC
     A"),
   ("Pi", "gPAlxKACBCAZAffSABAEACAPADA"),
   ("Pf", "hFAlwVADAbCAffSABAEACAPADA"),
   ("Po", "bHCBCCABABBKBDBbBAcQAFAOBHAbbAAIArYFbPAcCACACAbSBUBBBNABCcWDdYAbRNiZCcCObFAkBBKAfKAeQAeRApA
     AMAoDAdMAKBgMOBAeIAcWEEBeHFgPAxOIbdTAeUCcTBgBCBCbLFBDmBBiIBeYGBFgEBKGbCCeUDcHEcKBcMHLAbgCBI
     HIICDCCDKBABJeuCDBBeIAfNBECCACIBBBACBKEBJCDBABMCCqMCcFAhHAbryGBkJCdVAKAeLFoQDdIBbOCBAbXBbVA
     dTMQBeUDeWBQBjPAbfcUGCAWAUBCDDCBDHCGABBfTCBCCABABBKBDBbBAbKACBpUCzSAbWApYAbcPAhRAbFAkMIbMAe
     IGcOGdLDbkQEbSDhHGeFBBDeWDbWBdBDEANABCdKFeDAlMBBBeKEKBBAeAAjQWeBCbCMcYAfACjSAkECfZAdOHdFCBE
     dPJiHAdREbQByVBcWMgTAbrSEejCBwdVBfDAcNEIAvGClJDmPAbdbOAliLEeiTAbhEB"),
   ("Sm", "bRAQCcJABAbTAEAbLAbFAbdMAuHCjyHANAbNCNCfJAbNEGAcQEFBEACACAHAbFBCABAbFkHbGBdMAbEYbOFsBAJAcCH
     eHAmYECbEKPjWfAWcKEbFCjXbWUCFdasQAbfSABCgIAQCcJABAfBAGDfeFBcyeZAZAbFAZAbFAZAbFAZAbFAZAiuEB"),
   ("Sc", "bKAeVDbwJAeTAtEBtEBHAjLAkDAwJAdqPAdiIbGbzhVAbgmLAeEAfYAiLBDBmcSDcvxEAdrKA"),
   ("Sk", "dQABAcTAGAEADAuBDMNFGBABQeNAOBbxIAiuMABCLCNCNCNBghOBbsvRWJBdZBblOAOBbekKQbiHABAgGAdolJE"),
   ("So", "gKACAEABAblPAkGBeXBhYAKATBjNAtVAoJAfAFBAfCAhZAbPApBCPABCCFUABABAfDHBFBBFDhPBbcYJbbVAbbUAgBb
     HnPJJIccHBBDBBKABBGFBABABAEALBOABBBAcGBJECDBBBBBGBbECBBABbEkIHETCGCdCBbDZbNGcTWKdDcZWhABIBc
     BIeGBjNbSbRcMjVtSbVVBGbMCbFBeAiVFnTBbUZBdKMiFbAPEANBMAVBGBmYBEJbGbLJAQbELbDIAPbFKbMPmHjtOcL
     bguIcCbhHDKBBAwBCbfjAPeXAbTCsQADAEBNBmBIcFQCCBMDAbVbSclUBwTAesSAdgNHEQbcnIDFAbeuWAfvNjFQqTg
     AeLcIjLKbMCcHFCWBHbDEcIVcNDAhEdIbtXtRcDDbYHBNBBcoUAehWAeZAbbTbREdVMOCOBOBbKXgEcEbCNbREIHBOF
     fYjQFbbZEQDMDeOEdQGLEAPLEcDIJGbNIbDCLEBcKnBMNCMDJFcDHOCKGIHfQBdN"),
   ("Zs", "bGAeXAihJAdpNKbKAbVAfxWA"),
   ("Zl", "meQA"),
   ("Zp", "meRA"),
   ("Cc", "AbFdRbG"),
   ("Cf", "gRAcaKFWAhKAbXAoUBdCAftJAdaQEbAEbXEBJdghJAjPCgiZAPAnkKPbzqUDhwXHbtkzMAbEdR"),
   ("Co", "dgvOjmDcahxOdsyNCdsyN"),
   ("Cn", "biEBGDHABAUApHAbMBbYBDAcDHbBDGKkKAcIBdXNcHBbXBPAbCBBALEbFACEjDAIBCBWAHABCEBJBCBEHBDCAFBZBDA
     GDCBWAHACACACBBAFDCBDCBGEABGRJDAJADAWAHACAFBKADADBBOEBMGHADAIBCBWAHACAFBJBCBDGDDCAFBSJCAGCD
     AECCABACCCCDCMDFCDAEBBFBNVENADAXAQBJADAEGCADBBBEBKGWADAXAKAFBJADAEGCFCAEBKADLNADAbZADAGDQBb
     AADASCYAJABBHCBDGABAIFKBDLcGDbDbKCABAFAYABAXBFABAHAKBEbFcUAbKDbNAbKAPANbKhQABEBBoNAEBHABAEB
     bPAEBbHAEBHABAEBPAcFAEBcPBbGCbAFdIBGBzTCdLGWIYIULNADACLdQBKFKFbAFdLGbREcSJbFAMDMDBCbQBFKbSD
     bAFLCcKBcNAbDBLFKFOBbFbWcZAgKHcICPCcKEbRBLHbREuOBGBbMBGBIABABABAbFBcBAPAOBGATBDAJAdXAMBbBAN
     CbHObHOfKDzQVLUcrSBbGAnLEbTABEBBcEGCNYIHAHAHAHAHAHAHAHAeWbHbAAdLLiGZdCAdIBdZEbRAdQAdIIbWAbr
     iRCcDInKThCHhYBCABAIUcHCKFcEHcSHMFeMKbECdAALDbHAcDIOBKBdZXbCJGBGBGIHAHAcIDeWBKFqnSLXDbXDnbA
     BeCbLHLFEbAAFABACACAeVPrDBcCGBbFbQFbZATAEDFAfFBBAhICGBGBGBDCHAHJFBMAbAATACAPBObHeTEDDbTCdKA
     NCBbUbUeZbDCbXObCDbKIbEEbREbEAbLDObPgCBKFbKDbKDbOHcAKMAPAHACALAPAHACCcALlZIWJIXGAbQAJcQGBBA
     bSACCBBXAcUHJbVTACEbHCbBEBcLcEDUBbYACEIADAbDBDDKGJGcMbFbNDMIcCCbDBbBEbAGELHdBcVcCbZMbZGbUHK
     FbMCbDHChZbFAbQADBCPDcCbSHbQVbAbLbCTXIdADbKIcQJBBZGKFcBASHbNIdSAUKSAbVcJHABAEAPALFcHEKFEAIB
     CBWAHACAFAKBCBDBBFBEHBHCFKKABBBAbMAKABBBAEAKACHCbCdOAFbDcUHKgJcCBbMbHcRKKFNScGFKFUbBbBBPDXh
     CcIdVdFLIBBBIACAbEACBMIKcRIBbUBLbAcUHdFMcVGKgZbINKFJAbTAOJbDCbGBWAOcUHACAbSCBACAJHKFGACAbLA
     CAGGKlXZGRAbPCbDdGBObYMbjNdXeHAFKhOdxJdVMbqSJfxREwLkdCcGcoRvXGbFAKDdDAKFbEBGJcSJKAHAVETqPcG
     hPdNdWcXDcFGRcLFKCNjcAHbvQbOKnfQEAHACAlFOBbCDBBNEHpGdkTeDENCJGKBIfvFjQFqUcXbUBXIeMcHjMJbNBh
     MUcSeRULULdJIZfEdHAcTACBBBCBEAMABAHAcNAEBIAHAbCAEAFABCHAnCBlGBbbAOFAPbqLbFFGiEHARBHACAFEcKb
     GBeHbTCOBKDCmHbFQcGEBrVbQiFbRDBsLHAEACAPAhPBQbOcYDKDCbeEcQcXcJhLEAbBACABBBAKAEABABFBDBABABA
     DACABBBABABABABACABBEAHAEAEABAKAREDAFARbZCkJbSDdWLPBPAPAbLJgScDbDMbSDJGCNGfXblWDRCNCePDdRFM
     DBOMDcEHKFbOHbEBMDCcJnCLOBNCKEcEGPBLFJGfRAdYbnPclfCbFgdUFiOBinQNlbLOxYdqVuWcfXhhZEgfGbomxKB
     bDdSeXjGdsfNdsyOBdsyOB")]

/-- Every loosely matched name of a category or group, with its short code. -/
def aliases : List (String × String) :=
  [("c", "C"), ("casedletter", "LC"), ("cc", "Cc"), ("cf", "Cf"), ("closepunctuation", "Pe"),
   ("cn", "Cn"), ("cntrl", "Cc"), ("co", "Co"), ("combiningmark", "M"),
   ("connectorpunctuation", "Pc"), ("control", "Cc"), ("currencysymbol", "Sc"),
   ("dashpunctuation", "Pd"), ("decimalnumber", "Nd"), ("digit", "Nd"), ("enclosingmark", "Me"),
   ("finalpunctuation", "Pf"), ("format", "Cf"), ("initialpunctuation", "Pi"), ("l", "L"),
   ("lc", "LC"), ("letter", "L"), ("letternumber", "Nl"), ("lineseparator", "Zl"), ("ll", "Ll"),
   ("lm", "Lm"), ("lo", "Lo"), ("lowercaseletter", "Ll"), ("lt", "Lt"), ("lu", "Lu"),
   ("m", "M"), ("mark", "M"), ("mathsymbol", "Sm"), ("mc", "Mc"), ("me", "Me"), ("mn", "Mn"),
   ("modifierletter", "Lm"), ("modifiersymbol", "Sk"), ("n", "N"), ("nd", "Nd"), ("nl", "Nl"),
   ("no", "No"), ("nonspacingmark", "Mn"), ("number", "N"), ("openpunctuation", "Ps"),
   ("other", "C"), ("otherletter", "Lo"), ("othernumber", "No"), ("otherpunctuation", "Po"),
   ("othersymbol", "So"), ("p", "P"), ("paragraphseparator", "Zp"), ("pc", "Pc"), ("pd", "Pd"),
   ("pe", "Pe"), ("pf", "Pf"), ("pi", "Pi"), ("po", "Po"), ("privateuse", "Co"), ("ps", "Ps"),
   ("punct", "P"), ("punctuation", "P"), ("s", "S"), ("sc", "Sc"), ("separator", "Z"),
   ("sk", "Sk"), ("sm", "Sm"), ("so", "So"), ("spaceseparator", "Zs"), ("spacingmark", "Mc"),
   ("symbol", "S"), ("titlecaseletter", "Lt"), ("unassigned", "Cn"), ("uppercaseletter", "Lu"),
   ("z", "Z"), ("zl", "Zl"), ("zp", "Zp"), ("zs", "Zs")]

/-- The two-letter categories that make up a named group; a category is its own group. -/
def members : String -> List String
  | "LC" => ["Lu", "Ll", "Lt"]
  | "L" => ["Lu", "Ll", "Lt", "Lm", "Lo"]
  | "M" => ["Mn", "Mc", "Me"]
  | "N" => ["Nd", "Nl", "No"]
  | "P" => ["Pc", "Pd", "Ps", "Pe", "Pi", "Pf", "Po"]
  | "S" => ["Sm", "Sc", "Sk", "So"]
  | "Z" => ["Zs", "Zl", "Zp"]
  | "C" => ["Cc", "Cf", "Co", "Cn"]
  | code => [code]

/-- The ranges of one two-letter category. -/
def ranges (code : String) : List CodeRange :=
  CodeRange.decode ((tables.lookup code).getD "")

/-- The characters of a category or of a group of categories, by its short code. -/
def characters (code : String) : CharClass :=
  .ranges ((members code).flatMap ranges)

/-- A category or group by a loosely matched name. Surrogates have a name, but no
character belongs to them. -/
def find? (name : String) : Option CharClass :=
  match name with
  | "any" => some (.complement .none)
  | "assigned" => some (.complement (characters "Cn"))
  | "ascii" => some (.range '\x00' '\x7f')
  | _ => (aliases.lookup name).map characters

end GeneralCategory
end Unicode
end PathVersions
