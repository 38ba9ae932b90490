import PathVersions.Unicode.CharClass

/-!
# Text segmentation properties

The values of the grapheme cluster, word and sentence break properties. Characters without
a value of their own belong to no table.
-/

namespace PathVersions
namespace Unicode

namespace GraphemeBreak

/-- Each value with its ranges, written as `CodeRange.decode` reads them. -/
def tables : List (String × String) :=
  [("control", "AJBBBRdRbGNAcbMAguRAdaQACBYGbXPdghJAjGLtuAPbzqUDhwXHbtkzLbFdSeXjGfiL"),
   ("cr", "NA"),
   ("extend", "bdOeHkPGkDbSBABBBBBAcUKbWUQAdXGCFCBBDbJAbEbAdNKcGIJAYDBIBCBEbRCcHIbQXBbFcDABAEHEADGKBbDAcGA
     BACDIAJAKBbAACBcFAEBEBCCDAbEBDALBcFAEEBBEAUBWFBAcGABBBDIAHCKBbEAcHABAMAJAbOADAcDABCFCBDHBLB
     bDAcGACBBADCBDHBLBbCBcFBBACDIAJAKBbDAcUAEACCBAIAdDACGMHdUACILGcVBbBABABAcDNBEBBFKBbJJAdYDBF
     BBCBZBECQDNACBGAPAbbBCbkKDbCCbDBbEBcMBBGIACKJAbTCBAeNBbIAeOCEBJAGCiLBCAcGABGBABACHGJCAbWbEb
     XDbWJECbMIMBbGDCFcEABBDABEcEHCBfWCBMBGEAGADBhQcLuEAhNbGeoCCfLAdSbFvIFeBBbsqEDBJbGBdCBkMADAE
     AZBFAfVBbARNAbMHZKBAbSCbWACDCBCAbKAcPFCBCBMAIAbVAbZABCCBFBBAbQBIAjEACAEAbdzSAbcJPQPoCBxHAiS
     AfTEcmGCBBFDbOCEAgJBwBDcNEmFBdBDcSKbXDeTAcCObPACBKCbXDCBHAcJCbKEBHcKAMBcAIBAIDCAdRCCDGACAgB
     ADHVBcFBBABAMAJAOGDEcPACFBACABCECBAOBdHHCCBAXAdDACFBACABBBBjBACDGBBBbBBdHHCABBeCABACHdXABAC
     DBEjZIBBjLAKDEAfODCBEAbGJbOFCDIAJFCCbUMBBpQGBFBAdEVCGBBBBeSFDABBBGBAcUBDABAnJBLBcAEFCXAhxTA
     GOqyYLDCdsAEcHGboIAcLDdDALBbdaXBgyZbTCWuWEDFIHCGbEDfSCcyDcCEbXIAOAWEBOcaIGBQCGBBBEdWAgEGoLA
     cJDtODjUBbcIGeFGebGEbsxyUdReYjF"),
   ("l", "glKdRcfoQbC"),
   ("lf", "KA"),
   ("lv", "cndOAbBAbBAbBAbBAbBAbBAbBAbBAbBAbBAbBAbBAbBAbBAbBAbBAbBAbBAbBAbBAbBAbBAbBAbBAbBAbBAbBAbBAbB
     AbBAbBAbBAbBAbBAbBAbBAbBAbBAbBAbBAbBAbBAbBAbBAbBAbBAbBAbBAbBAbBAbBAbBAbBAbBAbBAbBAbBAbBAbBA
     bBAbBAbBAbBAbBAbBAbBAbBAbBAbBAbBAbBAbBAbBAbBAbBAbBAbBAbBAbBAbBAbBAbBAbBAbBAbBAbBAbBAbBAbBAb
     BAbBAbBAbBAbBAbBAbBAbBAbBAbBAbBAbBAbBAbBAbBAbBAbBAbBAbBAbBAbBAbBAbBAbBAbBAbBAbBAbBAbBAbBAbB
     AbBAbBAbBAbBAbBAbBAbBAbBAbBAbBAbBAbBAbBAbBAbBAbBAbBAbBAbBAbBAbBAbBAbBAbBAbBAbBAbBAbBAbBAbBA
     bBAbBAbBAbBAbBAbBAbBAbBAbBAbBAbBAbBAbBAbBAbBAbBAbBAbBAbBAbBAbBAbBAbBAbBAbBAbBAbBAbBAbBAbBAb
     BAbBAbBAbBAbBAbBAbBAbBAbBAbBAbBAbBAbBAbBAbBAbBAbBAbBAbBAbBAbBAbBAbBAbBAbBAbBAbBAbBAbBAbBAbB
     AbBAbBAbBAbBAbBAbBAbBAbBAbBAbBAbBAbBAbBAbBAbBAbBAbBAbBAbBAbBAbBAbBAbBAbBAbBAbBAbBAbBAbBAbBA
     bBAbBAbBAbBAbBAbBAbBAbBAbBAbBAbBAbBAbBAbBAbBAbBAbBAbBAbBAbBAbBAbBAbBAbBAbBAbBAbBAbBAbBAbBAb
     BAbBAbBAbBAbBAbBAbBAbBAbBAbBAbBAbBAbBAbBAbBAbBAbBAbBAbBAbBAbBAbBAbBAbBAbBAbBAbBAbBAbBAbBAbB
     AbBAbBAbBAbBAbBAbBAbBAbBAbBAbBAbBAbBAbBAbBAbBAbBAbBAbBAbBAbBAbBAbBAbBAbBAbBAbBAbBAbBAbBAbBA
     bBAbBAbBAbBAbBAbBAbBAbBAbBAbBAbBAbBAbBAbBAbBAbBAbBAbBAbBAbBAbBAbBAbBAbBAbBAbBAbBAbBAbBAbBAb
     BAbBAbBAbBAbBAbBAbBAbBAbBAbBAbBAbBAbBAbBAbBAbBAbBAbBAbBAbBAbBAbBAbBAbBAbBAbBAbBAbBAbBAbBAbB
     AbBAbBAbBAbBAbBA"),
   ("lvt", "cndPbABbABbABbABbABbABbABbABbABbABbABbABbABbABbABbABbABbABbABbABbABbABbABbABbABbABbABbABbAB
     bABbABbABbABbABbABbABbABbABbABbABbABbABbABbABbABbABbABbABbABbABbABbABbABbABbABbABbABbABbABb
     ABbABbABbABbABbABbABbABbABbABbABbABbABbABbABbABbABbABbABbABbABbABbABbABbABbABbABbABbABbABbA
     BbABbABbABbABbABbABbABbABbABbABbABbABbABbABbABbABbABbABbABbABbABbABbABbABbABbABbABbABbABbAB
     bABbABbABbABbABbABbABbABbABbABbABbABbABbABbABbABbABbABbABbABbABbABbABbABbABbABbABbABbABbABb
     ABbABbABbABbABbABbABbABbABbABbABbABbABbABbABbABbABbABbABbABbABbABbABbABbABbABbABbABbABbABbA
     BbABbABbABbABbABbABbABbABbABbABbABbABbABbABbABbABbABbABbABbABbABbABbABbABbABbABbABbABbABbAB
     bABbABbABbABbABbABbABbABbABbABbABbABbABbABbABbABbABbABbABbABbABbABbABbABbABbABbABbABbABbABb
     ABbABbABbABbABbABbABbABbABbABbABbABbABbABbABbABbABbABbABbABbABbABbABbABbABbABbABbABbABbABbA
     BbABbABbABbABbABbABbABbABbABbABbABbABbABbABbABbABbABbABbABbABbABbABbABbABbABbABbABbABbABbAB
     bABbABbABbABbABbABbABbABbABbABbABbABbABbABbABbABbABbABbABbABbABbABbABbABbABbABbABbABbABbABb
     ABbABbABbABbABbABbABbABbABbABbABbABbABbABbABbABbABbABbABbABbABbABbABbABbABbABbABbABbABbABbA
     BbABbABbABbABbABbABbABbABbABbABbABbABbABbABbABbABbABbABbABbABbABbABbABbABbABbABbABbABbABbAB
     bABbABbABbABbABbA"),
   ("prepend", "chCFiHAbXAoUBdCAbrNAdugKAPAjKBuFAcbLABAjOAcVFbaYArBA"),
   ("regionalindicator", "hgoKZ"),
   ("spacingmark", "dkTAcDACCIDBBbYBcHBGBCBcCAcGCcOAcGCIABBcBBcIAGBCBeKABBDCBCcACcJDcJBcGACABBbUAOBcHBFCBCcBBcY
     BGGTBcLAeXAfIBcLAgVAJBZBbSAcsVAHHBBnIDCCEBBFiQBcGABAVFfPAcFDcMAbEAEBcLACCBAcBHIBgPAVAcasHBC
     AdKBbYPfMAbWAbWBEBCBeHBCBYAgBACBFAjDBBBBBBAblxJABAeXAbTCEBeLAYBcHAbWCJAOAdPCDBgQCbFBcHABDCB
     CBVBdHBPABBdZCIBDAeDBGABBBACAjEBGDCAeJCIBBAeFABBeGAHAkBCJAjOEBBHABAfMCIDEAdGAbDBcKApRAOAeCA
     HACAiFEEBBAnMBMAbWBIByzACfjGcC"),
   ("t", "grWdJcwxNbW"),
   ("v", "gpCcTcwzWWcerCADD"),
   ("zwj", "mdPA")]

/-- Every loosely matched short name of a value, with its long one. -/
def aliases : List (String × String) :=
  [("cn", "control"), ("ex", "extend"), ("pp", "prepend"), ("ri", "regionalindicator"),
   ("sm", "spacingmark")]

/-- The characters that have a value, by its loosely matched name. -/
def find? (name : String) : Option CharClass :=
  (tables.lookup ((aliases.lookup name).getD name)).map fun text =>
    .ranges (CodeRange.decode text)

end GraphemeBreak

namespace WordBreak

/-- Each value with its ranges, written as `CodeRange.decode` reads them. -/
def tables : List (String × String) :=
  [("cr", "NA"),
   ("doublequote", "bIA"),
   ("extendnumlet", "dRAmbFAPBTAdgaOBYCjFA"),
   ("extend", "bdOeHkPGkDbSBABBBBBAcUKbWUQAdXGCFCBBDbJAbEbAdNKcGIJAYDBIBCBEbRCcHIbQXBbGcCCBRBGKBbDCcEABGCB
     CCJAKBbAACCcEABEEBCCDAbEBDALCcEABHBCBCUBWFBCcEABGCBCCHCKBbEAcHEDCBDJAbOEcDABGBCBDHBLBbDCcEA
     BGBCBDHBLBPAMDcDBBGBCBDJAKBbDCcSAEFBABHSBcJACGMHdUACILGcVBbBABABAEBbXTBBFKBbJJAdWTXDECBCCGD
     DNLBAKDbbBCbkKDbCCbDBbEBcMbFJAbTCBAeNBbIAeOLELiLEcFJBbCCAbWbEbXEbVQbMIMCbEMcENbWTfWCBUEAGAC
     ChQcLuEAhNbGeoCCfLAdSbFvIFeBBbsqEDBJbGBdCBkMADAEAXEEAdFBbYRbARNAbMHZMbSDbVNbKAcPNMAIBbTCbYA
     BCCBFBBAbPEFBjCHBBbdzSAbcJPQPoCBxHAiSAfTEcmGCBBFDbOCEAgJBwBDcNEmFBdBDcSKbXDeSCcBObPACBKDbTK
     HAcJCbKNQBbSAMCbWNIDBBdOLGACAgBLVDcDBBGCBCCJAKBCGDEcPIBACABDBEBAOBdERXAdDTjBGCIbBBdEQeCMdXO
     jWOjLFBBCDBABBfLGCGDAbCJbOGBDIAJKbUPpPHBHdEVBNeSFDABBBGBAcOEBBBEnJDJBBAbWGDEXAhxTAGOqyYRdsA
     EcHGboIABcCHDdDALBbdaXBgyZbTCWuWEDFIHCGbEDfSCcyDcCEbXIAOAWEBOcaIGBQCGBBBEdWAgEGoLAcJDtODjUB
     bcIGeFGebGEbsxyUdReYjF"),
   ("format", "gRAcbMAguRAdaTBbAEbXEBJdghJAjPCtuAPbzqUDhwXHbtkzMA"),
   ("hebrewletter", "cfGbAEDdovYABJBMBEBABBBBBJ"),
   ("katakana", "sgNEdXBDdMBDjGPiAbUBdJczhEcDcouCDBGBBBAlBCbYAOD"),
   ("aletter", "cNZGZbVAKAEAFWBbEBsLGbHeIEBBCDBAGABCBABTBdEBfIIgJBbLCDBABbOBAeAAbSbQbJBBdUBAPBHBKCCAPBBbDbD
     dKLAYbGJBEAFVEAJADAXYHKFXBFRbPcGcBDASAHJPPEHCBCVBGBADDDAQANBBCOBKAIFEBCVBGBBBBBBbFDBATCQIBC
     BVBGBBBEDASAPBXALHCBCVBGBBBEDAbEBBCPARABFDCBDDBBABBDBDCDLWAcAHBCBWBPDAbACCACBbEAEHBCBWBJBED
     AbFBBBPBRIBCBbOCAQAFCICYFFRDXBIBACGmBAcLHBbJbBEkPbLBAFACbQBmUBDCGBABDCbOBDCbGBDCGBABDCOBcEB
     DCcObLPQdHCFDxVCQBZFcWDKHRNSOROMBCgTdKHECbHBAFcRKbEiRWjEbURHcCbDNBKbRbAbJbPCKbJCKFbQCCbPDBF
     BBDAFhJcMkRCFCbLCFCHBABABABbECcABGBADCBGDDCFEMFCBGeMANAQMdXAEACJBADEGABABABDBKCDFEEARbObfHb
     ZcrUiUGDDBMbLBAFACcDHAQWJGBGBGBGBGBGBGBGdCAsBAcBBhSbQBdPRbFbptObsUcPbTCkIDPKBUbUQbECdBYhPCB
     BABHVPBCBDBWbDbZObXcKFDABBLbBKWZbCHbUbCAbWbOXCBHfSKHCMFCFCFJGBGBcFGeKbDqnRMWEbWngUGMEcEdTbH
     nYScLCcBbOLeMEBfEbKZGZcRbEDFCFCFCCbJLBZBSBBBOCNbIeScRcAkHbCDbWbVbFNbDFbLKbDCbJEHBEbQgBSbJEb
     JEbNIbZMKBOBGBBBKBOBGBBDbZMlYJVKHYFBbPBIcRFCABbRBBDACWKWJbEcNSBBKVKZcScDGBcMAPDBCBbCbQbCDbC
     bJHBbBbBcBKVKSNReGcUcDbYNbYNbJbMbBJWjQbPGBQCcHbCKAIVbQRbUUbBWMcAcFBCANbSbGYbAbJbDACAIbIDAMb
     VODVABAbJRBYTBcLGBABDBOBJHbUbMHCBCVBGBBBEDASAMEbEJBACABbLBAZABAbScASDUCbEbVUBBAhCbUbPDbKbVU
     AcHbQNAmPbReMcLbFHCACHBBBXPABAdQHCbMQABAbCAKbNHAVALbTTAScUhRbGbFIBbKRAbXbDeIGBBBbLVAZFBBBbF
     OAmPSPABMBbHeUAdBbjLdYeGRhNdxKdSPbpFRFZfxQFwKkdDbDcpUvWHbERdARbDSbVQDbFUFSqQbSiDcLeYcWFAcOM
     cMBBAbcvKeCFMDIHJiwKdGBcSBBCACBCDBLBABGBcMBDCHBGBbBBDBEBADGBnBCYBYBbEBYBbEBYBbEBYBbEBYBHcsY
     bEGFkBcJfQbSKGQAmJbDSbRsQbBiUbDCAtBGBDBBBOBhOcHcPHAbuIDBbABBBACABJBDBABAGAEABABABCBBBACABAB
     ABABABBBACDBGBDBDBABJBQFCBEBQyEZGZGZ"),
   ("lf", "KA"),
   ("midnumlet", "bUAmcFBKAdgdPAgYAGA"),
   ("midletter", "cGAeUAbbRAsDAfSAjxYAdgbBAcNAhOA"),
   ("midnum", "bSAOAbgCAuCAfABdQApFAjfFAdgcHADAhBAOA"),
   ("newline", "LBeQAlzMB"),
   ("numeric", "bWJceWFdMJBAeJASJhQJhQBdCAfBJeOJeOJeOJeOJeOJeOJeOJeOJeOJdSJeOJcSJkSJcSJctQJbMJlOJeYKgJJGJhA
     JdIJfEJGJcaeOJbaCJbMJhQJWJdIJpQJbfmCJccKJdfYJGJbeQJcZAPAbIJcIJfOJkSJnEJeOJoKJdYJGTcYJqGJdYJ
     zMJdIJjMJcSJqGJyyGJdmCJdIJfEJuOJbkdYJecQbXdnCJqGJtIJjNJbgVJhbAJ"),
   ("regionalindicator", "hgoKZ"),
   ("singlequote", "bNA"),
   ("wsegspace", "bGAimHAdpNGBCdGAfxWA"),
   ("zwj", "mdPA")]

/-- Every loosely matched short name of a value, with its long one. -/
def aliases : List (String × String) :=
  [("dq", "doublequote"), ("ex", "extendnumlet"), ("fo", "format"), ("hl", "hebrewletter"),
   ("ka", "katakana"), ("le", "aletter"), ("mb", "midnumlet"), ("ml", "midletter"),
   ("mn", "midnum"), ("nl", "newline"), ("nu", "numeric"), ("ri", "regionalindicator"),
   ("sq", "singlequote")]

/-- The characters that have a value, by its loosely matched name. -/
def find? (name : String) : Option CharClass :=
  (tables.lookup ((aliases.lookup name).getD name)).map fun text =>
    .ranges (CodeRange.decode text)

end WordBreak

namespace SentenceBreak

/-- Each value with its ranges, written as `CodeRange.decode` reads them. -/
def tables : List (String × String) :=
  [("aterm", "bUAmcRAdgdPAhFA"),
   ("close", "bIAECbXABAbDABAbTAPAfmSDcuNBdpJHZBKBcCBOByJDbDBbpGFHNdBBbFJpNVcLDbGBbnMNOBCJYASHqLJCHBCczrQ
     BiHBbCPCBQFgNBbXABAbDABABBBBdpoSC"),
   ("cr", "NA"),
   ("extend", "bdOeHkPGkDbSBABBBBBAcUKbWUQAdXGCFCBBDbJAbEbAdNKcGIJAYDBIBCBEbRCcHIbQXBbGcCCBRBGKBbDCcEABGCB
     CCJAKBbAACCcEABEEBCCDAbEBDALCcEABHBCBCUBWFBCcEABGCBCCHCKBbEAcHEDCBDJAbOEcDABGBCBDHBLBbDCcEA
     BGBCBDHBLBPAMDcDBBGBCBDJAKBbDCcSAEFBABHSBcJACGMHdUACILGcVBbBABABAEBbXTBBFKBbJJAdWTXDECBCCGD
     DNLBAKDbbBCbkKDbCCbDBbEBcMbFJAbTCBAeNBbIAeOLELiLEcFJBbCCAbWbEbXEbVQbMIMCbEMcENbWTfWCBUEAGAC
     ChQcLuEBhMbGeoCCfLAdSbFvIFeBBbsqEDBJbGBdCBkMADAEAXEEAdFBbYRbARNAbMHZMbSDbVNbKAcPNMAIBbTCbYA
     BCCBFBBAbPEFBjCHBBbdzSAbcJPQPoCBxHAiSAfTEcmGCBBFDbOCEAgJBwBDcNEmFBdBDcSKbXDeSCcBObPACBKDbTK
     HAcJCbKNQBbSAMCbWNIDBBdOLGACAgBLVDcDBBGCBCCJAKBCGDEcPIBACABDBEBAOBdERXAdDTjBGCIbBBdEQeCMdXO
     jWOjLFBBCDBABBfLGCGDAbCJbOGBDIAJKbUPpPHBHdEVBNeSFDABBBGBAcOEBBBEnJDJBBAbWGDEXAhxTAGOqyYRdsA
     EcHGboIABcCHDdDALBbdaXBgyZbTCWuWEDFIHCGbEDfSCcyDcCEbXIAOAWEBOcaIGBQCGBBBEdWAgEGoLAcJDtODjUB
     bcIGeFGbtcaFdReYjF"),
   ("format", "gRAcbMAjIAglIAdaQACBbAEbXEBJdghJAjPCtuAPbzqUDhwXHbtkzMA"),
   ("oletter", "rBAEDiAAbKGGLbAABAfDAsQAeObAEEbSbQbJBBdUBAPBHBKCCAQABbDbDdKLAYbGJBEAFVEAJADAXYHKFXBFRbPcGcB
     DASAHJPPEHCBCVBGBADDDAQANBBCOBKAIFEBCVBGBBBBBBbFDBATCQIBCBVBGBBBEDASAPBXALHCBCVBGBBBEDAbEBB
     CPARABFDCBDDBBABBDBDCDLWAcAHBCBWBPDAbACCACBbEAEHBCBWBJBEDAbFBBBPBRIBCBbOCAQAFCICYFFRDXBIBAC
     GcGbVBBMGcGBBABEBXBABJBBJACEBAVDbGAcLHBbJbBEeLbQUAQFEDDADBHCEMMAcNbQCmTBDCGBABDCbOBDCbGBDCG
     BABDCOBcEBDCcObLPeJxVCQBZFcWDKHRNSOROMBCPbZbJAEAcPdKHECbHBAFcRKbEbXbDCELbREZcCWJcAdEAdPbURH
     cCbDNBKbRbAbJbPCKbJSbQCCbPDBFBBDAbpQDcTCCDekTcDHAQWJGBGBGBGBGBGBGBGdCAsBCZIHECEEdHGCBdLBDFb
     QBdPRbFbWPtSjtNcMbguEcPbTCkIDPKBcOAQAbGdBbNIeAAGAdZADGBCBDBWbDbZObXcKFDABBLbBKWZbCHbUbCAQEB
     JKEBbOXCBHUWDADbXBADBCECABAYCCKHCMFCFCFJGBGfPbIbDqnRMWEbWmnCoBCeBcPABJBMBEBABBBBBeDbHnYScLC
     cBbOLeMEBfEeBcDCbEDFCFCFCCbJLBZBSBBBOCNbIeScRcAkHbCDbWbVbFNbDFbLKbDCbJEHBEeScZdUbNIbZdObZMl
     YJVKHZBeVFCABbRBBDACWKWJbEcNSBBKVKZcScDGBcMAPDBCBbCbQbCDbCbJHBbBbBcBKVKSNReGcUhBbJbMFbFAkMb
     PGBQCcHbCKAIVbQRbUUbBWMcAcFBCANbSbGYbAbJbDACAIbIDAMbVODVABAbJRBYTBcLGBABDBOBJHbUbMHCBCVBGBB
     BEDASAMEbEJBACABbLBAZABAbScASDUCbEbVUBBAhCbUbPDbKbVUAcHbQNAcTbAbLGhDbRiDHCACHBBBXPABAdQHCbM
     QABAbCAKbNHAVALbTTAScUhRbGbFIBbKRAbXbDeIGBBBbLVAZFBBBbFOAmPSPABMBbHeUAdBbjLdYeGRhNdxKdSPbpF
     RFZfxQFwKkdDbDcpUvWHbERdARbDSbVQDbFUFSqQbSpNcWFAcOMcMBBAbCjbZIbvPbPJnfRDBGBBBlEPAbDCCAODIpF
     dkUeCFMDIHJnbCAtHbSKGQAmJbDSbRsQbBiUbDCAtBGBDBBBOBhOfEAbuIDBbABBBACABJBDBABAGAEABABABCBBBAC
     ABABABABABBBACDBGBDBDBABJBQFCBEBQgoAclfBbGgdTGiNCinPOlbKPxXdqWuVcfYhhYFgfF"),
   ("lf", "KA"),
   ("lower", "dTZbVAKAEAbKXBHBABABABABABABABABABABABABABABABABABABABABABABABABABABABBBABABABABABABABBBABA
     BABABABABABABABABABABABABABABABABABABABABACABABCCABACADBEACADCCACABABACABBBACADABACBCCGACAC
     ABABABABABABABABBBABABABABABABABABBCABADABABABABABABABABABABABABABABABABABABABABABABABABABA
     BABABABGCACBBAEABABABABcQBbJHBbEEfKABADACDSAbBbIBBDCBABABABABABABABABABABABEBACACBbZbVBABAB
     ABABABABABABABABABABABABABABAJABABABABABABABABABABABABABABABABABABABABABABABABABABACABABABA
     BABABBBABABABABABABABABABABABABABABABABABABABABABABABABABABABABABABABABABABABABABABABABABAB
     ABABABABABAbWbOeiTAbdJFdfUIBAeNhJcNABABABABABABABABABABABABABABABABABABABABABABABABABABABAB
     ABABABABABABABABABABABABABABABABABABABABABABABABABABABABABABABABABABABABABABABABABABABABABA
     BIBABABABABABABABABABABABABABABABABABABABABABABABABABABABABABABABABABABABABABABABABABABABAB
     ABABABABIIFKHIHIFKHIHINCHIHIHIEBBGADCBBIDCBIHKCBBeRANAQMeFADBDAbBAEAEACBIDEAbHPEAbgLZctQbVB
     ADBBABABAEABBBHDABABABABABABABABABABABABABABABABABABABABABABABABABABABABABABABABABABABABABA
     BABABABABABABABABABABABBHABAEAMbLBAFAbtwDABABABABABABABABABABABABABABABABABABABABABABATABAB
     ABABABABABABABABABABABCfDABABABABABABCBABABABABABABABABABABABABABABABABABABABABABABABABABAB
     ABABABABJBABACABABABABAEABACABCBABABABABABABABABABAFAFABABABABABABABAEABACADABABABABABAWCBA
     BCbfPbQBNGdBbeaIGMEboZZbvHbNfGbJfZKBOBGBBrJACCBbPBIbxLbYeVVegObFbgjWbFbmmKZbAGBRbAZbADBABGB
     KbAZbAZbAZbAZbAZbAZbAZbAZbAbBbCYBFbAYBFbAYBFbAYBFbAYBFBAcsYJBTGFkBcJdhSbH"),
   ("numeric", "bWJceWFdMJBBeIASJhQJhQBdCAfBJeOJeOJeOJeOJeOJeOJeOJeOJeOJdSJeOJcSJkSJcSJctQJbMJlOJeYKgJJGJhA
     JdIJfEJGJcaeOJbaCJbMJhQJWJdIJpQJbfmCJccKJdfYJGJbeQJcZAPAbIJcIJfOJkSJnEJeOJoKJdYJGTcYJqGJdYJ
     zMJdIJjMJcSJqGJyyGJdmCJdIJfEJuOJbkdYJecQbXdnCJqGJtIJjNJbgVJhbAJ"),
   ("scontinue", "bSBMBbgCAsKAgSBsWAgbXAFAdbEBgaUAdaaWBBBbCBbDBCBCAKAgMBMBcUA"),
   ("sep", "fDAlzMB"),
   ("sp", "JABBTAeXAihJAdpNKbKAbVAfxWA"),
   ("sterm", "bHAbDAcaBAfRCgYAbRCjMAcJABADBlHBcpWBbeKAEBbdTAhQBgBBbTAFAmCBnQDgGBKBCBbDChFBcNBbkUBJCeuXClU
     ANAWBqNAbshWAkKBiTADAoSBdIBdRAfWBfRCfOBjPAbfcWACBcLBgNAbDAcNAedWBbxDEbSDhHBeNDeXCeZBGAQBdKB
     BBeEAlMBeNBoJBFOeBBjPCtXABAjRBdJBqEBbaQBcWBbcmBBfDAcNBLAvHBlKAbdoGAliMA"),
   ("upper", "cNZdXWBGbHABABABABABABABABABABABABABABABABABABABABABABABABABABABACABABABABABABABACABABABABA
     BABABABABABABABABABABABABABABABABABABBBABADBBABBBCCDBBBCDBBBBABABBBACABBBCBABBDAHBBBBBBABAB
     ABABABABABACABABABABABABABABACBBABCBABABABABABABABABABABABABABABABABABABABABABABABABABABABA
     BAHBBBCABDBABABABAlDABADAIAGABCBABBBQBIbJACCDABABABABABABABABABABABAFACABBCbYbWABABABABABAB
     ABABABABABABABABABABAJABABABABABABABABABABABABABABABABABABABABABABABABABABABBBABABABABABACA
     BABABABABABABABABABABABABABABABABABABABABABABABABABABABABABABABABABABABABABABABABABABABABAB
     ABACbLehDbLBAFAbbUdHdgLAoKABABABABABABABABABABABABABABABABABABABABABABABABABABABABABABABABA
     BABABABABABABABABABABABABABABABABABABABABABABABABABABABABABABABABABABABABABABABABABAJABABAB
     ABABABABABABABABABABABABABABABABABABABABABABABABABABABABABABABABABABABABABABABABABABABABABA
     JHIFKHIHIFLABABABAIHYHIHIHIELELDMELEkBAEADCCCCADEGABABABDCDKBFAbAPTAbfMZcsUbVbWABCCABABABDB
     ACAICBABABABABABABABABABABABABABABABABABABABABABABABABABABABABABABABABABABABABABABABABABABA
     BABABABABABAIABAEAbtyJABABABABABABABABABABABABABABABABABABABABABABATABABABABABABABABABABABA
     BABAfFABABABABABABADABABABABABABABABABABABABABABABABABABABABABABABABABABABABABABAKABABBBABA
     BABAEABACABADABABABABABABABABABABEBEBABABABABABABABDBABBDAFABABABAYAbhaHZbuZbNfGbJgAKBOBGBB
     cqCbYgBVegObFbgjWbFbmmQZbAZbAZbAABBCACBCDBHbAZbABBDCHBGbBBBDBEBADGbBZbAZbAZbAZbAZbAZbEYbHYb
     HYbHYbHYbHAgnLbHdbIZGZGZ")]

/-- Every loosely matched short name of a value, with its long one. -/
def aliases : List (String × String) :=
  [("at", "aterm"), ("cl", "close"), ("ex", "extend"), ("fo", "format"), ("le", "oletter"),
   ("lo", "lower"), ("nu", "numeric"), ("sc", "scontinue"), ("se", "sep"), ("st", "sterm"),
   ("up", "upper")]

/-- The characters that have a value, by its loosely matched name. -/
def find? (name : String) : Option CharClass :=
  (tables.lookup ((aliases.lookup name).getD name)).map fun text =>
    .ranges (CodeRange.decode text)

end SentenceBreak

end Unicode
end PathVersions
