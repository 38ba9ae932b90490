import PathVersions.Unicode.GeneralCategory

/-!
# Binary properties

Yes-or-no properties of characters. Most have a table of ranges; the large ones are derived
from general categories and a small table of further characters.
-/

namespace PathVersions
namespace Unicode
namespace BinaryProperty

/-- Each tabulated property with its ranges, written as `CodeRange.decode` reads them. -/
def tables : List (String × String) :=
  [("asciihexdigit", "bWJHFbAF"),
   ("bidicontrol", "ciEAjvLBbAEcDD"),
   ("bidimirrored", "bOBSABAbCABAbDABAbTAPAfmSDcuNBdqQBKBcCBOBgVAhKDDFDADBDDBDBABAEIFABRFDJBBABHBbFCDFAJBCSFBJEC
     BEXCPIDUBHBbpTNcWACDBBBCFDFCDNpNVCFBNIAHFDAEEBBCEEABCCBKFCBMSBDCABACABDFBGCYBLBEDBBCBEbQCHB
     bNFABADEFCEADEBAjWAtVDDBBBOBCJbRHqLJCHdacRFFBgGBSABAbCABAbDABABBBBddpNAcFAcFAcFAcFA"),
   ("caseignorablepunctuation", "bNAGALAeUAbbRAsDAfSAjxJBKACAdgbBAcKACAgVAGALA"),
   ("changeswhencasefolded", "cNZdMAKWBHbGABABABABABABABABABABABABABABABABABABABABABABABABABABABACABABABABABABABABBBABABA
     BABABABABABABABABABABABABABABABABABABABBBABABABBBABBBCCDBBBCDBBBBABABBBACABBBCBABBDAHBBBBBB
     ABABABABABABABACABABABABABABABABACBBABCBABABABABABABABABABABABABABABABABABABABABABABABABABA
     BABABAHBBBCABDBABABABAjMAbQABADAIAGABCBABBBQBIWAMCDBBABABABABABABABABABABABABBCBBABBCbYbWAB
     ABABABABABABABABABABABABABABABAJABABABABABABABABABABABABABABABABABABABABABABABABABABABBBABA
     BABABABACABABABABABABABABABABABABABABABABABABABABABABABABABABABABABABABABABABABABABABABABAB
     ABABABABABABACbLbWAefGbLBAFAbfEFdfUJGbQCCmIABABABABABABABABABABABABABABABABABABABABABABABAB
     ABABABABABABABABABABABABABABABABABABABABABABABABABABABABABABABABABABABABABABABABABABABABABA
     BABABABABAFBCABABABABABABABABABABABABABABABABABABABABABABABABABABABABABABABABABABABABABABAB
     ABABABABABABABABABAJHIFKHIHIFLABABABAIHQbVCCCFFCCFLDMEFCCFlLADBGAbTPTAbfMZcsUbVbWABCCABABAB
     DBACAICBABABABABABABABABABABABABABABABABABABABABABABABABABABABABABABABABABABABABABABABABABA
     BABABABABABABAIABAEAbtyJABABABABABABABABABABABABABABABABABABABABABABATABABABABABABABABABABA
     BABABAfFABABABABABABADABABABABABABABABABABABABABABABABABABABABABABABABABABABABABABAKABABBBA
     BABABAEABACABADABABABABABABABABABABEBEBABABABABABABABDBABBDAFABABABAYAbiGdBbeaIGMEbnTZbuZbN
     fGbJgAKBOBGBBcqCbYgBVegObFbgjWbFbulKbH"),
   ("changeswhencasemapped", "cNZGZcGAKWBbEBcLBdFBbBCNCBBAEdOBRGbABBBABBDBBDBECABBCAHACABBDFFAKBgKAbQDCBDCBAGABCBABTBbUDb
     GBEBfCIgJBbLKbMefGbLBAFACbQCCzWdHCFdfUKFbQCChDADAQAeJfZCABeNCFCbLCFCHBABABABbECcABGBADCBGDD
     CFEMFCBGlLADBGAbBARbFDBbfLbZcrUeIBBBBHdXHDDBMbLBAFAbtwCbTSbBfENCcJJODCCEBYBbDCBEGYBbhCAbCdB
     beaIGMEbnTZGZbtTdBdSbJEbJeMKBOBGBBBKBOBGBBcoPbYNbYdPVKVefIcLbgiQcLbukEcP"),
   ("changeswhenlowercased", "cNZdXWBGbHABABABABABABABABABABABABABABABABABABABABABABABABABABABACABABABABABABABACABABABABA
     BABABABABABABABABABABABABABABABABABABBBABADBBABBBCCDBBBCDBBBBABABBBACABBBCBABBDAHBBBBBBABAB
     ABABABABABACABABABABABABABABACBBABCBABABABABABABABABABABABABABABABABABABABABABABABABABABABA
     BAHBBBCABDBABABABAlDABADAIAGABCBABBBQBIbJAIABABABABABABABABABABABAFACABBCbYbWABABABABABABAB
     ABABABABABABABABABAJABABABABABABABABABABABABABABABABABABABABABABABABABABABBBABABABABABACABA
     BABABABABABABABABABABABABABABABABABABABABABABABABABABABABABABABABABABABABABABABABABABABABAB
     ACbLehDbLBAFAbbUdHdgLAGbQCCmIABABABABABABABABABABABABABABABABABABABABABABABABABABABABABABAB
     ABABABABABABABABABABABABABABABABABABABABABABABABABABABABABABABABABABABABABABABABABABABAJABA
     BABABABABABABABABABABABABABABABABABABABABABABABABABABABABABABABABABABABABABABABABABABABABAB
     ABAJHIFKHIHIFLABABABAIHYHIHIHIELELDMELElLADBGAbTPTAbfMZcsUbVbWABCCABABABDBACAICBABABABABABA
     BABABABABABABABABABABABABABABABABABABABABABABABABABABABABABABABABABABABABABABABABABABAIABAE
     AbtyJABABABABABABABABABABABABABABABABABABABABABABATABABABABABABABABABABABABABAfFABABABABABA
     BADABABABABABABABABABABABABABABABABABABABABABABABABABABABABABABAKABABBBABABABAEABACABADABAB
     ABABABABABABABABEBEBABABABABABABABDBABBDAFABABABAYAbhaHZbuZbNfGbJgAKBOBGBBcqCbYgBVegObFbgjW
     bFbulKbH"),
   ("changeswhentitlecased", "dTZcGAbPXBHBABABABABABABABABABABABABABABABABABABABABABABABABABABABACABABABABABABABBBABABABA
     BABABABABABABABABABABABABABABABABABABACABABCCABACADAFACADCCACABABACAEACADABACADABAEABBBBBAB
     ABABABABABABABBBABABABABABABABABCBABADABABABABABABABABABABABABABABABABABABABADABABABABABABA
     BABAIACBBAEABABABABFBBBABBDBBDBECABBCAHACABBDFFAKBgKAbRABADADCSAbBbIBBDCBABABABABABABABABAB
     ABABEBACACAcAbVBABABABABABABABABABABABABABABABABAJABABABABABABABABABABABABABABABABABABABABA
     BABABABABABACABABABABABABBBABABABABABABABABABABABABABABABABABABABABABABABABABABABABABABABAB
     ABABABABABABABABABABABABABABABAbXbMfmEFdfUIBAjEADAQAeKABABABABABABABABABABABABABABABABABABA
     BABABABABABABABABABABABABABABABABABABABABABABABABABABABABABABABABABABABABABABABABABABABABAB
     ABABABABABABABABABABGFABABABABABABABABABABABABABABABABABABABABABABABABABABABABABABABABABABA
     BABABABABABABABABABABABABIIFKHIHIFKHIHINCHIHIHIEBBGADCBBIDCBIHKCBBnEAbHPEAbgLZctQbVBADBBABA
     BAGACAKABABABABABABABABABABABABABABABABABABABABABABABABABABABABABABABABABABABABABABABABABAB
     ABABABABABABABAIABAEAMbLBAFAbtwDABABABABABABABABABABABABABABABABABABABABABABATABABABABABABA
     BABABABABABABAfFABABABABABABADABABABABABABABABABABABABABABABABABABABABABABABABABABABABABABA
     KABACABABABABAEAEABBCABABABABABABABABABALABABABABABABABAEABACADAFABABAbAAbhCAbCdBbeaIGMEboZ
     ZbvHbNfGbJfZKBOBGBBcrBbYeVVegObFbgjWbFbulMbH"),
   ("changeswhenuppercased", "dTZcGAbPXBHBABABABABABABABABABABABABABABABABABABABABABABABABABABABACABABABABABABABBBABABABA
     BABABABABABABABABABABABABABABABABABABACABABCCABACADAFACADCCACABABACAEACADABACADABAFBBBBBBAB
     ABABABABABABBBABABABABABABABABBBBBADABABABABABABABABABABABABABABABABABABABADABABABABABABABA
     BAIACBBAEABABABABFBBBABBDBBDBECABBCAHACABBDFFAKBgKAbRABADADCSAbBbIBBDCBABABABABABABABABABAB
     ABEBACACAcAbVBABABABABABABABABABABABABABABABABAJABABABABABABABABABABABABABABABABABABABABABA
     BABABABABACABABABABABABBBABABABABABABABABABABABABABABABABABABABABABABABABABABABABABABABABAB
     ABABABABABABABABABABABABABABAbXbMehCbQCCbdGFdfUIBAjEADAQAeKABABABABABABABABABABABABABABABAB
     ABABABABABABABABABABABABABABABABABABABABABABABABABABABABABABABABABABABABABABABABABABABABABA
     BABABABABABABABABABABABABGFABABABABABABABABABABABABABABABABABABABABABABABABABABABABABABABAB
     ABABABABABABABABABABABABABABABIIFKHIHIFKHIHINCcABBEABADCBBEADDCBIHKCBBEAmZAbHPEAbgLZctQbVBA
     DBBABABAGACAKABABABABABABABABABABABABABABABABABABABABABABABABABABABABABABABABABABABABABABAB
     ABABABABABABABABABABAIABAEAMbLBAFAbtwDABABABABABABABABABABABABABABABABABABABABABABATABABABA
     BABABABABABABABABABAfFABABABABABABADABABABABABABABABABABABABABABABABABABABABABABABABABABABA
     BABABAKABACABABABABAEAEABBCABABABABABABABABABALABABABABABABABAEABACADAFABABAbAAbhCAbCdBbeaI
     GMEboZZbvHbNfGbJfZKBOBGBBcrBbYeVVegObFbgjWbFbulMbH"),
   ("dash", "bTAcaUAbZAfkJAbnPAdbDFcJAbNAPApAAeoIACAbFBEAbCArEATAeHAczwABbLAKAgNAflOAmGA"),
   ("defaultignorablecodepoint", "gRAzXAbbOAegWBckHBdHEdaPEbAEbXPgkYAczmPPjFAgEAdBIctlNDhwXHbtkzLgbN"),
   ("deprecated", "mRAbyVAdkTABAdcJBdiJFbaVBbzryKA"),
   ("diacritic", "dQABAcTAGAEACBtJgCBHFFRBEAJBjTEiBAcDQBbABABBBAfEHEBfEBEBDCcPbAdNKcGKbIBeWHbPJQbBcJAQADDbCAc
     WAQAeGAQAeGAQAbVCcIAQAHAePAeGAQAeGAQAeFBQAeUAeHAMFBAeDANEcXBbBABABAEBcOCBBcKAeIABBbOBEEZGBA
     KBbbDCbkMBbEAfSKJAnJClGAUHCAbWOCKeAAPAbMIcCBcGALBcOBcMFdEYEAGACCbYcKdLLbLKrDABCLCNCNCNBexKC
     mFAtMFeBDdRAbsmKAMBBAbCBdEBObHdYCeFBMAbLAfVAbBRcFDbKAdRAMAbKAfTCcNDbZAdWEJCeYBbdzSAbdPPkKAB
     AbVAbTBcPAbdKAbtNFBbPBIyNCEAgJBvZFbMAbAEpJCcSKbXDhKAbPAcUBeQBcKAcYAJCeABgWBdCBQAYGDEdLCBBNB
     dRADAeTBjRBeWAeOBeLAkJBjYBEAgAAdFASAdDAqFAjYABBdDAqJBXAhyAOqzPAdsAEcHGvSBvAQdCBygCDBGBBltHb
     TCWuYCDFIHCGbEDfmWcJhMGoLAcJDbdMBbcIGeFCBC"),
   ("emoji", "bJAGAFJeHAEAlyRAMAiIAWAdMFPBoDBMAgKAZKEChRAiXBKAJAcGDBEJACACBCAEACABBCADADBICFABAFLLBCABBBA
     SACBSFBABBDBFACBEBLBFBCAFBBABBUBFFBDCAEACACFBACABABAGADAGAKBPACAEABAECBALBbWCJAOAOAoIBrVCTB
     bZAEAbvUAMAxDABAgmrQAhUAgEBMBOACJcXZBBXAUACIVBgSbHCeHCBBCCdECCBkCBcKLFBXHBCHMACDCAEBNBCAIBJ
     AFCMCICCABAEAGADAGdHbWcRFHCCEJDABBDACJiTLEAkXbUBJBhCeIMDJFcDHOCKGI"),
   ("emojicomponent", "bJAGAFJmbJAiFAdftRAdoiWZtNEceADbsvuQdR"),
   ("emojimodifier", "hhiXE"),
   ("emojimodifierbase", "olHAiLAQDgsjVAcICCACCeNBCKVSDAECBCHABAYAhTBEAVAEBgSCDEdFAQCJALAwDACAIHGAJJCCcEAcJBBBBARCBMi
     VCbQI"),
   ("emojipresentation", "nhQBhXDDACAuBBVBbYLbRATANAIBRBFBIAFAVAHBBAEACAHAEBbCAbJABAECBAcJCYAOAbhBBbZAEAgplEAhUAhIACJ
     cXZBAYAUACEBCVBgSbGMIBcRBVMbQEEMQDADcSBABhECcKNDBXSAbABNAdIdGbWcRGADCCCEDLBHIiTLEAkXbUBJBhC
     eIMDJFcDHOCKGI"),
   ("extendedpictographic", "gNAEAlyRAMAiIAWAdMFPBoDBMAdRAcSAZKEChRAiXBKAJAcGDBFBLBeJKeNCKBABAGADAGAKBPACAEABAECBALEbTCJ
     AOAOAoIBrVCTBbZAEAbvUAMAxDABAgmrMjVNCbFAcIFMBOACJScEbBOKAUACIBDJqRFmFIkFbWeXeMLdHbQMDcEHKFb
     OHbEdDMbUBJBqYjWbnH"),
   ("extender", "hBAuQBbhUAqZAyGAfHAdLAbcYAeXAdnFAcEAxNApIAcQAhkJAbREdZBdPCbqbUAcgSAblAAWAfHAeEAVBbfzVAdbKBc
     fBAbBAEAbvBAlHAeMBtECbvJAbeoFBbtKBBAbqyABbuFAbgUC"),
   ("graphemelink", "dnPAeXAeXAeXAeXAeXAeXAeXAeFBQAeUAeHAeXAhTAgYBcpLBbEAgBAzDAiTAdXBcSBgqTAbukKAbLAfVAfMAeEAlXA
     jMAbjsRAchIAbPAOAcFAeRBfJAeMAgYAdUAeYCeJAeXAjSAeXAeOAeMAkJAjZBgFAdFASAdDAqFAkABdDAqJByzCA"),
   ("hexdigit", "bWJHFbAFdslLJHFbAF"),
   ("hyphen", "bTAeXAbvWAgzZAdbDBfiBAbcLAczuLAgNAdJA"),
   ("idsbinaryoperator", "seABCJtDA"),
   ("idstrinaryoperator", "seCB"),
   ("idsunaryoperator", "seOB"),
   ("idcompatmathcontinue", "gWBFAmaGADKBOoHAEAWAgjjEAZAbFAZAbFAZAbFAZAbFAZA"),
   ("idcompatmathstart", "mwWAEAWAgjjEAZAbFAZAbFAZAbFAZAbFAZA"),
   ("ideographic", "seWBZIOCblDjtNcMbfbJbhsIoBCeBbsiKAbBjbZIbvPbPJnuLpFbdeIclfBbGgdTGiNCinPOlbKPxXdqWuVcfYhhYFg
     fF"),
   ("joincontrol", "mdOB"),
   ("logicalorderexception", "fkIEeTEedSCCAccxMBCABB"),
   ("modifiercombiningmark", "ckIBCAfBAGADBsNBBCDAbFA"),
   ("noncharactercodepoint", "dsdCbFuGBdsyOBdsyOBdsyOBdsyOBdsyOBdsyOBdsyOBdsyOBdsyOBdsyOBdsyOBdsyOBdsyOBdsyOBdsyOBdsyOB"),
   ("otheralphabetic", "bgFAbDMwENBABBBBBAcUKbWMBGQAdXGEDCBEAbJAbEPdYKdXBDIBCBDeCAcILDGGTcCBCOBBFCKBbDCcGGCBCBKAKBb
     DCcGEEBCBEAbEBDALCcGHBCBBVBWCECcGGCBCBJBKBbEAcHEDCBCKAbOEcFGBCBCIBLBbDCcGGBCBCIBLBPAMDcGGBC
     BCKAKBbDCcXFBABHSBcJACGSAdVACFBBQAgHSJKBbJeGLBACDXDECBCCGDDNLBAKDclOBbEBbEBbEBcOShGBbIAeOLE
     IiOEcFJCTcWBLCbXEbWOcICbEICBcFKbYSpWbHcoNbZdkGbFbtqAHbIBnQAIAXEdKBbYPBAcFAbMEbCLbTDbWLbLAcP
     NMAIBbTCbYABCCBFAbSEFAjDHbdzVAdeDEcmGCBBFDbeIDcNAmJBdBAjZCcBNbTBLCbTIJAcJCbKLSBcFCbWMOBdOIC
     AGACAgBJXDcGGCBCBKAKBdGIBACABDBBdZMBCeCRjDGCGbDBdEOBAeCKdZNjXMjNFBBCBDABAfMGCFEAbCJbQEBDSKb
     UNpRHBGdFVBNeSFDABBBCBADAcOEBBBDnKDJBBAbWGDCyyNQfjCABcCHDdPBbdaYAnkJGBQCGBBBEdWAdhVAczWZGZG
     Z"),
   ("otherdefaultignorablecodepoint", "bgPAfiLBckHBdhNAglIAdacPAdBIbwmiHABbDdSeXjGfiL"),
   ("othergraphemeextend", "drYAYAnUAYAdYAYAiYABAEBBBJBdZAYAePAPAdmRAbEAbnKAFABAFBdXAcTBboIAgcVBbtwTAeEAbgnLBgwMAeMAkEA
     OAJAdSAJACABCFAiQAMAjHAkCAyJAMAchFAbeoKBbkxNBGFbtlaZdR"),
   ("otheridcontinue", "hBAbbRAgaJIclCAciZBgkRAdaeJA"),
   ("otheridstart", "jhLBdgJAVAfvWB"),
   ("otherlowercase", "gOAPAtHIHBbEEdSAcAAfcZAepZcKNAbIbKbaNANAQMiDPbgQZcwOBbugKBiCAeZCDBbhIDJAbiwSACCBbPBIddzHcJ"),
   ("othermath", "dQAbhXCCAbABCBkqYAbBCLAbGDYBOBcNMEADBEESAEACJBADEGADBCBBCBFDDFEcXECDBBBBBABECBEBERCBBABGBAG
     BlEDgMBBAYARArDBMIFEFBCBDEOABACFYBcFABAbDDJBnEBbFJpNVcLDbGBdclFABAEAiDABAdcoVdGBcSBBCACBCDB
     LBABGBcMBDCHBGBbBBDBEBADGBnBCYBYBbEBYBbEBYBbEBYBbEBYBHCbXiiQDBbABBBACABJBDBABAGAEABABABCBBB
     ACABABABABABBBACDBGBDBDBABJBQFCBEBQ"),
   ("otheruppercase", "mqQPbgGZgsiYZGZGZ"),
   ("patternsyntax", "bHOKGbADBAbADbIGBABBBABBEAEADAXAbFAluEXIOCSBJlTbbRgEyFbEbrNtSeXoVCEYPAczqZBkBB"),
   ("patternwhitespace", "JESAdWAlyMBYB"),
   ("prependedconcatenationmark", "chCFiHAbXAoUBdCAdvxYAPA"),
   ("quotationmark", "bIAEAfBAPAlwUHZBfiDArPDNCdabPDhHAEAdMB"),
   ("radical", "rpWZBdKMiF"),
   ("regionalindicator", "hgoKZ"),
   ("sentenceterminal", "bHAMAQAcaBAfRCgYAbRCjMAcJABADBlHBcpWBbeKAEBbdTAhQBgBBbTAFAmCBnQDgGBKBCBbDChFBcNBbjWAXBJCeuX
     ClUANAWBqNAbshWAkKBiTADAoSBdIBdRAfWBfRCfOBjPAbfcWACBcHADBgNAMAQAcNAedWBbxDEbSDhHBeNDeXCeZBG
     AQBdKBBBeEAlMBeNBoJBFOeBBjPCtXABAjRBdJBqEBbaQBcWBbcmBBfDAcNBLAvHBlKAbdoGAliMA"),
   ("softdotted", "eBBhOAkVAbEAcAAUAmIAdUABAjmNAbZANADAfCAgBAqFAiGBegGAgelHBbYBbYBbYBbYBbYBbYBbYBbYBbYBbYBbYBb
     YBdfYAlTBbAA"),
   ("terminalpunctuation", "bHAKABALBDAbfYAIAtTAcFAcUAOABCgYAbRKBAjBBcCFBHbFAkBBbwUBgQAEFlZBbeJHbdTAeUCcTBgBCDAbNDCBmCB
     nQDgGBKBBCbDChFEcKBbjWAXBJCeuXClUANAEAKABBDBqMBbshVBkJCiTEoSBdIBdRAfVCfRCeXAQBjPAbfcWACBcFC
     BDgNAKABALBDAcNACAbpQAbWAbsOAhRAlYBfWFcQFdLDbkQEbSDhHGeIDeXCeZBGAQBdKEeEAlMBeNCMBnUDDOeBBjP
     CtXABAjRBdJBEBpYCbTAyVBcWBbyXEbamZBfDAcNCKAvHBlJBbdoGAliLD"),
   ("unifiedideograph", "tsAjtNcMbfbJbicSBBABBKABABBCCdveCclfBbGgdTGiNCinPOlbKPxXgrQhhYFgfF"),
   ("variationselector", "jcTCBAdjcAPbwnkYjF"),
   ("whitespace", "JESAdWAbAAihJAdpNKbDBFAbVAfxWA"),
   ("xidcontinueexcluded", "biGArcIBczeFFpQBeMABABABABABABABA"),
   ("xidstartexcluded", "biGAebOAeXAmvVBczeFFpQBeMABABABABABABABAlBB")]

/-- Every loosely matched short name of a property, with its long one. -/
def aliases : List (String × String) :=
  [("ahex", "asciihexdigit"), ("alpha", "alphabetic"), ("bidic", "bidicontrol"),
   ("bidim", "bidimirrored"), ("ci", "caseignorable"), ("cwcf", "changeswhencasefolded"),
   ("cwcm", "changeswhencasemapped"), ("cwl", "changeswhenlowercased"),
   ("cwt", "changeswhentitlecased"), ("cwu", "changeswhenuppercased"), ("dep", "deprecated"),
   ("di", "defaultignorablecodepoint"), ("dia", "diacritic"), ("ebase", "emojimodifierbase"),
   ("ecomp", "emojicomponent"), ("emod", "emojimodifier"), ("epres", "emojipresentation"),
   ("ext", "extender"), ("extpict", "extendedpictographic"), ("grbase", "graphemebase"),
   ("grext", "graphemeextend"), ("grlink", "graphemelink"), ("hex", "hexdigit"),
   ("idc", "idcontinue"), ("ideo", "ideographic"), ("ids", "idstart"),
   ("idsb", "idsbinaryoperator"), ("idst", "idstrinaryoperator"), ("idsu", "idsunaryoperator"),
   ("joinc", "joincontrol"), ("loe", "logicalorderexception"), ("lower", "lowercase"),
   ("mcm", "modifiercombiningmark"), ("nchar", "noncharactercodepoint"),
   ("oalpha", "otheralphabetic"), ("odi", "otherdefaultignorablecodepoint"),
   ("ogrext", "othergraphemeextend"), ("oidc", "otheridcontinue"), ("oids", "otheridstart"),
   ("olower", "otherlowercase"), ("omath", "othermath"), ("oupper", "otheruppercase"),
   ("patsyn", "patternsyntax"), ("patws", "patternwhitespace"),
   ("pcm", "prependedconcatenationmark"), ("qmark", "quotationmark"),
   ("ri", "regionalindicator"), ("sd", "softdotted"), ("space", "whitespace"),
   ("sterm", "sentenceterminal"), ("term", "terminalpunctuation"),
   ("uideo", "unifiedideograph"), ("upper", "uppercase"), ("vs", "variationselector"),
   ("wspace", "whitespace"), ("xidc", "xidcontinue"), ("xids", "xidstart")]

/-- The ranges of a tabulated property, by its long name. -/
def ranges (name : String) : List CodeRange :=
  CodeRange.decode ((tables.lookup name).getD "")

/-- The characters of a general category together with those of a tabulated property. -/
def extending (categories : List String) (name : String) : CharClass :=
  .ranges (categories.flatMap GeneralCategory.ranges ++ ranges name)

def lowercase : CharClass := extending ["Ll"] "otherlowercase"

def uppercase : CharClass := extending ["Lu"] "otheruppercase"

def alphabetic : CharClass :=
  .union (.union lowercase uppercase) (extending ["Lt", "Lm", "Lo", "Nl"] "otheralphabetic")

def graphemeExtend : CharClass := extending ["Me", "Mn"] "othergraphemeextend"

/-- Characters that programs reserve for their own grammar. -/
def reserved : CharClass := .ranges (ranges "patternsyntax" ++ ranges "patternwhitespace")

def idStart : CharClass :=
  .difference (extending ["Lu", "Ll", "Lt", "Lm", "Lo", "Nl"] "otheridstart") reserved

def idContinue : CharClass :=
  .union idStart
    (.difference (extending ["Mn", "Mc", "Nd", "Pc"] "otheridcontinue") reserved)

/-- The characters of a derived property, by its long name. -/
def derived : String -> Option CharClass
  | "lowercase" => some lowercase
  | "uppercase" => some uppercase
  | "cased" => some (.union (.union lowercase uppercase) (GeneralCategory.characters "Lt"))
  | "alphabetic" => some alphabetic
  | "math" => some (extending ["Sm"] "othermath")
  | "idstart" => some idStart
  | "idcontinue" => some idContinue
  | "xidstart" => some (.difference idStart (.ranges (ranges "xidstartexcluded")))
  | "xidcontinue" => some (.difference idContinue (.ranges (ranges "xidcontinueexcluded")))
  | "graphemeextend" => some graphemeExtend
  | "graphemebase" =>
      some (.complement
        (.union graphemeExtend
          (.ranges (["Cc", "Cf", "Co", "Cn", "Zl", "Zp"].flatMap GeneralCategory.ranges))))
  | "caseignorable" =>
      some (extending ["Mn", "Me", "Cf", "Lm", "Sk"] "caseignorablepunctuation")
  | _ => none

/-- Tables that only serve a derived property and have no name of their own. -/
def auxiliary : List String :=
  ["caseignorablepunctuation", "xidstartexcluded", "xidcontinueexcluded"]

/-- The characters of a property, by a loosely matched name. -/
def find? (name : String) : Option CharClass :=
  let long := (aliases.lookup name).getD name
  match derived long with
  | some characters => some characters
  | none =>
      if auxiliary.contains long then none
      else (tables.lookup long).map fun text => .ranges (CodeRange.decode text)

end BinaryProperty
end Unicode
end PathVersions
