import PathVersions.Unicode.Script

/-!
# Script extensions

The characters used with a script, which for some scripts differ from the characters whose
script it is. Only those scripts have a table here.
-/

namespace PathVersions
namespace Unicode
namespace ScriptExtension

/-- Each script whose extension differs from it, with the ranges of the extension. -/
def tables : List (String × String) :=
  [("Adlm", "ciHAbGAjwOAfhHAglrIcXEJEB"),
   ("Aghb", "bdSAbSAbSAdtqNbZLA"),
   ("Arab", "chCEBiGBbHdCbVjGbEBBFcWBbCivNAfhHAczrAeKQrCCcBHAbGPeIEBfEbmHbBeiEbEcPCcDDdglSDBbABBBACABJBD
     BABAGAEABABABCBBBACABABABABABBBACDBGBDBDBABJBQFCBEBQcAB"),
   ("Armn", "bdWAvGbLCbXCCdozJE"),
   ("Avst", "hBArfSBdfqCcBDG"),
   ("Beng", "baYAcmUBRBbADBHCBCVBGBADDCICBCDIAEBBECYhdHABACBBAIAIACAEACCcbaFA"),
   ("Bopo", "bbJABCNAQBrbXCEJBMKDCAGAhNAJbQeIbFczlTBkWE"),
   ("Bugi", "jwAbBCBcckTA"),
   ("Buhd", "iuNBJT"),
   ("Cakm", "dtMJckEJdtfQcABR"),
   ("Cari", "hBAlzMACAfgDAdclQbW"),
   ("Cher", "bdOCBAGBWBLBgfUdHCFcfjEdB"),
   ("Copt", "hBAwMADBBAeEBeENpjKeLFGkTAdcpCbB"),
   ("Cpmn", "dtiMBrqKdU"),
   ("Cprt", "dtiMCEbSDIcoMFCABbRBBDACA"),
   ("Cyrl", "baYAcPCBABABACAFAjElRivOKgEAcYAeXAgaPbFcPAbtlKdRbheCBdhpGcJbHA"),
   ("Deva", "baYAcjRdECbQhiEbMBBbnAAbzfRJgKbFbreMJ"),
   ("Dogr", "doMLcidCJbqiOcH"),
   ("Dupl", "hBAwTBBAYBqiHAfuqLeCFMDIHJCH"),
   ("Elba", "hBAwRAdtsCbN"),
   ("Ethi", "beCAfrDcUBDCGBABDCbOBDCbGBDCGBABDCOBcEBDCcOCbFDZjvAWJGBGBGBGBGBGBGBGbvkCFCFCFJGBGepyFGBDBBB
     O"),
   ("Gara", "chOAOADAdvqUbLDbCIB"),
   ("Geor", "hBAbvLAefEbLBAFACbVejWbQCCbjMAeuNbLBAFAjZA"),
   ("Glag", "hBAwPABAoSACAjXAeiRAfvIAekRdRsPAbtnFAeotKGBQCGBBBE"),
   ("Gong", "hBAdhKBeanIFBBBbKBBBFHJ"),
   ("Gonm", "doMBeajQGBBBbRDABBBIIJ"),
   ("Goth", "hBAwQBCAbOAdsyObA"),
   ("Gran", "dnTBRByQNgkAABBbECDBbnAAdnrJDBHCBCVBGBBBEBJCBCCCAGAFGCGDEerRBBA"),
   ("Grek", "hBAwMBCABABAKAbUACAbQHCDBAEABABCBABTBcKOPjnQEbYEEEdGCmGVCFCbLCFCHBABABABbECcABOBNCFBSCCBIdQ
     AhSAcajEAbgnIdARAdaxRcR"),
   ("Gujr", "dnTBRBkXCBIBCBVBGBBBECJBCBCCAPDCLHGchnSJ"),
   ("Gukh", "doNAfadEcF"),
   ("Guru", "dnTBRBfZCBFEBCVBGBBBBBBCABEEBCCDAHDBAHQchsZJ"),
   ("Hang", "glKjVljLCEJBMOCGAhNAcBdPeJbEcNbEbtaNbCyTqnRMWEbWomZBkWEcGbEDFCFCFCC"),
   ("Hani", "hBAriUZBdKMiFbAPBCBMBMBMCAGIhFAfSPbGbLJAbWbNcEbWPLbZAdKYKEdSbEBjtNcMbfbJcqYHbfbCoBCeBbhRBkW
     EbqpOBMBblrARlrYBfeSclfBbGgdTGiNCinPOlbKPxXdqWuVcfYhhYFgfF"),
   ("Hano", "itSW"),
   ("Hebr", "bdVByYcCIbAEFdovWZBEBABBBBBJ"),
   ("Hira", "seRCEJBMQFBAEBDdHCHdMBcztGBkWEKAbTBcouRlASAbDCymVA"),
   ("Hung", "mgOACAfgDAPAdgeGbYNbYHF"),
   ("Java", "cmeYcZBKEB"),
   ("Kali", "cmaAbV"),
   ("Kana", "bdTAbDAqzTCEJBMQFBAEBdNDDdRjGPiAbUBdJcywBBkWcKcouADBGBBBAlBCbYAOD"),
   ("Khoj", "edIJchoIJbobMRBbU"),
   ("Knda", "dnTBRBbeOMBCBWBJBECIBCBDHBGBBDCJBCgaEABBGAXABAcasXF"),
   ("Kthi", "doOJnxXAbufEJbnmScOKA"),
   ("Latn", "cNZGZbVAMACAFWBbEBrGDAKABCBAJABAGEbBOBBBAMACCHBBBbMAFAEMkRBbvEBcxKAeoIbLGbWFDFMBcRcFAHjVlRA
     cNANAQMdFAcFBGAbBARbOecTbFpRAbtuMHbAdXDcOCBBABHVNlQAtTbQBIBDbedQGboKZGZdcFFBbPBIddnPbEGF"),
   ("Limb", "doNAfxQbEBLELEADL"),
   ("Lina", "dtiTbSbvGlYJVKH"),
   ("Linb", "dsyQLBZBSBBBOCNbIeSFCEbSDI"),
   ("Lisu", "baYAQArdKBbsfSbVbumAA"),
   ("Lyci", "mgOAdhqRbC"),
   ("Lydi", "hBArfTAdexQZFA"),
   ("Mahj", "hBAdhKLcidCJbnuSbM"),
   ("Mand", "cjOAtRbBCA"),
   ("Mani", "cjOAduqXbMEL"),
   ("Mero", "mgRAdkhMbF"),
   ("Mlym", "dnTBRBbjMMBCBbYBCBFEPCZfvEAXAcasZC"),
   ("Modi", "clsAJbpoWcQLJ"),
   ("Mong", "jcIZGdKHbQcwAAfzTBFDdjfWM"),
   ("Mult", "dyKJdwaAGBABDBOBK"),
   ("Mymr", "gbOgDcfuCAgVbEdTbFbpaMT"),
   ("Nand", "doMBbiMJgbHAIAHAcasRFbqySHCbTCK"),
   ("Newa", "dnTBhkCABBJAGABABAdpoSdNBE"),
   ("Nkoo", "chOAOADAqAcGCCdowSB"),
   ("Onao", "doMBgykWbQEA"),
   ("Orkh", "mgOAfgFAdfzZcU"),
   ("Orya", "dnTBRBpVCBHCBCVBGBBBECICBCCHCEBBECRgpEAXA"),
   ("Osge", "bdPACAGAcYAdtlVbJEbJ"),
   ("Ougr", "cjOAdusVAbsFZ"),
   ("Perm", "hBAwMAFCKAoDAdsmUbQ"),
   ("Phag", "jcKBBAdcJAfzUAbtnXcD"),
   ("Phlp", "cjOAduyHRHDMG"),
   ("Rohg", "chOAOADAbGAfRAdvhJbNIJ"),
   ("Runr", "ioUdK"),
   ("Samr", "daUbTCOojQA"),
   ("Shaw", "hBAduiAbV"),
   ("Shrd", "dnTAhkFABACBCAcatRFCAbnwPdR"),
   ("Sind", "doMBcidMJboiGcGFJ"),
   ("Sinh", "doMBboLCBRDXBIBACGDAEFBABHGJCCfrPAdotQT"),
   ("Sogd", "cjOAdwiPbP"),
   ("Sunu", "bdOBBAJACAbCADAecgKbHOJ"),
   ("Sylo", "doMBeYJchwIbS"),
   ("Syrc", "bdRBCBBAVACCHBBAbcDAOBCAbGAKKbAAfNNBcHCCkMKieFABA"),
   ("Tagb", "iuNBbPMBCBB"),
   ("Takr", "doMBcidMJbptUcFGJ"),
   ("Tale", "bdOBFBDAezZJdkWbDCE"),
   ("Taml", "dnTBRBuUBBFDCBDDBBABBDBDCDLEEDCBDCAGAOUgkDAcbbKAboeFABAcDBetFbXNA"),
   ("Tang", "seAPtBAeqkMAbFjbZIbdNtSI"),
   ("Telu", "dnTBRBzQMBCBWBPCIBCBDHBBCCACDCJHIgfAAXA"),
   ("Tfng", "bdQABACABApzAcDHBOA"),
   ("Tglg", "isMVJAVB"),
   ("Thaa", "chOAOBCAcMJkSbXdpgQAKA"),
   ("Thai", "baYAbAAbRAbTAecLcFFbB"),
   ("Tibt", "frScTBbJEbMBbJBOBGEBmeVD"),
   ("Tirh", "dnTBRBhjJAMAPAcasZJbpaCcTIJ"),
   ("Todr", "bdPACACAJABAcWAdtwBbZ"),
   ("Toto", "baYAgzsLbE"),
   ("Tutg", "exAJgbQABAcasXFhFAbojEJBACABbLBJBACABDBJBBIB"),
   ("Yezi", "chOAOADAcMJdwaGbPBCCB"),
   ("Yiii", "seRBFJCHiPAbqbCbsUDcCbiiCE"),
   ("Zinh", "beDACABLBBDGCACPBBBRBEBDcgMBgoXbEbdBcBBABEuEBhMbFdfsQPQNblNAczqObTCWuYCRHCGbEDbtlhIjF"),
   ("Zyyy", "AcMbAFbAbUBLBBBEXAbFArHCBJBADABIBABFFECTeWAGABAyNAiHAtWAcaUApPDgdBLCbGBbEBJBBBGBKDKBORbGcLb
     LBCCFBbABQbPCEzPWKVbjRjWyDCbFBeAtSWBXCJBDBABZqCADANANAVAuJXbFAbXOMDgFJFdRbFAjtOcLbhsQZdYCbl
     OAOBbfhSJWUCLBSBDfRABbFbAFbAFeXGBGKEpMMbZbScynBjPGqTgAeLcIjLKbMCcJDQIBHbDEcIiFTMTMdIbBGfFdG
     BcSBBCACBCDBLBABGBcMBDCHBGBbBBDBEBADGBnBClFCbXhtHcPcYcIbbEbREdVMOCOBOBbKKgRcEZBBNbREIXFfYbl
     VEQDMDeOEdQGLEAPLEcDIJGbNIbDCLEBcKnBMNCMDJFcDHOCKGIHfQBdXbsuxBAbEdR")]

/-- The ranges of the characters used with a script, by its code. -/
def ranges (code : String) : List CodeRange :=
  match tables.lookup code with
  | some text => CodeRange.decode text
  | none => Script.ranges code

/-- The characters used with a script, by a loosely matched name. -/
def find? (name : String) : Option CharClass :=
  (Script.aliases.lookup name).map fun code => .ranges (ranges code)

end ScriptExtension
end Unicode
end PathVersions
