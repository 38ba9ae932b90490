import PathVersions.Unicode.CodeRange

/-!
# Case orbits

Two characters are alike up to case when simple case folding sends them to one character.
The characters alike to one another form an orbit; all but the characters listed here are
alone in theirs.
-/

namespace PathVersions
namespace Unicode
namespace CaseOrbit

/-- The orbits in order of their first character: its distance from the first character of
the orbit before, the number of members beyond two, and the distances between members. -/
def table : String :=
  "cNAbGBAbGBAbGBAbGBAbGBAbGBAbGBAbGBAbGBAbGBBbGmkLBAbGBAbGBAbGBAbGBAbGBAbGBAbGBBbGkIBAbGBAbGBAb
   GBAbGBAbGBAbGBAbGdNBbcPbGLAbGBAbGBAbGBAbGBAbGBBbGmfUBAbGBAbGBAbGBAbGBAbGBAbGBAbGBAbGBAbGBAbGB
   AbGBAbGBAbGBAbGBAbGBAbGBAbGCAbGBAbGBAbGBAbGBAbGBAbGBAbGBAlgXbGAeRBABCABCABCABCABCABCABCABCABC
   ABCABCABCABCABCABCABCABCABCABCABCABCABCABCABEABCABCABDABCABCABCABCABCABCABCABDABCABCABCABCABC
   ABCABCABCABCABCABCABCABCABCABCABCABCABCABCABCABCABCABDABCABCABDAhNBAiCBABCABCAhYBABCAhXBAhXBA
   BDAdBBAhUBAhVBABCAhXBAhZBAdTBAiDBAiBBABCAgHBAckyZBAiDBAiFBAfABAiGBABCABCABCAiKBABCAiKDABCAiKB
   ABCAiJBAiJBABCABCAiLBABEABDAcEFBBBDBBBDBBBDABCABCABCABCABCABCABCABDABCABCABCABCABCABCABCABCAB
   DBBBDABEABCABCABCABCABCABCABCABCABCABCABCABCABCABCABCABCABCABCABCABEABCABCABCABCABCABCABCABCA
   BIApzFBABDApzCBApzZBApzZBABDAcRBAcTBABCABCABCABCABCApyTBApyQBApySKAckpRFAckpNDAckqPBAckoEBAck
   pGEAckpGBApxFBAckpDFApxLMApwPFAckpFFAckoGWAcknLBAcknIgLCdGbGkpXbRABCABEABFAfABAfABAfACAeMHAbM
   CAbLBAbLBAbLCAcMCAcLBAcLBAksHBAbGBBbGbEBAbGBAbGBBbGcMBAbGBAbGBCbGZbJCBbGcCBAbGCAbGBAbGBAbGBBb
   GWBBbGbWCBbFBBAbGBAbGBBbGPBAbGBAbGBBbGldDBAbGBAbGFAkrRbFAIJABCABCABCABCABCABCABCABCABCABCABCA
   BEAHFABDABGAdCBAdCBAdCBAdCBAdCBAdCBAdCBAdCBAdCBAdCBAdCBAdCBAdCBAdCBAdCBAdCBAbGBAbGBBbGjfIBAbG
   BBbGjfHBAbGBAbGBAbGBAbGBAbGBAbGBAbGBAbGBAbGBBbGjeYBAbGBAbGBBbGjeWBCbGjeWBBAbGBAbGBAbGBAbGBAbG
   BAbGBAbGBBbGjeQBAbGBAbGBAbGBAbGBAbGbXABCBBjdSCABCABCABCABCABCABCABCABCABCABCABCABCABCABCABKAB
   CABCABCABCABCABCABCABCABCABCABCABCABCABCABCABCABCABCABCABCABCABCABCABCABCABCABCAPBABCABCABCAB
   CABCABCABDABCABCABCABCABCABCABCABCABCABCABCABCABCABCABCABCABCABCABCABCABCABCABCABCABCABCABCAB
   CABCABCABCABCABCABCABCABCABCABCABCABCABCABCABCABCABCABCABCABDAbWBAbWBAbWBAbWBAbWBAbWBAbWBAbWB
   AbWBAbWBAbWBAbWBAbWBAbWBAbWBAbWBAbWBAbWBAbWBAbWBAbWBAbWBAbWBAbWBAbWBAbWBAbWBAbWBAbWBAbWBAbWBA
   bWBAbWBAbWBAbWBAbWBAbWBAbWehEAktKBAktKBAktKBAktKBAktKBAktKBAktKBAktKBAktKBAktKBAktKBAktKBAktK
   BAktKBAktKBAktKBAktKBAktKBAktKBAktKBAktKBAktKBAktKBAktKBAktKBAktKBAktKBAktKBAktKBAktKBAktKBAk
   tKBAktKBAktKBAktKBAktKBAktKBAktKCAktKGAktKDAelSBAelSBAelSBAelSBAelSBAelSBAelSBAelSBAelSBAelSB
   AelSBAelSBAelSBAelSBAelSBAelSBAelSBAelSBAelSBAelSBAelSBAelSBAelSBAelSBAelSBAelSBAelSBAelSBAel
   SBAelSBAelSBAelSBAelSBAelSBAelSBAelSBAelSBAelSBAelSBAelSBAelSBAelSBAelSDAelSBAelSBAelSzXAcfmU
   BAcfmUBAcfmUBAcfmUBAcfmUBAcfmUBAcfmUBAcfmUBAcfmUBAcfmUBAcfmUBAcfmUBAcfmUBAcfmUBAcfmUBAcfmUBAc
   fmUBAcfmUBAcfmUBAcfmUBAcfmUBAcfmUBAcfmUBAcfmUBAcfmUBAcfmUBAcfmUBAcfmUBAcfmUBAcfmUBAcfmUBAcfmU
   BAcfmUBAcfmUBAcfmUBAcfmUBAcfmUBAcfmUBAcfmUBAcfmUBAcfmUBAcfmUBAcfmUBAcfmUBAcfmUBAcfmUBAcfmUBAc
   fmUBAcfmUBAcfmUBAcfmUBAcfmUBAcfmUBAcfmUBAcfmUBAcfmUBAcfmUBAcfmUBAcfmUBAcfmUBAcfmUBAcfmUBAcfmU
   BAcfmUBAcfmUBAcfmUBAcfmUBAcfmUBAcfmUBAcfmUBAcfmUBAcfmUBAcfmUBAcfmUBAcfmUBAcfmUBAcfmUBAcfmUBAc
   fmUBAcfmUBAIBAIBAIBAIBAIBAIdgLBcaeKBBABjGAcagYEAfqSRAcaiYeKABCABCABCABCABCABCABCABCABCABCABCA
   BCABCABCABCABCABCABCABCABCABCABCABCABCABCABCABCABCABCABCABCABCABCABCABCABCABCABCABCABCABCABCA
   BCABCABCABCABCABCBBcGCABCABCABCABCABCABCABCABCABCABCABCABCABCABCABCABCABCABCABCABCABCABCABCAB
   CABCABMABCABCABCABCABCABCABCABCABCABCABCABCABCABCABCABCABCABCABCABCABCABCABCABCABCABCABCABCAB
   CABCABCABCABCABCABCABCABCABCABCABCABCABCABCABCABCABCABCABCAIBAIBAIBAIBAIBAIBAIBAIJAIBAIBAIBAI
   BAIBAILAIBAIBAIBAIBAIBAIBAIBAIJAIBAIBAIBAIBAIBAIBAIBAIJAIBAIBAIBAIBAIBAIMAICAICAICAIJAIBAIBAI
   BAIBAIBAIBAIBAIJAcWBAcWBAdIBAdIBAdIBAdIBAdWBAdWBAeYBAeYBAeIBAeIBAeWBAeWDAIBAIBAIBAIBAIBAIBAIB
   AIJAIBAIBAIBAIBAIBAIBAIBAIJAIBAIBAIBAIBAIBAIBAIBAIJAIBAICAJQAJNAIBAIPAIBAIEAHOAJmHAbCbUAQBAQB
   AQBAQBAQBAQBAQBAQBAQBAQBAQBAQBAQBAQBAQBAQUABbfNAbABAbABAbABAbABAbABAbABAbABAbABAbABAbABAbABAb
   ABAbABAbABAbABAbABAbABAbABAbABAbABAbABAbABAbABAbABAbABAbAcsVAbWBAbWBAbWBAbWBAbWBAbWBAbWBAbWBA
   bWBAbWBAbWBAbWBAbWBAbWBAbWBAbWBAbWBAbWBAbWBAbWBAbWBAbWBAbWBAbWBAbWBAbWBAbWBAbWBAbWBAbWBAbWBAb
   WBAbWBAbWBAbWBAbWBAbWBAbWBAbWBAbWBAbWBAbWBAbWBAbWBAbWBAbWBAbWBAbWbXABHABCABCABHABDABLABCABCAB
   CABCABCABCABCABCABCABCABCABCABCABCABCABCABCABCABCABCABCABCABCABCABCABCABCABCABCABCABCABCABCAB
   CABCABCABCABCABCABCABCABCABCABCABCABCABCABCABCABJABCABFABbtyKABCABCABCABCABEABCABCABCABCABCAB
   CABCABCABCABCABCABCABCABCABCABCABUABCABCABCABCABCABCABCABCABCABCABCABCABCABfGABCABCABCABCABCA
   BCABEABCABCABCABCABCABCABCABCABCABCABCABCABCABCABCABCABCABCABCABCABCABCABCABCABCABCABCABCABCA
   BCABLABCABDABCABCABCABCABFABFABCABCAbWCABCABCABCABCABCABCABCABCABCABLAbjSBABCABCABCABCABCABCA
   BCABFABCABDABEABGABCABCABbBABbflWABboMAbGBAbGBAbGBAbGBAbGBAbGBAbGBAbGBAbGBAbGBAbGBAbGBAbGBAbG
   BAbGBAbGBAbGBAbGBAbGBAbGBAbGBAbGBAbGBAbGBAbGBAbGbvAAbOBAbOBAbOBAbOBAbOBAbOBAbOBAbOBAbOBAbOBAb
   OBAbOBAbOBAbOBAbOBAbOBAbOBAbOBAbOBAbOBAbOBAbOBAbOBAbOBAbOBAbOBAbOBAbOBAbOBAbOBAbOBAbOBAbOBAbO
   BAbOBAbOBAbOBAbOBAbOBAbOfHAbOBAbOBAbOBAbOBAbOBAbOBAbOBAbOBAbOBAbOBAbOBAbOBAbOBAbOBAbOBAbOBAbO
   BAbOBAbOBAbOBAbOBAbOBAbOBAbOBAbOBAbOBAbOBAbOBAbOBAbOBAbOBAbOBAbOBAbOBAbOBAbOgBAbNBAbNBAbNBAbN
   BAbNBAbNBAbNBAbNBAbNBAbNBAbNCAbNBAbNBAbNBAbNBAbNBAbNBAbNBAbNBAbNBAbNBAbNBAbNBAbNBAbNBAbNCAbNB
   AbNBAbNBAbNBAbNBAbNBAbNCAbNBAbNcqDAcMBAcMBAcMBAcMBAcMBAcMBAcMBAcMBAcMBAcMBAcMBAcMBAcMBAcMBAcM
   BAcMBAcMBAcMBAcMBAcMBAcMBAcMBAcMBAcMBAcMBAcMBAcMBAcMBAcMBAcMBAcMBAcMBAcMBAcMBAcMBAcMBAcMBAcMB
   AcMBAcMBAcMBAcMBAcMBAcMBAcMBAcMBAcMBAcMBAcMBAcMBAcMgCAbGBAbGBAbGBAbGBAbGBAbGBAbGBAbGBAbGBAbGB
   AbGBAbGBAbGBAbGBAbGBAbGBAbGBAbGBAbGBAbGBAbGBAbGegPAbGBAbGBAbGBAbGBAbGBAbGBAbGBAbGBAbGBAbGBAbG
   BAbGBAbGBAbGBAbGBAbGBAbGBAbGBAbGBAbGBAbGBAbGBAbGBAbGBAbGBAbGBAbGBAbGBAbGBAbGBAbGBAbGbgjXAbGBA
   bGBAbGBAbGBAbGBAbGBAbGBAbGBAbGBAbGBAbGBAbGBAbGBAbGBAbGBAbGBAbGBAbGBAbGBAbGBAbGBAbGBAbGBAbGBAb
   GBAbGBAbGBAbGBAbGBAbGBAbGBAbGbulLAbIBAbIBAbIBAbIBAbIBAbIBAbIBAbIBAbIBAbIBAbIBAbIBAbIBAbIBAbIB
   AbIBAbIBAbIBAbIBAbIBAbIBAbIBAbIBAbIBAbIBAbIBAbIBAbIBAbIBAbIBAbIBAbIBAbIBAbI"

/-- Read an orbit's members, each by its distance from the one before. -/
def members : Nat -> Nat -> List Nat -> List Nat × List Nat
  | 0, _, rest => ([], rest)
  | _ + 1, _, [] => ([], [])
  | count + 1, previous, step :: rest =>
      let read := members count (previous + step) rest
      ((previous + step) :: read.1, read.2)

/-- Read orbits until the numbers run out; `limit` bounds their number. -/
def read : Nat -> Nat -> List Nat -> List (List Nat)
  | limit + 1, previous, distance :: extra :: rest =>
      let first := previous + distance
      let others := members (extra + 1) first rest
      (first :: others.1) :: read limit first others.2
  | _, _, _ => []

/-- All orbits of more than one character. -/
def orbits : List (List Nat) :=
  let numbers := CodeRange.decodeNumbers table.toList 0
  read numbers.length 0 numbers

/-- The code points alike to a character up to case, itself included. -/
def of (c : Char) : List Nat :=
  (orbits.find? fun orbit => orbit.contains c.toNat).getD [c.toNat]

end CaseOrbit
end Unicode
end PathVersions
