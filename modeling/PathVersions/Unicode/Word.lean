import PathVersions.Unicode.Addition
import PathVersions.Unicode.BinaryProperty

/-!
# Letters, digits and words

The classes of characters that identifiers, words and readable texts are made of. Those of
digits and words serve patterns; the others know the characters added last as well.
-/

namespace PathVersions
namespace Unicode

/-- Decimal digits of any script. -/
def digitClass : CharClass := GeneralCategory.characters "Nd"

/-- Characters of words: letters, marks, digits, connectors and joiners. -/
def wordClass : CharClass :=
  .union BinaryProperty.alphabetic
    (.ranges (["Mn", "Mc", "Me", "Nd", "Pc"].flatMap GeneralCategory.ranges ++
      BinaryProperty.ranges "joincontrol"))

/-- Letters and the like. -/
def alphabeticClass : CharClass :=
  .union BinaryProperty.alphabetic (.ranges Addition.alphabetic)

/-- Letters and all kinds of numbers. -/
def alphanumericClass : CharClass :=
  .union alphabeticClass
    (.union (GeneralCategory.characters "N") (.ranges Addition.digits))

/-- Characters with no visible form of their own: controls, unassigned code points, all
separators but the space, and characters that are ignored where they are not supported. -/
def unprintableClass : CharClass :=
  .difference
    (.ranges (BinaryProperty.ranges "defaultignorablecodepoint" ++
      ["Cc", "Cf", "Co", "Cn", "Zl", "Zp", "Zs"].flatMap GeneralCategory.ranges))
    (.ranges (⟨0x20, 0x20⟩ :: Addition.visible))

/-- Characters that join the one before them. The halfwidth sound marks stand for themselves. -/
def joiningClass : CharClass :=
  .difference (.union BinaryProperty.graphemeExtend (.ranges Addition.joining))
    (.ranges [⟨0xff9e, 0xff9f⟩])

end Unicode
end PathVersions
