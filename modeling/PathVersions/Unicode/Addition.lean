import PathVersions.Unicode.CodeRange

/-!
# Characters added last

Classes in patterns are those of version 16.0 of the character standard. Names and quoted texts
also know the characters that version 17.0 adds, all of which have a visible form.
-/

namespace PathVersions
namespace Unicode
namespace Addition

/-- All characters that are added. -/
def visible : List CodeRange :=
  CodeRange.decode
    "dgHAblKAeXAfhIOCLcfLAecQAbvbBBCABAbCAbftHPrDBcCGeiRZcbJCIIbHBesAHwMbREJbeoSYCYlAEjcJHbxPVd
     TeKxwPCrDWPQjaLbEBVIBgaAAgCDnDIoPDbYADAcFAEAbCAEAkGAcsxRFiwGLbgfAgjH"

/-- The letters and the like among them. -/
def alphabetic : List CodeRange :=
  CodeRange.decode
    "dgHAblKAeXAcgrPBCABAbCAbkwCZcbJCbYBesAHwMbRbepGYCYlAEjcJHbxPVdTeKbhqJbEBVIBdawGFiwGLbgfAgj
     H"

/-- The digits among them. -/
def digits : List CodeRange := CodeRange.decode "eegUJ"

/-- Those among them that join the character before them. -/
def joining : List CodeRange := CodeRange.decode "kdZOCLdolABesAABCBAczbOACAHBFA"

end Addition
end Unicode
end PathVersions
