import PathVersions.Unicode.Age
import PathVersions.Unicode.ScriptExtension
import PathVersions.Unicode.Segmentation
import PathVersions.Unicode.Word

/-!
# Looking up character properties

A class of characters can be asked for by name alone (`L`, `Greek`, `alphabetic`) or by a
property and one of its values (`sc=Greek`). Names are matched loosely: case, spaces,
underscores, hyphens and a leading `is` do not matter.
-/

namespace PathVersions
namespace Unicode

/-- What a pattern asks for. -/
inductive PropertyQuery
  | named (name : String)
  | valued (property value : String)
deriving DecidableEq, Repr

/-- Why a query names no class. -/
inductive PropertyError
  | unknownProperty
  | unknownValue
deriving DecidableEq, Repr

namespace PropertyQuery

/-- Drop a leading `is` in any case. -/
def withoutIs : List Char -> Bool × List Char
  | c :: d :: rest =>
      if (c == 'i' || c == 'I') && (d == 's' || d == 'S') then (true, rest)
      else (false, c :: d :: rest)
  | text => (false, text)

/-- A name as it is compared: small ASCII letters without spaces, underscores, hyphens or a
leading `is`. The name `isc` is kept whole, since `c` alone means something else. -/
def loose (name : String) : String :=
  let (stripped, rest) := withoutIs name.toList
  let kept := (rest.filter fun c =>
    c.toNat < 128 && !(c == ' ' || c == '_' || c == '-')).map Char.toLower
  if stripped && kept == ['c'] then "isc" else String.ofList kept

/-- Names of properties that are not of the yes-or-no kind, loosely matched. -/
def otherProperties : List String :=
  ["age", "block", "blk", "script", "scriptextensions", "scx", "generalcategory", "gc",
   "graphemeclusterbreak", "gcb", "wordbreak", "wb", "sentencebreak", "sb", "linebreak", "lb",
   "bidiclass", "bc", "bidipairedbrackettype", "bpt", "canonicalcombiningclass", "ccc",
   "decompositiontype", "dt", "eastasianwidth", "ea", "hangulsyllabletype", "hst",
   "indicconjunctbreak", "incb", "indicpositionalcategory", "inpc", "indicsyllabiccategory",
   "insc", "joininggroup", "jg", "joiningtype", "jt", "nfcquickcheck", "nfcqc", "nfdquickcheck",
   "nfdqc", "nfkcquickcheck", "nfkcqc", "nfkdquickcheck", "nfkdqc", "numerictype", "nt",
   "numericvalue", "nv", "verticalorientation", "vo", "bidimirroringglyph", "bmg",
   "bidipairedbracket", "bpb", "casefolding", "decompositionmapping", "dm",
   "equivalentunifiedideograph", "equideo", "fcnfkcclosure", "fcnfkc", "ocomment", "isc",
   "jamoshortname", "jsn", "lowercasemapping", "name", "na", "namealias", "nfkccasefold",
   "nfkccf", "nfkcsimplecasefold", "nfkcscf", "simplecasefolding", "scf", "sfc",
   "simplelowercasemapping", "slc", "simpletitlecasemapping", "stc", "simpleuppercasemapping",
   "suc", "titlecasemapping", "tc", "unicode1name", "na1", "unicoderadicalstroke", "urs",
   "krsunicode", "cjkrsunicode", "uppercasemapping", "uc", "compositionexclusion", "ce",
   "changeswhennfkccasefolded", "cwkcf", "expandsonnfc", "xonfc", "expandsonnfd", "xonfd",
   "expandsonnfkc", "xonfkc", "expandsonnfkd", "xonfkd", "fullcompositionexclusion", "compex",
   "kaccountingnumeric", "cjkaccountingnumeric", "kcompatibilityvariant",
   "cjkcompatibilityvariant", "kiicore", "cjkiicore", "kirggsource", "cjkirggsource",
   "kirghsource", "cjkirghsource", "kirgjsource", "cjkirgjsource", "kirgkpsource",
   "cjkirgkpsource", "kirgksource", "cjkirgksource", "kirgmsource", "cjkirgmsource",
   "kirgssource", "cjkirgssource", "kirgtsource", "cjkirgtsource", "kirguksource",
   "cjkirguksource", "kirgusource", "cjkirgusource", "kirgvsource", "cjkirgvsource",
   "kothernumeric", "cjkothernumeric", "kprimarynumeric", "cjkprimarynumeric", "kmandarin",
   "cjkmandarin", "ktotalstrokes", "cjktotalstrokes", "kunihancore2020", "cjkunihancore2020",
   "kehcat", "kehcore", "kehdesc", "kehfunc", "kehfval", "kehhg", "kehifao", "kehjsesh",
   "kehnomirror", "kehnorotate", "kehunik"]

/-- Names that stand for a general category although some property bears them too. -/
def categoryFirst : List String := ["cf", "sc", "lc"]

/-- Categories and scripts that have a name but to which no character belongs. -/
def emptyValues : List String :=
  ["cs", "surrogate", "zzzz", "unknown", "hrkt", "katakanaorhiragana"]

/-- The class of a value, where the value has one. -/
def ofValue (found : Option CharClass) : Except PropertyError CharClass :=
  match found with
  | some characters => .ok characters
  | none => .error .unknownValue

/-- The class a loosely matched name stands for on its own: a yes-or-no property, else a
general category, else a script. -/
def ofName (name : String) : Except PropertyError CharClass :=
  let binary := if categoryFirst.contains name then none else BinaryProperty.find? name
  match binary with
  | some characters => .ok characters
  | none =>
      if otherProperties.contains name && !categoryFirst.contains name then
        .error .unknownProperty
      else if emptyValues.contains name then .error .unknownValue
      else
        match (GeneralCategory.find? name).or (Script.find? name) with
        | some characters => .ok characters
        | none => .error .unknownProperty

/-- The class of a property's value, both loosely matched. -/
def ofPropertyValue (property value : String) : Except PropertyError CharClass :=
  match property with
  | "gc" | "generalcategory" => ofValue (GeneralCategory.find? value)
  | "sc" | "script" => ofValue (Script.find? value)
  | "scx" | "scriptextensions" => ofValue (ScriptExtension.find? value)
  | "age" => ofValue (Age.find? value)
  | "gcb" | "graphemeclusterbreak" => ofValue (GraphemeBreak.find? value)
  | "wb" | "wordbreak" => ofValue (WordBreak.find? value)
  | "sb" | "sentencebreak" => ofValue (SentenceBreak.find? value)
  | _ =>
      if (BinaryProperty.find? property).isSome || otherProperties.contains property ||
          categoryFirst.contains property then
        .error .unknownValue
      else .error .unknownProperty

/-- The class a query asks for. -/
def characters : PropertyQuery -> Except PropertyError CharClass
  | .named name => ofName (loose name)
  | .valued property value => ofPropertyValue (loose property) (loose value)

end PropertyQuery

end Unicode
end PathVersions
