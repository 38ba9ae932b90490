import PathVersions.Pattern.Spacing
import PathVersions.Pattern.Tree
import PathVersions.Text.Hex

/-!
# Escapes

What a backslash introduces: a literal, a class of characters or a place in the text. Each
reader here starts after the part of the escape that selected it.
-/

namespace PathVersions
namespace Pattern

/-- The smallest parts that a pattern or a bracketed set is made of. -/
inductive Atom
  | literal (literal : Literal)
  | dot
  | anchor (anchor : Anchor)
  | short (kind : ShortClass) (negated : Bool)
  | property (query : Unicode.PropertyQuery) (negated : Bool)
deriving DecidableEq, Repr

namespace Atom

/-- An atom as a pattern of its own. -/
def tree : Atom -> Tree
  | .literal own => .literal own
  | .dot => .dot
  | .anchor place => .anchor place
  | .short kind negated => .short kind negated
  | .property query negated => .property query negated

/-- An atom as an item of a bracketed set. -/
def setItem : Atom -> Except Fault SetTree
  | .literal own => .ok (.literal own)
  | .short kind negated => .ok (.short kind negated)
  | .property query negated => .ok (.property query negated)
  | .dot => .error .escapeInClass
  | .anchor _ => .error .escapeInClass

/-- An atom as the end of a range. -/
def boundary : Atom -> Except Fault Literal
  | .literal own => .ok own
  | _ => .error .rangeBoundary

end Atom

/-- The character with a number, unless it has none. -/
def scalar (value : Nat) : Except Fault Char :=
  if h : value.isValidChar then .ok (Char.ofNatAux value h) else .error .hexNotScalar

/-- Read a fixed number of hexadecimal digits. -/
def readHexDigits (ignoring : Bool) : Nat -> Nat -> List Char -> Except Fault (Nat × List Char)
  | 0, value, text => .ok (value, text)
  | _ + 1, _, [] => .error .escapeUnfinished
  | count + 1, value, c :: rest =>
      match Hex.value? c with
      | none => .error .hexDigitInvalid
      | some digit => readHexDigits ignoring count (value * 16 + digit) (skip ignoring rest)

/-- Read hexadecimal digits up to a closing brace; `value?` is the value of those read. -/
def readHexBraced (ignoring : Bool) (value? : Option Nat) (text : List Char) :
    Except Fault (Option Nat × List Char) :=
  match equation : skip ignoring text with
  | [] => .error .escapeUnfinished
  | c :: rest =>
      have _shorter : rest.length < text.length := lt_of_skip_eq_cons equation
      if c == '}' then .ok (value?, skip ignoring rest)
      else
        match Hex.value? c with
        | none => .error .hexDigitInvalid
        | some digit => readHexBraced ignoring (some (value?.getD 0 * 16 + digit)) rest
termination_by text.length

/-- Read a character given by number, with as many digits as its letter demands or any number
of them in braces. Two digits outside braces stand for a byte. -/
def readHex (ignoring : Bool) (letter : Char) (text : List Char) : Except Fault (Literal × List Char) :=
  let digits := if letter == 'x' then 2 else if letter == 'u' then 4 else 8
  match skip ignoring text with
  | [] => .error .escapeUnfinished
  | '{' :: rest => do
      let (value?, rest) ← readHexBraced ignoring none rest
      match value? with
      | none => .error .hexEmpty
      | some value => return (⟨← scalar value, false⟩, rest)
  | text => do
      let (value, rest) ← readHexDigits ignoring digits 0 text
      return (⟨← scalar value, digits == 2⟩, rest)

/-- Read up to a closing brace. -/
def readBraced (ignoring : Bool) (text : List Char) : Except Fault (List Char × List Char) :=
  match equation : skip ignoring text with
  | [] => .error .escapeUnfinished
  | c :: rest =>
      have _shorter : rest.length < text.length := lt_of_skip_eq_cons equation
      if c == '}' then .ok ([], rest)
      else do
        let (name, rest) ← readBraced ignoring rest
        return (c :: name, rest)
termination_by text.length

/-- The texts before and after the first `!=`. -/
def splitUnequal : List Char -> Option (List Char × List Char)
  | [] => none
  | '!' :: '=' :: rest => some ([], rest)
  | c :: rest => (splitUnequal rest).map fun (name, value) => (c :: name, value)

/-- The texts before and after the first occurrence of a character. -/
def splitAtFirst (separator : Char) : List Char -> Option (List Char × List Char)
  | [] => none
  | c :: rest =>
      if c == separator then some ([], rest)
      else (splitAtFirst separator rest).map fun (name, value) => (c :: name, value)

/-- What a name in braces asks for, and whether it asks for the opposite. -/
def queryOfName (name : List Char) : Unicode.PropertyQuery × Bool :=
  match splitUnequal name with
  | some (property, value) => (.valued (String.ofList property) (String.ofList value), true)
  | none =>
      match (splitAtFirst ':' name).or (splitAtFirst '=' name) with
      | some (property, value) =>
          (.valued (String.ofList property) (String.ofList value), false)
      | none => (.named (String.ofList name), false)

/-- Read the name of a property: one character, or a name in braces. -/
def readProperty (ignoring negated : Bool) (text : List Char) : Except Fault (Atom × List Char) :=
  match skip ignoring text with
  | [] => .error .escapeUnfinished
  | '{' :: rest => do
      let (name, rest) ← readBraced ignoring rest
      let (query, opposite) := queryOfName name
      return (.property query (negated != opposite), rest)
  | '\\' :: _ => .error .propertyMalformed
  | c :: rest => .ok (.property (.named (String.singleton c)) negated, skip ignoring rest)

/-- Whether a character can stand in the name of a word boundary. -/
def isBoundaryNameChar (c : Char) : Bool :=
  c.isAlpha || c == '-'

/-- Read the name of a word boundary as far as it goes. -/
def readBoundaryName (ignoring : Bool) (text : List Char) : List Char × List Char :=
  match text with
  | [] => ([], [])
  | c :: rest =>
      if isBoundaryNameChar c then
        let (name, after) := readBoundaryName ignoring (skip ignoring rest)
        (c :: name, after)
      else ([], c :: rest)
termination_by text.length
decreasing_by
  have shorter := skip_length_le ignoring rest
  simp only [List.length_cons]
  omega

/-- The word boundary with a name. -/
def boundaryOfName? : List Char -> Option Anchor
  | ['s', 't', 'a', 'r', 't'] => some .wordStart
  | ['e', 'n', 'd'] => some .wordEnd
  | ['s', 't', 'a', 'r', 't', '-', 'h', 'a', 'l', 'f'] => some .wordStartHalf
  | ['e', 'n', 'd', '-', 'h', 'a', 'l', 'f'] => some .wordEndHalf
  | _ => none

/-- Read the closing brace after the name of a word boundary. -/
def readBoundaryEnd (name : List Char) (text : List Char) : Except Fault (Atom × List Char) :=
  match text with
  | '}' :: rest =>
      match boundaryOfName? name with
      | some anchor => .ok (.anchor anchor, rest)
      | none => .error .wordBoundaryUnknown
  | _ => .error .wordBoundaryUnclosed

/-- Read a word boundary, whose kind may follow in braces. Braces that do not start with a
letter or a hyphen are left to be read as a count. -/
def readWordBoundary (ignoring : Bool) (text : List Char) : Except Fault (Atom × List Char) :=
  match text with
  | '{' :: inner =>
      match skip ignoring inner with
      | [] => .error .wordBoundaryUnfinished
      | c :: rest =>
          if isBoundaryNameChar c then
            let (name, rest) := readBoundaryName ignoring (c :: rest)
            readBoundaryEnd name rest
          else .ok (.anchor .wordBoundary, text)
  | _ => .ok (.anchor .wordBoundary, text)

/-- Whether a character stands for itself after a backslash: every ASCII character that is
neither a letter, a digit nor an angle bracket. -/
def isEscapable (c : Char) : Bool :=
  c.toNat < 128 && !c.isAlphanum && c != '<' && c != '>'

/-- The character that a letter after a backslash stands for. -/
def controlOfLetter? : Char -> Option Char
  | 'a' => some '\x07'
  | 'f' => some '\x0c'
  | 't' => some '\t'
  | 'n' => some '\n'
  | 'r' => some '\r'
  | 'v' => some '\x0b'
  | _ => none

/-- The place in the text that a character after a backslash stands for. -/
def anchorOfLetter? : Char -> Option Anchor
  | 'A' => some .textStart
  | 'z' => some .textEnd
  | 'B' => some .notWordBoundary
  | '<' => some .wordStart
  | '>' => some .wordEnd
  | _ => none

/-- The class that a letter after a backslash stands for, and whether it is negated. -/
def shortOfLetter? : Char -> Option (ShortClass × Bool)
  | 'd' => some (.digit, false)
  | 's' => some (.space, false)
  | 'w' => some (.word, false)
  | 'D' => some (.digit, true)
  | 'S' => some (.space, true)
  | 'W' => some (.word, true)
  | _ => none

/-- Read what follows a backslash. -/
def readEscape (ignoring : Bool) (text : List Char) : Except Fault (Atom × List Char) :=
  match text with
  | [] => .error .escapeUnfinished
  | c :: rest =>
      if c.isDigit then .error .backreference
      else if c == 'x' || c == 'u' || c == 'U' then do
        let (literal, rest) ← readHex ignoring c rest
        return (.literal literal, rest)
      else if c == 'p' || c == 'P' then readProperty ignoring (c == 'P') rest
      else if c == 'b' then readWordBoundary ignoring rest
      else if isEscapable c then .ok (.literal ⟨c, false⟩, rest)
      else
        match shortOfLetter? c with
        | some (kind, negated) => .ok (.short kind negated, rest)
        | none =>
            match controlOfLetter? c with
            | some control => .ok (.literal ⟨control, false⟩, rest)
            | none =>
                match anchorOfLetter? c with
                | some anchor => .ok (.anchor anchor, rest)
                | none => .error .escapeUnknown

end Pattern
end PathVersions
