import PathVersions.Number.Binary64
import PathVersions.Text.Hex
import PathVersions.Toml.Moment
import PathVersions.Toml.Spacing

/-!
# Values without marks

Numbers, truth values, dates and times, which stand in a document without any marks around them.
A number can be written in a way that gives it no value: it is out of range, lacks its digits, or
goes on after an underscore with something else than digits. Such a number does no harm where
nobody asks for its value.
-/

namespace PathVersions
namespace Toml

/-- The meaning of a value without marks. -/
inductive Scalar
  | integer (value? : Option Int)
  | float (value? : Option Number.Binary64)
  | boolean (truth : Bool)
  | moment
deriving DecidableEq, Repr

namespace Scalar

/-- Whether a character is a digit in some base. -/
def isDigitIn (base : Nat) (c : Char) : Bool := (Hex.value? c).any fun digit => digit < base

/-- Read digits in some base, of which there has to be one. -/
def digits? (base : Nat) (text : List Char) : Option (List Nat) :=
  if text.isEmpty then none
  else text.mapM fun c => (Hex.value? c).filter fun digit => digit < base

/-- The number that digits in some base stand for. -/
def valueOf (base : Nat) (digits : List Nat) : Nat :=
  digits.foldl (fun value digit => value * base + digit) 0

/-- A text without its underscores. -/
def withoutMarks (text : List Char) : List Char := text.filter fun c => c != '_'

/-- Whether every underscore follows a digit and comes before one; `allowed` says whether one may
come first. -/
def areSpaced (isDigit : Char -> Bool) (allowed : Bool) : List Char -> Bool
  | [] => true
  | c :: rest =>
      if c == '_' then allowed && rest.head?.any isDigit && areSpaced isDigit false rest
      else areSpaced isDigit (isDigit c) rest

/-- An integer, unless it is too great to be kept. -/
def bounded? (value : Int) : Option Int :=
  if -(Int.pow 2 127) ≤ value && value < Int.pow 2 128 then some value else none

/-- The base that a letter after a leading zero stands for. -/
def baseOf? : Char -> Option Nat
  | 'x' => some 16
  | 'o' => some 8
  | 'b' => some 2
  | _ => none

/-- Read the digits of an integer in a marked base. It has no value if there are none. -/
def based? (base : Nat) (text : List Char) : Option Scalar :=
  if areSpaced (isDigitIn base) false text && (withoutMarks text).all (isDigitIn base) then
    some (.integer ((digits? base (withoutMarks text)).bind fun digits =>
      bounded? (valueOf base digits)))
  else none

/-- A sign, if there is one, and the rest: whether there is one, and whether it is a minus. -/
def splitSign : List Char -> Bool × Bool × List Char
  | '+' :: rest => (true, false, rest)
  | '-' :: rest => (true, true, rest)
  | text => (false, false, text)

/-- A number with a sign. -/
def signed (negative : Bool) (value : Int) : Int := if negative then -value else value

/-- The integer in base ten that is written after a sign. It has no value if there is anything but
digits. Underscores may stand between digits of any base. -/
def integer? (hasSign negative : Bool) (text : List Char) : Option Scalar :=
  if (text.head? == some '0' && text != ['0']) || !areSpaced (isDigitIn 16) hasSign text then none
  else
    some (.integer ((digits? 10 (withoutMarks text)).bind fun digits =>
      bounded? (signed negative (valueOf 10 digits))))

/-- Split a text at the first character that satisfies a test, which is dropped. -/
def splitAtFirst (test : Char -> Bool) : List Char -> List Char × Option (List Char)
  | [] => ([], none)
  | c :: rest =>
      if test c then ([], some rest)
      else
        let (before, after) := splitAtFirst test rest
        (c :: before, after)

/-- Read an exponent of ten. -/
def exponent? (text : List Char) : Option Int := do
  let (_, negative, rest) := splitSign text
  return signed negative (valueOf 10 (← digits? 10 rest))

/-- Whether a character makes a number a float. -/
def marksFloat (c : Char) : Bool := c == '.' || c == 'e' || c == 'E'

/-- The number with a fraction or an exponent that is written after a sign. It has no value if it
is too great. -/
def float? (hasSign negative : Bool) (text : List Char) : Option Scalar := do
  let (mantissa, power) := splitAtFirst (fun c => c == 'e' || c == 'E') (withoutMarks text)
  let (whole, fraction) := splitAtFirst (· == '.') mantissa
  if (text.head? == some '0' && whole.length != 1) || !areSpaced Char.isDigit hasSign text then
    none
  else
    let whole ← digits? 10 whole
    let fraction ← (fraction.map (digits? 10)).getD (some [])
    let power ← (power.map exponent?).getD (some 0)
    let magnitude :=
      Number.Magnitude.ofDecimal? (valueOf 10 (whole ++ fraction)) (power - fraction.length)
    return .float (magnitude.map (.finite negative))

/-- Read a number, date or time, of which the first character is a digit, or an underscore after
which there is a digit. -/
def decimal? (text : List Char) : Option Scalar :=
  let (hasSign, negative, body) := splitSign text
  match body.head?.filter (fun c => c.isDigit || c == '_'), body.dropWhile Char.isDigit with
  | none, _ => none
  | some _, [] => integer? hasSign negative body
  | some _, next :: rest =>
      if next == '-' || next == ':' then if Moment.isMoment text then some .moment else none
      else if rest.contains ' ' then none
      else if (next :: rest).any marksFloat then float? hasSign negative body
      else if next == '_' then integer? hasSign negative body
      else none

/-- The meaning of a text, if it has one. -/
def ofText? (text : List Char) : Option Scalar :=
  match text with
  | ['t', 'r', 'u', 'e'] => some (.boolean true)
  | ['f', 'a', 'l', 's', 'e'] => some (.boolean false)
  | '0' :: letter :: rest =>
      match baseOf? letter with
      | some base => based? base rest
      | none => decimal? text
  | _ =>
      match splitSign text with
      | (_, negative, ['i', 'n', 'f']) => some (.float (some (.infinite negative)))
      | (_, _, ['n', 'a', 'n']) => some (.float (some .notNumber))
      | _ => decimal? text

/-- Whether a character may be part of a value without marks. -/
def isPart (c : Char) : Bool :=
  !(isBlank c || c == '\n' || c == '\r' || c == '#' || c == '=' || c == ',' || c == '[' ||
    c == ']' || c == '{' || c == '}')

/-- Whether a value without marks may go on with a character after blanks. -/
def continuesWith (c : Char) : Bool := isPart c && c != '.' && c != '"' && c != '\''

/-- The characters of a value without marks at the start of a text, and the rest. There may be
blanks in one place, since a date and a time may have one between them. -/
def split (text : List Char) : List Char × List Char :=
  let written := text.takeWhile isPart
  let rest := text.dropWhile isPart
  let after := skipBlanks rest
  if rest.head?.any isBlank && after.head?.any continuesWith then
    (written ++ rest.takeWhile isBlank ++ after.takeWhile isPart, after.dropWhile isPart)
  else (written, rest)

end Scalar
end Toml
end PathVersions
