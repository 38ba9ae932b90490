import PathVersions.Pattern.Spacing

/-!
# Counts of repetitions

Reading how often a part of a pattern is to be repeated, as in `{2,5}`.
-/

namespace PathVersions
namespace Pattern

/-- Read decimal digits with spacing between them; the value is absent if there are none. -/
def readDigits (ignoring : Bool) (value? : Option Nat) (text : List Char) :
    Option Nat × List Char :=
  match text with
  | [] => (value?, [])
  | c :: rest =>
      if c.isDigit then
        readDigits ignoring (some (value?.getD 0 * 10 + (c.toNat - '0'.toNat)))
          (skip ignoring rest)
      else (value?, c :: rest)
termination_by text.length
decreasing_by
  have shorter := skip_length_le ignoring rest
  simp only [List.length_cons]
  omega

/-- The greatest count that can be written. -/
def greatestCount : Nat := 4294967295

/-- The count that some digits stand for. -/
def countOf : Option Nat -> Except Fault Nat
  | none => .error .countMissing
  | some value => if value ≤ greatestCount then .ok value else .error .countTooLarge

/-- Read a number between blanks. Whether it is a good one is decided by who asks for it. -/
def readCount (ignoring : Bool) (text : List Char) : Except Fault Nat × List Char :=
  let (value?, rest) := readDigits ignoring none (text.dropWhile Unicode.isBlank)
  (countOf value?, rest.dropWhile Unicode.isBlank)

/-- Read the upper bound of a repetition after its comma; before a closing brace there is none. -/
def readUpperBound (ignoring : Bool) (text : List Char) :
    Except Fault (Option Nat × List Char) :=
  match skip ignoring text with
  | [] => .error .countUnclosed
  | '}' :: rest => .ok (none, '}' :: rest)
  | text => do
      let (most, rest) := readCount ignoring text
      let most ← most
      return (some most, rest)

/-- Read what follows the lower bound of a repetition. A lower bound that is no number is only
reported if something follows its comma. -/
def readBoundsEnd (ignoring : Bool) (least : Except Fault Nat) (text : List Char) :
    Except Fault ((Nat × Option Nat) × List Char) :=
  match text with
  | [] => .error .countUnclosed
  | ',' :: rest =>
      if (skip ignoring rest).isEmpty then .error .countUnclosed
      else do
        let least ← least
        let (most, rest) ← readUpperBound ignoring rest
        return ((least, most), rest)
  | text => do
      let count ← least
      return ((count, some count), text)

/-- Read the bounds of a repetition up to the closing brace, which is left. -/
def readBounds (ignoring : Bool) (text : List Char) :
    Except Fault ((Nat × Option Nat) × List Char) :=
  match skip ignoring text with
  | [] => .error .countUnclosed
  | text =>
      let (least, rest) := readCount ignoring text
      readBoundsEnd ignoring least rest

/-- Read a question mark that makes a repetition reluctant. -/
def readGreed : List Char -> Bool × List Char
  | '?' :: rest => (false, rest)
  | text => (true, text)

/-- Read the closing brace after the bounds of a repetition, and whether it is greedy. -/
def readRepetitionEnd (ignoring : Bool) (bounds : Nat × Option Nat) (text : List Char) :
    Except Fault ((Nat × Option Nat × Bool) × List Char) :=
  match text with
  | '}' :: rest =>
      let (greedy, rest) := readGreed (skip ignoring rest)
      if bounds.2.all (bounds.1 ≤ ·) then .ok ((bounds.1, bounds.2, greedy), rest)
      else .error .countReversed
  | _ => .error .countUnclosed

/-- Read a count after its opening brace, and whether it is greedy. -/
def readRepetition (ignoring : Bool) (text : List Char) :
    Except Fault ((Nat × Option Nat × Bool) × List Char) := do
  let (bounds, rest) ← readBounds ignoring text
  readRepetitionEnd ignoring bounds rest

end Pattern
end PathVersions
