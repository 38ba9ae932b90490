/-!
# Dates and times

The written forms of a date, a time of day, or both, with or without an offset from universal
time.
-/

namespace PathVersions
namespace Toml
namespace Moment

/-- Read a number of decimal digits. -/
def digits? : Nat -> Nat -> List Char -> Option (Nat × List Char)
  | 0, value, text => some (value, text)
  | _ + 1, _, [] => none
  | count + 1, value, c :: rest =>
      if c.isDigit then digits? count (value * 10 + (c.toNat - '0'.toNat)) rest else none

/-- Read a number of two digits in a range. -/
def pair? (least most : Nat) (text : List Char) : Option (Nat × List Char) := do
  let (value, rest) ← digits? 2 0 text
  if least ≤ value && value ≤ most then some (value, rest) else none

/-- How many days a month has. -/
def daysIn (year month : Nat) : Nat :=
  if month == 2 then
    if year % 4 == 0 && (year % 100 != 0 || year % 400 == 0) then 29 else 28
  else if month == 4 || month == 6 || month == 9 || month == 11 then 30
  else 31

/-- Read past a date. -/
def skipDate? (text : List Char) : Option (List Char) := do
  let (year, rest) ← digits? 4 0 text
  match rest with
  | '-' :: rest => do
      let (month, rest) ← pair? 1 12 rest
      match rest with
      | '-' :: rest => do
          let (_, rest) ← pair? 1 (daysIn year month) rest
          return rest
      | _ => none
  | _ => none

/-- Read past a fraction of a second, if there is one. -/
def skipFraction? : List Char -> Option (List Char)
  | '.' :: rest => do
      let (_, rest) ← digits? 1 0 rest
      return rest.dropWhile Char.isDigit
  | text => some text

/-- Read past a time of day. Seconds may be left out, and one more may be inserted. -/
def skipTime? (text : List Char) : Option (List Char) := do
  let (_, rest) ← pair? 0 23 text
  match rest with
  | ':' :: rest => do
      let (_, rest) ← pair? 0 59 rest
      match rest with
      | ':' :: rest => do
          let (_, rest) ← pair? 0 60 rest
          skipFraction? rest
      | rest => some rest
  | _ => none

/-- Whether a text is an offset from universal time. -/
def isOffset : List Char -> Bool
  | ['Z'] => true
  | ['z'] => true
  | sign :: rest =>
      (sign == '+' || sign == '-') &&
        match pair? 0 23 rest with
        | some (_, ':' :: rest) => (pair? 0 59 rest).any fun (_, rest) => rest.isEmpty
        | _ => false
  | [] => false

/-- Whether a text is a date, a time of day, or a date and a time, where only the last may have
an offset. -/
def isMoment (text : List Char) : Bool :=
  match skipDate? text with
  | some [] => true
  | some (gap :: rest) =>
      (gap == 'T' || gap == 't' || gap == ' ') &&
        match skipTime? rest with
        | some [] => true
        | some rest => isOffset rest
        | none => false
  | none => skipTime? text == some []

end Moment
end Toml
end PathVersions
