/-!
# Binary floating point

Numbers with a mantissa of 53 bits and an exponent between -1074 and 971. A decimal is read as
the nearest such number, and of two equally near ones as the even one. A number is written with
the fewest digits that read back as it, and with the nearest of those.
-/

namespace PathVersions
namespace Number

/-- A positive number or zero: a mantissa times a power of two. -/
structure Magnitude where
  mantissa : Nat
  exponent : Int
deriving DecidableEq, Repr

/-- A binary number, or one of the values that are not finite. -/
inductive Binary64
  | finite (negative : Bool) (magnitude : Magnitude)
  | infinite (negative : Bool)
  | notNumber
deriving DecidableEq, Repr

/-- The least exponent of two. -/
def leastExponent : Int := -1074

/-- The greatest exponent of two. -/
def greatestExponent : Int := 971

/-- The number of bits of a mantissa. -/
def precision : Nat := 53

/-- A quotient rounded to the nearest number, halves to the even neighbour. -/
def roundQuotient (numerator denominator : Nat) : Nat :=
  let quotient := numerator / denominator
  let rest := 2 * (numerator % denominator)
  if rest < denominator then quotient
  else if denominator < rest then quotient + 1
  else quotient + quotient % 2

/-- A numerator and a denominator divided by a power of two. -/
def scale (exponent : Int) (numerator denominator : Nat) : Nat × Nat :=
  match exponent with
  | .ofNat shift => (numerator, denominator * Nat.pow 2 shift)
  | .negSucc shift => (numerator * Nat.pow 2 (shift + 1), denominator)

/-- The exponent at which the mantissa of a quotient has all its bits, if the range of exponents
allows it. -/
def exponentOf (numerator denominator : Nat) : Int :=
  let guess : Int := (numerator.log2 : Int) - (denominator.log2 : Int) - (precision - 1 : Nat)
  let (scaled, unit) := scale guess numerator denominator
  let exact := if scaled / unit < Nat.pow 2 (precision - 1) then guess - 1 else guess
  max exact leastExponent

/-- The nearest number to a quotient, unless it is out of range. -/
def Magnitude.ofQuotient? (numerator denominator : Nat) : Option Magnitude :=
  if numerator == 0 then some ⟨0, 0⟩
  else
    let exponent := exponentOf numerator denominator
    let (scaled, unit) := scale exponent numerator denominator
    let mantissa := roundQuotient scaled unit
    let (mantissa, exponent) :=
      if mantissa == Nat.pow 2 precision then (Nat.pow 2 (precision - 1), exponent + 1)
      else (mantissa, exponent)
    if exponent ≤ greatestExponent then some ⟨mantissa, exponent⟩ else none

/-- How many decimal digits a number has. -/
def decimalWidth (value : Nat) : Nat := (Nat.toDigits 10 value).length

/-- The nearest number to a decimal, some digits times a power of ten. A decimal far out of range
is not worked out. -/
def Magnitude.ofDecimal? (digits : Nat) (exponent : Int) : Option Magnitude :=
  if digits == 0 then some ⟨0, 0⟩
  else
    let scale := exponent + decimalWidth digits
    if 400 < scale then none
    else if scale < -400 then some ⟨0, 0⟩
    else
      match exponent with
      | .ofNat power => ofQuotient? (digits * Nat.pow 10 power) 1
      | .negSucc power => ofQuotient? digits (Nat.pow 10 (power + 1))

/-- A decimal: some digits times a power of ten. -/
structure Decimal where
  digits : Nat
  exponent : Int
deriving DecidableEq, Repr

/-- The nearest decimals to a number on a grid of powers of ten, the lower one first, together
with whether the upper one is at least as near. -/
def neighbours (magnitude : Magnitude) (grid : Int) : Nat × Nat × Bool :=
  let (numerator, denominator) := scale (-magnitude.exponent) magnitude.mantissa 1
  let (numerator, denominator) :=
    match grid with
    | .ofNat power => (numerator, denominator * Nat.pow 10 power)
    | .negSucc power => (numerator * Nat.pow 10 (power + 1), denominator)
  let lower := numerator / denominator
  let rest := numerator % denominator
  (lower, if rest == 0 then lower else lower + 1, denominator ≤ 2 * rest)

/-- Whether a decimal is read as a number. -/
def readsAs (magnitude : Magnitude) (decimal : Decimal) : Bool :=
  Magnitude.ofDecimal? decimal.digits decimal.exponent == some magnitude

/-- A decimal on a grid that reads as a number: the nearer one of its two neighbours. -/
def onGrid? (magnitude : Magnitude) (grid : Int) : Option Decimal :=
  let (lower, upper, upperNearer) := neighbours magnitude grid
  let (near, far) := if upperNearer then (upper, lower) else (lower, upper)
  if readsAs magnitude ⟨near, grid⟩ then some ⟨near, grid⟩
  else if readsAs magnitude ⟨far, grid⟩ then some ⟨far, grid⟩
  else none

/-- The first decimal that reads as a number on ever finer grids. -/
def firstOnGrid (magnitude : Magnitude) : Nat -> Int -> Decimal
  | 0, grid => ⟨(neighbours magnitude grid).1, grid⟩
  | finer + 1, grid => (onGrid? magnitude grid).getD (firstOnGrid magnitude finer (grid - 1))

/-- The power of ten of the first digit of a number. -/
def leadingPower (magnitude : Magnitude) : Int :=
  match magnitude.exponent with
  | .ofNat power => (decimalWidth (magnitude.mantissa * Nat.pow 2 power) : Int) - 1
  | .negSucc power =>
      let whole := magnitude.mantissa / Nat.pow 2 (power + 1)
      if whole == 0 then
        let scaled := magnitude.mantissa * Nat.pow 10 400
        (decimalWidth (scaled / Nat.pow 2 (power + 1)) : Int) - 401
      else (decimalWidth whole : Int) - 1

/-- The shortest decimal that reads as a number. The first grid is coarser than the number, which
may be just below a power of ten. -/
def shortest (magnitude : Magnitude) : Decimal :=
  if magnitude.mantissa == 0 then ⟨0, 0⟩
  else firstOnGrid magnitude 19 (leadingPower magnitude + 1)

/-- A decimal in positional notation, always with a point. -/
def Decimal.positional (decimal : Decimal) : String :=
  let digits := Nat.toDigits 10 decimal.digits
  let zeros (count : Nat) : List Char := List.replicate count '0'
  match decimal.exponent with
  | .ofNat power => String.ofList (digits ++ zeros power) ++ ".0"
  | .negSucc power =>
      let places := power + 1
      let padded := zeros (places + 1 - digits.length) ++ digits
      let whole := padded.length - places
      String.ofList (padded.take whole) ++ "." ++ String.ofList (padded.drop whole)

/-- A number in positional notation. -/
def Binary64.text : Binary64 -> String
  | .finite negative magnitude =>
      (if negative then "-" else "") ++ (shortest magnitude).positional
  | .infinite negative => if negative then "-inf" else "inf"
  | .notNumber => "NaN"

end Number
end PathVersions
