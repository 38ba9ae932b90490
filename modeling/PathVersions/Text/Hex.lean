/-!
# Hexadecimal digits
-/

namespace PathVersions
namespace Hex

/-- The value of a hexadecimal digit. -/
def value? (c : Char) : Option Nat :=
  if '0' ≤ c && c ≤ '9' then some (c.toNat - 0x30)
  else if 'a' ≤ c && c ≤ 'f' then some (c.toNat - 0x57)
  else if 'A' ≤ c && c ≤ 'F' then some (c.toNat - 0x37)
  else none

/-- The digit of a value below sixteen, with small letters. -/
def smallDigit (value : Nat) : Char :=
  if value < 10 then Char.ofNat (0x30 + value) else Char.ofNat (0x57 + value)

/-- The digit of a value below sixteen, with capital letters. -/
def capitalDigit (value : Nat) : Char :=
  if value < 10 then Char.ofNat (0x30 + value) else Char.ofNat (0x37 + value)

/-- The digits of a number, with as many leading zeros as a number of places asks for. -/
def digits (digit : Nat -> Char) : Nat -> Nat -> List Char
  | 0, _ => []
  | places + 1, value => digits digit places (value / 16) ++ [digit (value % 16)]

/-- How many digits a number takes, at least one. -/
def width (value : Nat) : Nat :=
  if value < 16 then 1 else width (value / 16) + 1

/-- Read a number of digits. -/
def read? : Nat -> Nat -> List Char -> Option (Nat × List Char)
  | 0, value, text => some (value, text)
  | _ + 1, _, [] => none
  | places + 1, value, c :: rest =>
      match value? c with
      | some digit => read? places (value * 16 + digit) rest
      | none => none

end Hex
end PathVersions
