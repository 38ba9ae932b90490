import PathVersions.Unicode.Spans

/-!
# Ranges of encoded characters

A range of code points falls apart into runs whose encodings are all combinations of one range
of bytes for each place.
-/

namespace PathVersions
namespace Utf8

open Unicode (CodeRange)

/-- A range of bytes for each byte of an encoding. -/
abbrev Sequence : Type := List CodeRange

/-- The range of all bytes that continue a character. -/
def continuation : CodeRange := ⟨0x80, 0xbf⟩

/-- The sequences of a range of encodings with a number of continuation bytes. The range is one
of payloads; a byte is its share of the payload and the marker of its place. -/
def sequencesOf : Nat -> Nat -> Nat -> Nat -> List Sequence
  | 0, marker, first, last => [[⟨marker + first, marker + last⟩]]
  | places + 1, marker, first, last =>
      let unit := Nat.pow 64 (places + 1)
      let lead := first / unit
      let final := last / unit
      let leading (low high : Nat) (tails : List Sequence) : List Sequence :=
        tails.map fun tail => ⟨marker + low, marker + high⟩ :: tail
      if lead == final then
        leading lead lead (sequencesOf places 0x80 (first % unit) (last % unit))
      else
        let startWhole := first % unit == 0
        let endWhole := last % unit == unit - 1
        let start :=
          if startWhole then []
          else leading lead lead (sequencesOf places 0x80 (first % unit) (unit - 1))
        let low := if startWhole then lead else lead + 1
        let high := if endWhole then final + 1 else final
        let middle :=
          if low < high then
            [⟨marker + low, marker + (high - 1)⟩ :: List.replicate (places + 1) continuation]
          else []
        let finish :=
          if endWhole then []
          else leading final final (sequencesOf places 0x80 0 (last % unit))
        start ++ middle ++ finish

/-- The code points whose encodings have the same length, with the number of continuation bytes
and the marker of the first byte; the code points that encode nothing are left out. -/
def blocks : List (CodeRange × Nat × Nat) :=
  [(⟨0, 0x7f⟩, 0, 0), (⟨0x80, 0x7ff⟩, 1, 0xc0), (⟨0x800, 0xd7ff⟩, 2, 0xe0),
   (⟨0xe000, 0xffff⟩, 2, 0xe0), (⟨0x10000, 0x10ffff⟩, 3, 0xf0)]

/-- The sequences of a range of code points. -/
def sequences (range : CodeRange) : List Sequence :=
  blocks.flatMap fun (block, places, marker) =>
    let first := max range.first block.first
    let last := min range.last block.last
    if first ≤ last then sequencesOf places marker first last else []

end Utf8
end PathVersions
