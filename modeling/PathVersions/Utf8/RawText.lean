import PathVersions.Text.Quoted

/-!
# Text that may be broken

Text from outside is a list of bytes, which need not be UTF-8. Decoding keeps every byte: what
is no character is kept as a broken piece, as long as it could have started one.
-/

namespace PathVersions

/-- Bytes that are meant to be text. -/
structure RawText where
  bytes : List UInt8
deriving DecidableEq, Repr

namespace RawText

/-- A part of a decoded text. -/
inductive Piece
  | char (c : Char)
  | broken (bytes : List UInt8)
deriving DecidableEq, Repr

/-- The start of a character of which bytes are missing. -/
structure Pending where
  /-- The bytes so far. -/
  bytes : List UInt8
  /-- How many bytes are missing. -/
  missing : Nat
  /-- The least byte that can come next. -/
  least : UInt8
  /-- The greatest byte that can come next. -/
  greatest : UInt8
  /-- The number of the character so far. -/
  value : Nat
deriving DecidableEq, Repr

/-- What the first byte of a character of several bytes says. -/
def pendingOf? (byte : UInt8) : Option Pending :=
  let payload (marker : UInt8) : Nat := (byte - marker).toNat
  if 0xc2 ≤ byte && byte ≤ 0xdf then some ⟨[byte], 1, 0x80, 0xbf, payload 0xc0⟩
  else if byte == 0xe0 then some ⟨[byte], 2, 0xa0, 0xbf, payload 0xe0⟩
  else if byte == 0xed then some ⟨[byte], 2, 0x80, 0x9f, payload 0xe0⟩
  else if 0xe1 ≤ byte && byte ≤ 0xef then some ⟨[byte], 2, 0x80, 0xbf, payload 0xe0⟩
  else if byte == 0xf0 then some ⟨[byte], 3, 0x90, 0xbf, payload 0xf0⟩
  else if 0xf1 ≤ byte && byte ≤ 0xf3 then some ⟨[byte], 3, 0x80, 0xbf, payload 0xf0⟩
  else if byte == 0xf4 then some ⟨[byte], 3, 0x80, 0x8f, payload 0xf0⟩
  else none

/-- Take a byte that starts something. -/
def begin (byte : UInt8) : List Piece × Option Pending :=
  if byte < 0x80 then ([.char (Char.ofNat byte.toNat)], none)
  else
    match pendingOf? byte with
    | some pending => ([], some pending)
    | none => ([.broken [byte]], none)

/-- Take a byte after the start of a character. -/
def extend (pending : Pending) (byte : UInt8) : List Piece × Option Pending :=
  if pending.least ≤ byte && byte ≤ pending.greatest then
    let value := pending.value * 64 + (byte - 0x80).toNat
    if pending.missing == 1 then ([.char (Char.ofNat value)], none)
    else ([], some ⟨pending.bytes ++ [byte], pending.missing - 1, 0x80, 0xbf, value⟩)
  else
    let (pieces, next) := begin byte
    (.broken pending.bytes :: pieces, next)

/-- The pieces of some bytes after what may be the start of a character. -/
def piecesFrom : Option Pending -> List UInt8 -> List Piece
  | none, [] => []
  | some pending, [] => [.broken pending.bytes]
  | pending?, byte :: rest =>
      let (pieces, next) :=
        match pending? with
        | none => begin byte
        | some pending => extend pending byte
      pieces ++ piecesFrom next rest

/-- The pieces of a text. -/
def pieces (raw : RawText) : List Piece := piecesFrom none raw.bytes

/-- A text as bytes. -/
def ofString (text : String) : RawText := ⟨text.toList.flatMap String.utf8EncodeChar⟩

/-- The characters of some pieces, if none of them is broken. -/
def charsOf? : List Piece -> Option (List Char)
  | [] => some []
  | .char c :: rest => (charsOf? rest).map (c :: ·)
  | .broken _ :: _ => none

/-- The text of some bytes, if they are UTF-8. -/
def text? (raw : RawText) : Option String := (charsOf? raw.pieces).map String.ofList

/-- The character that stands for a broken piece. -/
def replacement : Char := '\ufffd'

/-- A text in which every broken piece is replaced. -/
def shown (raw : RawText) : String :=
  String.ofList (raw.pieces.map fun
    | .char c => c
    | .broken _ => replacement)

/-- Write a piece between quotation marks, where apostrophes are escaped too. -/
def quotePiece : Piece -> List Char
  | .char c => if c == '\'' then ['\\', '\''] else Quoted.writeChar c
  | .broken bytes =>
      bytes.flatMap fun byte => '\\' :: 'x' :: Hex.digits Hex.capitalDigit 2 byte.toNat

/-- A text between quotation marks. -/
def quoted (raw : RawText) : String :=
  String.ofList ('"' :: (raw.pieces.flatMap quotePiece ++ ['"']))

end RawText
end PathVersions
