import Mathlib.Data.List.Basic
import Mathlib.Tactic.SplitIfs
import PathVersions.Utf8.RawText

/-!
# Bytes and characters

Decoding a text keeps its bytes: the pieces of a text, written one after another, give its bytes
back. The bytes of a text of characters are decoded to these characters, so that a text has
characters exactly if it is the encoding of some.
-/

namespace PathVersions
namespace RawText

/-! ## Characters of several bytes -/

/-- A number that is a code point is that of its character. -/
theorem toNat_val_ofNat {number : Nat} (valid : number.isValidChar) :
    (Char.ofNat number).val.toNat = number := by
  rw [Char.ofNat, dif_pos valid]
  rfl

/-- Code points need no more than four bytes. -/
theorem toNat_val_lt (c : Char) : c.val.toNat < 0x110000 := by
  obtain low | ⟨_, high⟩ := c.valid
  · exact Nat.lt_trans low (by decide)
  · exact high

/-- A byte is told by its number. -/
theorem ofNat_eq_iff {number : Nat} (small : number < 256) (byte : UInt8) :
    UInt8.ofNat number = byte ↔ number = byte.toNat := by
  rw [← UInt8.toNat_inj, UInt8.toNat_ofNat_of_lt' small]

theorem toNat_ofNat {number : Nat} (small : number < 256) : (UInt8.ofNat number).toNat = number :=
  UInt8.toNat_ofNat_of_lt' small

theorem toNat_sub (byte marker : UInt8) (low : marker.toNat ≤ byte.toNat) :
    (byte - marker).toNat = byte.toNat - marker.toNat :=
  UInt8.toNat_sub_of_le byte marker (UInt8.le_iff_toNat_le.mpr low)

/-- The number that continuation bytes make of the number before them. -/
def continued (value : Nat) (tail : List UInt8) : Nat :=
  tail.foldl (fun value byte => value * 64 + (byte - 0x80).toNat) value

namespace Pending

/-- Bytes that complete the start of a character: as many as are missing, of which the first one is
among those that can come next. -/
structure Completes (pending : Pending) (tail : List UInt8) : Prop where
  length_eq : tail.length = pending.missing
  head_mem : ∀ byte ∈ tail.head?, pending.least ≤ byte ∧ byte ≤ pending.greatest
  tail_mem : ∀ byte ∈ tail.tail, 0x80 ≤ byte ∧ byte ≤ 0xbf

/-- Whatever completes the start of a character makes a whole character of its bytes. -/
structure Sound (pending : Pending) : Prop where
  missing_pos : 0 < pending.missing
  encode_eq : ∀ tail, pending.Completes tail ->
    String.utf8EncodeChar (Char.ofNat (continued pending.value tail)) = pending.bytes ++ tail

/-- The start of a character of two bytes. -/
def ofTwo (byte : UInt8) : Pending := ⟨[byte], 1, 0x80, 0xbf, byte.toNat - 0xc0⟩

/-- The start of a character of three bytes. Two of these bytes restrict the next one, so that
there is one encoding of every character and none of a surrogate. -/
def ofThree (byte : UInt8) : Pending :=
  ⟨[byte], 2, if byte = 0xe0 then 0xa0 else 0x80, if byte = 0xed then 0x9f else 0xbf,
    byte.toNat - 0xe0⟩

/-- The start of a character of four bytes. Two of these bytes restrict the next one, so that
there is one encoding of every character and none beyond the last one. -/
def ofFour (byte : UInt8) : Pending :=
  ⟨[byte], 3, if byte = 0xf0 then 0x90 else 0x80, if byte = 0xf4 then 0x8f else 0xbf,
    byte.toNat - 0xf0⟩

/-- The start of two bytes has room for just the code points that need two. -/
theorem sound_ofTwo {byte : UInt8} (low : 0xc2 ≤ byte.toNat) (high : byte.toNat ≤ 0xdf) :
    (ofTwo byte).Sound where
  missing_pos := Nat.succ_pos 0
  encode_eq := by
    rintro tail ⟨length, head, -⟩
    obtain ⟨next, rfl⟩ := List.length_eq_one_iff.mp length
    have bounds : 0x80 ≤ next.toNat ∧ next.toNat ≤ 0xbf := head next rfl
    have number : continued (ofTwo byte).value [next] =
        (byte.toNat - 0xc0) * 64 + (next.toNat - 0x80) := by
      simp [continued, ofTwo, toNat_sub next 0x80 bounds.1]
    rw [number, String.utf8EncodeChar.eq_1, toNat_val_ofNat (by left; omega), if_neg (by omega),
      if_pos (by omega)]
    simp (disch := omega) only [ofTwo, List.cons_append, List.nil_append, List.cons.injEq,
      ofNat_eq_iff, and_true]
    omega

/-- Behind the start of three bytes, neither a code point that needs fewer nor a surrogate fits. -/
theorem sound_ofThree {byte : UInt8} (low : 0xe0 ≤ byte.toNat) (high : byte.toNat ≤ 0xef) :
    (ofThree byte).Sound where
  missing_pos := Nat.succ_pos 1
  encode_eq := by
    rintro tail ⟨length, head, others⟩
    obtain ⟨next, last, rfl⟩ := List.length_eq_two.mp length
    have lastBounds : 0x80 ≤ last.toNat ∧ last.toNat ≤ 0xbf := others last (by simp)
    have bounds : 0x80 ≤ next.toNat ∧ next.toNat ≤ 0xbf ∧
        (byte.toNat = 0xe0 -> 0xa0 ≤ next.toNat) ∧ (byte.toNat = 0xed -> next.toNat ≤ 0x9f) := by
      have both := head next rfl
      simp only [ofThree, UInt8.le_iff_toNat_le, ← UInt8.toNat_inj, apply_ite UInt8.toNat,
        UInt8.reduceToNat] at both
      split_ifs at both <;> omega
    have number : continued (ofThree byte).value [next, last] =
        ((byte.toNat - 0xe0) * 64 + (next.toNat - 0x80)) * 64 + (last.toNat - 0x80) := by
      simp [continued, ofThree, toNat_sub next 0x80 bounds.1, toNat_sub last 0x80 lastBounds.1]
    have valid : (((byte.toNat - 0xe0) * 64 + (next.toNat - 0x80)) * 64 +
        (last.toNat - 0x80)).isValidChar := by
      rw [Nat.isValidChar]
      omega
    rw [number, String.utf8EncodeChar.eq_1, toNat_val_ofNat valid, if_neg (by omega),
      if_neg (by omega), if_pos (by omega)]
    simp (disch := omega) only [ofThree, List.cons_append, List.nil_append, List.cons.injEq,
      ofNat_eq_iff, and_true]
    omega

/-- Behind the start of four bytes, nothing fits that needs fewer or is too large. -/
theorem sound_ofFour {byte : UInt8} (low : 0xf0 ≤ byte.toNat) (high : byte.toNat ≤ 0xf4) :
    (ofFour byte).Sound where
  missing_pos := Nat.succ_pos 2
  encode_eq := by
    rintro tail ⟨length, head, others⟩
    obtain ⟨next, third, last, rfl⟩ := List.length_eq_three.mp length
    have thirdBounds : 0x80 ≤ third.toNat ∧ third.toNat ≤ 0xbf := others third (by simp)
    have lastBounds : 0x80 ≤ last.toNat ∧ last.toNat ≤ 0xbf := others last (by simp)
    have bounds : 0x80 ≤ next.toNat ∧ next.toNat ≤ 0xbf ∧
        (byte.toNat = 0xf0 -> 0x90 ≤ next.toNat) ∧ (byte.toNat = 0xf4 -> next.toNat ≤ 0x8f) := by
      have both := head next rfl
      simp only [ofFour, UInt8.le_iff_toNat_le, ← UInt8.toNat_inj, apply_ite UInt8.toNat,
        UInt8.reduceToNat] at both
      split_ifs at both <;> omega
    have number : continued (ofFour byte).value [next, third, last] =
        (((byte.toNat - 0xf0) * 64 + (next.toNat - 0x80)) * 64 + (third.toNat - 0x80)) * 64 +
          (last.toNat - 0x80) := by
      simp [continued, ofFour, toNat_sub next 0x80 bounds.1, toNat_sub third 0x80 thirdBounds.1,
        toNat_sub last 0x80 lastBounds.1]
    rw [number, String.utf8EncodeChar.eq_1, toNat_val_ofNat (by right; omega), if_neg (by omega),
      if_neg (by omega), if_neg (by omega)]
    simp (disch := omega) only [ofFour, List.cons_append, List.nil_append, List.cons.injEq,
      ofNat_eq_iff, and_true]
    omega

end Pending

/-- The first bytes of characters of two bytes. -/
theorem pendingOf?_two {byte : UInt8} (low : 0xc2 ≤ byte.toNat) (high : byte.toNat ≤ 0xdf) :
    pendingOf? byte = some (.ofTwo byte) := by
  have payload := toNat_sub byte 0xc0 (Nat.le_trans (by decide) low)
  have inRange : (0xc2 ≤ byte && byte ≤ 0xdf) = true := by
    simp [UInt8.le_iff_toNat_le, low, high]
  simp only [pendingOf?, inRange, if_true, payload]
  rfl

/-- The first bytes of characters of three bytes. -/
theorem pendingOf?_three {byte : UInt8} (low : 0xe0 ≤ byte.toNat) (high : byte.toNat ≤ 0xef) :
    pendingOf? byte = some (.ofThree byte) := by
  have payload := toNat_sub byte 0xe0 low
  simp only [pendingOf?, Pending.ofThree, payload, UInt8.le_iff_toNat_le, beq_iff_eq,
    ← UInt8.toNat_inj, Bool.and_eq_true, decide_eq_true_eq, UInt8.reduceToNat]
  split_ifs <;> first | rfl | omega

/-- The first bytes of characters of four bytes. -/
theorem pendingOf?_four {byte : UInt8} (low : 0xf0 ≤ byte.toNat) (high : byte.toNat ≤ 0xf4) :
    pendingOf? byte = some (.ofFour byte) := by
  have payload := toNat_sub byte 0xf0 low
  simp only [pendingOf?, Pending.ofFour, payload, UInt8.le_iff_toNat_le, beq_iff_eq,
    ← UInt8.toNat_inj, Bool.and_eq_true, decide_eq_true_eq, UInt8.reduceToNat]
  split_ifs <;> first | rfl | omega

/-- No byte starts anything but a character of two, three or four bytes. -/
theorem sound_of_pendingOf?
    {byte : UInt8}
    {pending : Pending}
    (begun : pendingOf? byte = some pending) :
    pending.Sound ∧ pending.bytes = [byte] := by
  have ranges : (0xc2 ≤ byte.toNat ∧ byte.toNat ≤ 0xdf) ∨
      (0xe0 ≤ byte.toNat ∧ byte.toNat ≤ 0xef) ∨ (0xf0 ≤ byte.toNat ∧ byte.toNat ≤ 0xf4) := by
    by_contra outside
    have nothing : pendingOf? byte = none := by
      simp only [pendingOf?, UInt8.le_iff_toNat_le, beq_iff_eq, ← UInt8.toNat_inj,
        Bool.and_eq_true, decide_eq_true_eq, UInt8.reduceToNat]
      split_ifs <;> first | rfl | omega
    rw [nothing] at begun
    cases begun
  obtain ⟨low, high⟩ | ⟨low, high⟩ | ⟨low, high⟩ := ranges
  · rw [pendingOf?_two low high] at begun
    cases begun
    exact ⟨Pending.sound_ofTwo low high, rfl⟩
  · rw [pendingOf?_three low high] at begun
    cases begun
    exact ⟨Pending.sound_ofThree low high, rfl⟩
  · rw [pendingOf?_four low high] at begun
    cases begun
    exact ⟨Pending.sound_ofFour low high, rfl⟩

/-! ## One more byte -/

namespace Pending

/-- The start of a character with one more byte. -/
def extended (pending : Pending) (byte : UInt8) : Pending :=
  ⟨pending.bytes ++ [byte], pending.missing - 1, 0x80, 0xbf,
    pending.value * 64 + (byte - 0x80).toNat⟩

@[simp] theorem missing_extended (pending : Pending) (byte : UInt8) :
    (pending.extended byte).missing = pending.missing - 1 := rfl

@[simp] theorem value_extended (pending : Pending) (byte : UInt8) :
    (pending.extended byte).value = pending.value * 64 + (byte - 0x80).toNat := rfl

@[simp] theorem bytes_extended (pending : Pending) (byte : UInt8) :
    (pending.extended byte).bytes = pending.bytes ++ [byte] := rfl

/-- A start is completed byte by byte: the next byte fits, and the rest completes what has been
extended by it. -/
theorem completes_cons_iff
    {pending : Pending}
    (positive : 0 < pending.missing)
    (byte : UInt8)
    (tail : List UInt8) :
    pending.Completes (byte :: tail) ↔
      (pending.least ≤ byte ∧ byte ≤ pending.greatest) ∧
        (pending.extended byte).Completes tail := by
  constructor
  · rintro ⟨length, head, others⟩
    rw [List.length_cons] at length
    refine ⟨head byte rfl, ?_, ?_, ?_⟩
    · rw [missing_extended]
      omega
    · intro other member
      exact others other (List.mem_of_mem_head? member)
    · intro other member
      exact others other (List.mem_of_mem_tail member)
  · rintro ⟨fits, length, head, others⟩
    rw [missing_extended] at length
    refine ⟨?_, ?_, ?_⟩
    · rw [List.length_cons, length]
      omega
    · rintro _ ⟨⟩
      exact fits
    · intro other member
      cases tail with
      | nil => cases member
      | cons next rest =>
          obtain rfl | deeper := List.mem_cons.mp member
          · exact head other rfl
          · exact others other deeper

/-- A byte that fits narrows down what can follow, and makes no start of it that could end badly. -/
theorem Sound.extended
    {pending : Pending}
    (sound : pending.Sound)
    {byte : UInt8}
    (fits : pending.least ≤ byte ∧ byte ≤ pending.greatest)
    (more : pending.missing ≠ 1) :
    (pending.extended byte).Sound where
  missing_pos := by
    have positive := sound.missing_pos
    rw [missing_extended]
    omega
  encode_eq tail completes := by
    have whole := sound.encode_eq (byte :: tail)
      ((completes_cons_iff sound.missing_pos byte tail).mpr ⟨fits, completes⟩)
    simpa [continued] using whole

end Pending

/-- A byte that fits either ends a character or makes the start of it longer. -/
theorem extend_of_fits
    {pending : Pending}
    {byte : UInt8}
    (fits : pending.least ≤ byte ∧ byte ≤ pending.greatest) :
    extend pending byte =
      if pending.missing = 1 then ([.char (Char.ofNat (pending.extended byte).value)], none)
      else ([], some (pending.extended byte)) := by
  have inRange : (pending.least ≤ byte && byte ≤ pending.greatest) = true := by simpa using fits
  rw [extend, if_pos inRange]
  simp only [beq_iff_eq]
  rfl

/-! ## Pieces -/

/-- The bytes of a piece. -/
def Piece.bytes : Piece -> List UInt8
  | .char c => String.utf8EncodeChar c
  | .broken bytes => bytes

/-- The bytes of what may be the start of a character. -/
def startBytes : Option Pending -> List UInt8
  | none => []
  | some pending => pending.bytes

/-- Some pieces, and what may be the start of a character after them, that have given bytes. -/
structure Holds (bytes : List UInt8) (step : List Piece × Option Pending) : Prop where
  bytes_eq : step.1.flatMap Piece.bytes ++ startBytes step.2 = bytes
  sound : ∀ pending ∈ step.2, pending.Sound

/-- A byte that starts nothing is a piece of its own. -/
theorem holds_begin (byte : UInt8) : Holds [byte] (begin byte) := by
  rw [begin]
  split_ifs with ascii
  · have small : byte.toNat < 0x80 := ascii
    refine ⟨?_, by simp⟩
    have valid : byte.toNat.isValidChar := by
      left
      omega
    simp only [List.flatMap_singleton, Piece.bytes, startBytes, List.append_nil]
    rw [String.utf8EncodeChar.eq_1, toNat_val_ofNat valid, if_pos (by omega),
      (ofNat_eq_iff (by omega) byte).mpr rfl]
  · cases begun : pendingOf? byte with
    | none => exact ⟨rfl, by simp⟩
    | some pending =>
        obtain ⟨sound, bytes⟩ := sound_of_pendingOf? begun
        refine ⟨bytes, ?_⟩
        rintro _ ⟨⟩
        exact sound

/-- No byte is lost or doubled, whether the next one fits or not. -/
theorem Pending.Sound.holds_extend
    {pending : Pending}
    (sound : pending.Sound)
    (byte : UInt8) :
    Holds (pending.bytes ++ [byte]) (extend pending byte) := by
  by_cases fits : pending.least ≤ byte ∧ byte ≤ pending.greatest
  · rw [extend_of_fits fits]
    split_ifs with last
    · have completes : pending.Completes [byte] := by
        rw [Pending.completes_cons_iff sound.missing_pos]
        exact ⟨fits, by simp [last], by simp, by simp⟩
      refine ⟨?_, by simp⟩
      simpa [Piece.bytes, startBytes, continued] using sound.encode_eq [byte] completes
    · refine ⟨rfl, ?_⟩
      rintro _ ⟨⟩
      exact sound.extended fits last
  · have apart : ¬(pending.least ≤ byte && byte ≤ pending.greatest) = true := by simpa using fits
    obtain ⟨kept, next⟩ := holds_begin byte
    rw [extend, if_neg apart]
    exact ⟨by simp [Piece.bytes, kept], next⟩

/-- Decoding keeps every byte. -/
theorem flatMap_bytes_piecesFrom
    {pending? : Option Pending}
    (sound : ∀ pending ∈ pending?, pending.Sound)
    (bytes : List UInt8) :
    (piecesFrom pending? bytes).flatMap Piece.bytes = startBytes pending? ++ bytes := by
  induction bytes generalizing pending? with
  | nil => cases pending? <;> simp [piecesFrom, startBytes, Piece.bytes]
  | cons byte rest inductionHypothesis =>
      cases pending? with
      | none =>
          obtain ⟨kept, next⟩ := holds_begin byte
          rw [piecesFrom, List.flatMap_append, inductionHypothesis next, ← List.append_assoc, kept]
          rfl
      | some pending =>
          obtain ⟨kept, next⟩ := (sound pending rfl).holds_extend byte
          rw [piecesFrom, List.flatMap_append, inductionHypothesis next, ← List.append_assoc, kept]
          simp [startBytes]

/-! ## Text -/

/-- The bytes that complete a character end it, whatever comes after them. -/
theorem Pending.Completes.piecesFrom
    {pending : Pending}
    {tail : List UInt8}
    (completes : pending.Completes tail)
    (positive : 0 < pending.missing)
    (rest : List UInt8) :
    piecesFrom (some pending) (tail ++ rest) =
      .char (Char.ofNat (continued pending.value tail)) :: piecesFrom none rest := by
  induction tail generalizing pending with
  | nil =>
      have length := completes.length_eq
      rw [List.length_nil] at length
      omega
  | cons byte tail inductionHypothesis =>
      obtain ⟨fits, others⟩ := (Pending.completes_cons_iff positive byte tail).mp completes
      have length : tail.length = pending.missing - 1 := others.length_eq
      rw [List.cons_append, RawText.piecesFrom, extend_of_fits fits]
      split_ifs with last
      · have nothing : tail = [] := List.length_eq_zero_iff.mp (by omega)
        subst nothing
        rfl
      · exact inductionHypothesis others (by rw [Pending.missing_extended]; omega)

theorem toNat_continuation {digit : Nat} (small : digit < 64) :
    (UInt8.ofNat (digit + 0x80)).toNat = digit + 0x80 :=
  toNat_ofNat (by omega)

/-- Six bits behind the marker make a byte that may follow the first one. -/
theorem continuation_mem {digit : Nat} (small : digit < 64) :
    0x80 ≤ UInt8.ofNat (digit + 0x80) ∧ UInt8.ofNat (digit + 0x80) ≤ 0xbf := by
  simp only [UInt8.le_iff_toNat_le, toNat_continuation small, UInt8.reduceToNat]
  omega

/-- The marker of a byte is taken off again. -/
theorem toNat_continuation_sub {digit : Nat} (small : digit < 64) :
    (UInt8.ofNat (digit + 0x80) - 0x80).toNat = digit := by
  have byte := toNat_continuation small
  have marker : (0x80 : UInt8).toNat = 0x80 := rfl
  rw [toNat_sub _ 0x80 (by omega), byte, marker, Nat.add_sub_cancel]

namespace Pending

/-- The bytes of a code point that needs two of them complete each other. -/
theorem completes_ofTwo {number : Nat} (high : number < 0x800) :
    let lead := UInt8.ofNat (number / 64 % 32 + 0xc0)
    let tail := [UInt8.ofNat (number % 64 + 0x80)]
    (ofTwo lead).Completes tail ∧ continued (ofTwo lead).value tail = number := by
  intro lead tail
  have leadNumber : lead.toNat = number / 64 % 32 + 0xc0 := toNat_ofNat (by omega)
  refine ⟨⟨rfl, ?_, by simp [tail]⟩, ?_⟩
  · rintro _ ⟨⟩
    exact continuation_mem (by omega)
  · simp only [tail, continued, ofTwo, List.foldl_cons, List.foldl_nil, leadNumber]
    rw [toNat_continuation_sub (by omega)]
    omega

/-- The bytes of a code point that needs three of them complete each other, since it is no
surrogate. -/
theorem completes_ofThree
    {number : Nat}
    (low : 0x800 ≤ number)
    (high : number < 0x10000)
    (valid : number.isValidChar) :
    let lead := UInt8.ofNat (number / 4096 % 16 + 0xe0)
    let tail := [UInt8.ofNat (number / 64 % 64 + 0x80), UInt8.ofNat (number % 64 + 0x80)]
    (ofThree lead).Completes tail ∧ continued (ofThree lead).value tail = number := by
  intro lead tail
  have leadNumber : lead.toNat = number / 4096 % 16 + 0xe0 := toNat_ofNat (by omega)
  refine ⟨⟨rfl, ?_, ?_⟩, ?_⟩
  · rintro _ ⟨⟩
    rw [Nat.isValidChar] at valid
    simp only [ofThree, UInt8.le_iff_toNat_le, ← UInt8.toNat_inj, apply_ite UInt8.toNat,
      UInt8.reduceToNat, leadNumber]
    rw [toNat_continuation (by omega)]
    split_ifs <;> omega
  · intro byte member
    rw [List.tail_cons, List.mem_singleton] at member
    rw [member]
    exact continuation_mem (by omega)
  · simp only [tail, continued, ofThree, List.foldl_cons, List.foldl_nil, leadNumber]
    rw [toNat_continuation_sub (by omega), toNat_continuation_sub (by omega)]
    omega

/-- The bytes of a code point that needs four of them complete each other. -/
theorem completes_ofFour {number : Nat} (low : 0x10000 ≤ number) (high : number < 0x110000) :
    let lead := UInt8.ofNat (number / 262144 % 8 + 0xf0)
    let tail := [UInt8.ofNat (number / 4096 % 64 + 0x80), UInt8.ofNat (number / 64 % 64 + 0x80),
      UInt8.ofNat (number % 64 + 0x80)]
    (ofFour lead).Completes tail ∧ continued (ofFour lead).value tail = number := by
  intro lead tail
  have leadNumber : lead.toNat = number / 262144 % 8 + 0xf0 := toNat_ofNat (by omega)
  refine ⟨⟨rfl, ?_, ?_⟩, ?_⟩
  · rintro _ ⟨⟩
    simp only [ofFour, UInt8.le_iff_toNat_le, ← UInt8.toNat_inj, apply_ite UInt8.toNat,
      UInt8.reduceToNat, leadNumber]
    rw [toNat_continuation (by omega)]
    split_ifs <;> omega
  · intro byte member
    simp only [tail, List.tail_cons, List.mem_cons, List.not_mem_nil, or_false] at member
    obtain rfl | rfl := member
    · exact continuation_mem (by omega)
    · exact continuation_mem (by omega)
  · simp only [tail, continued, ofFour, List.foldl_cons, List.foldl_nil, leadNumber]
    rw [toNat_continuation_sub (by omega), toNat_continuation_sub (by omega),
      toNat_continuation_sub (by omega)]
    omega

end Pending

/-- The first byte of a character of several bytes says what the others can be. -/
theorem exists_pending
    {c : Char}
    (large : 0x80 ≤ c.val.toNat) :
    ∃ lead tail pending, String.utf8EncodeChar c = lead :: tail ∧ 0x80 ≤ lead.toNat ∧
      pendingOf? lead = some pending ∧ pending.Completes tail ∧
      continued pending.value tail = c.val.toNat := by
  have bound := toNat_val_lt c
  have valid : c.val.toNat.isValidChar := c.valid
  rw [String.utf8EncodeChar.eq_1, if_neg (by omega)]
  generalize c.val.toNat = number at *
  split_ifs with two three
  · have lead : (UInt8.ofNat (number / 64 % 32 + 0xc0)).toNat = number / 64 % 32 + 0xc0 :=
      toNat_ofNat (by omega)
    exact ⟨_, _, _, rfl, by omega, pendingOf?_two (by omega) (by omega),
      Pending.completes_ofTwo (by omega)⟩
  · have lead : (UInt8.ofNat (number / 4096 % 16 + 0xe0)).toNat = number / 4096 % 16 + 0xe0 :=
      toNat_ofNat (by omega)
    exact ⟨_, _, _, rfl, by omega, pendingOf?_three (by omega) (by omega),
      Pending.completes_ofThree (by omega) (by omega) valid⟩
  · have lead : (UInt8.ofNat (number / 262144 % 8 + 0xf0)).toNat = number / 262144 % 8 + 0xf0 :=
      toNat_ofNat (by omega)
    exact ⟨_, _, _, rfl, by omega, pendingOf?_four (by omega) (by omega),
      Pending.completes_ofFour (by omega) bound⟩

/-- The bytes of a character are decoded to it, whatever comes after them. -/
theorem piecesFrom_encode (c : Char) (rest : List UInt8) :
    piecesFrom none (String.utf8EncodeChar c ++ rest) = .char c :: piecesFrom none rest := by
  by_cases small : c.val.toNat < 0x80
  · have byte : (UInt8.ofNat c.val.toNat).toNat = c.val.toNat := toNat_ofNat (by omega)
    have ascii : UInt8.ofNat c.val.toNat < 0x80 := by
      rw [UInt8.lt_iff_toNat_lt, byte]
      exact small
    rw [String.utf8EncodeChar.eq_1, if_pos (by omega), List.cons_append, List.nil_append,
      piecesFrom, begin, if_pos ascii, byte]
    simp
  · obtain ⟨lead, tail, pending, encoded, high, begun, completes, number⟩ :=
      exists_pending (Nat.not_lt.mp small)
    have several : ¬ lead < 0x80 := by
      rw [UInt8.lt_iff_toNat_lt]
      exact Nat.not_lt.mpr high
    obtain ⟨sound, -⟩ := sound_of_pendingOf? begun
    have ended := completes.piecesFrom sound.missing_pos rest
    rw [number, Char.toNat_val, Char.ofNat_toNat] at ended
    rw [encoded, List.cons_append, piecesFrom, begin, if_neg several, begun]
    exact ended

/-- The bytes of a text are decoded to its characters. -/
theorem pieces_ofString (text : String) :
    (ofString text).pieces = text.toList.map Piece.char := by
  rw [pieces, ofString]
  induction text.toList with
  | nil => rfl
  | cons c rest inductionHypothesis =>
      rw [List.flatMap_cons, piecesFrom_encode, inductionHypothesis, List.map_cons]

/-- Pieces are text exactly if each of them is a character. -/
theorem charsOf?_eq_some_iff (pieces : List Piece) (chars : List Char) :
    charsOf? pieces = some chars ↔ pieces = chars.map Piece.char := by
  induction pieces generalizing chars with
  | nil => cases chars <;> simp [charsOf?]
  | cons piece rest inductionHypothesis =>
      cases piece with
      | char c =>
          rw [charsOf?, Option.map_eq_some_iff]
          cases chars with
          | nil => simp
          | cons first others => simp [inductionHypothesis, and_comm]
      | broken bytes => cases chars <;> simp [charsOf?]

/-- The bytes of a text are UTF-8 exactly if they encode its characters. -/
theorem text?_eq_some_iff (raw : RawText) (text : String) :
    raw.text? = some text ↔ raw = ofString text := by
  constructor
  · intro decoded
    rw [text?, Option.map_eq_some_iff] at decoded
    obtain ⟨chars, found, rfl⟩ := decoded
    rw [charsOf?_eq_some_iff] at found
    have kept : raw.pieces.flatMap Piece.bytes = raw.bytes :=
      flatMap_bytes_piecesFrom (by simp) raw.bytes
    rw [found, List.flatMap_map] at kept
    rw [ofString, String.toList_ofList]
    exact congrArg RawText.mk kept.symm
  · rintro rfl
    rw [text?, (charsOf?_eq_some_iff _ text.toList).mpr (pieces_ofString text)]
    simp

theorem toByteArray_ofString (text : String) :
    (ofString text).bytes.toByteArray = text.toByteArray :=
  String.utf8Encode_toList

/-- Decoding agrees with the decoding of the standard library. -/
theorem text?_eq_fromUTF8? (raw : RawText) :
    raw.text? = String.fromUTF8? raw.bytes.toByteArray := by
  rw [String.fromUTF8?]
  split_ifs with valid
  · rw [text?_eq_some_iff]
    have same : (ofString (String.fromUTF8 raw.bytes.toByteArray valid)).bytes.toByteArray =
        raw.bytes.toByteArray :=
      toByteArray_ofString _
    rw [List.toByteArray_inj] at same
    exact congrArg RawText.mk same.symm
  · rw [Option.eq_none_iff_forall_ne_some]
    intro text decoded
    rw [text?_eq_some_iff] at decoded
    apply valid
    rw [decoded, toByteArray_ofString]
    exact text.isValidUTF8

end RawText
end PathVersions
