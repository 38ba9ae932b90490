import PathVersions.Proofs.Text.Hex
import PathVersions.Proofs.Utf8.RawText
import PathVersions.SourcePath
import Mathlib.Data.List.Forall2

/-!
# Literals of JSON

A literal stands between quotation marks and spells its text character by character: as the
character itself, as a short escape, by the number of the character, or by the two numbers of a
surrogate pair. What is read are exactly the literals, with blanks around them, and what is written
is one of them. So a source path, whatever it holds, is read back from its literal.
-/

namespace PathVersions
namespace Json

/-- The spellings of a character in a literal. -/
inductive Spells : List Char -> Char -> Prop
  /-- The character itself, unless it is a mark, a backslash or a control character. -/
  | plain {c : Char} :
      0x20 ≤ c.toNat -> c ≠ '"' -> c ≠ '\\' -> Spells [c] c
  /-- A backslash and a letter. -/
  | short {letter c : Char} :
      (letter, c) ∈
          [('"', '"'), ('\\', '\\'), ('/', '/'), ('b', '\x08'), ('f', '\x0c'), ('n', '\n'),
           ('r', '\r'), ('t', '\t')] ->
        Spells ['\\', letter] c
  /-- The number of the character. -/
  | number {digits : List Char} {c : Char} :
      Hex.Spells 4 digits c.toNat -> Spells ('\\' :: 'u' :: digits) c
  /-- The two halves of the number of a character that does not fit into four digits. -/
  | pair {first second : List Char} {leading trailing : Nat} {c : Char} :
      Hex.Spells 4 first leading -> 0xd800 ≤ leading -> leading ≤ 0xdbff ->
        Hex.Spells 4 second trailing -> 0xdc00 ≤ trailing -> trailing ≤ 0xdfff ->
          c.toNat = 0x10000 + (leading - 0xd800) * 0x400 + (trailing - 0xdc00) ->
            Spells ('\\' :: 'u' :: first ++ '\\' :: 'u' :: second) c

/-- Whether a document is one literal of a text, and nothing else. -/
def IsLiteral (document text : List Char) : Prop :=
  ∃ spellings, document = '"' :: (spellings.flatten ++ ['"']) ∧ List.Forall₂ Spells spellings text

variable {c letter : Char} {text document digits spelling rest : List Char}

/-! ## Reading -/

theorem escaped_eq_some_iff :
    escaped? letter = some c ↔
      (letter, c) ∈
        [('"', '"'), ('\\', '\\'), ('/', '/'), ('b', '\x08'), ('f', '\x0c'), ('n', '\n'),
         ('r', '\r'), ('t', '\t')] := by
  constructor
  · intro known
    rw [escaped?.eq_def] at known
    split at known <;> simp only [Option.some.injEq, reduceCtorEq] at known <;> simp [← known]
  · intro member
    simp only [List.mem_cons, Prod.mk.injEq, List.not_mem_nil, or_false] at member
    obtain ⟨rfl, rfl⟩ | ⟨rfl, rfl⟩ | ⟨rfl, rfl⟩ | ⟨rfl, rfl⟩ | ⟨rfl, rfl⟩ | ⟨rfl, rfl⟩ |
      ⟨rfl, rfl⟩ | ⟨rfl, rfl⟩ := member <;> rfl

/-- No number of a character is half of a surrogate pair. -/
theorem not_surrogate (c : Char) :
    isLeading c.toNat = false ∧ isTrailing c.toNat = false := by
  have valid : c.toNat < 0xd800 ∨ (0xdfff < c.toNat ∧ c.toNat < 0x110000) := c.valid
  simp only [isLeading, isTrailing, Bool.and_eq_false_iff, decide_eq_false_iff_not]
  omega

theorem decodeUnit_number (spelled : Hex.Spells 4 digits c.toNat) :
    decodeUnit? (digits ++ rest) = some (c, rest) := by
  have read : Hex.read? 4 0 (digits ++ rest) = some (c.toNat, rest) :=
    Hex.read_eq_some_iff_spells.mpr ⟨digits, rfl, spelled⟩
  obtain ⟨noLead, noTrail⟩ := not_surrogate c
  simp [decodeUnit?, read, noLead, noTrail, Char.ofNat_toNat]

theorem decodeUnit_pair
    {first second : List Char}
    {leading trailing : Nat}
    (spelledFirst : Hex.Spells 4 first leading)
    (leads : 0xd800 ≤ leading ∧ leading ≤ 0xdbff)
    (spelledSecond : Hex.Spells 4 second trailing)
    (trails : 0xdc00 ≤ trailing ∧ trailing ≤ 0xdfff)
    (value : c.toNat = 0x10000 + (leading - 0xd800) * 0x400 + (trailing - 0xdc00)) :
    decodeUnit? (first ++ '\\' :: 'u' :: second ++ rest) = some (c, rest) := by
  have readFirst : Hex.read? 4 0 (first ++ '\\' :: 'u' :: (second ++ rest)) =
      some (leading, '\\' :: 'u' :: (second ++ rest)) :=
    Hex.read_eq_some_iff_spells.mpr ⟨first, rfl, spelledFirst⟩
  have readSecond : Hex.read? 4 0 (second ++ rest) = some (trailing, rest) :=
    Hex.read_eq_some_iff_spells.mpr ⟨second, rfl, spelledSecond⟩
  have lead : isLeading leading = true := by simpa [isLeading] using leads
  have noTrail : isTrailing leading = false := by
    simp only [isTrailing, Bool.and_eq_false_iff, decide_eq_false_iff_not]
    omega
  have trail : isTrailing trailing = true := by simpa [isTrailing] using trails
  simp [decodeUnit?, readFirst, readSecond, lead, noTrail, trail, ← value, Char.ofNat_toNat]

/-- A spelling is read as its character. -/
theorem Spells.decodeRest
    (spells : Spells spelling c)
    (rest : List Char) :
    decodeRest? (spelling ++ rest) =
      (decodeRest? rest).map fun (read, left) => (c :: read, left) := by
  cases spells with
  | plain visible unmarked unescaped =>
      rw [List.singleton_append, decodeRest?]
      · rw [if_neg (by simp [unescaped, Nat.not_lt.mpr visible])]
      · exact fun same => unmarked same
      · exact fun more same => absurd same unescaped
      · exact fun letter more same => absurd same unescaped
  | @short letter _ known =>
      have noUnit : letter ≠ 'u' := by
        rintro rfl
        simp at known
      rw [List.cons_append, List.cons_append, List.nil_append, decodeRest?,
        escaped_eq_some_iff.mpr known]
      exact noUnit
  | number spelled =>
      rw [List.cons_append, List.cons_append, decodeRest?, decodeUnit_number spelled]
      dsimp only
      rw [dif_pos (by simp)]
  | pair spelledFirst low high spelledSecond low' high' value =>
      rw [List.cons_append, List.cons_append, List.cons_append, List.cons_append, decodeRest?,
        decodeUnit_pair spelledFirst ⟨low, high⟩ spelledSecond ⟨low', high'⟩ value]
      dsimp only
      rw [dif_pos (by simp only [List.length_append]; omega)]

theorem decodeRest_flatten
    {spellings : List (List Char)}
    (spelled : List.Forall₂ Spells spellings text)
    (rest : List Char) :
    decodeRest? (spellings.flatten ++ '"' :: rest) = some (text, rest) := by
  induction spelled with
  | nil =>
      rw [List.flatten_nil, List.nil_append, decodeRest?]
  | cons first _ inductionHypothesis =>
      rw [List.flatten_cons, List.append_assoc, first.decodeRest, inductionHypothesis]
      rfl

/-- What follows a backslash and the letter `u` spells the character that is read. -/
theorem exists_spelling_of_decodeUnit
    (read : decodeUnit? document = some (c, rest)) :
    ∃ digits, document = digits ++ rest ∧ Spells ('\\' :: 'u' :: digits) c := by
  obtain ⟨⟨unit, after⟩, first, decoded⟩ := Option.bind_eq_some_iff.mp read
  obtain ⟨digits, rfl, spelled⟩ := Hex.read_eq_some_iff_spells.mp first
  have bound := spelled.lt
  dsimp only at decoded
  split_ifs at decoded with trails leads
  · split at decoded
    · rename_i more
      obtain ⟨⟨second, left⟩, next, paired⟩ := Option.bind_eq_some_iff.mp decoded
      obtain ⟨others, rfl, spelledSecond⟩ := Hex.read_eq_some_iff_spells.mp next
      dsimp only at paired
      split_ifs at paired with trailing
      simp only [Option.some.injEq, Prod.mk.injEq] at paired
      obtain ⟨rfl, rfl⟩ := paired
      simp only [isLeading, Bool.and_eq_true, decide_eq_true_eq] at leads
      simp only [isTrailing, Bool.and_eq_true, decide_eq_true_eq] at trailing
      refine ⟨digits ++ '\\' :: 'u' :: others, by simp,
        .pair spelled leads.1 leads.2 spelledSecond trailing.1 trailing.2
          (RawText.toNat_val_ofNat (.inr ?_))⟩
      omega
    · contradiction
  · cases decoded
    have valid : unit.isValidChar := by
      simp only [isLeading, isTrailing, Bool.and_eq_true, decide_eq_true_eq] at trails leads
      exact (Nat.lt_or_ge unit 0xd800).imp_right fun low => ⟨by omega, by omega⟩
    have same : (Char.ofNat unit).toNat = unit := RawText.toNat_val_ofNat valid
    exact ⟨digits, rfl, .number (same.symm ▸ spelled)⟩

/-- What is read up to the closing mark is spelled there. -/
theorem exists_spellings_of_decodeRest
    (read : decodeRest? document = some (text, rest)) :
    ∃ spellings, document = List.flatten spellings ++ '"' :: rest ∧
      List.Forall₂ Spells spellings text := by
  fun_induction decodeRest? document generalizing text with
  | case1 => contradiction
  | case2 after =>
      cases read
      exact ⟨[], rfl, .nil⟩
  | case3 => contradiction
  | case4 after c more unit shorter inductionHypothesis =>
      obtain ⟨⟨others, left⟩, goesOn, same⟩ := Option.map_eq_some_iff.mp read
      cases same
      obtain ⟨digits, rfl, spells⟩ := exists_spelling_of_decodeUnit unit
      obtain ⟨spellings, rfl, spelled⟩ := inductionHypothesis goesOn
      exact ⟨('\\' :: 'u' :: digits) :: spellings, by simp, .cons spells spelled⟩
  | case5 => contradiction
  | case6 => contradiction
  | case7 letter after _ c known inductionHypothesis =>
      obtain ⟨⟨others, left⟩, goesOn, same⟩ := Option.map_eq_some_iff.mp read
      cases same
      obtain ⟨spellings, rfl, spelled⟩ := inductionHypothesis goesOn
      exact ⟨['\\', letter] :: spellings, by simp,
        .cons (.short (escaped_eq_some_iff.mp known)) spelled⟩
  | case8 => contradiction
  | case9 c after unmarked _ _ ordinary inductionHypothesis =>
      obtain ⟨⟨others, left⟩, goesOn, same⟩ := Option.map_eq_some_iff.mp read
      cases same
      obtain ⟨spellings, rfl, spelled⟩ := inductionHypothesis goesOn
      simp only [Bool.or_eq_true, decide_eq_true_eq, beq_iff_eq, not_or, Nat.not_lt] at ordinary
      exact ⟨[c] :: spellings, by simp, .cons (.plain ordinary.1 unmarked ordinary.2) spelled⟩

/-- A document is read as a text exactly if it is a literal of this text with blanks around it. -/
theorem decode_eq_some_iff :
    decode? document = some text ↔
      ∃ before literal after, document = before ++ literal ++ after ∧
        before.all isSpace = true ∧ after.all isSpace = true ∧ IsLiteral literal text := by
  constructor
  · intro read
    rw [decode?] at read
    split at read
    · rename_i inside starts
      cases goesOn : decodeRest? inside with
      | none => simp [goesOn] at read
      | some result =>
          obtain ⟨own, left⟩ := result
          simp only [goesOn, Option.ite_none_right_eq_some, Option.some.injEq] at read
          obtain ⟨blank, rfl⟩ := read
          obtain ⟨spellings, rfl, spelled⟩ := exists_spellings_of_decodeRest goesOn
          refine ⟨document.takeWhile isSpace, '"' :: (spellings.flatten ++ ['"']), left, ?_,
            List.all_takeWhile, blank, spellings, rfl, spelled⟩
          conv_lhs => rw [← List.takeWhile_append_dropWhile (p := isSpace) (l := document), starts]
          simp
    · contradiction
  · rintro ⟨before, _, after, rfl, leading, trailing, spellings, rfl, spelled⟩
    have starts :
        (before ++ '"' :: (spellings.flatten ++ ['"']) ++ after).dropWhile isSpace =
          '"' :: (spellings.flatten ++ '"' :: after) := by
      rw [List.append_assoc, List.dropWhile_append_of_pos (by simpa using leading)]
      simp [isSpace]
    rw [decode?, starts]
    simp [decodeRest_flatten spelled, trailing]

/-! ## Writing -/

/-- Every character is written as one of its spellings, without control characters. -/
theorem spells_encodeChar (c : Char) :
    Spells (encodeChar c) c ∧ ∀ shown ∈ encodeChar c, 0x20 ≤ shown.toNat := by
  unfold encodeChar
  split
  · rename_i letter short
    rw [escapeLetter?.eq_def] at short
    split at short <;> simp only [Option.some.injEq, reduceCtorEq] at short <;> subst short <;>
      exact ⟨.short (by simp), by simp⟩
  · rename_i long
    split
    · rename_i control
      have spelled : Hex.Spells 4 (Hex.digits Hex.smallDigit 4 c.toNat) c.toNat := by
        have read := Hex.read_digits Hex.value_smallDigit 4 0 c.toNat []
        rw [Nat.mod_eq_of_lt (by omega), List.append_nil, Nat.zero_mul, Nat.zero_add] at read
        obtain ⟨digits, shape, spelled⟩ := Hex.read_eq_some_iff_spells.mp read
        rw [shape, List.append_nil]
        exact spelled
      refine ⟨.number spelled, ?_⟩
      have digits : ∀ value < 0x20, (Hex.digits Hex.smallDigit 4 value).all
          fun shown => 0x20 ≤ shown.toNat := by
        decide
      intro shown member
      simp only [List.mem_cons] at member
      obtain rfl | rfl | member := member
      · decide
      · decide
      · simpa using List.all_eq_true.mp (digits c.toNat control) shown member
    · rename_i visible
      refine ⟨.plain (by omega) ?_ ?_, by simpa using Nat.not_lt.mp visible⟩
      · rintro rfl
        simp [escapeLetter?] at long
      · rintro rfl
        simp [escapeLetter?] at long

/-- A text is written as one of its literals. -/
theorem isLiteral_encode (text : List Char) : IsLiteral (encode text) text := by
  refine ⟨text.map encodeChar, by rw [encode, List.flatMap_def], ?_⟩
  induction text with
  | nil => exact .nil
  | cons c rest inductionHypothesis => exact .cons (spells_encodeChar c).1 inductionHypothesis

theorem visible_encode (text : List Char) : ∀ shown ∈ encode text, 0x20 ≤ shown.toNat := by
  intro shown member
  simp only [encode, List.mem_cons, List.mem_append, List.mem_flatMap, List.not_mem_nil,
    or_false] at member
  obtain rfl | ⟨c, _, own⟩ | rfl := member
  · decide
  · exact (spells_encodeChar c).2 shown own
  · decide

end Json

/-! ## Source paths -/

namespace SourcePath

/-- A source path is written as one literal of its text, without control characters, and is read
back from it. -/
theorem ofJson_toJson (path : SourcePath) :
    Json.IsLiteral path.toJson.toList path.text.toList ∧
      (∀ shown ∈ path.toJson.toList, 0x20 ≤ shown.toNat) ∧ ofJson? path.toJson = some path := by
  have written : path.toJson.toList = Json.encode path.text.toList := by simp [toJson]
  rw [ofJson?, written]
  refine ⟨Json.isLiteral_encode _, Json.visible_encode _, ?_⟩
  have read : Json.decode? (Json.encode path.text.toList) = some path.text.toList :=
    Json.decode_eq_some_iff.mpr
      ⟨[], _, [], by simp, rfl, rfl, Json.isLiteral_encode path.text.toList⟩
  rw [read]
  simp

end SourcePath
end PathVersions
