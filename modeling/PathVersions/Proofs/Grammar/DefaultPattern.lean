import PathVersions.Proofs.Grammar.WholeSegments
import PathVersions.Proofs.Pattern.Language
import PathVersions.Proofs.Pattern.Runs

/-!
# Versions by the default pattern

Compiling the default pattern gives the default grammar, whose versions can be told without a
pattern: a small `v`, a digit that is not zero, and after it small letters and digits. The pattern
asks for digits first and then for letters and digits, but the digits are among the latter, so that
it makes no difference how many of them the first part takes.
-/

namespace PathVersions
namespace VersionGrammar

open Pattern Pattern.Expr Unicode

/-- Whether a character is a small letter or a digit of ASCII. -/
def IsLetterOrDigit (c : Char) : Prop := ('a' ≤ c ∧ c ≤ 'z') ∨ ('0' ≤ c ∧ c ≤ '9')

/-- Whether a text reads as a version: a small `v`, a digit that is not zero, and after it small
letters and digits. -/
def ReadsAsVersion (text : List Char) : Prop :=
  ∃ major rest, text = 'v' :: major :: rest ∧ ('1' ≤ major ∧ major ≤ '9') ∧
    ∀ c ∈ rest, IsLetterOrDigit c

/-- The default grammar is the one that its pattern is read as. -/
theorem ofPattern_defaultPattern : ofPattern defaultPattern = .ok .default := by
  cbv

/-! ## The classes of the pattern -/

/-- The class of the small letters and the digits. -/
def lettersAndDigits : CharClass := .union (.range 'a' 'z') (.union (.range '0' '9') .none)

/-- A range holds the characters between its ends. -/
theorem contains_range_iff {first last c : Char} :
    (CharClass.range first last).contains c = true ↔ first ≤ c ∧ c ≤ last := by
  rw [CharClass.contains, containsCode_range]
  rfl

theorem contains_single_iff {own c : Char} :
    (CharClass.single own).contains c = true ↔ c = own := by
  rw [CharClass.contains, containsCode_single, Char.toNat_inj]

/-- What may follow the digits are small letters and digits. -/
theorem contains_lettersAndDigits_iff {c : Char} :
    lettersAndDigits.contains c = true ↔ IsLetterOrDigit c := by
  simp [lettersAndDigits, contains_range_iff, IsLetterOrDigit, CharClass.none]

theorem contains_lettersAndDigits_of_digit
    {c : Char}
    (digit : (CharClass.range '0' '9').contains c = true) :
    lettersAndDigits.contains c = true :=
  contains_lettersAndDigits_iff.mpr (.inr (contains_range_iff.mp digit))

/-! ## The versions -/

/-- The default expression between its marks. -/
def defaultInner : Expr :=
  .seq (.chars (.single 'v'))
    (.seq (.chars (.range '1' '9'))
      (.seq (star (.range '0' '9') true) (star lettersAndDigits true)))

theorem expression_default : default.expression = defaultInner.sealed := rfl

/-- A text with two known characters starts with them. -/
theorem exists_eq_cons_cons
    {text : List Char}
    {c d : Char}
    (first : text[0]? = some c)
    (second : text[1]? = some d) :
    ∃ rest, text = c :: d :: rest := by
  cases text with
  | nil => contradiction
  | cons _ tail =>
      cases tail with
      | nil => contradiction
      | cons _ rest =>
          cases first
          cases second
          exact ⟨rest, rfl⟩

/-- The pattern matches a letter, a digit that is not zero, and then small letters and digits in any
order, since its last part takes what its middle part leaves. -/
theorem matchesAll_defaultInner_iff (text : List Char) :
    defaultInner.MatchesAll text ↔ ReadsAsVersion text := by
  rw [MatchesAll, defaultInner, matches_chars_seq_iff, matches_chars_seq_iff,
    matches_star_seq_star_iff fun _ => contains_lettersAndDigits_of_digit]
  simp only [contains_single_iff, contains_range_iff]
  constructor
  · rintro ⟨⟨_, first, rfl⟩, ⟨major, second, between⟩, others⟩
    obtain ⟨rest, rfl⟩ := exists_eq_cons_cons first second
    refine ⟨major, rest, rfl, between, fun c member => ?_⟩
    have all := (allBetween_length_iff others.1).mp others
    exact contains_lettersAndDigits_iff.mp (all c member)
  · rintro ⟨major, rest, rfl, between, others⟩
    have within : 2 ≤ ('v' :: major :: rest).length := by simp
    refine ⟨⟨'v', rfl, rfl⟩, ⟨major, rfl, between⟩, (allBetween_length_iff within).mpr ?_⟩
    exact fun c member => contains_lettersAndDigits_iff.mpr (others c member)

/-- A version of the default grammar is what reads as one, with no mention of the pattern. -/
theorem isVersion_default_iff (segment : List Char) :
    default.isVersion segment = true ↔ ReadsAsVersion segment := by
  rw [isVersion_iff, expression_default, matchesSome_sealed_iff, matchesAll_defaultInner_iff]
  refine and_iff_right_of_imp ?_
  rintro ⟨major, rest, rfl, _⟩
  simp

theorem ReadsAsVersion.isLetterOrDigit
    {text : List Char}
    (reads : ReadsAsVersion text)
    {c : Char}
    (member : c ∈ text) :
    IsLetterOrDigit c := by
  obtain ⟨major, rest, rfl, between, others⟩ := reads
  simp only [List.mem_cons] at member
  obtain rfl | rfl | member := member
  · exact .inl (by decide)
  · exact .inr ⟨le_trans (by decide) between.1, between.2⟩
  · exact others c member

/-- Compiling the default pattern gives the default grammar, by which the versions are the texts that
read as such. So no text is a version in which anywhere stands something else than a small letter or
a digit. -/
theorem isVersion_defaultPattern_iff :
    ofPattern defaultPattern = .ok default ∧
      ∀ text : String,
        (default.isVersion text.toList = true ↔
          ∃ major rest, text.toList = 'v' :: major :: rest ∧ ('1' ≤ major ∧ major ≤ '9') ∧
            ∀ c ∈ rest, ('a' ≤ c ∧ c ≤ 'z') ∨ ('0' ≤ c ∧ c ≤ '9')) ∧
        ((∃ c ∈ text.toList, ¬('a' ≤ c ∧ c ≤ 'z') ∧ ¬('0' ≤ c ∧ c ≤ '9')) ->
          default.isVersion text.toList = false) := by
  refine ⟨ofPattern_defaultPattern, fun text => ⟨isVersion_default_iff text.toList, ?_⟩⟩
  rintro ⟨c, member, neither⟩
  rw [← Bool.not_eq_true, isVersion_default_iff]
  intro reads
  obtain letter | digit := reads.isLetterOrDigit member
  · exact neither.1 letter
  · exact neither.2 digit

end VersionGrammar
end PathVersions
