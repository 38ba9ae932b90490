import PathVersions.Text.Hex
import Mathlib.Tactic.Ring

/-!
# Numbers in hexadecimal digits

What the reader of digits accepts: as many digits as it is asked for, with the number that they
stand for. With either kind of letters, the digits that are written for a number are read as it.
-/

namespace PathVersions
namespace Hex

/-- Whether characters are the digits of a number, one for each place. -/
def Spells (places : Nat) (digits : List Char) (number : Nat) : Prop :=
  ∃ values : List Nat,
    digits.map value? = values.map some ∧ values.length = places ∧
      number = values.foldl (fun number value => number * 16 + value) 0

theorem value_capitalDigit (value : Fin 16) : value? (capitalDigit value) = some value.val := by
  revert value
  decide

theorem value_smallDigit (value : Fin 16) : value? (smallDigit value) = some value.val := by
  revert value
  decide

theorem value_lt {c : Char} {value : Nat} (known : value? c = some value) : value < 16 := by
  simp only [value?, Bool.and_eq_true, decide_eq_true_eq, Char.le_def, UInt32.le_iff_toNat_le]
    at known
  have code : c.toNat = c.val.toNat := rfl
  split_ifs at known <;> simp_all <;> omega

theorem read_succ (places start : Nat) (text : List Char) :
    read? (places + 1) start text =
      (read? places start text).bind fun (value, rest) => read? 1 value rest := by
  induction places generalizing start text with
  | zero => rfl
  | succ places inductionHypothesis =>
      cases text with
      | nil => rfl
      | cons c rest =>
          rw [read?, read?]
          cases value? c with
          | none => rfl
          | some digit => exact inductionHypothesis _ rest

/-- Reading digits undoes writing them. -/
theorem read_digits
    {digit : Nat -> Char}
    (inverse : ∀ value : Fin 16, value? (digit value) = some value.val)
    (places start value : Nat)
    (rest : List Char) :
    read? places start (digits digit places value ++ rest) =
      some (start * 16 ^ places + value % 16 ^ places, rest) := by
  induction places generalizing value rest with
  | zero => simp [read?, digits, Nat.mod_one]
  | succ places inductionHypothesis =>
      have last : value? (digit (value % 16)) = some (value % 16) :=
        inverse ⟨value % 16, Nat.mod_lt _ (by omega)⟩
      rw [digits, List.append_assoc, read_succ, inductionHypothesis]
      simp only [Option.bind_some, List.singleton_append, read?, last]
      congr 2
      rw [Nat.pow_succ', Nat.mod_mul]
      ring

/-- What is read are the digits of the number, at the start of the text. -/
theorem read_eq_some_iff
    {places start number : Nat}
    {text rest : List Char} :
    read? places start text = some (number, rest) ↔
      ∃ (digits : List Char) (values : List Nat),
        text = digits ++ rest ∧ digits.map value? = values.map some ∧ values.length = places ∧
          number = values.foldl (fun number value => number * 16 + value) start := by
  induction places generalizing start text with
  | zero =>
      constructor
      · intro read
        cases read
        exact ⟨[], [], rfl, rfl, rfl, rfl⟩
      · rintro ⟨digits, values, rfl, same, none, rfl⟩
        rw [List.length_eq_zero_iff] at none
        subst none
        rw [List.map_nil, List.map_eq_nil_iff] at same
        subst same
        rfl
  | succ places inductionHypothesis =>
      constructor
      · intro read
        cases text with
        | nil => contradiction
        | cons c more =>
            rw [read?] at read
            cases known : value? c with
            | none => simp [known] at read
            | some digit =>
                simp only [known] at read
                obtain ⟨digits, values, rfl, same, count, rfl⟩ := inductionHypothesis.mp read
                exact ⟨c :: digits, digit :: values, rfl, by simp [known, same], by simp [count],
                  rfl⟩
      · rintro ⟨digits, values, rfl, same, count, rfl⟩
        cases values with
        | nil => contradiction
        | cons value values =>
            cases digits with
            | nil => contradiction
            | cons c digits =>
                rw [List.map_cons, List.map_cons, List.cons.injEq] at same
                rw [List.cons_append, read?, same.1]
                exact inductionHypothesis.mpr
                  ⟨digits, values, rfl, same.2, by simpa using count, rfl⟩

theorem read_eq_some_iff_spells
    {places number : Nat}
    {text rest : List Char} :
    read? places 0 text = some (number, rest) ↔
      ∃ digits, text = digits ++ rest ∧ Spells places digits number := by
  rw [read_eq_some_iff]
  constructor
  · rintro ⟨digits, values, shape, spelled⟩
    exact ⟨digits, shape, values, spelled⟩
  · rintro ⟨digits, shape, values, spelled⟩
    exact ⟨digits, values, shape, spelled⟩

theorem foldl_lt
    {values : List Nat}
    (small : ∀ value ∈ values, value < 16)
    (start : Nat) :
    values.foldl (fun number value => number * 16 + value) start <
      (start + 1) * 16 ^ values.length := by
  induction values generalizing start with
  | nil => simp
  | cons value rest inductionHypothesis =>
      have first := small value (by simp)
      have others := inductionHypothesis (fun other member => small other (by simp [member]))
        (start * 16 + value)
      calc
        _ < (start * 16 + value + 1) * 16 ^ rest.length := others
        _ ≤ ((start + 1) * 16) * 16 ^ rest.length := Nat.mul_le_mul_right _ (by omega)
        _ = (start + 1) * 16 ^ (value :: rest).length := by
          rw [List.length_cons, Nat.pow_succ]
          ring

/-- Some places hold no number that needs more of them. -/
theorem Spells.lt
    {places number : Nat}
    {digits : List Char}
    (spelled : Spells places digits number) :
    number < 16 ^ places := by
  obtain ⟨values, same, rfl, rfl⟩ := spelled
  have small : ∀ value ∈ values, value < 16 := by
    intro value member
    have present : some value ∈ digits.map value? := by
      rw [same]
      exact List.mem_map_of_mem member
    obtain ⟨c, _, known⟩ := List.mem_map.mp present
    exact value_lt known
  simpa using foldl_lt small 0

end Hex
end PathVersions
