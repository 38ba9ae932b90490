import PathVersions.Proofs.Pattern.Closing

/-!
# Bracketed sets in front of a closing mark

Inside brackets a closing mark stands for itself, so a set that is not closed before the mark takes
it for an item and goes on.
-/

namespace PathVersions
namespace Pattern

section

variable {mark : Char} [closing : ClosingMark mark] {ignoring : Bool}

/-- The names of classes consist of letters. -/
theorem mark_notMem_of_ofName
    {name : List Char}
    {kind : NamedClass}
    (known : NamedClass.ofName? name = some kind) :
    mark ∉ name := by
  obtain ⟨before, after, same, _⟩ := List.lookup_eq_some_iff.mp known
  have present : (name, kind) ∈ NamedClass.names := by
    rw [same]
    simp
  have plain : ∀ entry ∈ NamedClass.names, mark ∉ entry.1 := by
    obtain rfl | rfl := closing.either <;> decide
  exact plain _ present

/-- A caret at the start of a set is not hidden by the mark. -/
theorem readCaret_append (text tail : List Char) :
    readCaret (text ++ mark :: tail) = ((readCaret text).1, (readCaret text).2 ++ mark :: tail) := by
  cases text with
  | nil => obtain rfl | rfl := closing.either <;> rfl
  | cons c rest =>
      simp only [List.cons_append, readCaret.eq_def]
      split <;> simp_all

theorem ne_colon_of_notMem
    {text : List Char}
    (absent : ':' ∉ text) :
    ∀ c ∈ text, (c != ':') = true := by
  intro c present
  rw [bne_iff_ne]
  rintro rfl
  exact absent present

/-- Without a colon before the mark, no name of a class ends there. -/
theorem ofName_takeWhile_append
    {text : List Char}
    (absent : ':' ∉ text)
    (tail : List Char) :
    NamedClass.ofName? ((text ++ mark :: tail).takeWhile (· != ':')) = none := by
  by_contra known
  obtain ⟨kind, known⟩ := Option.ne_none_iff_exists'.mp known
  refine @mark_notMem_of_ofName mark _ _ _ known ?_
  have colon : mark ≠ ':' := mark_ne (by decide)
  rw [List.takeWhile_append_of_pos (ne_colon_of_notMem absent)]
  simp [colon]

/-- The name of a class holds no closing mark, so that a named class stands wholly before it or is
none. -/
theorem readNamedClass_append (text tail : List Char) :
    readNamedClass? (text ++ mark :: tail) =
      (readNamedClass? text).map fun (item, rest) => (item, rest ++ mark :: tail) := by
  cases text with
  | nil => obtain rfl | rfl := closing.either <;> rfl
  | cons c rest =>
      by_cases colon : c = ':'
      · subst colon
        simp only [List.cons_append, readNamedClass?, readCaret_append]
        rcases readCaret rest with ⟨negated, inner⟩
        dsimp only
        by_cases ends : ':' ∈ inner
        · obtain ⟨name, after, rfl, unnamed⟩ := List.eq_append_cons_of_mem ends
          have ordinary := ne_colon_of_notMem unnamed
          rw [List.append_assoc, List.takeWhile_append_of_pos ordinary,
            List.takeWhile_append_of_pos ordinary, List.dropWhile_append_of_pos ordinary,
            List.dropWhile_append_of_pos ordinary]
          simp only [List.cons_append, List.dropWhile_cons, List.takeWhile_cons, bne_self_eq_false]
          cases after with
          | nil => obtain rfl | rfl := closing.either <;> rfl
          | cons d more =>
              by_cases bracket : d = ']'
              · subst bracket
                simp [Option.map_map, Function.comp_def]
              · simp [bracket]
        · have unknown := @ofName_takeWhile_append mark _ inner ends tail
          have nothing : inner.dropWhile (· != ':') = [] := by
            rw [← List.append_nil inner, List.dropWhile_append_of_pos (ne_colon_of_notMem ends)]
            rfl
          rw [unknown, nothing]
          split <;> rfl
      · have other (more : List Char) : readNamedClass? (c :: more) = none := by
          rw [readNamedClass?.eq_def]
          split <;> simp_all
        simp only [List.cons_append, other, Option.map_none]

/-- The mark is no hyphen. -/
theorem readHyphens_prolonged (items : List SetTree) (text : List Char) :
    Prolonged mark (Passed (List SetTree))
      (.ok (readHyphens ignoring items text))
      (fun tail => .ok (readHyphens ignoring items (text ++ mark :: tail))) := by
  fun_induction readHyphens ignoring items text with
  | case1 items rest inductionHypothesis =>
      simp only [List.cons_append, readHyphens]
      exact .skipping_total rest (readHyphens_suffix ignoring _) inductionHypothesis
  | case2 items text other =>
      have longer (tail : List Char) :
          readHyphens ignoring items (text ++ mark :: tail) = (items, text ++ mark :: tail) := by
        rw [readHyphens.eq_def]
        cases text with
        | nil => obtain rfl | rfl := closing.either <;> rfl
        | cons c rest => split <;> simp_all
      simp only [longer]
      exact .ok items text

/-- Anything but a closing bracket at the very start is left for the items of the set. -/
theorem readFirstBracket_of_other
    (items : List SetTree)
    {text : List Char}
    (other : items ≠ [] ∨ ∀ rest, text ≠ ']' :: rest) :
    readFirstBracket ignoring items text = (items, text) := by
  rw [readFirstBracket.eq_def]
  split <;> simp_all

/-- The mark is no closing bracket. -/
theorem readFirstBracket_prolonged (items : List SetTree) (text : List Char) :
    Prolonged mark (Passed (List SetTree))
      (.ok (readFirstBracket ignoring items text))
      (fun tail => .ok (readFirstBracket ignoring items (text ++ mark :: tail))) := by
  by_cases bracket : items = [] ∧ ∃ rest, text = ']' :: rest
  · obtain ⟨rfl, rest, rfl⟩ := bracket
    exact .skipped _ rest
  · have other : items ≠ [] ∨ ∀ rest, text ≠ ']' :: rest := by
      by_cases empty : items = []
      · exact .inr fun rest same => bracket ⟨empty, rest, same⟩
      · exact .inl empty
    have longer (tail : List Char) :
        items ≠ [] ∨ ∀ rest, text ++ mark :: tail ≠ ']' :: rest :=
      other.imp_right fun different => append_ne_cons (mark_ne (by decide)).symm different tail
    simp only [readFirstBracket_of_other items other, readFirstBracket_of_other items (longer _)]
    exact .ok items text

/-- The items at the start of a set can all stand before the mark, which is then read as the next
one. -/
theorem readSetStart_prolonged (negated : Bool) (text : List Char) :
    Prolonged mark (Reached mark OpenSet)
      (readSetStart ignoring negated text)
      (fun tail => readSetStart ignoring negated (text ++ mark :: tail)) := by
  have parts (text : List Char) :
      readSetStart ignoring negated text =
        ((.ok (readHyphens ignoring [] (skip ignoring text)) : Except Fault _) >>= fun hyphens =>
          (.ok (readFirstBracket ignoring hyphens.1 hyphens.2) : Except Fault _) >>= fun items =>
            if items.2.isEmpty then .error .classUnclosed
            else .ok (⟨negated, none, items.1⟩, items.2)) :=
    rfl
  have hyphens : Prolonged mark (Passed (List SetTree))
      (.ok (readHyphens ignoring [] (skip ignoring text)))
      (fun tail => .ok (readHyphens ignoring [] (skip ignoring (text ++ mark :: tail)))) :=
    .skipping_total text (readHyphens_suffix ignoring []) (readHyphens_prolonged [] _)
  have whole {items left : _} {level : OpenSet} {remaining : List Char}
      (read : (if left.isEmpty then .error .classUnclosed
        else .ok (⟨negated, none, items⟩, left) : Except Fault _) = .ok (level, remaining)) :
      remaining = left := by
    split at read
    · simp at read
    · simp only [Except.ok.injEq, Prod.mk.injEq] at read
      exact read.2.symm
  simp only [parts]
  refine hyphens.bind (fun items left => ?_) ?_
  · refine (readFirstBracket_prolonged items left).bind (fun items left => ?_) ?_
    · cases left with
      | nil => exact .of_error fun tail level left read => whole read ▸ List.suffix_rfl
      | cons c rest => exact .ok _ (c :: rest)
    · intro tail items left passed level remaining read
      exact whole read ▸ passed.trans (List.suffix_cons mark tail)
  · intro tail items left passed level remaining read
    have shorter := readFirstBracket_suffix ignoring items left
    exact whole read ▸ (shorter.trans passed).trans (List.suffix_cons mark tail)

/-- A set that is opened before the mark is opened in the same way in front of it. -/
theorem readSetOpening_prolonged (text : List Char) :
    Prolonged mark (Reached mark OpenSet)
      (readSetOpening ignoring text)
      (fun tail => readSetOpening ignoring (text ++ mark :: tail)) := by
  have skips (text : List Char) :
      readSetOpening ignoring (skip ignoring text) = readSetOpening ignoring text := by
    simp only [readSetOpening, skip_skip]
  refine .of_visible text Reached.of_suffix readSetOpening_suffix skips ?_
  simp only [readSetOpening, skip_skip, skip_skip_append, readCaret_append]
  exact readSetStart_prolonged _ _

/-- Where the end of a range is missing, the mark is taken for it. -/
theorem readSetAtom_prolonged (text : List Char) :
    Prolonged mark (Braced mark ignoring)
      (readSetAtom ignoring text)
      (fun tail => readSetAtom ignoring (text ++ mark :: tail)) := by
  have plain {c : Char} (other : c ≠ '\\') (rest : List Char) :
      readSetAtom ignoring (c :: rest) = .ok (.literal ⟨c, false⟩, rest) := by
    rw [readSetAtom.eq_def]
    split <;> simp_all
  cases text with
  | nil =>
      simp only [List.nil_append, plain (show mark ≠ '\\' from mark_ne (by decide))]
      refine .of_error fun tail atom rest read => .inl ?_
      exact suffix_of_ok read List.suffix_rfl
  | cons c rest =>
      simp only [List.cons_append]
      by_cases backslash : c = '\\'
      · subst backslash
        exact readEscape_prolonged rest
      · simp only [plain backslash]
        exact .ok _ rest

/-- Where a range lacks its upper end, the mark is taken for that. -/
theorem readRange_prolonged (first : Atom) (text : List Char) :
    Prolonged mark (Reached mark SetTree)
      (readRange ignoring first text)
      (fun tail => readRange ignoring first (text ++ mark :: tail)) := by
  have skips (text : List Char) :
      readRange ignoring first (skip ignoring text) = readRange ignoring first text := by
    simp only [readRange, skip_skip]
  refine .of_visible text Reached.of_suffix readRange_suffix skips ?_
  cases visible : skip ignoring text with
  | nil =>
      have short : readRange ignoring first [] = .error .classUnclosed := by
        simp only [readRange, skip_nil]
      rw [short]
      exact .of_error fun tail value rest read => readRange_suffix read
  | cons c rest =>
      have own := skip_of_skip_eq_cons visible
      have ends {second : Atom} {left remaining : List Char} {item : SetTree}
          (read : (do
            let first ← first.boundary
            let last ← second.boundary
            if last.char < first.char then .error .rangeReversed
            else return (.range first last, left) : Except Fault _) = .ok (item, remaining)) :
          remaining = left ∧ ∃ last, second.boundary = .ok last := by
        obtain ⟨_, _, read⟩ := bind_eq_ok.mp read
        obtain ⟨last, found, read⟩ := bind_eq_ok.mp read
        split at read
        · simp at read
        · simp only [pure_eq_ok, Prod.mk.injEq] at read
          exact ⟨read.2.symm, last, found⟩
      simp only [List.cons_append, readRange, own]
      refine (readSetAtom_prolonged (c :: rest)).bind (fun second left => ?_) ?_
      · dsimp only
        cases first.boundary with
        | error fault => exact .error _ _
        | ok start =>
            cases second.boundary with
            | error fault => exact .error _ _
            | ok finish => exact .ite (fun _ => .error _ _) fun _ => .ok _ left
      · intro tail second left braced item remaining read
        obtain ⟨rfl, last, found⟩ := ends read
        obtain passed | ⟨rfl, _⟩ := braced
        · exact passed.trans (List.suffix_cons mark tail)
        · simp [Atom.boundary] at found

/-- Only a closing bracket, a hyphen and the like are told apart after a hyphen, and none of them
is a closing mark. -/
theorem glimpse_append
    {c : Char}
    (visible : Unicode.isBlank c = false)
    (number : c ≠ '#')
    (different : c ≠ mark)
    (text tail : List Char) :
    glimpse ignoring (text ++ mark :: tail) = some c ↔ glimpse ignoring text = some c := by
  cases ignoring with
  | false =>
      cases text with
      | nil => simp [glimpse, Ne.symm different]
      | cons d rest => simp [glimpse]
  | true =>
      have hidden (differs : ∀ more, text.dropWhile Unicode.isBlank ≠ c :: more) :
          text.head? ≠ some c := by
        intro first
        cases text with
        | nil => simp at first
        | cons d rest =>
            obtain rfl : d = c := by simpa using first
            exact differs rest (by simp [visible])
      simp only [glimpse, if_true, dropWhile_append_mark]
      have passed (tail : List Char) : passNumberSign (mark :: tail) = mark :: tail := by
        obtain rfl | rfl := closing.either <;> rfl
      cases seen : text.dropWhile Unicode.isBlank with
      | nil =>
          have nothing : passNumberSign [] = [] := rfl
          simp [nothing, passed, Ne.symm different, hidden (by simp [seen])]
      | cons d rest =>
          by_cases comment : d = '#'
          · subst comment
            simp only [List.cons_append, passNumberSign, dropWhile_append_mark]
            cases rest.dropWhile Unicode.isBlank with
            | nil => simp [Ne.symm different, hidden (by simp [seen, Ne.symm number])]
            | cons next others => simp
          · have plain (more : List Char) : passNumberSign (d :: more) = d :: more := by
              rw [passNumberSign.eq_def]
              split <;> simp_all
            simp only [List.cons_append, plain]
            simp

/-- What no hyphen follows is an item by itself. -/
theorem readSetItemEnd_of_other
    {first : Atom}
    {text rest : List Char}
    {c : Char}
    (visible : skip ignoring text = c :: rest)
    (hyphen : c ≠ '-') :
    readSetItemEnd ignoring first text = (do return (← first.setItem, c :: rest)) := by
  rw [readSetItemEnd, visible]
  split <;> simp_all

/-- The mark is no hyphen, so it ends an item that could have been a range. -/
theorem readSetItemEnd_prolonged (first : Atom) (text : List Char) :
    Prolonged mark (Reached mark SetTree)
      (readSetItemEnd ignoring first text)
      (fun tail => readSetItemEnd ignoring first (text ++ mark :: tail)) := by
  have skips (text : List Char) :
      readSetItemEnd ignoring first (skip ignoring text) = readSetItemEnd ignoring first text := by
    simp only [readSetItemEnd, skip_skip]
  refine .of_visible text Reached.of_suffix readSetItemEnd_suffix skips ?_
  cases visible : skip ignoring text with
  | nil =>
      have short : readSetItemEnd ignoring first [] = .error .classUnclosed := by
        simp only [readSetItemEnd, skip_nil]
      rw [short]
      exact .of_error fun tail value rest read => readSetItemEnd_suffix read
  | cons c rest =>
      have own := skip_of_skip_eq_cons visible
      by_cases hyphen : c = '-'
      · subst hyphen
        have bracket (tail : List Char) :
            glimpse ignoring (rest ++ mark :: tail) = some ']' ↔ glimpse ignoring rest = some ']' :=
          glimpse_append rfl (by decide) (mark_ne (by decide)).symm rest tail
        have another (tail : List Char) :
            glimpse ignoring (rest ++ mark :: tail) = some '-' ↔ glimpse ignoring rest = some '-' :=
          glimpse_append rfl (by decide) (mark_ne (by decide)).symm rest tail
        simp only [List.cons_append, readSetItemEnd, own, Bool.or_eq_true, beq_iff_eq, bracket,
          another]
        refine .ite (fun _ => ?_) fun _ => readRange_prolonged first rest
        cases first.setItem with
        | error fault => exact .error _ _
        | ok item => exact .ok item ('-' :: rest)
      · simp only [List.cons_append, readSetItemEnd_of_other (own _) hyphen]
        cases first.setItem with
        | error fault => exact .error _ _
        | ok item => exact .ok item (c :: rest)

/-- An item that is complete before the mark is the same in front of it. -/
theorem readSetItem_prolonged (text : List Char) :
    Prolonged mark (Reached mark SetTree)
      (readSetItem ignoring text)
      (fun tail => readSetItem ignoring (text ++ mark :: tail)) := by
  refine (readSetAtom_prolonged text).bind ?_ ?_
  · exact fun first rest => readSetItemEnd_prolonged first rest
  · intro tail first rest braced item left read
    obtain passed | ⟨rfl, inner, rfl, _⟩ := braced
    · exact .of_suffix tail item left ((readSetItemEnd_suffix read).trans passed)
    · dsimp only at read
      rw [readSetItemEnd_of_other (skip_brace ignoring inner) (by decide)] at read
      simp [Atom.setItem, bind, Except.bind] at read

/-- Whatever opens nothing, closes nothing and is no operator is an item. -/
theorem readSetStep_of_item
    {text rest : List Char}
    {c : Char}
    (visible : skip ignoring text = c :: rest)
    (opening : c ≠ '[')
    (closing : c ≠ ']')
    (single : ∀ more, c = '&' ∨ c = '-' ∨ c = '~' -> rest ≠ c :: more) :
    readSetStep ignoring text = (do
      let (item, rest) ← readSetItem ignoring (c :: rest)
      return (.item item, rest)) := by
  rw [readSetStep, visible]
  split <;> simp_all

/-- What can be left after a step of a set: a set is only closed behind the mark. -/
def Unclosed (mark : Char) (tail : List Char) (step : SetStep) (rest : List Char) : Prop :=
  rest <:+ tail ∨ step ≠ .closing ∧ rest <:+ mark :: tail

/-- A set that is closed before the mark is closed there in front of it as well. -/
theorem readSetStep_prolonged (text : List Char) :
    Prolonged mark (Unclosed mark)
      (readSetStep ignoring text)
      (fun tail => readSetStep ignoring (text ++ mark :: tail)) := by
  have skips (text : List Char) :
      readSetStep ignoring (skip ignoring text) = readSetStep ignoring text := by
    simp only [readSetStep, skip_skip]
  refine .of_visible text (fun _ _ _ => .inl) readSetStep_suffix skips ?_
  cases visible : skip ignoring text with
  | nil =>
      have short : readSetStep ignoring [] = .error .classUnclosed := by
        simp only [readSetStep, skip_nil]
      rw [short]
      refine .of_error fun tail step rest read => .inr ?_
      have shorter := readSetStep_suffix read
      have single (more : List Char) (sign : mark = '&' ∨ mark = '-' ∨ mark = '~') :
          tail ≠ mark :: more := by
        obtain same | same | same := sign
        · exact absurd same (mark_ne (by decide))
        · exact absurd same (mark_ne (by decide))
        · exact absurd same (mark_ne (by decide))
      rw [List.nil_append, readSetStep_of_item (skip_mark ignoring tail) (mark_ne (by decide))
        (mark_ne (by decide)) single] at read
      obtain ⟨⟨item, left⟩, _, read⟩ := bind_eq_ok.mp read
      simp only [pure_eq_ok, Prod.mk.injEq] at read
      exact ⟨by simp [← read.1], shorter⟩
  | cons c rest =>
      have own := skip_of_skip_eq_cons visible
      simp only [List.cons_append]
      by_cases opening : c = '['
      · subst opening
        simp only [readSetStep, own, readNamedClass_append]
        cases readNamedClass? rest with
        | some named => exact .ok _ named.2
        | none =>
            refine (readSetOpening_prolonged rest).bind (fun level left => .ok _ left) ?_
            intro tail level left reached step remaining read
            simp only [pure_eq_ok, Prod.mk.injEq] at read
            exact .inr ⟨by simp [← read.1], read.2 ▸ reached⟩
      by_cases closing : c = ']'
      · subst closing
        simp only [readSetStep, own]
        exact .ok SetStep.closing rest
      by_cases double : (c = '&' ∨ c = '-' ∨ c = '~') ∧ ∃ more, rest = c :: more
      · obtain ⟨sign, more, rfl⟩ := double
        rcases sign with rfl | rfl | rfl
        · simp only [readSetStep, own]
          exact .ok _ more
        · simp only [readSetStep, own]
          exact .ok _ more
        · simp only [readSetStep, own]
          exact .ok _ more
      have single (more : List Char) (sign : c = '&' ∨ c = '-' ∨ c = '~') : rest ≠ c :: more :=
        fun same => double ⟨sign, more, same⟩
      have longer (tail more : List Char) (sign : c = '&' ∨ c = '-' ∨ c = '~') :
          rest ++ mark :: tail ≠ c :: more :=
        append_ne_cons (by rcases sign with rfl | rfl | rfl <;> exact (mark_ne (by decide)).symm)
          (fun own => single own sign) tail more
      simp only [readSetStep_of_item (own _) opening closing single,
        readSetStep_of_item (own _) opening closing (longer _)]
      refine (readSetItem_prolonged (c :: rest)).bind (fun item left => .ok _ left) ?_
      intro tail item left reached step remaining read
      simp only [pure_eq_ok, Prod.mk.injEq] at read
      exact .inr ⟨by simp [← read.1], read.2 ▸ reached⟩

/-- What a step of a set leads to. -/
def afterSetStep
    (ignoring : Bool)
    (level : OpenSet)
    (outer : List OpenSet)
    (rest : List Char) :
    SetStep -> Except Fault (Tree × List Char)
  | .item item => readSet ignoring (level.push item) outer rest
  | .operator operator => readSet ignoring (level.operate operator) outer rest
  | .opening inner => readSet ignoring inner (level :: outer) rest
  | .closing =>
      match outer with
      | [] => .ok (.bracket level.negated level.set, rest)
      | parent :: outer =>
          readSet ignoring (parent.push (.bracket level.negated level.set)) outer rest

/-- A set is read step by step, each of which has to take something off the text. -/
theorem readSet_of_step
    {level : OpenSet}
    {outer : List OpenSet}
    {text rest : List Char}
    {step : SetStep}
    (stepped : readSetStep ignoring text = .ok (step, rest)) :
    readSet ignoring level outer text =
      if rest.length < text.length then afterSetStep ignoring level outer rest step
      else .error .classUnclosed := by
  rw [readSet, stepped]
  dsimp only [bind, Except.bind]
  split
  · cases step with
    | closing => cases outer <;> rfl
    | _ => rfl
  · rfl

/-- A set that is read starts with a step and goes on from there. -/
theorem readSet_eq_ok
    {level : OpenSet}
    {outer : List OpenSet}
    {text : List Char}
    {result : Tree × List Char} :
    readSet ignoring level outer text = .ok result ↔
      ∃ step rest, readSetStep ignoring text = .ok (step, rest) ∧ rest.length < text.length ∧
        afterSetStep ignoring level outer rest step = .ok result := by
  constructor
  · intro read
    cases stepped : readSetStep ignoring text with
    | error fault =>
        rw [readSet, stepped] at read
        simp [bind, Except.bind] at read
    | ok next =>
        rw [readSet_of_step stepped] at read
        split at read
        · exact ⟨next.1, next.2, rfl, ‹_›, read⟩
        · simp at read
  · rintro ⟨step, rest, stepped, less, read⟩
    rw [readSet_of_step stepped, if_pos less]
    exact read

theorem afterSetStep_suffix
    {level : OpenSet}
    {outer : List OpenSet}
    {text rest : List Char}
    {step : SetStep}
    {tree : Tree}
    (read : afterSetStep ignoring level outer text step = .ok (tree, rest)) :
    rest <:+ text := by
  cases step with
  | item item => exact readSet_suffix read
  | operator operator => exact readSet_suffix read
  | opening inner => exact readSet_suffix read
  | closing =>
      cases outer with
      | nil =>
          simp only [afterSetStep, Except.ok.injEq, Prod.mk.injEq] at read
          exact read.2 ▸ List.suffix_rfl
      | cons parent outer => exact readSet_suffix read

/-- A set takes at least one character. -/
theorem readSet_length_lt
    {level : OpenSet}
    {outer : List OpenSet}
    {text rest : List Char}
    {tree : Tree}
    (read : readSet ignoring level outer text = .ok (tree, rest)) :
    rest.length < text.length := by
  obtain ⟨step, left, _, less, read⟩ := readSet_eq_ok.mp read
  exact (afterSetStep_suffix read).length_le.trans_lt less

omit closing in
/-- A set that starts behind the mark, or with it, ends behind it. -/
theorem readSet_passed
    {level : OpenSet}
    {outer : List OpenSet}
    {tail text rest : List Char}
    {tree : Tree}
    (read : readSet ignoring level outer text = .ok (tree, rest))
    (reached : text <:+ mark :: tail) :
    rest <:+ tail := by
  have less := readSet_length_lt read
  obtain same | passed := List.suffix_cons_iff.mp ((readSet_suffix read).trans reached)
  · have longest := reached.length_le
    rw [same] at less
    omega
  · exact passed

omit closing in
theorem afterSetStep_passed
    {level : OpenSet}
    {outer : List OpenSet}
    {tail text rest : List Char}
    {step : SetStep}
    {tree : Tree}
    (read : afterSetStep ignoring level outer text step = .ok (tree, rest))
    (unclosed : Unclosed mark tail step text) :
    rest <:+ tail := by
  obtain passed | ⟨open?, reached⟩ := unclosed
  · exact (afterSetStep_suffix read).trans passed
  · cases step with
    | item item => exact readSet_passed read reached
    | operator operator => exact readSet_passed read reached
    | opening inner => exact readSet_passed read reached
    | closing => contradiction

/-- A set is closed before the mark or takes it for an item. -/
theorem readSet_prolonged (level : OpenSet) (outer : List OpenSet) (text : List Char) :
    Prolonged mark (Passed Tree)
      (readSet ignoring level outer text)
      (fun tail => readSet ignoring level outer (text ++ mark :: tail)) := by
  induction length : text.length using Nat.strong_induction_on
    generalizing level outer text with
  | _ size inductionHypothesis =>
      have longer (tail : List Char) :
          (text ++ mark :: tail).length = text.length + (mark :: tail).length :=
        List.length_append
      have stepped : Prolonged mark (Unclosed mark) (readSetStep ignoring text) _ := readSetStep_prolonged text
      cases stepped with
      | kept step rest read same =>
          have shorter (tail : List Char) :
              (rest ++ mark :: tail).length < (text ++ mark :: tail).length ↔
                rest.length < text.length := by
            simp
          simp only [readSet_of_step read, readSet_of_step (same _), shorter]
          refine .ite (fun less => ?_) fun _ => .error _ _
          have deeper (level : OpenSet) (outer : List OpenSet) :=
            inductionHypothesis rest.length (length ▸ less) level outer rest rfl
          cases step with
          | item item => exact deeper _ _
          | operator operator => exact deeper _ _
          | opening inner => exact deeper _ _
          | closing =>
              cases outer with
              | nil => exact .ok _ rest
              | cons parent outer => exact deeper _ _
      | lost beyond hidden =>
          -- Only a closed set could leave the mark, and the step that was lost closes none
          -- before it.
          refine .lost ?_ ?_
          · intro tail tree left read
            obtain ⟨step, rest, stepped, _, read⟩ := readSet_eq_ok.mp read
            exact afterSetStep_passed read (beyond tail step rest stepped)
          · intro result read tail oneLine
            obtain ⟨step, rest, stepped, less, read⟩ := readSet_eq_ok.mp read
            refine readSet_eq_ok.mpr ⟨step, rest, hidden _ stepped tail oneLine, ?_, read⟩
            rw [longer]
            omega

theorem readBracket_prolonged (text : List Char) :
    Prolonged mark (Passed Tree)
      (readBracket ignoring text)
      (fun tail => readBracket ignoring (text ++ mark :: tail)) := by
  refine (readSetOpening_prolonged text).bind ?_ ?_
  · exact fun level rest => readSet_prolonged level [] rest
  · exact fun tail level rest reached tree left read => readSet_passed read reached

end

end Pattern
end PathVersions
