import PathVersions.Config.Load
import PathVersions.Proofs.Config.Settings
import PathVersions.Proofs.Config.Shown

/-!
# Documents that agree on both settings

Documents can differ in almost everything and describe the same configuration. What counts is the
values of both settings, and of these not where they stand, how they are written and in which order
they list their entries. If a value is refused, the complaint is the same but for its place.
-/

namespace PathVersions

/-! ## The same value -/

namespace Toml

/-- Whether two values are the same, wherever they stand, however their tables have come about and
in whatever order these have their entries. Dates and times are not told apart. -/
inductive Node.Alike : Node -> Node -> Prop
  | text (span span' : Span) (content : String) : Alike (.text span content) (.text span' content)
  | integer (span span' : Span) (value? : Option Int) :
      Alike (.integer span value?) (.integer span' value?)
  | float (span span' : Span) {value? value?' : Option Number.Binary64} :
      Option.Rel Number.Binary64.Same value? value?' ->
        Alike (.float span value?) (.float span' value?')
  | boolean (span span' : Span) (truth : Bool) : Alike (.boolean span truth) (.boolean span' truth)
  | moment (span span' : Span) (written written' : String) :
      Alike (.moment span written) (.moment span' written')
  | array (span span' : Span) (origin origin' : ArrayOrigin) {items items' : List Node} :
      List.Forall₂ Alike items items' ->
        Alike (.array span origin items) (.array span' origin' items')
  | table (span span' : Span) (origin origin' : TableOrigin) {entries entries' ordered : Entries} :
      entries'.Perm ordered -> entries.map (·.1.name) = ordered.map (·.1.name) ->
        List.Forall₂ Alike (entries.map (·.2)) (ordered.map (·.2)) ->
          Alike (.table span origin entries) (.table span' origin' entries')

end Toml

namespace Config

open Toml

/-! ## The same reading -/

section Readings

variable {α β : Type}

/-- Whether two readings have the same result, or refuse a value for the same reason. -/
inductive SameReading : Reading α -> Reading α -> Prop
  | ok (result : α) : SameReading (.ok result) (.ok result)
  | misfit {left right : Misfit} :
      left.cause.reason = right.cause.reason ->
        SameReading (.error (.misfit left)) (.error (.misfit right))

/-- Readings that go on in the same way from the same results are the same. -/
theorem SameReading.bind
    {left right : Reading α}
    {next next' : α -> Reading β}
    (same : SameReading left right)
    (goesOn : ∀ result, SameReading (next result) (next' result)) :
    SameReading (left >>= next) (right >>= next') := by
  cases same with
  | ok result => exact goesOn result
  | misfit reason => exact .misfit reason

/-- A refusal for the same cause is the same, wherever it stands. -/
theorem sameReading_refuse
    (span span' : Span)
    (cause : MisfitCause) :
    SameReading (refuse (α := α) span cause) (refuse span' cause) :=
  .misfit rfl

/-- A setting is read in the same way from documents that both give it, or both lack it. -/
theorem sameReading_readSetting
    {read : Node -> Reading α}
    {left? right? : Option Node}
    (agree : Option.Rel Node.Alike left? right?)
    (same : ∀ left right, left? = some left -> right? = some right -> left.Alike right ->
      SameReading (read left) (read right)) :
    SameReading (readSetting read left?) (readSetting read right?) := by
  cases agree with
  | none => exact .ok none
  | some alike => exact (same _ _ rfl rfl alike).bind fun result => .ok (some result)

end Readings

/-! ## The level of logging -/

/-- A level goes by its name. -/
theorem sameReading_levelOfName (span span' : Span) (name : String) :
    SameReading (levelOfName span name) (levelOfName span' name) := by
  rw [levelOfName, levelOfName]
  cases LogLevel.ofName? name with
  | none => exact sameReading_refuse span span' _
  | some level => exact .ok level

/-- Whether there is more than a name does not depend on places. -/
theorem sameReading_checkEmpty
    {left right : Node}
    (alike : left.Alike right) :
    SameReading (checkEmpty left) (checkEmpty right) := by
  cases alike with
  | array span span' origin origin' each =>
      cases each with
      | nil => exact .ok ()
      | cons first rest => exact sameReading_refuse span span' .arrayNotEmpty
  | @table span span' origin origin' entries entries' ordered permuted names each =>
      have lengths : entries.length = entries'.length := by
        simpa [permuted.length_eq] using congrArg List.length names
      match entries, entries' with
      | [], [] => exact .ok ()
      | _ :: _, _ :: _ => exact sameReading_refuse span span' .tableNotEmpty
  | text span span' content => exact sameReading_refuse span span' (.noTable "string")
  | integer span span' value? => exact sameReading_refuse span span' (.noTable "integer")
  | float span span' same => exact sameReading_refuse span span' (.noTable "float")
  | boolean span span' truth => exact sameReading_refuse span span' (.noTable "boolean")
  | moment span span' written written' =>
      exact sameReading_refuse span span' (.noTable "datetime")

/-- Values that are alike are read as the same level, or refused for the same cause. -/
theorem sameReading_levelOf
    {left right : Node}
    (alike : left.Alike right) :
    SameReading (levelOf left) (levelOf right) := by
  cases alike with
  | text span span' content => exact sameReading_levelOfName span span' content
  | @table span span' origin origin' entries entries' ordered permuted names each =>
      have lengths : entries.length = entries'.length := by
        simpa [permuted.length_eq] using congrArg List.length names
      match entries, entries' with
      | [], [] => exact sameReading_refuse span span' .noEntry
      | [(key, content)], [(key', content')] =>
          obtain rfl := List.singleton_perm.mp permuted
          have sameName : key.name = key'.name := by simpa using names
          have sameContent : content.Alike content' := by simpa using each
          rw [levelOf, levelOf, sameName]
          exact (sameReading_levelOfName key.span key'.span key'.name).bind fun level =>
            (sameReading_checkEmpty sameContent).bind fun _ => .ok level
      | _ :: _ :: _, _ :: _ :: _ => exact sameReading_refuse span span' .manyEntries
  | _ => exact sameReading_refuse _ _ .neitherTextNorTable

/-! ## The pattern -/

/-- Values that are the same are found to be the same, in the words that are used for them. -/
theorem wording_eq_of_alike
    {left right : Node}
    (alike : left.Alike right)
    (regular : left.Regular ∧ right.Regular)
    (valued : left.numbersHaveValues = true ∧ right.numbersHaveValues = true) :
    ∃ found found', found? left = some found ∧ found? right = some found' ∧
      found.wording = found'.wording := by
  cases alike with
  | text span span' content => exact ⟨_, _, rfl, rfl, rfl⟩
  | integer span span' value? =>
      obtain ⟨value, rfl⟩ := Option.isSome_iff_exists.mp valued.1
      exact ⟨_, _, rfl, rfl, rfl⟩
  | float span span' same =>
      cases same with
      | none => exact absurd valued.1 (by simp [Node.numbersHaveValues])
      | some same =>
          have texts := same.text_eq regular.1.canonical regular.2.canonical
          exact ⟨_, _, rfl, rfl,
            congrArg (fun text => "floating point \x60" ++ text ++ "\x60") texts⟩
  | boolean span span' truth => exact ⟨_, _, rfl, rfl, rfl⟩
  | moment span span' written written' => exact ⟨_, _, rfl, rfl, rfl⟩
  | array span span' origin origin' each => exact ⟨_, _, rfl, rfl, rfl⟩
  | table span span' origin origin' permuted names each => exact ⟨_, _, rfl, rfl, rfl⟩

/-- What a value of a wrong kind is called does not depend on where it stands. -/
theorem sameReading_unexpected
    {α : Type}
    {left right : Node}
    (expected : Expected)
    (alike : left.Alike right)
    (regular : left.Regular ∧ right.Regular)
    (valued : left.numbersHaveValues = true ∧ right.numbersHaveValues = true) :
    SameReading (unexpected (α := α) left expected) (unexpected right expected) := by
  obtain ⟨found, found', foundLeft, foundRight, same⟩ := wording_eq_of_alike alike regular valued
  have reasons : (MisfitCause.unexpected found expected).reason =
      (MisfitCause.unexpected found' expected).reason :=
    congrArg (fun wording => "invalid type: " ++ wording ++ ", expected " ++ expected.wording) same
  rw [unexpected, unexpected, foundLeft, foundRight]
  exact .misfit reasons

/-- Values that are alike are read as the same pattern. -/
theorem sameReading_patternOf
    {left right : Node}
    (alike : left.Alike right)
    (regular : left.Regular ∧ right.Regular)
    (valued : left.numbersHaveValues = true ∧ right.numbersHaveValues = true) :
    SameReading (patternOf left) (patternOf right) := by
  have refused := sameReading_unexpected (α := String) .text alike regular valued
  cases alike with
  | text span span' content => exact .ok content
  | _ => exact refused

/-! ## Both settings -/

/-- A document that can be read, where every number has a value and both parts that hold settings
count as tables if they are there. -/
structure IsPlain (document : String) (entries : Entries) : Prop where
  read : read? document.toList = some entries
  valued : Node.numbersHaveValues.inEntries entries = true
  sectioned : Sectioned entries

/-- Whether both settings are absent from two documents or have the same values there. -/
structure Agree (left right : Entries) : Prop where
  level : Option.Rel Node.Alike (settingAt? "general" "log_level" left)
    (settingAt? "general" "log_level" right)
  pattern : Option.Rel Node.Alike (settingAt? "versioning" "pattern" left)
    (settingAt? "versioning" "pattern" right)

/-- Whether two texts come to the same: an equal configuration, the same refused pattern, or
complaints for the same reason, each at a place in its own text. -/
inductive SameOutcome (left right : String) : Except Failure Config -> Except Failure Config -> Prop
  | ok (config : Config) : SameOutcome left right (.ok config) (.ok config)
  | badPattern (bad : BadPattern) :
      SameOutcome left right (.error (.ofBadSetting bad)) (.error (.ofBadSetting bad))
  | misfit (span span' : Span) (reason : String) :
      SameOutcome left right
        (.error (.malformed "string" (span.complain left.toList reason)))
        (.error (.malformed "string" (span'.complain right.toList reason)))

section Documents

variable {left right document part name : String} {entries other : Entries} {node : Node}

theorem regular_of_settingAt
    (regular : entries.Regular)
    (valued : Node.numbersHaveValues.inEntries entries = true)
    (known : settingAt? part name entries = some node) :
    node.Regular ∧ node.numbersHaveValues = true := by
  obtain ⟨⟨key, outer⟩, member, _, inside⟩ := exists_mem_of_settingAt known
  have regularOuter := regular.each _ member
  have valuedOuter := valued_of_mem valued member
  cases outer with
  | table span origin inner =>
      obtain ⟨entry, foundInside, rfl⟩ := Option.map_eq_some_iff.mp inside
      have memberInside := (Entries.mem_of_find foundInside).1
      exact ⟨(Entries.regular_of_table regularOuter).each _ memberInside,
        valued_of_mem valuedOuter memberInside⟩
  | _ => contradiction

/-- A plain document is read by its two settings. -/
theorem IsPlain.ofToml
    (plain : IsPlain document entries) :
    ofToml document.toList =
      ofSettings (settingAt? "general" "log_level" entries)
        (settingAt? "versioning" "pattern" entries) := by
  rw [Config.ofToml, plain.read]
  exact ofEntries_eq_ofSettings (regular_of_read plain.read) plain.valued plain.sectioned

/-- Plain documents that agree are read in the same way. -/
theorem sameReading_ofToml
    (plain : IsPlain left entries)
    (plain' : IsPlain right other)
    (agree : Agree entries other) :
    SameReading (ofToml left.toList) (ofToml right.toList) := by
  have regular := regular_of_read plain.read
  have regular' := regular_of_read plain'.read
  rw [plain.ofToml, plain'.ofToml, ofSettings, ofSettings]
  refine (sameReading_readSetting agree.level ?_).bind fun level =>
    (sameReading_readSetting agree.pattern ?_).bind fun pattern => .ok _
  · exact fun _ _ _ _ => sameReading_levelOf
  · intro node node' known known' alike
    obtain ⟨own, valued⟩ := regular_of_settingAt regular plain.valued known
    obtain ⟨own', valued'⟩ := regular_of_settingAt regular' plain'.valued known'
    exact sameReading_patternOf alike ⟨own, own'⟩ ⟨valued, valued'⟩

/-- What is read in the same way passes the check in the same way. -/
theorem sameOutcome_of_sameReading
    (same : SameReading (ofToml left.toList) (ofToml right.toList)) :
    SameOutcome left right (ofText left) (ofText right) := by
  rw [ofText, ofText, ofDocument, ofDocument]
  generalize ofToml left.toList = reading at same
  generalize ofToml right.toList = reading' at same
  cases same with
  | @misfit misfit misfit' reason =>
      change SameOutcome left right
        (.error (.malformed "string" (misfit.span.complain left.toList misfit.cause.reason)))
        (.error (.malformed "string" (misfit'.span.complain right.toList misfit'.cause.reason)))
      rw [reason]
      exact .misfit _ _ _
  | ok config =>
      change SameOutcome left right (do config.validate; return config)
        (do config.validate; return config)
      rw [validate]
      cases config.grammar with
      | ok grammar => exact .ok config
      | error bad => exact .badPattern bad

/-- Documents that agree on the values of both settings describe the same configuration, or are
refused for the same reason, whatever else they say and however they are written. A setting that
is absent has its default, whatever the other one is. -/
theorem ofText_of_agree
    (plain : IsPlain left entries)
    (plain' : IsPlain right other)
    (agree : Agree entries other) :
    SameOutcome left right (ofText left) (ofText right) ∧
      (settingAt? "general" "log_level" entries = none ->
        ofToml left.toList =
          (fun pattern? => ⟨defaultLogLevel, pattern?⟩) <$>
            readSetting patternOf (settingAt? "versioning" "pattern" entries)) ∧
      (settingAt? "versioning" "pattern" entries = none ->
        ofToml left.toList =
          (fun level? => ⟨level?.getD defaultLogLevel, none⟩) <$>
            readSetting levelOf (settingAt? "general" "log_level" entries)) := by
  refine ⟨sameOutcome_of_sameReading (sameReading_ofToml plain plain' agree), fun absent => ?_,
    fun absent => ?_⟩
  · rw [plain.ofToml, absent]
    rfl
  · rw [plain.ofToml, absent]
    rfl

/-- Two documents without a level that give the same table for the pattern. -/
theorem ofText_of_agree_at_table :
    let left := "versioning.pattern = \x7bb = 1, a = 0x2\x7d\nextra.deep = []"
    let right := "[extra]\n[versioning.pattern]\na = 2\nb = 1"
    ∃ entries other, IsPlain left entries ∧ IsPlain right other ∧ Agree entries other ∧
      SameOutcome left right (ofText left) (ofText right) ∧
      settingAt? "general" "log_level" entries = none ∧
      ofToml left.toList = .error (.misfit ⟨⟨32, 16⟩, .unexpected .map .text⟩) := by
  intro left right
  obtain ⟨entries, other, plain, plain', agree, absent, refused⟩ : ∃ entries other,
      IsPlain left entries ∧ IsPlain right other ∧ Agree entries other ∧
        settingAt? "general" "log_level" entries = none ∧
          readSetting patternOf (settingAt? "versioning" "pattern" entries) =
            .error (.misfit ⟨⟨32, 16⟩, .unexpected .map .text⟩) := by
    refine ⟨_, _, ⟨by subst left; cbv, rfl, ?_⟩, ⟨by subst right; cbv, rfl, ?_⟩, ⟨.none, ?_⟩, rfl,
      rfl⟩
    · simp [Sectioned, IsMap]
    · simp [Sectioned, IsMap]
    · exact .some (.table _ _ _ _ (List.Perm.swap _ _ []) rfl
        (.cons (.integer _ _ _) (.cons (.integer _ _ _) .nil)))
  obtain ⟨same, default, _⟩ := ofText_of_agree plain plain' agree
  refine ⟨entries, other, plain, plain', agree, same, absent, ?_⟩
  rw [default absent, refused]
  rfl

end Documents

end Config
end PathVersions
