import PathVersions.Json.Schema
import Mathlib.Data.List.Basic

/-!
# What published schemas accept

A published schema is an object whose members are keywords. Those that only describe or that hold
definitions ask for nothing, and an instance has to meet each of the others. What is not a keyword
here leaves the meaning of a schema open: it neither accepts nor refuses anything.
-/

namespace PathVersions
namespace Json

/-- A JSON value that a schema is asked about. Its numbers are not told apart. -/
inductive Instance
  | null
  | bool (truth : Bool)
  | number
  | text (content : String)
  | array (items : List Instance)
  | object (members : List (String × Instance))
deriving Repr

/-- The name of the type of an instance. -/
def Instance.type : Instance -> String
  | .null => "null"
  | .bool _ => "boolean"
  | .number => "number"
  | .text _ => "string"
  | .array _ => "array"
  | .object _ => "object"

theorem Instance.type_eq_object {given : Instance} :
    given.type = "object" ↔ ∃ members, given = .object members := by
  cases given <;> simp [type]

/-- What a member of a published schema asks for. -/
inductive Keyword
  /-- Nothing. -/
  | remark
  /-- A type of one of some names. -/
  | types (names : List String)
  /-- One text only. -/
  | constant (content : String)
  /-- What exactly one of some schemas accepts. -/
  | oneOf (choices : List Value)
  /-- For the members of an object that have the name of a schema, what this schema accepts. -/
  | properties (schemas : List (String × Value))
  /-- What the schema that a reference points to accepts. -/
  | reference (pointer : String)

namespace Keyword

/-- The keywords that ask for nothing. -/
def remarks : List String := ["$schema", "title", "description", "default", "$defs"]

/-- The name of a type. Which numbers are integers is not known here. -/
def typeName? : Value -> Option String
  | .text "integer" => none
  | .text name => some name
  | _ => none

/-- Read a member of a published schema. -/
def read? (member : String × Value) : Option Keyword :=
  match member with
  | ("type", .array names) => (names.mapM typeName?).map .types
  | ("type", name) => (typeName? name).map fun name => .types [name]
  | ("const", .text content) => some (.constant content)
  | ("oneOf", .array choices) => some (.oneOf choices)
  | ("properties", .object schemas) => some (.properties schemas)
  | ("$ref", .text pointer) => some (.reference pointer)
  | (name, _) => if remarks.contains name then some .remark else none

end Keyword

/-- The definition in a published schema that a reference points to. -/
def resolve? (root : Value) (pointer : String) : Option Value :=
  match root with
  | .object members =>
      match members.lookup "$defs" with
      | some (.object definitions) =>
          (definitions.find? fun definition => "#/$defs/" ++ definition.1 == pointer).map (·.2)
      | _ => none
  | _ => none

mutual

/-- Whether a published schema accepts an instance. References are to the definitions of the
root. -/
inductive Accepts (root : Value) : Value -> Instance -> Prop
  | object {members : List (String × Value)} {keywords : List Keyword} {given : Instance} :
      members.mapM Keyword.read? = some keywords ->
        (∀ keyword ∈ keywords, Meets root keyword given) -> Accepts root (.object members) given

/-- Whether an instance meets what a keyword asks for. -/
inductive Meets (root : Value) : Keyword -> Instance -> Prop
  | remark (given : Instance) : Meets root .remark given
  | types {names : List String} {given : Instance} :
      given.type ∈ names -> Meets root (.types names) given
  | constant (content : String) : Meets root (.constant content) (.text content)
  | oneOf {before after : List Value} {choice : Value} {given : Instance} :
      Accepts root choice given -> (∀ other ∈ before ++ after, Refuses root other given) ->
        Meets root (.oneOf (before ++ choice :: after)) given
  | properties {schemas : List (String × Value)} {given : Instance} :
      (∀ members, given = .object members -> ∀ schema ∈ schemas, ∀ member ∈ members,
        member.1 = schema.1 -> Accepts root schema.2 member.2) ->
        Meets root (.properties schemas) given
  | reference {pointer : String} {target : Value} {given : Instance} :
      resolve? root pointer = some target -> Accepts root target given ->
        Meets root (.reference pointer) given

/-- Whether a published schema refuses an instance. -/
inductive Refuses (root : Value) : Value -> Instance -> Prop
  | object {members : List (String × Value)} {keywords : List Keyword} {keyword : Keyword}
      {given : Instance} :
      members.mapM Keyword.read? = some keywords -> keyword ∈ keywords ->
        Violates root keyword given -> Refuses root (.object members) given

/-- Whether an instance violates what a keyword asks for. -/
inductive Violates (root : Value) : Keyword -> Instance -> Prop
  | types {names : List String} {given : Instance} :
      given.type ∉ names -> Violates root (.types names) given
  | constant {content : String} {given : Instance} :
      given ≠ .text content -> Violates root (.constant content) given
  | noneOf {choices : List Value} {given : Instance} :
      (∀ choice ∈ choices, Refuses root choice given) -> Violates root (.oneOf choices) given
  | manyOf {before between after : List Value} {choice other : Value} {given : Instance} :
      Accepts root choice given -> Accepts root other given ->
        Violates root (.oneOf (before ++ choice :: between ++ other :: after)) given
  | properties {schemas : List (String × Value)} {members : List (String × Instance)}
      {name : String} {schema : Value} {given : Instance} :
      (name, schema) ∈ schemas -> (name, given) ∈ members -> Refuses root schema given ->
        Violates root (.properties schemas) (.object members)
  | reference {pointer : String} {target : Value} {given : Instance} :
      resolve? root pointer = some target -> Refuses root target given ->
        Violates root (.reference pointer) given

end

/-! ## No schema does both -/

/-- Of two items at different places in a list, one is left if one item is taken out. -/
theorem mem_of_two
    {α : Type}
    {before after front between back : List α}
    {item first second : α}
    (split : before ++ item :: after = front ++ first :: between ++ second :: back) :
    first ∈ before ++ after ∨ second ∈ before ++ after := by
  rw [List.append_assoc, List.cons_append, List.append_eq_append_iff] at split
  obtain ⟨gap, _, tail⟩ | ⟨gap, rfl, tail⟩ := split
  · cases gap with
    | nil =>
        obtain ⟨_, rfl⟩ := List.cons.inj tail
        exact .inr (by simp)
    | cons next gap =>
        obtain ⟨_, rfl⟩ := List.cons.inj tail
        exact .inl (by simp)
  · cases gap with
    | nil =>
        obtain ⟨_, rfl⟩ := List.cons.inj tail
        exact .inr (by simp)
    | cons next gap =>
        obtain ⟨rfl, _⟩ := List.cons.inj tail
        exact .inl (by simp)

variable {root : Value}

-- The recursion is on the first proof, which has to stay as it is: what the second one says of its
-- indices is carried over in equations.
mutual

/-- No instance is accepted and refused by one schema. The two are one induction, since exactly one
of several schemas has to accept. -/
theorem Accepts.not_refuses
    {schema : Value}
    {given : Instance}
    (accepts : Accepts root schema given) :
    ¬Refuses root schema given := by
  intro refuses
  match schema, given, accepts with
  | _, _, .object read meets =>
    cases refuses with
    | object same member violates =>
      have keywords := Option.some.inj (same.symm.trans read)
      exact (meets _ (keywords ▸ member)).not_violates violates
termination_by structural accepts

theorem Meets.not_violates
    {keyword : Keyword}
    {given : Instance}
    (meets : Meets root keyword given) :
    ¬Violates root keyword given := by
  intro violates
  match keyword, given, meets with
  | _, _, .remark given => cases violates
  | _, _, .types known =>
    cases violates with
    | types unknown => exact unknown known
  | _, _, .constant content =>
    cases violates with
    | constant other => exact other rfl
  | _, _, .oneOf accepted others =>
    generalize split : _ ++ _ :: _ = choices at violates
    cases violates with
    | noneOf refused => exact accepted.not_refuses (refused _ (by simp [← split]))
    | manyOf first second =>
      obtain left | left := mem_of_two split
      · exact (others _ left).not_accepts first
      · exact (others _ left).not_accepts second
  | _, given, .properties all =>
    generalize same : given = object at violates
    cases violates with
    | properties known member refused => exact (all _ same _ known _ member rfl).not_refuses refused
  | _, _, .reference resolved accepted =>
    cases violates with
    | reference same refused =>
      have target := Option.some.inj (same.symm.trans resolved)
      exact accepted.not_refuses (target ▸ refused)
termination_by structural meets

theorem Refuses.not_accepts
    {schema : Value}
    {given : Instance}
    (refuses : Refuses root schema given) :
    ¬Accepts root schema given := by
  intro accepts
  match schema, given, refuses with
  | _, _, .object read member violates =>
    cases accepts with
    | object same meets =>
      have keywords := Option.some.inj (read.symm.trans same)
      exact violates.not_meets (meets _ (keywords ▸ member))
termination_by structural refuses

theorem Violates.not_meets
    {keyword : Keyword}
    {given : Instance}
    (violates : Violates root keyword given) :
    ¬Meets root keyword given := by
  intro meets
  match keyword, given, violates with
  | _, _, .types unknown =>
    cases meets with
    | types known => exact unknown known
  | _, _, .constant other =>
    cases meets with
    | constant => exact other rfl
  | .oneOf choices, _, .noneOf refused =>
    generalize same : choices = parts at meets
    cases meets with
    | oneOf accepted others => exact (refused _ (by simp [same])).not_accepts accepted
  | _, _, .manyOf first second =>
    generalize split : _ ++ _ :: _ = choices at meets
    cases meets with
    | oneOf accepted others =>
      obtain left | left := mem_of_two split.symm
      · exact first.not_refuses (others _ left)
      · exact second.not_refuses (others _ left)
  | _, _, .properties known member refused =>
    cases meets with
    | properties all => exact refused.not_accepts (all _ rfl _ known _ member rfl)
  | _, _, .reference resolved refused =>
    cases meets with
    | reference same accepted =>
      have target := Option.some.inj (same.symm.trans resolved)
      exact refused.not_accepts (target ▸ accepted)
termination_by structural violates

end

/-! ## What each kind of schema accepts -/

section Kinds

variable {target : Value} {members : List (String × Value)} {keywords : List Keyword}
  {given : Instance}

/-- A schema accepts what meets all of its keywords, given that all its members are keywords. -/
theorem accepts_iff (read : members.mapM Keyword.read? = some keywords) :
    Accepts root (.object members) given ↔ ∀ keyword ∈ keywords, Meets root keyword given := by
  constructor
  · rintro ⟨same, meets⟩
    cases read.symm.trans same
    exact meets
  · exact .object read

@[simp] theorem meets_remark : Meets root .remark given := .remark given

@[simp] theorem meets_types {names : List String} :
    Meets root (.types names) given ↔ given.type ∈ names :=
  ⟨fun | .types known => known, .types⟩

@[simp] theorem meets_constant {content : String} :
    Meets root (.constant content) given ↔ given = .text content :=
  ⟨fun | .constant _ => rfl, fun same => same ▸ .constant content⟩

@[simp] theorem meets_properties {schemas : List (String × Value)} :
    Meets root (.properties schemas) given ↔
      ∀ members, given = .object members -> ∀ schema ∈ schemas, ∀ member ∈ members,
        member.1 = schema.1 -> Accepts root schema.2 member.2 :=
  ⟨fun | .properties all => all, .properties⟩

/-- A reference stands for the definition that it resolves to. -/
theorem meets_reference
    {pointer : String}
    (resolved : resolve? root pointer = some target) :
    Meets root (.reference pointer) given ↔ Accepts root target given := by
  constructor
  · rintro ⟨⟩
    rename_i same accepted
    cases resolved.symm.trans same
    exact accepted
  · exact .reference resolved

namespace Schema

/-- Several schemas are published one by one. -/
theorem values_eq_map (schemas : List Schema) :
    values schemas = schemas.map fun schema => .object schema.members := by
  induction schemas with
  | nil => rfl
  | cons schema rest inductionHypothesis => rw [values, inductionHypothesis, List.map_cons]

theorem named_eq_map (properties : List (String × Schema)) :
    named properties = properties.map fun (name, schema) => (name, .object schema.members) := by
  induction properties with
  | nil => rfl
  | cons property rest inductionHypothesis =>
      rw [named, inductionHypothesis, List.map_cons]

variable {description : String}

/-- A schema for a text that may be missing accepts texts and null. -/
theorem accepts_textOrNull :
    Accepts root (.object (textOrNull description).members) given ↔
      given = .null ∨ ∃ content, given = .text content := by
  have read : (textOrNull description).members.mapM Keyword.read? =
      some [.remark, .types ["string", "null"]] := rfl
  rw [accepts_iff read]
  cases given <;> simp [Instance.type]

/-- A schema for one text accepts just this text. -/
theorem accepts_constant {content : String} :
    Accepts root (.object (constant description content).members) given ↔
      given = .text content := by
  have read : (constant description content).members.mapM Keyword.read? =
      some [.remark, .types ["string"], .constant content] := rfl
  rw [accepts_iff read]
  simp +contextual [Instance.type]

/-- A schema for one text refuses whatever is another text or no text. -/
theorem refuses_constant
    {content : String}
    (other : given ≠ .text content) :
    Refuses root (.object (constant description content).members) given :=
  .object rfl (List.mem_cons_of_mem _ (List.mem_cons_of_mem _ List.mem_cons_self)) (.constant other)

/-- A schema for an object asks only for the properties that it names, where they are given. -/
theorem accepts_object {properties : List (String × Schema)} :
    Accepts root (.object (object description properties).members) given ↔
      ∃ members, given = .object members ∧ ∀ property ∈ properties, ∀ member ∈ members,
        member.1 = property.1 -> Accepts root (.object property.2.members) member.2 := by
  have read : (object description properties).members.mapM Keyword.read? =
      some [.remark, .types ["object"], .properties (named properties)] := rfl
  rw [accepts_iff read, List.forall_mem_cons, List.forall_mem_cons, List.forall_mem_singleton,
    and_iff_right meets_remark, meets_types, meets_properties, List.mem_singleton, named_eq_map]
  simp only [List.forall_mem_map]
  constructor
  · rintro ⟨isObject, all⟩
    obtain ⟨members, rfl⟩ := Instance.type_eq_object.mp isObject
    exact ⟨members, rfl, all members rfl⟩
  · rintro ⟨members, rfl, all⟩
    refine ⟨rfl, fun others same => ?_⟩
    cases same
    exact all

/-- A schema that refers to a definition accepts what that accepts. -/
theorem accepts_reference
    {name : String}
    {default : Value}
    (resolved : resolve? root ("#/$defs/" ++ name) = some target) :
    Accepts root (.object (reference description name default).members) given ↔
      Accepts root target given := by
  have read : (reference description name default).members.mapM Keyword.read? =
      some [.remark, .reference ("#/$defs/" ++ name), .remark] := rfl
  rw [accepts_iff read]
  simp [meets_reference resolved]

/-! ### Choices between texts -/

/-- Whether schemas are for one text each. -/
def Constants (choices : List Schema) (contents : List String) : Prop :=
  List.Forall₂ (fun choice content => ∃ description, choice = constant description content) choices
    contents

variable {choices : List Schema} {contents : List String} {content : String}

theorem Constants.mem
    (constants : Constants choices contents)
    {choice : Schema}
    (member : choice ∈ choices) :
    ∃ content ∈ contents, ∃ description, choice = constant description content := by
  induction constants with
  | nil => contradiction
  | cons known _ inductionHypothesis =>
      obtain rfl | later := List.mem_cons.mp member
      · exact ⟨_, List.mem_cons_self, known⟩
      · obtain ⟨content, present, same⟩ := inductionHypothesis later
        exact ⟨content, List.mem_cons_of_mem _ present, same⟩

/-- Schemas for some texts each refuse every other text. -/
theorem Constants.refuses
    (constants : Constants choices contents)
    (differ : ∀ content ∈ contents, given ≠ .text content) :
    ∀ choice ∈ choices, Refuses root (.object choice.members) given := by
  intro choice member
  obtain ⟨content, present, description, rfl⟩ := constants.mem member
  exact refuses_constant (differ content present)

/-- Of schemas for different texts each text is accepted by one, and refused by the others. -/
theorem Constants.split
    (constants : Constants choices contents)
    (distinct : contents.Nodup)
    (present : content ∈ contents) :
    ∃ before choice after, choices = before ++ choice :: after ∧
      Accepts root (.object choice.members) (.text content) ∧
      ∀ other ∈ before ++ after, Refuses root (.object other.members) (.text content) := by
  induction constants with
  | nil => contradiction
  | @cons choice first choices contents known constants inductionHypothesis =>
      obtain ⟨absent, distinct⟩ := List.nodup_cons.mp distinct
      obtain ⟨description, rfl⟩ := known
      obtain rfl | later := List.mem_cons.mp present
      · refine ⟨[], _, choices, rfl, accepts_constant.mpr rfl, Constants.refuses constants ?_⟩
        rintro other member same
        cases same
        exact absent member
      · obtain ⟨before, choice, after, rfl, accepts, refuses⟩ := inductionHypothesis distinct later
        refine ⟨constant description first :: before, choice, after, rfl, accepts, ?_⟩
        rw [List.cons_append, List.forall_mem_cons]
        refine ⟨refuses_constant ?_, refuses⟩
        rintro same
        cases same
        exact absent later

/-- A choice between schemas for different texts accepts just these texts. -/
theorem accepts_oneOf
    (constants : Constants choices contents)
    (distinct : contents.Nodup) :
    Accepts root (.object (oneOf description choices).members) given ↔
      ∃ content ∈ contents, given = .text content := by
  have read : (oneOf description choices).members.mapM Keyword.read? =
      some [.remark, .oneOf (values choices)] := rfl
  rw [accepts_iff read, List.forall_mem_cons, List.forall_mem_singleton, values_eq_map,
    and_iff_right meets_remark]
  constructor
  · intro meets
    generalize same : choices.map _ = values at meets
    cases meets with
    | oneOf accepts _ =>
        obtain ⟨choice, member, rfl⟩ :=
          List.mem_map.mp (same ▸ List.mem_append_right _ List.mem_cons_self)
        obtain ⟨content, present, description, rfl⟩ := constants.mem member
        exact ⟨content, present, accepts_constant.mp accepts⟩
  · rintro ⟨content, present, rfl⟩
    obtain ⟨before, choice, after, rfl, accepts, refuses⟩ := constants.split distinct present
    rw [List.map_append, List.map_cons]
    refine .oneOf accepts ?_
    rw [← List.map_append, List.forall_mem_map]
    exact refuses

/-! ### Schemas with definitions -/

/-- Every member of a published schema is a keyword. -/
theorem exists_keywords (schema : Schema) :
    ∃ keywords, schema.members.mapM Keyword.read? = some keywords := by
  cases schema <;> exact ⟨_, rfl⟩

end Schema

/-- What is around the root of a schema asks for nothing. -/
theorem SchemaDocument.accepts_value (document : SchemaDocument) :
    Accepts root document.value given ↔ Accepts root (.object document.root.members) given := by
  obtain ⟨keywords, read⟩ := document.root.exists_keywords
  obtain ⟨heading, closing, known, first, last, second, remarked⟩ : ∃ heading closing,
      document.value = .object (heading ++ document.root.members ++ closing) ∧
        heading.mapM Keyword.read? = some [.remark, .remark] ∧
          ∃ last, closing.mapM Keyword.read? = some last ∧ ∀ keyword ∈ last, keyword = .remark := by
    refine ⟨_, _, rfl, rfl, ?_⟩
    split
    · exact ⟨[], rfl, by simp⟩
    · exact ⟨[.remark], rfl, by simp⟩
  have whole : (heading ++ document.root.members ++ closing).mapM Keyword.read? =
      some ([.remark, .remark] ++ keywords ++ last) := by
    simp [List.mapM_append, first, read, second]
  rw [known, accepts_iff whole, accepts_iff read]
  constructor
  · exact fun meets keyword member => meets keyword (by simp [member])
  · intro meets keyword member
    obtain (remark | member) | member := by simpa only [List.mem_append] using member
    · obtain rfl : keyword = .remark := by simpa using remark
      exact meets_remark
    · exact meets keyword member
    · rw [remarked keyword member]
      exact meets_remark

end Kinds

end Json
end PathVersions
