import Mathlib.Data.List.Permutation
import Prologue.Config.Schema
import Prologue.Proofs.ConfigWriting

/-! The option and its published schema. The reader takes exactly the values that the schema describes, the option
keeps the modes that stand in the value, and writing it gives the value back. -/

namespace Prologue

namespace Json

/-- The name of a kind of values in schemas. -/
def typeName : Json → String
  | .null => "null"
  | .bool _ => "boolean"
  | .number _ => "number"
  | .string _ => "string"
  | .array _ => "array"
  | .object _ => "object"

theorem sizeOf_lt_of_lookup {key : String} {members : List (String × Json)} {value : Json}
    (found : lookup key members = some value) : sizeOf value < sizeOf members := by
  induction members with
  | nil => cases found
  | cons member members ih =>
    obtain ⟨first, held⟩ := member
    rw [lookup] at found
    split at found
    · cases found
      simp only [List.cons.sizeOf_spec, Prod.mk.sizeOf_spec]
      omega
    · have below := ih found
      simp only [List.cons.sizeOf_spec]
      omega

theorem sizeOf_lt_of_listed {key : String} {members : List (String × Json)} {items : List Json} {item : Json}
    (found : lookup key members = some (.array items)) (member : item ∈ items) :
    sizeOf item < sizeOf (Json.object members) := by
  have outer := sizeOf_lt_of_lookup found
  have inner := List.sizeOf_lt_of_mem member
  simp only [array.sizeOf_spec, object.sizeOf_spec] at outer ⊢
  omega

/-- A schema describes a value: each of its keywords holds of the value. A keyword about members says nothing about
what is no object, and one that is not there says nothing at all. -/
def Describes (schema value : Json) : Prop :=
  match schema with
  | .bool everything => everything = true
  | .object keywords =>
    (∀ name, lookup "type" keywords = some (.string name) → value.typeName = name) ∧
    (∀ choices, lookup "enum" keywords = some (.array choices) → ∃ choice ∈ choices, choice.sorted = value.sorted) ∧
    (∀ schemas, (_ : lookup "oneOf" keywords = some (.array schemas)) →
      ∃ front only back, ∃ _ : schemas = front ++ only :: back,
        only.Describes value ∧ ∀ other, (_ : other ∈ front ++ back) → ¬ other.Describes value) ∧
    ∀ members, value = .object members →
      (∀ keys, lookup "required" keywords = some (.array keys) →
        ∀ key, .string key ∈ keys → lookup key members ≠ none) ∧
      (∀ fields, (_ : lookup "properties" keywords = some (.object fields)) →
        ∀ key field inner, (_ : lookup key fields = some field) → lookup key members = some inner →
          field.Describes inner) ∧
      ∀ others, (_ : lookup "additionalProperties" keywords = some others) →
        ∀ key inner, lookup key members = some inner →
          (∀ fields, lookup "properties" keywords = some (.object fields) → lookup key fields = none) →
          others.Describes inner
  | _ => False
termination_by schema
decreasing_by
  · next listed split => exact sizeOf_lt_of_listed listed (by simp [split])
  · next listed split among =>
    apply sizeOf_lt_of_listed listed
    rw [split, List.mem_append, List.mem_cons]
    rw [List.mem_append] at among
    exact among.imp_right .inr
  · next properties found _ =>
    have outer := sizeOf_lt_of_lookup properties
    have inner := sizeOf_lt_of_lookup found
    simp only [object.sizeOf_spec] at outer ⊢
    omega
  · next found _ _ =>
    have below := sizeOf_lt_of_lookup found
    simp only [object.sizeOf_spec]
    omega

end Json

namespace NewlineOption

open Json (lookup Describes)

/-- What an option can be written as: a mode, or the modes of the two sides in any order. -/
inductive IsWritten : NewlineOption → Json → Prop where
  | uniform (mode : Mode) : IsWritten (.uniform mode) (.string mode.text)
  | split (before after : Mode) (members : List (String × Json))
      (known : ∀ key, lookup key members ≠ none → key = "before" ∨ key = "after")
      (first : lookup "before" members = some (.string before.text))
      (second : lookup "after" members = some (.string after.text)) : IsWritten (.split before after) (.object members)

theorem ofJson_eq_ok_iff (value : Json) (option : NewlineOption) :
    ofJson value = .ok option ↔ IsWritten option value := by
  constructor
  · intro read
    cases value with
    | string text =>
      rw [ofJson] at read
      cases named : Mode.ofText? text with
      | none => rw [named] at read; cases read
      | some mode =>
        rw [named] at read
        cases read
        rw [(Mode.ofText?_eq_some_iff text mode).mp named]
        exact .uniform mode
    | object members =>
      obtain ⟨known, before, after, first, second, rfl⟩ := (ofJson_object_eq_ok_iff members option).mp read
      exact .split before after members known first second
    | _ => cases read
  · intro written
    cases written with
    | uniform mode => exact ofJson_toJson (.uniform mode)
    | split before after members known first second =>
      exact (ofJson_object_eq_ok_iff members _).mpr ⟨known, before, after, first, second, rfl⟩

/-! ### The schema -/

theorem describes_schemaChoice (texts : List String) (value : Json) :
    (Json.object (Config.schemaChoice texts)).Describes value ↔ ∃ text ∈ texts, value = .string text := by
  have keywords : (Json.object (Config.schemaChoice texts)).Describes value ↔
      value.typeName = "string" ∧ ∃ choice ∈ texts.map Json.string, choice.sorted = value.sorted := by
    rw [Config.schemaChoice, Config.schemaStrings, Describes]
    simp [lookup]
  rw [keywords]
  constructor
  · rintro ⟨-, choice, member, same⟩
    obtain ⟨text, listed, rfl⟩ := List.mem_map.mp member
    rw [Json.sorted, eq_comm, Json.sorted_eq_string_iff] at same
    exact ⟨text, listed, same⟩
  · rintro ⟨text, listed, rfl⟩
    exact ⟨rfl, .string text, List.mem_map_of_mem listed, rfl⟩

theorem describes_schemaMode (value : Json) :
    Config.schemaMode.Describes value ↔ ∃ mode : Mode, value = .string mode.text := by
  rw [Config.schemaMode, describes_schemaChoice]
  simp only [List.mem_cons, List.not_mem_nil, or_false, exists_eq_or_imp, exists_eq_left]
  constructor
  · rintro (rfl | rfl)
    · exact ⟨.always, rfl⟩
    · exact ⟨.never, rfl⟩
  · rintro ⟨mode, rfl⟩
    cases mode
    · exact Or.inl rfl
    · exact Or.inr rfl

/-- The fields of an option with a mode for each side. -/
def sideFields : List (String × Json) := [("after", Config.schemaMode), ("before", Config.schemaMode)]

theorem lookup_sideFields (key : String) :
    lookup key sideFields = if key = "before" ∨ key = "after" then some Config.schemaMode else none := by
  rw [sideFields, lookup, lookup, lookup]
  by_cases after : "after" = key
  · simp [after]
  · by_cases before : "before" = key
    · simp [before]
    · rw [if_neg after, if_neg before, if_neg (not_or.mpr ⟨Ne.symm before, Ne.symm after⟩)]

/-- The form of an option with a mode for each side. -/
def schemaSides : Json :=
  .object
    [("type", .string "object"), ("properties", .object sideFields), ("additionalProperties", .bool false),
      ("required", Config.schemaStrings ["before", "after"])]

theorem describes_schemaSides (value : Json) :
    schemaSides.Describes value ↔ ∃ before after, IsWritten (.split before after) value := by
  have keywords : schemaSides.Describes value ↔
      value.typeName = "object" ∧ ∀ members, value = .object members →
        (lookup "before" members ≠ none ∧ lookup "after" members ≠ none) ∧
        (∀ key field inner, lookup key sideFields = some field → lookup key members = some inner →
          field.Describes inner) ∧
        ∀ key inner, lookup key members = some inner → lookup key sideFields = none → False := by
    rw [schemaSides, Config.schemaStrings, Describes]
    simp [lookup, Describes]
  rw [keywords]
  constructor
  · rintro ⟨kind, holds⟩
    cases value with
    | object members =>
      obtain ⟨⟨hasBefore, hasAfter⟩, described, unforeign⟩ := holds members rfl
      have mode (key : String) (side : key = "before" ∨ key = "after") (has : lookup key members ≠ none) :
          ∃ mode : Mode, lookup key members = some (.string mode.text) := by
        obtain ⟨inner, found⟩ := Option.ne_none_iff_exists'.mp has
        have field := (lookup_sideFields key).trans (if_pos side)
        obtain ⟨mode, rfl⟩ := (describes_schemaMode inner).mp (described key _ inner field found)
        exact ⟨mode, found⟩
      obtain ⟨before, first⟩ := mode "before" (Or.inl rfl) hasBefore
      obtain ⟨after, second⟩ := mode "after" (Or.inr rfl) hasAfter
      refine ⟨before, after, .split before after members ?_ first second⟩
      intro key has
      obtain ⟨inner, found⟩ := Option.ne_none_iff_exists'.mp has
      by_cases side : key = "before" ∨ key = "after"
      · exact side
      · exact (unforeign key inner found ((lookup_sideFields key).trans (if_neg side))).elim
    | _ => simp [Json.typeName] at kind
  · rintro ⟨before, after, written⟩
    cases written with
    | split _ _ members known first second =>
      refine ⟨rfl, ?_⟩
      rintro _ ⟨⟩
      refine ⟨by simp [first, second], ?_, ?_⟩
      · intro key field inner listed found
        rcases known key (by simp [found]) with rfl | rfl
        · cases (lookup_sideFields "before").symm.trans listed
          cases found.symm.trans first
          exact (describes_schemaMode _).mpr ⟨before, rfl⟩
        · cases (lookup_sideFields "after").symm.trans listed
          cases found.symm.trans second
          exact (describes_schemaMode _).mpr ⟨after, rfl⟩
      · intro key inner found foreign
        rw [lookup_sideFields, if_pos (known key (by simp [found]))] at foreign
        cases foreign

/-- Of two schemas exactly one describes a value. -/
theorem describes_oneOf_pair (description one another value : Json) :
    (Json.object [("description", description), ("oneOf", .array [one, another])]).Describes value ↔
      one.Describes value ∧ ¬ another.Describes value ∨ another.Describes value ∧ ¬ one.Describes value := by
  have oneOf : (Json.object [("description", description), ("oneOf", .array [one, another])]).Describes value ↔
      ∃ front only back, ∃ _ : [one, another] = front ++ only :: back,
        only.Describes value ∧ ∀ other, other ∈ front ++ back → ¬ other.Describes value := by
    rw [Describes]
    simp [lookup]
  rw [oneOf]
  constructor
  · rintro ⟨front, only, back, split, holds, others⟩
    cases front with
    | nil =>
      cases split
      exact Or.inl ⟨holds, others another (by simp)⟩
    | cons first more =>
      rw [List.cons_append, List.cons.injEq] at split
      obtain ⟨rfl, rest⟩ := split
      cases more with
      | nil =>
        cases rest
        exact Or.inr ⟨holds, others one (by simp)⟩
      | cons => simp at rest
  · rintro (⟨holds, fails⟩ | ⟨holds, fails⟩)
    · exact ⟨[], one, [another], rfl, holds, by simpa using fails⟩
    · exact ⟨[one], another, [], rfl, holds, by simpa using fails⟩

theorem describes_schemaOption (value : Json) :
    Config.schemaOption.Describes value ↔ ∃ option, IsWritten option value := by
  have forms : Config.schemaOption.Describes value ↔
      Config.schemaMode.Describes value ∧ ¬ schemaSides.Describes value ∨
        schemaSides.Describes value ∧ ¬ Config.schemaMode.Describes value :=
    describes_oneOf_pair _ Config.schemaMode schemaSides value
  rw [forms, describes_schemaMode, describes_schemaSides]
  constructor
  · rintro (⟨⟨mode, rfl⟩, -⟩ | ⟨⟨before, after, written⟩, -⟩)
    · exact ⟨.uniform mode, .uniform mode⟩
    · exact ⟨.split before after, written⟩
  · rintro ⟨option, written⟩
    cases written with
    | uniform mode =>
      refine Or.inl ⟨⟨mode, rfl⟩, ?_⟩
      rintro ⟨_, _, ⟨⟩⟩
    | split before after members known first second =>
      refine Or.inr ⟨⟨before, after, .split before after members known first second⟩, ?_⟩
      rintro ⟨_, ⟨⟩⟩

/-! ### Writing and reading -/

/-- With distinct keys, an option with a mode for each side has these two members and no others. -/
theorem members_of_sides (members : List (String × Json)) (before after : Json)
    (distinct : (members.map Prod.fst).Nodup)
    (known : ∀ key, lookup key members ≠ none → key = "before" ∨ key = "after")
    (first : lookup "before" members = some before) (second : lookup "after" members = some after) :
    members = [("before", before), ("after", after)] ∨ members = [("after", after), ("before", before)] := by
  rw [← List.perm_pair, List.perm_ext_iff_of_nodup (List.Nodup.of_map _ distinct) (by simp)]
  rintro ⟨key, value⟩
  rw [← Json.lookup_eq_some_iff distinct, List.mem_cons, List.mem_singleton, Prod.mk.injEq, Prod.mk.injEq]
  constructor
  · intro found
    rcases known key (by simp [found]) with rfl | rfl
    · exact Or.inl ⟨rfl, Option.some.inj (found.symm.trans first)⟩
    · exact Or.inr ⟨rfl, Option.some.inj (found.symm.trans second)⟩
  · rintro (⟨rfl, rfl⟩ | ⟨rfl, rfl⟩)
    · exact first
    · exact second

theorem sorted_toJson_of_isWritten (option : NewlineOption) (value : Json) (keyed : value.Keyed)
    (written : IsWritten option value) : option.toJson.sorted = value.sorted := by
  cases written with
  | uniform mode => rfl
  | split before after members known first second =>
    rcases members_of_sides members _ _ keyed.distinct known first second with rfl | rfl
    · rfl
    · rfl

/-- The text that stands in a value for the mode of a side. -/
def writtenMode? (side : Side) : Json → Option String
  | .string text => some text
  | .object members => (lookup side.text members).bind Config.stringOf?
  | _ => none

theorem writtenMode?_of_isWritten (option : NewlineOption) (value : Json) (written : IsWritten option value)
    (side : Side) : writtenMode? side value = some ((Policy.resolve (some option)).mode side).text := by
  cases written with
  | uniform mode => cases side <;> rfl
  | split before after members known first second =>
    cases side with
    | before =>
      rw [writtenMode?, Side.text, first]
      rfl
    | after =>
      rw [writtenMode?, Side.text, second]
      rfl

/-- The reader takes exactly the values that the published schema describes, which are a mode or an object with a mode
for each side and nothing else. An option keeps the modes that its value holds. Where keys are distinct it is written
as that value again, and so no two values are read as one option. -/
theorem ofJson_schemaOption (value : Json) :
    ((∃ option, ofJson value = .ok option) ↔ Config.schemaOption.Describes value) ∧
    (Config.schemaOption.Describes value ↔ ∃ option, IsWritten option value) ∧
    ∀ option, ofJson value = .ok option →
      (∀ side, writtenMode? side value = some ((Policy.resolve (some option)).mode side).text) ∧
      (value.Keyed → option.toJson.sorted = value.sorted ∧
        ∀ other : Json, other.Keyed → ofJson other = .ok option → other.sorted = value.sorted) := by
  simp only [ofJson_eq_ok_iff]
  refine ⟨(describes_schemaOption value).symm, describes_schemaOption value, ?_⟩
  intro option written
  refine ⟨writtenMode?_of_isWritten option value written, fun keyed => ?_⟩
  have back := sorted_toJson_of_isWritten option value keyed written
  refine ⟨back, fun other otherKeyed otherWritten => ?_⟩
  rw [← back, sorted_toJson_of_isWritten option other otherKeyed otherWritten]

/-- An option in the order in which it is not written. -/
def sidesValue : Json := .object [("after", .string "always"), ("before", .string "never")]

theorem ofJson_sidesValue :
    sidesValue.Keyed ∧ Config.schemaOption.Describes sidesValue ∧
    (NewlineOption.split .never .always).toJson.sorted = sidesValue.sorted := by
  have keyed : sidesValue.Keyed := by
    refine .object _ (by simp) ?_
    simp only [List.forall_mem_cons]
    exact ⟨.string _, .string _, by simp⟩
  have read : ofJson sidesValue = .ok (.split .never .always) := by rfl
  obtain ⟨accepted, -, options⟩ := ofJson_schemaOption sidesValue
  exact ⟨keyed, accepted.mp ⟨_, read⟩, ((options _ read).2 keyed).1⟩

end NewlineOption

end Prologue
