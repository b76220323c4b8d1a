import Prologue.Config.File
import Prologue.Proofs.JsonReading

/-! Reading a config from a value. Of an object whose keys are distinct, each member is taken by the field that its key
names, and the config is what the fields have taken. -/

namespace Prologue

theorem exists_map_iff {α β : Type} (option : Option α) (f : α → β) (holds : β → Prop) :
    (∃ image, option.map f = some image ∧ holds image) ↔ ∃ value, option = some value ∧ holds (f value) := by
  cases option <;> simp

theorem Mode.ofText?_eq_some_iff (text : String) (mode : Mode) : ofText? text = some mode ↔ text = mode.text := by
  unfold ofText?
  cases mode <;> grind [Mode.text]

namespace NewlineOption

theorem modeOf_eq_ok_iff (side : Side) (value : Json) (mode : Mode) :
    modeOf side value = .ok mode ↔ value = .string mode.text := by
  cases value with
  | string text =>
    rw [modeOf, Json.string.injEq, ← Mode.ofText?_eq_some_iff]
    cases Mode.ofText? text <;> simp
  | _ => simp [modeOf]

theorem foreignKey?_eq_none_iff (members : List (String × Json)) :
    foreignKey? members = none ↔ ∀ key, Json.lookup key members ≠ none → key = "before" ∨ key = "after" := by
  have keys : foreignKey? members = none ↔ ∀ key ∈ members.map Prod.fst, key = "before" ∨ key = "after" := by
    fun_induction foreignKey? members with
    | case1 => simp
    | case2 key value rest known ih => simp [ih, known]
    | case3 key value rest foreign => simp [foreign]
  simp only [keys, ne_eq, Json.lookup_eq_none_iff, Decidable.not_not]

/-- An object is an option if it has no members but the modes of the two sides. -/
theorem ofJson_object_eq_ok_iff (members : List (String × Json)) (option : NewlineOption) :
    ofJson (.object members) = .ok option ↔
      (∀ key, Json.lookup key members ≠ none → key = "before" ∨ key = "after") ∧
      ∃ before after, Json.lookup "before" members = some (.string (Mode.text before)) ∧
        Json.lookup "after" members = some (.string (Mode.text after)) ∧ option = .split before after := by
  rw [← foreignKey?_eq_none_iff, ofJson]
  cases foreignKey? members with
  | some key => simp
  | none =>
    cases Json.lookup "before" members with
    | none => simp
    | some before =>
      cases Json.lookup "after" members with
      | none => simp
      | some after =>
        simp only [Option.some.injEq, ← modeOf_eq_ok_iff .before before, ← modeOf_eq_ok_iff .after after, true_and]
        cases modeOf .before before with
        | error => simp
        | ok before =>
          cases modeOf .after after with
          | error => simp
          | ok after => simp [eq_comm]

/-- Whether an object is an option does not hang on the order of its members. -/
theorem toOption_ofJson_sorted (value : Json) (keyed : value.Keyed) :
    (ofJson value.sorted).toOption = (ofJson value).toOption := by
  cases value with
  | object members =>
    have looked (key : String) := Json.lookup_sortedMembers key members keyed.distinct
    have same (option : NewlineOption) :
        ofJson (.object (Json.sortedMembers members [])) = .ok option ↔ ofJson (.object members) = .ok option := by
      simp only [ofJson_object_eq_ok_iff, looked, ne_eq, Option.map_eq_none_iff, Option.map_eq_some_iff,
        Json.sorted_eq_string_iff, exists_eq_right]
    apply Option.ext
    intro option
    rw [Json.sorted, toOption_eq_some_iff, toOption_eq_some_iff, same]
  | _ => rfl

theorem nesting_of_ofJson (value : Json) (option : NewlineOption) (keyed : value.Keyed)
    (read : ofJson value = .ok option) : value.nesting ≤ 1 := by
  cases value with
  | object members =>
    obtain ⟨known, before, after, first, second, -⟩ := (ofJson_object_eq_ok_iff members option).mp read
    have flat : ∀ member ∈ members, member.2.nesting = 0 := by
      rintro ⟨key, value⟩ member
      have found := (Json.lookup_eq_some_iff keyed.distinct key value).mpr member
      rcases known key (by simp [found]) with rfl | rfl
      · cases found.symm.trans first
        rfl
      · cases found.symm.trans second
        rfl
    exact Nat.succ_le_succ (Nat.le_of_eq (Json.nestingOfMembers_eq_zero members flat))
  | array => cases read
  | _ => exact Nat.zero_le 1

end NewlineOption

namespace Config

/-! ### What a field takes -/

def versionOf? : Json → Option Nat
  | .number (.int value) => if 0 ≤ value ∧ value < powerOfTwo 32 then some value.toNat else none
  | _ => none

/-- A severity is named by a string, or by the only key of an object that holds null. -/
def severityOf? : Json → Option Severity
  | .string name => Severity.ofName? name
  | .object [(name, .null)] => Severity.ofName? name
  | _ => none

def newlineOf? : Json → Option (Option NewlineOption)
  | .null => some none
  | value => (NewlineOption.ofJson value).toOption.map some

def stringOf? : Json → Option String
  | .string value => some value
  | _ => none

def stringsOf? : Json → Option (List String)
  | .array items => items.mapM stringOf?
  | _ => none

/-- The draft in which a field holds a value. -/
def Draft.take (draft : Draft) (field : Field) (value : Json) : Option Draft :=
  match field with
  | .version => (versionOf? value).map fun version => { draft with version := some version }
  | .severity => (severityOf? value).map fun severity => { draft with severity := some severity }
  | .newline => (newlineOf? value).map fun newline => { draft with newline := some newline }
  | .extensions => (stringsOf? value).map fun extensions => { draft with extensions := some extensions }
  | .ignore => (stringsOf? value).map fun ignore => { draft with ignore := some ignore }

/-- The draft in which the fields hold the values of members. Each key must name a field that holds none yet. -/
def Draft.takeAll : List (String × Json) → Draft → Option Draft
  | [], draft => some draft
  | (key, value) :: members, draft =>
    (Field.ofName? key).bind fun field =>
      if draft.has field then none else (draft.take field value).bind (takeAll members)

namespace JsonForm

open Json (Tokens)

theorem toOption_readVersion (value : Json) (rest : Tokens) :
    (readVersion (value.push rest)).toOption = (versionOf? value).map fun version => (version, rest) := by
  cases value with
  | number number =>
    cases number with
    | int value =>
      simp only [Json.push, readVersion, versionOf?]
      split <;> rfl
    | float => rfl
  | _ => rfl

theorem toOption_severityNamed (name : String) (stop : Nat) :
    (severityNamed name stop).toOption = Severity.ofName? name := by
  unfold severityNamed
  cases Severity.ofName? name <;> rfl

theorem toOption_readSeverity (value : Json) (rest : Tokens) :
    (readSeverity (value.push rest)).toOption = (severityOf? value).map fun severity => (severity, rest) := by
  cases value with
  | string name => simp only [Json.push, readSeverity, severityOf?, toOption_map, toOption_severityNamed]
  | object members =>
    cases members with
    | nil => rfl
    | cons member more =>
      obtain ⟨name, value⟩ := member
      have named := toOption_severityNamed name 0
      simp only [Json.push, Json.pushMembers, if_true, readSeverity, readVariant]
      -- only an object that ends behind a null is read to its end
      cases value with
      | null =>
        cases more with
        | nil =>
          rw [severityOf?, ← named]
          cases severityNamed name 0 <;> rfl
        | cons => cases severityNamed name 0 <;> rfl
      | _ => cases severityNamed name 0 <;> rfl
  | _ => rfl

/-- What is not null is read as a value first. -/
theorem toOption_readNewline_value (tokens : Tokens) (value : ∀ start stop rest, tokens ≠ .next .null start stop rest) :
    (readNewline tokens).toOption =
      (Json.readValue (Json.depthLimit - 1) tokens).toOption.bind fun read =>
        (NewlineOption.ofJson read.1).toOption.map fun option => (some option, read.2) := by
  unfold readNewline
  split
  · exact absurd rfl (value _ _ _)
  · cases Json.readValue (Json.depthLimit - 1) tokens with
    | error => rfl
    | ok read =>
      simp only [Except.toOption, Option.bind_some]
      cases NewlineOption.ofJson read.1 <;> rfl

theorem toOption_readNewline (value : Json) (rest : Tokens) (keyed : value.Keyed) :
    (readNewline (value.push rest)).toOption = (newlineOf? value).map fun newline => (newline, rest) := by
  by_cases null : value = .null
  · subst null
    rfl
  · have read := Json.rereads (Json.depthLimit - 1) value rest
    have unsorted := NewlineOption.toOption_ofJson_sorted value keyed
    have taken : newlineOf? value = (NewlineOption.ofJson value).toOption.map some := by
      cases value <;> first | rfl | exact absurd rfl null
    have reader := toOption_readNewline_value (value.push rest) fun _ _ _ same => by
      cases value <;> first | exact null rfl | cases same
    rw [reader, read, taken]
    by_cases shallow : value.nesting < Json.depthLimit - 1
    · rw [if_pos shallow, Option.bind_some, unsorted, Option.map_map]
      rfl
    · -- an option is flat, so what is nested too deep is none
      have refused : (NewlineOption.ofJson value).toOption = none := by
        cases result : NewlineOption.ofJson value with
        | error => rfl
        | ok option =>
          have flat := NewlineOption.nesting_of_ofJson value option keyed result
          exact absurd (Nat.lt_of_le_of_lt flat (by decide)) shallow
      rw [if_neg shallow, refused]
      rfl

theorem toOption_readStringItems (fuel : Nat) (first : Bool) (items : List Json) (rest : Tokens)
    (enough : items.length < fuel) :
    (readStringItems fuel first (Json.pushItems items first (.next .closeArray 0 0 rest))).toOption =
      (items.mapM stringOf?).map fun values => (values, .next .closeArray 0 0 rest) := by
  induction items generalizing fuel first with
  | nil =>
    obtain ⟨fuel, rfl⟩ := Nat.exists_eq_add_one_of_ne_zero (Nat.ne_zero_of_lt enough)
    rfl
  | cons item items ih =>
    obtain ⟨fuel, rfl⟩ := Nat.exists_eq_add_one_of_ne_zero (Nat.ne_zero_of_lt enough)
    have tail := ih fuel false (Nat.lt_of_succ_lt_succ enough)
    rw [readStringItems, Json.nextItem?_pushItems, List.mapM_cons]
    cases item with
    | string value =>
      simp only [Json.push, stringOf?]
      rcases cases_of_toOption tail with ⟨other, trouble, failed⟩ | ⟨values, strings, read⟩
      · rw [other, failed]
        rfl
      · rw [strings, read]
        rfl
    | _ => rfl

theorem toOption_readStrings (value : Json) (rest : Tokens) :
    (readStrings (value.push rest)).toOption = (stringsOf? value).map fun values => (values, rest) := by
  cases value with
  | array items =>
    have inside := toOption_readStringItems _ true items rest
      (Json.length_lt_count_pushItems items true (.next .closeArray 0 0 rest))
    simp only [Json.push, readStrings, stringsOf?]
    rcases cases_of_toOption inside with ⟨other, trouble, failed⟩ | ⟨values, strings, read⟩
    · rw [other, failed]
      rfl
    · rw [strings, read]
      rfl
  | _ => rfl

/-- A reader takes from the tokens of a value what the field takes. -/
theorem toOption_readField (draft : Draft) (field : Field) (value : Json) (rest : Tokens) (keyed : value.Keyed) :
    (readField draft field (value.push rest)).toOption = (draft.take field value).map fun draft => (draft, rest) := by
  cases field <;>
    simp only [readField, Draft.take, toOption_map, toOption_readVersion, toOption_readSeverity,
      toOption_readNewline _ _ keyed, toOption_readStrings, Option.map_map] <;> rfl

/-- One member is taken by the field that its key names. -/
theorem toOption_readFields_pushMembers (fuel : Nat) (first : Bool) (draft : Draft) (key : String) (value : Json)
    (members : List (String × Json)) (rest : Tokens) (keyed : value.Keyed) :
    (readFields (fuel + 1) first draft (Json.pushMembers ((key, value) :: members) first rest)).toOption =
      (Field.ofName? key).bind fun field =>
        if draft.has field then none
        else (draft.take field value).bind fun next =>
          (readFields fuel false next (Json.pushMembers members false rest)).toOption := by
  simp only [readFields, Json.nextKey?_pushMembers, Json.colon]
  cases Field.ofName? key with
  | none => rfl
  | some field =>
    have taken := toOption_readField draft field value (Json.pushMembers members false rest) keyed
    simp only [Option.bind_some]
    by_cases held : draft.has field
    · simp [held, Except.toOption]
    · rw [if_neg held, if_neg held]
      rcases cases_of_toOption taken with ⟨refused, trouble, failed⟩ | ⟨next, holds, read⟩
      · rw [refused, failed]
        rfl
      · rw [holds, read]
        rfl

/-- The members of an object are taken one after another. -/
theorem toOption_readFields (fuel : Nat) (first : Bool) (draft : Draft) (members : List (String × Json)) (rest : Tokens)
    (enough : members.length < fuel) (keyed : ∀ member ∈ members, member.2.Keyed) :
    (readFields fuel first draft (Json.pushMembers members first (.next .closeObject 0 0 rest))).toOption =
      (Draft.takeAll members draft).map fun draft => (draft, .next .closeObject 0 0 rest) := by
  induction members generalizing fuel first draft with
  | nil =>
    obtain ⟨fuel, rfl⟩ := Nat.exists_eq_add_one_of_ne_zero (Nat.ne_zero_of_lt enough)
    rfl
  | cons member members ih =>
    obtain ⟨key, value⟩ := member
    obtain ⟨fuel, rfl⟩ := Nat.exists_eq_add_one_of_ne_zero (Nat.ne_zero_of_lt enough)
    have tail (next : Draft) := ih fuel false next (Nat.lt_of_succ_lt_succ enough)
      fun other inside => keyed other (List.mem_cons_of_mem _ inside)
    rw [toOption_readFields_pushMembers fuel first draft key value members _ (keyed (key, value) List.mem_cons_self),
      Draft.takeAll]
    simp only [tail]
    cases Field.ofName? key with
    | none => rfl
    | some field =>
      simp only [Option.bind_some]
      by_cases held : draft.has field
      · simp [held]
      · rw [if_neg held, if_neg held, Option.map_bind]
        rfl

end JsonForm

/-- An object is read as the config of what its members leave in the fields. -/
theorem toOption_ofJson_object (members : List (String × Json)) (keyed : (Json.object members).Keyed) :
    (ofJson (.object members)).toOption = (Draft.takeAll members .empty).map Draft.finish := by
  have inside := JsonForm.toOption_readFields _ true .empty members (.finish 0)
    (Json.length_lt_count_pushMembers members true (.next .closeObject 0 0 (.finish 0))) keyed.member
  simp only [ofJson, Json.toTokens, Json.push, JsonForm.decode, JsonForm.readConfig]
  rcases cases_of_toOption inside with ⟨refused, trouble, failed⟩ | ⟨draft, taken, read⟩
  · rw [refused, failed]
    rfl
  · rw [taken, read]
    rfl

/-! ### Which objects load -/

/-- A value loads if it is read as a config of the version that is supported. -/
def Loads (value : Json) : Prop := ∃ config, ofJson value = .ok config ∧ config.checkVersion = .ok ()

/-- The values that a field takes in a config that loads. -/
def Field.Accepts : Field → Json → Prop
  | .version, value => versionOf? value = some 1
  | .severity, value => (severityOf? value).isSome
  | .newline, value => (newlineOf? value).isSome
  | .extensions, value | .ignore, value => (stringsOf? value).isSome

theorem Field.ofName?_eq_some_iff (name : String) (field : Field) : ofName? name = some field ↔ field.name = name := by
  constructor
  · intro found
    simpa using List.find?_some found
  · intro named
    subst named
    cases field <;> decide

theorem checkVersion_eq_ok_iff (config : Config) : config.checkVersion = .ok () ↔ config.version = 1 := by
  unfold checkVersion
  by_cases supported : config.version = 1 <;> simp [supported]

namespace Draft

theorem has_take (draft next : Draft) (field other : Field) (value : Json)
    (taken : draft.take field value = some next) :
    next.has other = (decide (other = field) || draft.has other) := by
  cases field <;> obtain ⟨content, -, rfl⟩ := Option.map_eq_some_iff.mp taken <;> cases other <;> rfl

/-- A field that is taken leaves a supported version if it accepts its value and the version was supported before. -/
theorem exists_take_iff (draft : Draft) (field : Field) (value : Json) (fresh : draft.has field = false) :
    (∃ next, draft.take field value = some next ∧ next.finish.version = 1) ↔
      draft.finish.version = 1 ∧ field.Accepts value := by
  cases field with
  | version =>
    have unset : draft.version = none := by simpa [has] using fresh
    rw [take, exists_map_iff]
    simp [finish, Field.Accepts, unset, default]
  | severity | newline | extensions | ignore =>
    rw [take, exists_map_iff]
    simp [finish, Field.Accepts, Option.isSome_iff_exists, and_comm]

/-- The members of an object leave a supported version if each of them is accepted by the field that its key names. -/
theorem exists_takeAll_iff (members : List (String × Json)) (draft : Draft) (distinct : (members.map Prod.fst).Nodup)
    (fresh : ∀ field, draft.has field → field.name ∉ members.map Prod.fst) :
    (∃ last, takeAll members draft = some last ∧ last.finish.version = 1) ↔
      draft.finish.version = 1 ∧
      ∀ member ∈ members, ∃ field, Field.ofName? member.1 = some field ∧ field.Accepts member.2 := by
  induction members generalizing draft with
  | nil => simp [takeAll]
  | cons member members ih =>
    obtain ⟨key, value⟩ := member
    rw [List.map_cons, List.nodup_cons] at distinct
    rw [List.forall_mem_cons, takeAll]
    cases named : Field.ofName? key with
    | none => simp
    | some field =>
      have key_eq := (Field.ofName?_eq_some_iff key field).mp named
      have absent : draft.has field = false := by
        rw [Bool.eq_false_iff]
        intro held
        exact fresh field held (by simp [key_eq])
      -- the fields that hold something after this member are not named by the others
      have run (next : Draft) (taken : draft.take field value = some next) := ih next distinct.2 fun other held => by
        rw [has_take draft next field other value taken, Bool.or_eq_true, decide_eq_true_eq] at held
        rcases held with rfl | held
        · exact key_eq ▸ distinct.1
        · exact fun inside => fresh other held (List.mem_cons_of_mem _ inside)
      simp only [Option.bind_some, absent, Bool.false_eq_true, if_false, Option.some.injEq, exists_eq_left']
      calc
        (∃ last, (draft.take field value).bind (takeAll members) = some last ∧ last.finish.version = 1)
            ↔ ∃ next, draft.take field value = some next ∧
                ∃ last, takeAll members next = some last ∧ last.finish.version = 1 := by
              cases draft.take field value <;> simp
        _ ↔ ∃ next, draft.take field value = some next ∧ next.finish.version = 1 ∧
              ∀ member ∈ members, ∃ field, Field.ofName? member.1 = some field ∧ field.Accepts member.2 := by
              constructor
              · rintro ⟨next, taken, rest⟩
                exact ⟨next, taken, (run next taken).mp rest⟩
              · rintro ⟨next, taken, rest⟩
                exact ⟨next, taken, (run next taken).mpr rest⟩
        _ ↔ _ := by
              rw [← and_assoc, ← exists_take_iff draft field value absent]
              simp only [← and_assoc, exists_and_right]

end Draft

theorem loads_object_iff (members : List (String × Json)) (keyed : (Json.object members).Keyed) :
    Loads (.object members) ↔
      ∀ member ∈ members, ∃ field, Field.ofName? member.1 = some field ∧ field.Accepts member.2 := by
  have taken := Draft.exists_takeAll_iff members .empty keyed.distinct fun field held => by cases field <;> cases held
  have read := toOption_ofJson_object members keyed
  calc
    Loads (.object members)
        ↔ ∃ config, (ofJson (.object members)).toOption = some config ∧ config.version = 1 := by
          simp only [Loads, toOption_eq_some_iff, checkVersion_eq_ok_iff]
    _ ↔ ∃ last, Draft.takeAll members .empty = some last ∧ last.finish.version = 1 := by
          rw [read, exists_map_iff]
    _ ↔ _ := taken.trans (and_iff_right rfl)

end Config

end Prologue
