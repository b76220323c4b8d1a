import Prologue.Config.Encoding
import Prologue.Proofs.ConfigReading

/-! Writing a config and reading it again. Each field takes back what is written for it, and the one member that can be
left out is read as its default. -/

namespace Prologue

theorem Severity.ofName?_text (severity : Severity) : Severity.ofName? severity.text = some severity := by
  cases severity <;> decide

theorem NewlineOption.ofJson_toJson (option : NewlineOption) : ofJson option.toJson = .ok option := by
  cases option with
  | uniform mode =>
    have named := (Mode.ofText?_eq_some_iff mode.text mode).mpr rfl
    simp only [toJson, ofJson, named]
  | split before after =>
    rw [toJson, Policy.toJson, ofJson_object_eq_ok_iff]
    refine ⟨?_, before, after, rfl, rfl, rfl⟩
    intro key
    rw [ne_eq, Json.lookup_eq_none_iff, Decidable.not_not]
    simp

theorem NewlineOption.keyed_toJson (option : NewlineOption) : option.toJson.Keyed := by
  cases option with
  | uniform mode => exact .string _
  | split before after =>
    refine .object _ (by simp) ?_
    simp only [List.forall_mem_cons]
    exact ⟨.string _, .string _, by simp⟩

namespace Config

theorem versionOf?_nat (version : Nat) (fits : version < powerOfTwo 32) : versionOf? (.nat version) = some version := by
  rw [Json.nat, versionOf?, if_pos ⟨by omega, by omega⟩, Int.toNat_natCast]

theorem severityOf?_text (severity : Severity) : severityOf? (.string severity.text) = some severity :=
  severity.ofName?_text

theorem newlineOf?_toJson (option : NewlineOption) : newlineOf? option.toJson = some (some option) := by
  have read := congrArg Except.toOption option.ofJson_toJson
  cases option with
  | uniform mode => exact congrArg (Option.map some) read
  | split before after => exact congrArg (Option.map some) read

theorem stringsOf?_map (texts : List String) : stringsOf? (.array (texts.map .string)) = some texts := by
  rw [stringsOf?]
  induction texts with
  | nil => rfl
  | cons text texts ih =>
    rw [List.map_cons, List.mapM_cons, ih]
    rfl

theorem keyed_strings (texts : List String) : (Json.array (texts.map .string)).Keyed := by
  refine .array _ fun item member => ?_
  obtain ⟨text, -, rfl⟩ := List.mem_map.mp member
  exact .string text

namespace Draft

theorem takeAll_append (front back : List (String × Json)) (draft : Draft) :
    takeAll (front ++ back) draft = (takeAll front draft).bind (takeAll back) := by
  induction front generalizing draft with
  | nil => rfl
  | cons member front ih =>
    obtain ⟨key, value⟩ := member
    rw [List.cons_append, takeAll, takeAll, Option.bind_assoc]
    congr 1
    funext field
    by_cases held : draft.has field
    · simp only [held, if_true, Option.bind_none]
    · rw [if_neg held, if_neg held, Option.bind_assoc]
      exact congrArg _ (funext ih)

/-- A member whose key names a field that holds nothing yet is taken by that field. -/
theorem takeAll_member (draft : Draft) (field : Field) (value : Json) (members : List (String × Json))
    (fresh : draft.has field = false) :
    takeAll ((field.name, value) :: members) draft = (draft.take field value).bind (takeAll members) := by
  have named := (Field.ofName?_eq_some_iff field.name field).mpr rfl
  rw [takeAll, named, Option.bind_some, if_neg (by simp [fresh])]

end Draft

/-- The members of the JSON form, under the names of their fields. -/
def members (config : Config) : List (String × Json) :=
  [(Field.version.name, .nat config.version), (Field.severity.name, .string config.severity.text)] ++
  (config.newline.map fun option => (Field.newline.name, option.toJson)).toList ++
  [(Field.extensions.name, .array (config.extensions.map .string)),
    (Field.ignore.name, .array (config.ignore.map .string))]

theorem toJson_eq (config : Config) : config.toJson = .object config.members := by
  unfold toJson members
  cases config.newline <;> rfl

theorem keyed_toJson (config : Config) : config.toJson.Keyed := by
  rw [toJson_eq, members]
  have extensions := keyed_strings config.extensions
  have ignore := keyed_strings config.ignore
  cases config.newline with
  | none =>
    refine .object _ (by simp [Field.name]) ?_
    simp only [Option.map_none, Option.toList_none, List.append_nil, List.cons_append, List.nil_append,
      List.forall_mem_cons]
    exact ⟨.number _, .string _, extensions, ignore, by simp⟩
  | some option =>
    refine .object _ (by simp [Field.name]) ?_
    simp only [Option.map_some, Option.toList_some, List.cons_append, List.nil_append, List.forall_mem_cons]
    exact ⟨.number _, .string _, option.keyed_toJson, extensions, ignore, by simp⟩

/-- Each member is taken by the field it was written for, and only the option can be left to its default. -/
theorem takeAll_members (config : Config) (fits : config.version < powerOfTwo 32) :
    (Draft.takeAll config.members .empty).map Draft.finish = some config := by
  have version := versionOf?_nat config.version fits
  have severity := severityOf?_text config.severity
  have extensions := stringsOf?_map config.extensions
  have ignore := stringsOf?_map config.ignore
  have front : Draft.takeAll [(Field.version.name, .nat config.version),
      (Field.severity.name, .string config.severity.text)] .empty =
      some ⟨some config.version, some config.severity, none, none, none⟩ := by
    rw [Draft.takeAll_member _ .version _ _ rfl, Draft.take, version, Option.map_some, Option.bind_some,
      Draft.takeAll_member _ .severity _ _ rfl, Draft.take, severity, Option.map_some, Option.bind_some]
    rfl
  have back (newline : Option (Option NewlineOption)) :
      Draft.takeAll [(Field.extensions.name, .array (config.extensions.map .string)),
        (Field.ignore.name, .array (config.ignore.map .string))]
        ⟨some config.version, some config.severity, newline, none, none⟩ =
      some ⟨some config.version, some config.severity, newline, some config.extensions, some config.ignore⟩ := by
    rw [Draft.takeAll_member _ .extensions _ _ rfl, Draft.take, extensions, Option.map_some, Option.bind_some,
      Draft.takeAll_member _ .ignore _ _ rfl, Draft.take, ignore, Option.map_some, Option.bind_some]
    rfl
  rw [members, Draft.takeAll_append, Draft.takeAll_append, front, Option.bind_some]
  cases option : config.newline with
  | none =>
    rw [Option.map_none, Option.toList_none, Draft.takeAll, Option.bind_some, back]
    cases config
    cases option
    rfl
  | some written =>
    rw [Option.map_some, Option.toList_some, Draft.takeAll_member _ .newline _ _ rfl, Draft.take, newlineOf?_toJson,
      Option.map_some, Option.bind_some, Draft.takeAll, Option.bind_some, back]
    cases config
    cases option
    rfl

/-- A config whose version is one of 32 bits is read back as it was written. -/
theorem ofJson_toJson (config : Config) (fits : config.version < powerOfTwo 32) :
    ofJson config.toJson = .ok config := by
  have keyed := config.keyed_toJson
  rw [toJson_eq] at keyed ⊢
  rw [← toOption_eq_some_iff, toOption_ofJson_object _ keyed, takeAll_members config fits]

/-- A value loads as a config: it is read as that config, and the version is supported. -/
def LoadsAs (value : Json) (config : Config) : Prop := ofJson value = .ok config ∧ config.checkVersion = .ok ()

theorem loadsAs_toJson (config : Config) (supported : config.version = 1) : LoadsAs config.toJson config := by
  refine ⟨ofJson_toJson config ?_, (checkVersion_eq_ok_iff config).mpr supported⟩
  rw [supported]
  decide

theorem version_of_ofJsonText (text : String) (config : Config) (read : ofJsonText text = .ok config) :
    config.version = 1 := by
  unfold ofJsonText at read
  split at read
  · next decoded _ =>
    rw [checked] at read
    cases accepted : decoded.checkVersion with
    | error => rw [accepted] at read; cases read
    | ok =>
      rw [accepted] at read
      cases read
      exact (checkVersion_eq_ok_iff decoded).mp accepted
  · cases read

/-- A config of the supported version is loaded back as it was written; so a config that was loaded, from an object or
from a text, is the same after it is written and loaded again. -/
theorem written_loads :
    (∀ config : Config, config.version = 1 → LoadsAs config.toJson config) ∧
    (∀ members config, LoadsAs (.object members) config → LoadsAs config.toJson config) ∧
    ∀ text config, ofJsonText text = .ok config → LoadsAs config.toJson config := by
  refine ⟨loadsAs_toJson, ?_, ?_⟩
  · intro members config loaded
    exact loadsAs_toJson config ((checkVersion_eq_ok_iff config).mp loaded.2)
  · intro text config read
    exact loadsAs_toJson config (version_of_ofJsonText text config read)

/-- A config with a mode for each side, strings that are no extensions and nothing to ignore. -/
def sparseConfig : Config :=
  { version := 1
    severity := .warning
    newline := some (.split .never .always)
    extensions := ["", "Js", "\"\\"]
    ignore := [] }

/-- The config of a file that sets nothing but the mode. -/
def neverConfig : Config := { default with newline := some (.uniform .never) }

theorem written_loads_sparseConfig :
    LoadsAs sparseConfig.toJson sparseConfig ∧
    LoadsAs (.object [("newline", .string "never")]) neverConfig ∧ LoadsAs neverConfig.toJson neverConfig := by
  have loaded : LoadsAs (.object [("newline", .string "never")]) neverConfig := ⟨rfl, rfl⟩
  exact ⟨written_loads.1 sparseConfig rfl, loaded, written_loads.2.1 _ _ loaded⟩

end Config

end Prologue
