import Prologue.Config.Issue
import Prologue.Proofs.ConfigReading

/-! Checking a config against reading it. Both look at each member of an object by itself, so they differ on an object
only where they differ on one member, and they do so on a short severity, on a severity that is an object and on an
option that is null. -/

namespace Prologue.Config

/-- Problems of which none is an error. -/
def Clean (problems : List Problem) : Prop := ∀ problem ∈ problems, problem.level ≠ .error

@[simp]
theorem clean_nil : Clean [] := by
  intro problem member
  cases member

@[simp]
theorem clean_append (front back : List Problem) : Clean (front ++ back) ↔ Clean front ∧ Clean back :=
  List.forall_mem_append

@[simp]
theorem clean_singleton (problem : Problem) : Clean [problem] ↔ problem.level ≠ .error := by
  simp [Clean]

/-! ### One member after another -/

/-- The check of a field. -/
def Field.check : Field → Json → List Problem
  | .version => checkVersionValue
  | .severity => checkSeverity
  | .newline => checkNewline
  | .extensions => checkExtensions
  | .ignore => checkIgnore

theorem clean_checkField (found : Option Json) (check : Json → List Problem) :
    Clean (checkField found check) ↔ ∀ value, found = some value → Clean (check value) := by
  cases found <;> simp [checkField]

theorem clean_unknownKeys (keys : List String) :
    Clean ((keys.filter fun key => !fieldNames.contains key).map .unknownKey) ↔ ∀ key ∈ keys, key ∈ fieldNames := by
  constructor
  · intro clean key inside
    by_cases known : key ∈ fieldNames
    · exact known
    · exact absurd rfl (clean (.unknownKey key) (by simp [inside, known]))
  · intro known problem member
    obtain ⟨key, unknown, rfl⟩ := List.mem_map.mp member
    rw [List.mem_filter] at unknown
    simp [known key unknown.1] at unknown

theorem clean_checkMembers (members : List (String × Json)) :
    Clean (checkMembers members) ↔
      (∀ key ∈ members.map Prod.fst, key ∈ fieldNames) ∧
      ∀ (field : Field) value, Json.lookup field.name members = some value → Clean (field.check value) := by
  have silent : Clean (if (Json.lookup "newline" members).isNone then [.noNewline] else []) := by
    split <;> simp [Problem.level]
  unfold checkMembers
  simp only [clean_append, clean_unknownKeys, clean_checkField]
  constructor
  · rintro ⟨⟨⟨⟨⟨⟨known, newline⟩, version⟩, severity⟩, extensions⟩, ignore⟩, -⟩
    refine ⟨known, fun field => ?_⟩
    cases field with
    | version => exact version
    | severity => exact severity
    | newline => exact newline
    | extensions => exact extensions
    | ignore => exact ignore
  · rintro ⟨known, each⟩
    exact ⟨⟨⟨⟨⟨⟨known, each .newline⟩, each .version⟩, each .severity⟩, each .extensions⟩, each .ignore⟩, silent⟩

theorem mem_fieldNames_iff (key : String) : key ∈ fieldNames ↔ ∃ field, Field.ofName? key = some field := by
  simp only [fieldNames, List.mem_map, Field.ofName?_eq_some_iff]
  constructor
  · rintro ⟨field, -, named⟩
    exact ⟨field, named⟩
  · rintro ⟨field, named⟩
    exact ⟨field, by cases field <;> decide, named⟩

/-- An object has no errors if the field that each key names finds none in the value of the member. -/
theorem clean_object_iff (members : List (String × Json)) (distinct : (members.map Prod.fst).Nodup) :
    Clean (problems (.object members)) ↔
      ∀ member ∈ members, ∃ field, Field.ofName? member.1 = some field ∧ Clean (field.check member.2) := by
  rw [problems, clean_checkMembers]
  constructor
  · rintro ⟨known, each⟩ ⟨key, value⟩ member
    obtain ⟨field, named⟩ := (mem_fieldNames_iff key).mp (known key (List.mem_map.mpr ⟨_, member, rfl⟩))
    refine ⟨field, named, each field value ?_⟩
    rw [(Field.ofName?_eq_some_iff key field).mp named, Json.lookup_eq_some_iff distinct]
    exact member
  · intro each
    constructor
    · intro key inside
      obtain ⟨member, belongs, rfl⟩ := List.mem_map.mp inside
      obtain ⟨field, named, -⟩ := each member belongs
      exact (mem_fieldNames_iff member.1).mpr ⟨field, named⟩
    · intro field value found
      obtain ⟨other, named, clean⟩ := each _ ((Json.lookup_eq_some_iff distinct field.name value).mp found)
      rw [(Field.ofName?_eq_some_iff field.name field).mpr rfl] at named
      cases named
      exact clean

/-! ### The values of one field -/

theorem versionOf?_eq_one_iff (value : Json) : versionOf? value = some 1 ↔ value = .number (.int 1) := by
  constructor
  · intro read
    cases value with
    | number number =>
      cases number with
      | int version =>
        rw [versionOf?] at read
        split at read
        · have natural := Option.some.inj read
          have one : version = 1 := by omega
          rw [one]
        · cases read
      | float => cases read
    | _ => cases read
  · rintro rfl
    decide

theorem clean_checkVersionValue (value : Json) : Clean (checkVersionValue value) ↔ versionOf? value = some 1 := by
  rw [versionOf?_eq_one_iff]
  unfold checkVersionValue
  split <;> simp_all [Problem.level]

theorem clean_checkSeverity (value : Json) :
    Clean (checkSeverity value) ↔ ∃ text, value = .string text ∧ (Severity.ofText? text).isSome := by
  cases value with
  | string text =>
    simp only [checkSeverity, Json.string.injEq, exists_eq_left']
    by_cases named : (Severity.ofText? text).isSome <;> simp [named, Problem.level]
  | _ => simp [checkSeverity, Problem.level]

theorem clean_checkNewline (value : Json) :
    Clean (checkNewline value) ↔ (NewlineOption.ofJson value).toOption.isSome := by
  unfold checkNewline
  cases NewlineOption.ofJson value <;> simp [Problem.level, Except.toOption]

theorem isSome_mapM_stringOf? (items : List Json) : (items.mapM stringOf?).isSome = items.all isString := by
  induction items with
  | nil => rfl
  | cons item items ih =>
    rw [List.mapM_cons, List.all_cons, ← ih]
    cases item with
    | string value => cases items.mapM stringOf? <;> rfl
    | _ => rfl

theorem clean_checkExtension (value : Json) : Clean (checkExtension value) ↔ isString value := by
  cases value with
  | string extension =>
    simp only [checkExtension, isString, iff_true]
    split <;> simp [Problem.level]
  | _ => simp [checkExtension, isString, Problem.level]

theorem clean_flatMap (items : List Json) (check : Json → List Problem) :
    Clean (items.flatMap check) ↔ ∀ item ∈ items, Clean (check item) :=
  List.forall_mem_flatMap

theorem clean_checkExtensions (value : Json) : Clean (checkExtensions value) ↔ (stringsOf? value).isSome := by
  cases value with
  | array items =>
    simp only [checkExtensions, stringsOf?, isSome_mapM_stringOf?, clean_flatMap, clean_checkExtension,
      List.all_eq_true]
  | _ => simp [checkExtensions, stringsOf?, Problem.level]

theorem clean_checkIgnore (value : Json) : Clean (checkIgnore value) ↔ (stringsOf? value).isSome := by
  cases value with
  | array items =>
    simp only [checkIgnore, stringsOf?, isSome_mapM_stringOf?]
    by_cases strings : items.all isString <;> simp [strings, Problem.level]
  | _ => simp [checkIgnore, stringsOf?, Problem.level]

/-- The check of a field agrees with its reader on all but three kinds of values. -/
theorem clean_check_iff (field : Field) (value : Json)
    (severity : field = .severity → value ≠ .string "warn" ∧ ∀ members, value ≠ .object members)
    (newline : field = .newline → value ≠ .null) :
    Clean (field.check value) ↔ field.Accepts value := by
  cases field with
  | version => exact clean_checkVersionValue value
  | severity =>
    obtain ⟨long, noObject⟩ := severity rfl
    rw [Field.check, clean_checkSeverity, Field.Accepts]
    cases value with
    | string text =>
      have named : Severity.ofText? text = Severity.ofName? text := if_neg fun short => long (by rw [short])
      simp [severityOf?, named]
    | object members => exact absurd rfl (noObject members)
    | _ => simp [severityOf?]
  | newline =>
    rw [Field.check, clean_checkNewline, Field.Accepts]
    cases value with
    | null => exact absurd rfl (newline rfl)
    | _ => simp [newlineOf?]
  | extensions => exact clean_checkExtensions value
  | ignore => exact clean_checkIgnore value

/-- Of the values that the check of a field passes, its reader refuses only the short severity. -/
theorem accepts_iff_of_clean (field : Field) (value : Json) (clean : Clean (field.check value)) :
    field.Accepts value ↔ ¬ (field = .severity ∧ value = .string "warn") := by
  by_cases short : field = .severity ∧ value = .string "warn"
  · obtain ⟨rfl, rfl⟩ := short
    simp only [Field.Accepts, not_true, and_self, iff_false]
    decide
  · have agrees := clean_check_iff field value ?_ ?_
    · exact iff_of_true (agrees.mp clean) short
    · rintro rfl
      refine ⟨fun same => short ⟨rfl, same⟩, ?_⟩
      obtain ⟨text, rfl, -⟩ := (clean_checkSeverity value).mp clean
      intro members same
      cases same
    · rintro rfl rfl
      cases (clean_checkNewline .null).mp clean

/-! ### Whole objects -/

/-- An object that is free of errors loads unless its severity has the short name of a warning. -/
theorem loads_iff_of_no_error (members : List (String × Json)) (keyed : (Json.object members).Keyed)
    (clean : ∀ problem ∈ problems (.object members), problem.level ≠ .error) :
    Loads (.object members) ↔ Json.lookup "severity" members ≠ some (.string "warn") := by
  have checked := (clean_object_iff members keyed.distinct).mp clean
  rw [loads_object_iff members keyed, ne_eq, Json.lookup_eq_some_iff keyed.distinct]
  constructor
  · intro accepted member
    obtain ⟨field, named, accepts⟩ := accepted _ member
    cases (Field.ofName?_eq_some_iff "severity" .severity).mpr rfl |>.symm.trans named
    obtain ⟨other, same, passed⟩ := checked _ member
    cases named.symm.trans same
    exact (accepts_iff_of_clean .severity _ passed).mp accepts ⟨rfl, rfl⟩
  · rintro long ⟨key, value⟩ member
    obtain ⟨field, named, passed⟩ := checked _ member
    refine ⟨field, named, (accepts_iff_of_clean field value passed).mpr ?_⟩
    rintro ⟨rfl, rfl⟩
    cases (Field.ofName?_eq_some_iff key .severity).mp named
    exact long member

/-- A config with a version, a severity and an option for each side. -/
def sampleMembers (version : Int) (severity : String) : List (String × Json) :=
  [("severity", .string severity), ("version", .number (.int version)),
    ("newline", .object [("before", .string "always"), ("after", .string "never")])]

theorem keyed_sampleMembers (version : Int) (severity : String) :
    (Json.object (sampleMembers version severity)).Keyed := by
  refine .object _ (by simp [sampleMembers]) ?_
  simp only [sampleMembers, List.forall_mem_cons]
  refine ⟨.string _, .number _, .object _ (by decide) ?_, by simp⟩
  simp only [List.forall_mem_cons]
  exact ⟨.string _, .string _, by simp⟩

theorem loads_sampleMembers : Loads (.object (sampleMembers 1 "error")) :=
  (loads_iff_of_no_error (sampleMembers 1 "error") (keyed_sampleMembers 1 "error") (by decide)).mpr
    (by simp [sampleMembers, Json.lookup])

/-- The short name passes the check, and the config is not read. -/
theorem not_loads_short_severity :
    (∀ problem ∈ problems (.object [("severity", .string "warn")]), problem.level ≠ .error) ∧
      ¬ Loads (.object [("severity", .string "warn")]) := by
  refine ⟨by decide, ?_⟩
  rintro ⟨config, read, -⟩
  cases read

/-- Where the severity is neither the short name of a warning nor an object and the option is not null, an object has
an error if and only if it does not load. -/
theorem exists_error_iff_not_loads (members : List (String × Json)) (keyed : (Json.object members).Keyed)
    (severity : ∀ value, Json.lookup "severity" members = some value →
      value ≠ .string "warn" ∧ ∀ inner, value ≠ .object inner)
    (newline : Json.lookup "newline" members ≠ some .null) :
    (∃ problem ∈ problems (.object members), problem.level = .error) ↔ ¬ Loads (.object members) := by
  have agrees : Clean (problems (.object members)) ↔ Loads (.object members) := by
    rw [clean_object_iff members keyed.distinct, loads_object_iff members keyed]
    refine forall₂_congr fun member inside => exists_congr fun field => and_congr_right fun named => ?_
    have found := (Json.lookup_eq_some_iff keyed.distinct member.1 member.2).mpr inside
    rw [← (Field.ofName?_eq_some_iff member.1 field).mp named] at found
    apply clean_check_iff
    · rintro rfl
      exact severity member.2 found
    · rintro rfl null
      exact newline (null ▸ found)
  rw [← agrees]
  simp [Clean]

theorem not_loads_sampleMembers : ¬ Loads (.object (sampleMembers 2 "warning")) := by
  refine (exists_error_iff_not_loads _ (keyed_sampleMembers 2 "warning") ?_ ?_).mp ?_
  · intro value found
    cases found
    exact ⟨by simp, fun inner same => by cases same⟩
  · intro null
    cases null
  · exact ⟨.badVersion (.number (.int 2)), List.mem_cons_self, rfl⟩

end Prologue.Config
