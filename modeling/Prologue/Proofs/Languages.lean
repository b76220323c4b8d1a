import Mathlib.Data.List.TakeWhile
import Prologue.Proofs.Extensions
import Prologue.Proofs.SyntaxFaults

/-! The language of a file that a walk lists. The walk goes by the name of the file and linting by its whole path. With
extensions that the check of a config lets pass, the name has a dot, and both look behind the last one. -/

namespace Prologue

namespace Language

theorem exists_last_dot (text : List Char) (dotted : '.' ∈ text) : ∃ front, text = front ++ '.' :: afterLastDot text ∧
    '.' ∉ afterLastDot text := by
  obtain ⟨back, front, split, dotless⟩ := List.eq_append_cons_of_mem (List.mem_reverse.mpr dotted)
  have whole : text = front.reverse ++ '.' :: back.reverse := by
    rw [← List.reverse_reverse text, split]
    simp
  have after : '.' ∉ back.reverse := fun inside => dotless (List.mem_reverse.mp inside)
  have found : afterLastDot text = back.reverse := by
    rw [whole, afterLastDot_append _ _ after]
  rw [found]
  exact ⟨front.reverse, whole, after⟩

/-- Nothing in front of a name with a dot changes its language. -/
theorem detect_of_dotted (path name : String) (front : List Char) (ends : path.toList = front ++ name.toList)
    (dotted : '.' ∈ name.toList) : detect path = detect name := by
  obtain ⟨stem, split, dotless⟩ := exists_last_dot name.toList dotted
  rw [split, ← List.append_assoc] at ends
  rw [detect, detect, ends, afterLastDot_append _ _ dotless]

end Language

theorem Path.dot_mem_of_extension? (name extension : String) (proper : IsEntryName name)
    (found : extension? name = some extension) : '.' ∈ name.toList := by
  rw [extension?, proper.fileName?, Option.bind_some] at found
  obtain ⟨after, dotted, -⟩ := Option.map_eq_some_iff.mp found
  unfold nameExtension? at dotted
  dsimp only at dotted
  split at dotted
  · next shorter =>
    by_contra dotless
    have all : name.toList.reverse.takeWhile (· ≠ '.') = name.toList.reverse := by
      rw [List.takeWhile_eq_self_iff]
      intro c member
      rw [decide_eq_true_iff]
      rintro rfl
      exact dotless (List.mem_reverse.mp member)
    rw [all, List.reverse_reverse] at shorter
    omega
  · cases dotted

namespace Config

/-- The extensions that an object lists; the default ones if it lists none. -/
def listedExtensions (members : List (String × Json)) : Json :=
  (Json.lookup "extensions" members).getD (.array (defaultExtensions.map .string))

/-- Without the warning, all extensions of a config are known. -/
theorem known_of_unwarned (config : Config) (members : List (String × Json))
    (given : listedExtensions members = .array (config.extensions.map .string))
    (unwarned : ∀ problem ∈ problems (.object members), problem.code ≠ "W001") :
    ∀ extension ∈ config.extensions, extension ∈ defaultExtensions := by
  intro extension member
  have listed : Json.string extension ∈ config.extensions.map .string := List.mem_map_of_mem member
  unfold listedExtensions at given
  cases found : Json.lookup "extensions" members with
  | none =>
    rw [found, Option.getD_none, Json.array.injEq] at given
    rw [← given, List.mem_map] at listed
    obtain ⟨known, default, same⟩ := listed
    cases same
    exact default
  | some value =>
    rw [found, Option.getD_some] at given
    by_contra unknown
    apply unwarned (.unknownExtension extension) _ rfl
    rw [problems, unknownExtension_mem_checkMembers]
    exact ⟨value, found, (unknownExtension_mem_checkExtensions extension value).mpr ⟨unknown, _, given, listed⟩⟩

/-- A file that is selected by a known extension has a dot in its name. -/
theorem dotted_of_selects (config : Config) (name : String) (proper : Path.IsEntryName name)
    (known : ∀ extension ∈ config.extensions, extension ∈ defaultExtensions) (selected : config.selects name = true) :
    '.' ∈ name.toList := by
  rw [selects, Bool.and_eq_true, acceptsExtension_iff] at selected
  obtain ⟨⟨accepted, member, alike⟩, -⟩ := selected
  cases own : Path.extension? name with
  | some extension => exact Path.dot_mem_of_extension? name extension proper own
  | none =>
    -- Such a file is accepted for the empty extension only.
    rw [own, Option.getD_none, ← lowered_eq_iff, lowered_eq_empty_iff] at alike
    subst alike
    exact absurd (known "" member) (by decide)

end Config

/-- A source in a known language fails only by its syntax. -/
theorem parseSource_error (language : Language) (source : String) (tree : Option Node) (error : Error)
    (known : language ≠ .unknown) (failed : parseSource language source tree = .error error) :
    ∃ fault, error = .source fault := by
  cases tree with
  | none =>
    cases language with
    | unknown => exact absurd rfl known
    | _ =>
      cases failed
      exact ⟨.noTree, rfl⟩
  | some root =>
    cases faults : root.faults source.toList with
    | nil =>
      rw [parseSource_of_nil language source root known faults] at failed
      cases failed
    | cons first rest =>
      rw [parseSource_of_head language source root known first (by rw [faults]; rfl)] at failed
      cases failed
      exact ⟨.malformed first, rfl⟩

/-- The texts of different kinds of errors begin with different letters. -/
theorem Error.message_ne_unsupportedLanguage (what : String) :
    (∀ fault, message (.file fault) ≠ message (.unsupportedLanguage what)) ∧
      ∀ fault, message (.source fault) ≠ message (.unsupportedLanguage what) := by
  have head (front back : String) (letter : Char) (first : front.toList.head? = some letter) :
      (front ++ back).toList.head? = some letter := by
    rw [String.toList_append, List.head?_append, first, Option.some_or]
  have unsupported : (message (.unsupportedLanguage what)).toList.head? = some 'U' := head _ what 'U' rfl
  refine ⟨fun fault same => ?_, fun fault same => ?_⟩
  · have file : (message (.file fault)).toList.head? = some 'I' := head _ fault.message 'I' rfl
    rw [same, unsupported] at file
    exact absurd file (by decide)
  · have source : (message (.source fault)).toList.head? = some 'C' := head _ fault.message 'C' rfl
    rw [same, unsupported] at source
    exact absurd source (by decide)

namespace FileTree

variable (files : FileTree)

/-- A file in a known language fails only by what it holds. -/
theorem parse_error (path : String) (error : Error) (known : Language.detect path ≠ .unknown)
    (failed : files.parse path = .error error) :
    (∃ fault, error = .file fault) ∨ ∃ fault, error = .source fault := by
  rw [parse, if_neg known] at failed
  cases read : files.read path with
  | error fault =>
    rw [read] at failed
    cases failed
    exact Or.inl ⟨fault, rfl⟩
  | ok found =>
    rw [read] at failed
    exact Or.inr (parseSource_error _ _ _ error known failed)

theorem supported_of_known (linter : Linter) (path : String) (known : Language.detect path ≠ .unknown) (what : String) :
    files.parse path ≠ .error (.unsupportedLanguage what) ∧
      (files.lintFile linter path).error ≠ some (Error.unsupportedLanguage what).message := by
  obtain ⟨file, source⟩ := Error.message_ne_unsupportedLanguage what
  constructor
  · intro refused
    obtain ⟨_, other⟩ | ⟨_, other⟩ := files.parse_error path _ known refused
    · cases other
    · cases other
  · unfold lintFile
    cases parsed : files.parse path with
    | ok _ => exact nofun
    | error error =>
      intro same
      have texts := Option.some.inj same
      obtain ⟨fault, rfl⟩ | ⟨fault, rfl⟩ := files.parse_error path error known parsed
      · exact file fault texts
      · exact source fault texts

/-- A file that a walk lists, under extensions that draw no warning and no error in a check, is linted in the language
that its name tells. It is known, so no such file is refused for its language. -/
theorem lintFile_listed (linter : Linter) (config : Config) (members : List (String × Json)) (path : String)
    (entries : List (String × Entry)) (file : String)
    (given : Config.listedExtensions members = .array (config.extensions.map .string))
    (passed : ∀ problem ∈ Config.problems (.object members), problem.code ≠ "W001" ∧ problem.code ≠ "E007")
    (proper : files.root.Proper) (there : files.resolve path = .ok (.directory entries))
    (listed : file ∈ walkDirectory config path entries) :
    (∃ name, Path.fileName? file = some name.toList ∧
      (files.lintFile linter file).language = Language.detect name) ∧
    (files.lintFile linter file).language ≠ .unknown ∧
    ∀ what, files.parse file ≠ .error (.unsupportedLanguage what) ∧
      (files.lintFile linter file).error ≠ some (Error.unsupportedLanguage what).message := by
  have properHere := files.resolve_proper path _ proper there
  obtain ⟨route, content, leads, follows, rfl⟩ :=
    (mem_walkDirectory config path entries (walked_entries config entries properHere) file).mp listed
  obtain ⟨-, name, last, selected⟩ := follows
  obtain ⟨folders, rfl⟩ := List.getLast?_eq_some_iff.mp last
  have properName := leads.names properHere name (List.mem_of_getLast? last)
  have extensions := config.known_of_unwarned members given fun problem member => (passed problem member).1
  have dotted := config.dotted_of_selects name properName extensions selected
  obtain ⟨front, ends⟩ := Path.exists_toList_under path folders name
  have language := Language.detect_of_dotted _ name front ends dotted
  have known := config.detect_of_selects name selected
  rw [← language] at known
  rw [files.language_lintFile]
  refine ⟨⟨name, ?_, language⟩, known, files.supported_of_known linter _ known⟩
  rw [Path.under, List.foldl_append]
  exact properName.fileName?_join _

/-- A directory whose name has a dot, with files that start with dots or have several. -/
def dottedEntries : List (String × Entry) :=
  [("..ts", .file .binary), (".ts", .file .binary), ("main.test.ts", .file .binary), ("ts", .file .binary)]

def dottedTree : FileTree := ⟨.directory [("v1.js", .directory dottedEntries)], []⟩

theorem proper_dottedTree : dottedTree.root.Proper := by
  have binary : (Entry.file .binary).Proper := .file .binary
  have inner : (Entry.directory dottedEntries).Proper := by
    refine .directory dottedEntries (by decide) (by decide) ?_
    simp only [dottedEntries, List.forall_mem_cons]
    exact ⟨binary, binary, binary, binary, nofun⟩
  exact .directory _ (by decide) (by decide) (List.forall_mem_singleton.mpr inner)

theorem lintFile_listed_dottedTree :
    Config.listedExtensions [("extensions", .array [.string "ts"])] = .array [.string "ts"] ∧
    dottedTree.resolve "v1.js" = .ok (.directory dottedEntries) ∧
    Path.under "v1.js" ["..ts"] ∈ walkDirectory (Config.forExtension "ts") "v1.js" dottedEntries ∧
    (dottedTree.lintFile (.ofConfig .default) (Path.under "v1.js" ["..ts"])).language ≠ .unknown ∧
    ∀ what, (dottedTree.lintFile (.ofConfig .default) (Path.under "v1.js" ["..ts"])).error ≠
      some (Error.unsupportedLanguage what).message := by
  have there : dottedTree.resolve "v1.js" = .ok (.directory dottedEntries) := by rfl
  have properHere := dottedTree.resolve_proper "v1.js" _ proper_dottedTree there
  have leads : (Entry.directory dottedEntries).LeadsTo ["..ts"] .binary :=
    .inside _ "..ts" _ _ _ List.mem_cons_self (.here _)
  have listed : Path.under "v1.js" ["..ts"] ∈ walkDirectory (Config.forExtension "ts") "v1.js" dottedEntries := by
    rw [under_mem_walkDirectory _ _ _ properHere _ .binary leads, Config.follows_singleton]
    decide
  obtain ⟨-, known, supported⟩ := lintFile_listed dottedTree (.ofConfig .default) (Config.forExtension "ts")
    [("extensions", .array [.string "ts"])] "v1.js" dottedEntries _ rfl (by decide) proper_dottedTree there listed
  exact ⟨rfl, there, listed, known, fun what => (supported what).2⟩

end FileTree

end Prologue
