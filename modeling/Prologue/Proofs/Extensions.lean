import Prologue.Config.Issue
import Prologue.Proofs.Walks

/-! The extensions of files and their letter case. A walk takes an extension that the config names in any letter case,
but the language of a file goes by its extension as it is written, and so does the warning about an extension that no
grammar reads. -/

namespace Prologue

/-- A text with its ASCII letters in lower case. -/
def lowered (text : String) : String := String.ofList (text.toList.map Char.toLower)

theorem lowered_eq_iff (a b : String) :
    lowered a = lowered b ↔ a.toList.map Char.toLower = b.toList.map Char.toLower := by
  unfold lowered
  exact String.ofList_inj

theorem lowered_eq_empty_iff (text : String) : lowered text = lowered "" ↔ text = "" := by
  rw [lowered_eq_iff]
  show text.toList.map Char.toLower = [] ↔ _
  rw [List.map_eq_nil_iff, String.toList_eq_nil_iff]

theorem lowered_of_mem_defaultExtensions (extension : String) (known : extension ∈ Config.defaultExtensions) :
    lowered extension = extension := by
  have all : Config.defaultExtensions.all fun extension => lowered extension = extension := by decide
  exact of_decide_eq_true (List.all_eq_true.mp all extension known)

/-- Known extensions are in lower case, so none of them is another one in a different letter case. -/
theorem eq_of_lowered (a b : String) (alike : lowered a = lowered b) (knownA : a ∈ Config.defaultExtensions)
    (knownB : b ∈ Config.defaultExtensions) : a = b := by
  rw [lowered_of_mem_defaultExtensions a knownA, lowered_of_mem_defaultExtensions b knownB] at alike
  exact alike

namespace Language

/-- A language is known by the extensions that a config has by default. -/
theorem ofExtension_eq_unknown_iff (extension : String) :
    ofExtension extension = .unknown ↔ extension ∉ Config.defaultExtensions := by
  constructor
  · intro unknown known
    have all : Config.defaultExtensions.all fun extension => ofExtension extension ≠ .unknown := by decide
    exact of_decide_eq_true (List.all_eq_true.mp all extension known) unknown
  · intro other
    simp only [Config.defaultExtensions, List.mem_cons, List.not_mem_nil, or_false, not_or] at other
    simp only [ofExtension, other, or_self, if_false]

theorem afterLastDot_append (front extension : List Char) (dotless : '.' ∉ extension) :
    afterLastDot (front ++ '.' :: extension) = extension := by
  have passed : ∀ c ∈ extension.reverse, decide (c ≠ '.') = true := by
    intro c member
    rw [decide_eq_true_iff]
    intro same
    exact dotless (same ▸ List.mem_reverse.mp member)
  unfold afterLastDot
  rw [List.reverse_append, List.reverse_cons, List.append_assoc, List.takeWhile_append_of_pos passed]
  simp

theorem detect_of_dot (text extension : String) (front : List Char)
    (ends : text.toList = front ++ '.' :: extension.toList) (dotless : '.' ∉ extension.toList) :
    detect text = ofExtension extension := by
  rw [detect, ends, afterLastDot_append front _ dotless, String.ofList_toList]

/-- The extension of a name, if it has one, tells its language. -/
theorem detect_of_extension? (name extension : String) (proper : Path.IsEntryName name)
    (found : Path.extension? name = some extension) : detect name = ofExtension extension := by
  rw [Path.extension?, proper.fileName?, Option.bind_some] at found
  obtain ⟨after, dotted, rfl⟩ := Option.map_eq_some_iff.mp found
  unfold Path.nameExtension? at dotted
  dsimp only at dotted
  split at dotted
  · cases dotted
    rfl
  · cases dotted

end Language

namespace Path

theorem exists_toList_join (path name : String) : ∃ front, (join path name).toList = front ++ name.toList := by
  unfold join
  split
  · exact ⟨[], rfl⟩
  · split
    · exact ⟨path.toList, String.toList_append⟩
    · exact ⟨(path ++ "/").toList, String.toList_append⟩

theorem exists_toList_under (path : String) (folders : List String) (name : String) :
    ∃ front, (under path (folders ++ [name])).toList = front ++ name.toList := by
  rw [under, List.foldl_append]
  exact exists_toList_join _ name

end Path

/-- A file of a directory that is reached through folders, by the stem and the extension of its name. -/
def spelledRoute (folders : List String) (stem extension : String) : List String :=
  folders ++ [stem ++ "." ++ extension]

theorem toList_dotted (stem extension : String) :
    (stem ++ "." ++ extension).toList = stem.toList ++ '.' :: extension.toList := by
  rw [String.toList_append, String.toList_append, List.append_assoc]
  rfl

theorem detect_under_spelledRoute (path : String) (folders : List String) (stem extension : String)
    (dotless : '.' ∉ extension.toList) :
    Language.detect (Path.under path (spelledRoute folders stem extension)) = Language.ofExtension extension := by
  obtain ⟨front, ends⟩ := Path.exists_toList_under path folders (stem ++ "." ++ extension)
  rw [toList_dotted, ← List.append_assoc] at ends
  exact Language.detect_of_dot _ extension _ ends dotless

namespace Config

theorem acceptsExtension_congr (config : Config) (a b : String) (alike : lowered a = lowered b) :
    config.acceptsExtension a = config.acceptsExtension b := by
  rw [lowered_eq_iff] at alike
  simp only [acceptsExtension, equalIgnoringCase, alike]

theorem follows_append_singleton (config : Config) (folders : List String) (name : String) :
    config.Follows (folders ++ [name]) ↔
      (∀ folder ∈ folders, config.enters folder = true) ∧ config.selects name = true := by
  simp [Follows]

theorem detect_of_selects (config : Config) (name : String) (selected : config.selects name = true) :
    Language.detect name ≠ .unknown := by
  rw [selects, Bool.and_eq_true, decide_eq_true_iff] at selected
  exact selected.2

end Config

/-- A file below a directory is listed if it passes the tests along its way. -/
theorem under_mem_walkDirectory (config : Config) (path : String) (entries : List (String × Entry))
    (proper : (Entry.directory entries).Proper) (route : List String) (content : Content)
    (leads : (Entry.directory entries).LeadsTo route content) :
    Path.under path route ∈ walkDirectory config path entries ↔ config.Follows route := by
  rw [mem_walkDirectory config path entries (walked_entries config entries proper)]
  constructor
  · intro found
    obtain ⟨other, held, leadsOther, follows, same⟩ := found
    rw [Path.under_injective path route other (leads.names proper) (leadsOther.names proper) same]
    exact follows
  · intro follows
    exact ⟨route, content, leads, follows, rfl⟩

/-- Two files of one directory whose names differ at most in the letter case of the extension. -/
structure Respelled (entries : List (String × Entry)) (folders : List String) (stem a b : String) : Prop where
  dotless : '.' ∉ a.toList ∧ '.' ∉ b.toList
  alike : lowered a = lowered b
  first : ∃ content, (Entry.directory entries).LeadsTo (spelledRoute folders stem a) content
  second : ∃ content, (Entry.directory entries).LeadsTo (spelledRoute folders stem b) content

/-- Whether a run takes two files alike: it lists both or none, and lints them in one language. -/
structure TakenAlike (files : FileTree) (config : Config) (path : String) (entries : List (String × Entry))
    (first second : List String) : Prop where
  listed : Path.under path first ∈ walkDirectory config path entries ↔
    Path.under path second ∈ walkDirectory config path entries
  language : (files.lintFile (.ofConfig config) (Path.under path first)).language =
    (files.lintFile (.ofConfig config) (Path.under path second)).language

theorem FileTree.language_lintFile (files : FileTree) (linter : Linter) (path : String) :
    (files.lintFile linter path).language = Language.detect path := by
  unfold lintFile
  dsimp only
  split <;> dsimp only

namespace Respelled

variable {entries : List (String × Entry)} {folders : List String} {stem a b : String}
  (pair : Respelled entries folders stem a b)
include pair

theorem symm : Respelled entries folders stem b a :=
  ⟨⟨pair.dotless.2, pair.dotless.1⟩, pair.alike.symm, pair.second, pair.first⟩

theorem language (files : FileTree) (linter : Linter) (path : String) :
    (files.lintFile linter (Path.under path (spelledRoute folders stem a))).language = Language.ofExtension a := by
  rw [files.language_lintFile, detect_under_spelledRoute path folders stem a pair.dotless.1]

variable (config : Config) (path : String) (proper : (Entry.directory entries).Proper)
include proper

theorem known_of_listed (listed : Path.under path (spelledRoute folders stem a) ∈ walkDirectory config path entries) :
    a ∈ Config.defaultExtensions := by
  obtain ⟨content, leads⟩ := pair.first
  rw [under_mem_walkDirectory config path entries proper _ content leads, spelledRoute,
    config.follows_append_singleton] at listed
  have known := config.detect_of_selects _ listed.2
  rw [Language.detect_of_dot _ a stem.toList (toList_dotted stem a) pair.dotless.1, Ne,
    Language.ofExtension_eq_unknown_iff, not_not] at known
  exact known

theorem takenAlike_of_unknown (files : FileTree) (unknownA : a ∉ Config.defaultExtensions)
    (unknownB : b ∉ Config.defaultExtensions) :
    TakenAlike files config path entries (spelledRoute folders stem a) (spelledRoute folders stem b) := by
  constructor
  · constructor
    · intro listed
      exact absurd (pair.known_of_listed config path proper listed) unknownA
    · intro listed
      exact absurd (pair.symm.known_of_listed config path proper listed) unknownB
  · rw [pair.language, pair.symm.language, (Language.ofExtension_eq_unknown_iff a).mpr unknownA,
      (Language.ofExtension_eq_unknown_iff b).mpr unknownB]

end Respelled

namespace FileTree

/-- Of files whose extensions differ in letter case, which a config accepts all or none, a walk lists one at most. They
are taken alike only if no language is known by any of their extensions as they are written. -/
theorem takenAlike_respelled_iff (files : FileTree) (config : Config) (path : String) (entries : List (String × Entry))
    (folders : List String) (stem a b : String) (proper : files.root.Proper)
    (there : files.resolve path = .ok (.directory entries)) (pair : Respelled entries folders stem a b) :
    config.acceptsExtension a = config.acceptsExtension b ∧
    (Path.under path (spelledRoute folders stem a) ∈ walkDirectory config path entries →
      Path.under path (spelledRoute folders stem b) ∈ walkDirectory config path entries → a = b) ∧
    (TakenAlike files config path entries (spelledRoute folders stem a) (spelledRoute folders stem b) ↔
      a = b ∨ a ∉ Config.defaultExtensions ∧ b ∉ Config.defaultExtensions) := by
  have properHere := files.resolve_proper path _ proper there
  refine ⟨config.acceptsExtension_congr a b pair.alike, ?_, ?_⟩
  · intro listedA listedB
    apply eq_of_lowered a b pair.alike
    · exact pair.known_of_listed config path properHere listedA
    · exact pair.symm.known_of_listed config path properHere listedB
  · constructor
    · intro taken
      -- One language for both makes both known or none, and known extensions differ in more than letter case.
      have same := taken.language
      rw [pair.language, pair.symm.language] at same
      have known : a ∉ Config.defaultExtensions ↔ b ∉ Config.defaultExtensions := by
        rw [← Language.ofExtension_eq_unknown_iff, ← Language.ofExtension_eq_unknown_iff, same]
      by_cases knownA : a ∈ Config.defaultExtensions
      · exact Or.inl (eq_of_lowered a b pair.alike knownA (not_not.mp fun unknown => known.mpr unknown knownA))
      · exact Or.inr ⟨knownA, known.mp knownA⟩
    · intro either
      rcases either with rfl | ⟨unknownA, unknownB⟩
      · exact ⟨Iff.rfl, rfl⟩
      · exact pair.takenAlike_of_unknown config path properHere files unknownA unknownB

/-- A directory with one name in two spellings, and another in two that tell no language. -/
def spelledEntries : List (String × Entry) :=
  [("a.js", .file .binary), ("a.JS", .file .binary), ("b.Md", .file .binary), ("b.md", .file .binary)]

def spelledTree : FileTree := ⟨.directory [("lib", .directory spelledEntries)], []⟩

theorem proper_spelledTree : spelledTree.root.Proper := by
  have binary : (Entry.file .binary).Proper := .file .binary
  have inner : (Entry.directory spelledEntries).Proper := by
    refine .directory spelledEntries (by decide) (by decide) ?_
    simp only [spelledEntries, List.forall_mem_cons]
    exact ⟨binary, binary, binary, binary, nofun⟩
  exact .directory _ (by decide) (by decide) (List.forall_mem_singleton.mpr inner)

theorem resolve_spelledTree : spelledTree.resolve "lib" = .ok (.directory spelledEntries) := by rfl

theorem respelled_known : Respelled spelledEntries [] "a" "js" "JS" where
  dotless := by decide
  alike := by decide
  first := ⟨.binary, .inside _ "a.js" _ _ _ (by simp [spelledEntries]) (.here _)⟩
  second := ⟨.binary, .inside _ "a.JS" _ _ _ (by simp [spelledEntries]) (.here _)⟩

theorem respelled_unknown : Respelled spelledEntries [] "b" "Md" "md" where
  dotless := by decide
  alike := by decide
  first := ⟨.binary, .inside _ "b.Md" _ _ _ (by simp [spelledEntries]) (.here _)⟩
  second := ⟨.binary, .inside _ "b.md" _ _ _ (by simp [spelledEntries]) (.here _)⟩

theorem takenAlike_spelledTree :
    spelledTree.root.Proper ∧ spelledTree.resolve "lib" = .ok (.directory spelledEntries) ∧
    Respelled spelledEntries [] "a" "js" "JS" ∧ Respelled spelledEntries [] "b" "Md" "md" ∧
    ¬TakenAlike spelledTree .default "lib" spelledEntries (spelledRoute [] "a" "js") (spelledRoute [] "a" "JS") ∧
    TakenAlike spelledTree .default "lib" spelledEntries (spelledRoute [] "b" "Md") (spelledRoute [] "b" "md") := by
  have known := takenAlike_respelled_iff spelledTree .default "lib" spelledEntries [] "a" "js" "JS" proper_spelledTree
    resolve_spelledTree respelled_known
  have unknown := takenAlike_respelled_iff spelledTree .default "lib" spelledEntries [] "b" "Md" "md" proper_spelledTree
    resolve_spelledTree respelled_unknown
  refine ⟨proper_spelledTree, resolve_spelledTree, respelled_known, respelled_unknown, ?_, ?_⟩
  · rw [known.2.2]
    decide
  · rw [unknown.2.2]
    decide

theorem not_takenAlike_respelled :
    ¬∀ (files : FileTree) (config : Config) (path : String) (entries : List (String × Entry)) (folders : List String)
      (stem a b : String), files.root.Proper → files.resolve path = .ok (.directory entries) →
      Respelled entries folders stem a b →
      TakenAlike files config path entries (spelledRoute folders stem a) (spelledRoute folders stem b) := by
  intro alike
  have taken := alike spelledTree .default "lib" spelledEntries [] "a" "js" "JS" proper_spelledTree resolve_spelledTree
    respelled_known
  obtain ⟨one, first⟩ := respelled_known.first
  obtain ⟨other, second⟩ := respelled_known.second
  have proper := spelledTree.resolve_proper "lib" _ proper_spelledTree resolve_spelledTree
  have listed := taken.listed
  rw [under_mem_walkDirectory _ _ _ proper _ one first, under_mem_walkDirectory _ _ _ proper _ other second,
    spelledRoute, spelledRoute, Config.follows_append_singleton, Config.follows_append_singleton] at listed
  exact absurd listed (by decide)

end FileTree

namespace Config

/-- A config with which no walk lists a file. -/
def SkipsAll (config : Config) : Prop :=
  ∀ (files : FileTree) (path : String) (entries : List (String × Entry)), files.root.Proper →
    files.resolve path = .ok (.directory entries) → walkDirectory config path entries = []

theorem skipsAll_iff (config : Config) :
    config.SkipsAll ↔ ∀ name, Path.IsEntryName name → config.selects name = false := by
  constructor
  · intro skips name proper
    -- A file of that name, alone in the root, would be listed.
    have tree : (Entry.directory [(name, .file .binary)]).Proper :=
      .directory _ (List.forall_mem_singleton.mpr proper) (List.pairwise_singleton _ _)
        (List.forall_mem_singleton.mpr (.file .binary))
    have empty := skips ⟨.directory [(name, .file .binary)], []⟩ "/" _ tree rfl
    have leads : (Entry.directory [(name, .file .binary)]).LeadsTo [name] .binary :=
      .inside _ name _ _ _ List.mem_cons_self (.here _)
    have listed := under_mem_walkDirectory config "/" _ tree [name] .binary leads
    rw [empty, follows_singleton] at listed
    exact Bool.eq_false_iff.mpr fun selected => nomatch listed.mpr selected
  · intro rejects files path entries proper there
    have properHere := files.resolve_proper path _ proper there
    rw [List.eq_nil_iff_forall_not_mem]
    intro file inside
    obtain ⟨route, content, leads, follows, -⟩ :=
      (mem_walkDirectory config path entries (walked_entries config entries properHere) file).mp inside
    obtain ⟨-, name, last, selected⟩ := follows
    rw [rejects name (leads.names properHere name (List.mem_of_getLast? last))] at selected
    cases selected

theorem selects_iff (config : Config) (extension name : String) (only : config.extensions = [extension]) :
    config.selects name = true ↔
      lowered extension = lowered ((Path.extension? name).getD "") ∧ Language.detect name ≠ .unknown := by
  rw [selects, Bool.and_eq_true, decide_eq_true_iff, acceptsExtension_iff, only, lowered_eq_iff]
  simp

/-- A walk for one extension can list a file if that is one of the known ones in any letter case. It also can if the
extension is empty: a file without a dot has it, and its whole name tells the language. -/
theorem exists_selects_iff (config : Config) (extension : String) (only : config.extensions = [extension]) :
    (∃ name, Path.IsEntryName name ∧ config.selects name = true) ↔
      extension = "" ∨ lowered extension ∈ defaultExtensions := by
  constructor
  · intro found
    obtain ⟨name, proper, selected⟩ := found
    obtain ⟨alike, known⟩ := (config.selects_iff extension name only).mp selected
    cases own : Path.extension? name with
    | none =>
      rw [own] at alike
      exact Or.inl ((lowered_eq_empty_iff extension).mp alike)
    | some suffix =>
      rw [own, Option.getD_some] at alike
      rw [Language.detect_of_extension? name suffix proper own, Ne, Language.ofExtension_eq_unknown_iff,
        not_not] at known
      rw [alike, lowered_of_mem_defaultExtensions suffix known]
      exact Or.inr known
  · intro either
    rcases either with rfl | known
    · refine ⟨"js", by decide, (config.selects_iff "" "js" only).mpr ?_⟩
      decide
    · have all : defaultExtensions.all fun suffix =>
          Path.IsEntryName ("a." ++ suffix) ∧ Path.extension? ("a." ++ suffix) = some suffix := by decide
      obtain ⟨proper, own⟩ := of_decide_eq_true (List.all_eq_true.mp all _ known)
      refine ⟨_, proper, (config.selects_iff extension _ only).mpr ?_⟩
      rw [own, Option.getD_some, lowered_of_mem_defaultExtensions _ known,
        Language.detect_of_extension? _ _ proper own, Ne, Language.ofExtension_eq_unknown_iff, not_not]
      exact ⟨rfl, known⟩

section Warning

variable (extension : String)

theorem unknownExtension_mem_checkExtension (value : Json) :
    .unknownExtension extension ∈ checkExtension value ↔
      value = .string extension ∧ extension ∉ defaultExtensions := by
  cases value with
  | string text =>
    by_cases known : text ∈ defaultExtensions
    · rw [checkExtension, if_pos (List.contains_iff_mem.mpr known)]
      constructor
      · intro warned
        cases warned
      · intro own
        cases own.1
        exact absurd known own.2
    · rw [checkExtension, if_neg fun found => known (List.contains_iff_mem.mp found), List.mem_singleton]
      constructor
      · intro warned
        cases warned
        exact ⟨rfl, known⟩
      · intro own
        cases own.1
        rfl
  | _ => simp [checkExtension]

theorem unknownExtension_mem_checkExtensions (value : Json) :
    .unknownExtension extension ∈ checkExtensions value ↔
      extension ∉ defaultExtensions ∧ ∃ items, value = .array items ∧ .string extension ∈ items := by
  cases value with
  | array items =>
    rw [checkExtensions, List.mem_flatMap]
    constructor
    · intro found
      obtain ⟨item, member, warned⟩ := found
      obtain ⟨rfl, unknown⟩ := (unknownExtension_mem_checkExtension extension item).mp warned
      exact ⟨unknown, items, rfl, member⟩
    · intro found
      obtain ⟨unknown, _, same, member⟩ := found
      cases same
      exact ⟨_, member, (unknownExtension_mem_checkExtension extension _).mpr ⟨rfl, unknown⟩⟩
  | _ => simp [checkExtensions]

theorem mem_checkField (found : Option Json) (check : Json → List Problem) (problem : Problem) :
    problem ∈ checkField found check ↔ ∃ value, found = some value ∧ problem ∈ check value := by
  cases found <;> simp [checkField]

/-- Only the check of the extensions gives the warning. -/
theorem unknownExtension_mem_checkMembers (members : List (String × Json)) :
    .unknownExtension extension ∈ checkMembers members ↔
      ∃ value, Json.lookup "extensions" members = some value ∧ .unknownExtension extension ∈ checkExtensions value := by
  have newline (value : Json) : .unknownExtension extension ∉ checkNewline value := by
    unfold checkNewline
    split <;> simp
  have version (value : Json) : .unknownExtension extension ∉ checkVersionValue value := by
    unfold checkVersionValue
    split <;> simp
  have severity (value : Json) : .unknownExtension extension ∉ checkSeverity value := by
    unfold checkSeverity
    split
    · split <;> simp
    · simp
  have ignore (value : Json) : .unknownExtension extension ∉ checkIgnore value := by
    unfold checkIgnore
    split
    · split <;> simp
    · simp
  have keys (unknown : List String) : .unknownExtension extension ∉ unknown.map Problem.unknownKey := by simp
  have absent : .unknownExtension extension ∉
      if (Json.lookup "newline" members).isNone then [Problem.noNewline] else [] := by
    split <;> simp
  unfold checkMembers
  simp only [List.mem_append, mem_checkField, newline, version, severity, ignore, keys, absent, and_false, exists_false,
    false_or, or_false]

/-- The warning that an extension is skipped is given for each that no walk lists a file for. It is wrong for the known
ones that are not in lower case, and for the empty one. -/
theorem unknownExtension_wrong_iff (members : List (String × Json)) (items : List Json) (config : Config)
    (listed : Json.lookup "extensions" members = some (.array items)) (member : .string extension ∈ items)
    (only : config.extensions = [extension]) :
    (config.SkipsAll → .unknownExtension extension ∈ problems (.object members)) ∧
    (.unknownExtension extension ∈ problems (.object members) ∧ ¬config.SkipsAll ↔
      extension = "" ∨ extension ∉ defaultExtensions ∧ lowered extension ∈ defaultExtensions) := by
  have warned : .unknownExtension extension ∈ problems (.object members) ↔ extension ∉ defaultExtensions := by
    rw [problems, unknownExtension_mem_checkMembers]
    simp only [listed, Option.some.injEq, exists_eq_left', unknownExtension_mem_checkExtensions, Json.array.injEq,
      member, and_true]
  have skips : ¬config.SkipsAll ↔ extension = "" ∨ lowered extension ∈ defaultExtensions := by
    rw [skipsAll_iff, ← config.exists_selects_iff extension only]
    simp only [not_forall, Bool.not_eq_false, exists_prop]
  have known (default : extension ∈ defaultExtensions) : lowered extension ∈ defaultExtensions := by
    rw [lowered_of_mem_defaultExtensions extension default]
    exact default
  have empty : "" ∉ defaultExtensions := by decide
  rw [warned, skips]
  constructor
  · intro all default
    exact skips.mpr (Or.inr (known default)) all
  · constructor
    · intro wrong
      obtain ⟨unknown, rfl | lower⟩ := wrong
      · exact Or.inl rfl
      · exact Or.inr ⟨unknown, lower⟩
    · intro either
      rcases either with rfl | ⟨unknown, lower⟩
      · exact ⟨empty, Or.inl rfl⟩
      · exact ⟨unknown, Or.inr lower⟩

end Warning

/-- A config for one extension. -/
def forExtension (extension : String) : Config := { default with extensions := [extension] }

theorem unknownExtension_wrong_upperCase :
    .unknownExtension "JS" ∈ problems (.object [("extensions", .array [.string "JS"])]) ∧
    ¬(forExtension "JS").SkipsAll := by
  have wrong := unknownExtension_wrong_iff "JS" [("extensions", .array [.string "JS"])] [.string "JS"]
    (forExtension "JS") rfl List.mem_cons_self rfl
  exact wrong.2.mpr (Or.inr (by decide))

theorem not_unknownExtension_iff_skipsAll :
    ¬∀ (extension : String) (members : List (String × Json)) (items : List Json) (config : Config),
      Json.lookup "extensions" members = some (.array items) → .string extension ∈ items →
      config.extensions = [extension] →
      (.unknownExtension extension ∈ problems (.object members) ↔ config.SkipsAll) := by
  intro right
  have warned : .unknownExtension "JS" ∈ problems (.object [("extensions", .array [.string "JS"])]) := by
    rw [problems, unknownExtension_mem_checkMembers]
    refine ⟨_, rfl, (unknownExtension_mem_checkExtensions "JS" _).mpr ?_⟩
    exact ⟨by decide, _, rfl, List.mem_cons_self⟩
  have skips := (right "JS" _ [.string "JS"] (forExtension "JS") rfl List.mem_cons_self rfl).mp warned
  have selected : (forExtension "JS").selects "a.js" = true := by decide
  rw [(skipsAll_iff _).mp skips "a.js" (by decide)] at selected
  cases selected

end Config

end Prologue
