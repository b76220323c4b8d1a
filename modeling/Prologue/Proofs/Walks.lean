import Mathlib.Data.Set.List
import Prologue.Proofs.Paths
import Prologue.Report

/-! Which files a walk lists, and in which order. Each directory sorts its own entries only, but what it lists lies
between its neighbours in the order of whole paths, so the list is sorted and holds no file twice. -/

namespace Prologue

namespace Entry

/-- A tree as directories can hold it: the entries of each have names, and no two have the same. -/
inductive Proper : Entry → Prop
  | file (content : Content) : Proper (.file content)
  | directory (entries : List (String × Entry)) (named : ∀ entry ∈ entries, Path.IsEntryName entry.1)
      (distinct : (entries.map Prod.fst).Nodup) (each : ∀ entry ∈ entries, Proper entry.2) :
      Proper (.directory entries)

/-- The names from an entry to a file below it; none if the entry is the file. -/
inductive LeadsTo : Entry → List String → Content → Prop
  | here (content : Content) : LeadsTo (.file content) [] content
  | inside (entries : List (String × Entry)) (name : String) (entry : Entry) (route : List String) (content : Content)
      (member : (name, entry) ∈ entries) (below : LeadsTo entry route content) :
      LeadsTo (.directory entries) (name :: route) content

theorem LeadsTo.names {entry : Entry} {route : List String} {content : Content} (leads : entry.LeadsTo route content)
    (proper : entry.Proper) : ∀ name ∈ route, Path.IsEntryName name := by
  induction leads with
  | here content => exact fun _ => nofun
  | inside entries name entry route content member below ih =>
    cases proper with
    | directory _ named _ each =>
      rw [List.forall_mem_cons]
      exact ⟨named _ member, ih (each _ member)⟩

theorem mem_of_lookup (name : String) (entries : List (String × Entry)) (entry : Entry)
    (found : lookup name entries = some entry) : (name, entry) ∈ entries := by
  fun_induction lookup name entries with
  | case1 => cases found
  | case2 held rest =>
    cases found
    exact List.mem_cons_self
  | case3 key held rest other ih => exact List.mem_cons_of_mem _ (ih found)

end Entry

/-- What a walk of a directory takes: files below it, on whose way it enters each directory, with an extension that is
accepted in some letter case and a name that tells a language. A missing extension counts as an empty one. -/
structure Config.Wants (config : Config) (path : String) (entries : List (String × Entry)) (route : List String) :
    Prop where
  leads : ∃ content, (Entry.directory entries).LeadsTo route content
  entered : ∀ folder ∈ route.dropLast, folder.toList.head? ≠ some '.' ∧ folder ∉ config.ignore
  accepted : ∃ extension ∈ config.extensions,
    extension.toList.map Char.toLower = ((Path.extension? (Path.under path route)).getD "").toList.map Char.toLower
  known : ∃ name, route.getLast? = some name ∧ Language.detect name ≠ .unknown

/-- The tests of a walk along a way of names: the last names a file, the others directories. -/
def Config.Follows (config : Config) (route : List String) : Prop :=
  (∀ folder ∈ route.dropLast, config.enters folder = true) ∧
    ∃ name, route.getLast? = some name ∧ config.selects name = true

namespace Config

theorem follows_singleton (config : Config) (name : String) : config.Follows [name] ↔ config.selects name = true := by
  simp [Follows]

theorem follows_cons (config : Config) (folder name : String) (route : List String) :
    config.Follows (folder :: name :: route) ↔ config.enters folder = true ∧ config.Follows (name :: route) := by
  rw [Follows, Follows, List.dropLast_cons_of_ne_nil (List.cons_ne_nil name route), List.forall_mem_cons,
    List.getLast?_cons_cons, and_assoc]

theorem enters_iff (config : Config) (name : String) :
    config.enters name = true ↔ name.toList.head? ≠ some '.' ∧ name ∉ config.ignore := by
  simp [enters]

theorem acceptsExtension_iff (config : Config) (extension : String) :
    config.acceptsExtension extension = true ↔
      ∃ accepted ∈ config.extensions, accepted.toList.map Char.toLower = extension.toList.map Char.toLower := by
  simp [acceptsExtension, equalIgnoringCase]

theorem Wants.follows {config : Config} {path : String} {entries : List (String × Entry)} {route : List String}
    (wants : config.Wants path entries route) (proper : ∀ name ∈ route, Path.IsEntryName name) :
    config.Follows route := by
  obtain ⟨-, entered, accepted, name, last, known⟩ := wants
  have extension := Path.extension?_under path route name (proper name (List.mem_of_getLast? last)) last
  rw [extension, ← acceptsExtension_iff] at accepted
  refine ⟨fun folder between => (config.enters_iff folder).mpr (entered folder between), name, last, ?_⟩
  rw [selects, accepted, Bool.true_and]
  exact decide_eq_true known

theorem Follows.wants {config : Config} {entries : List (String × Entry)} {route : List String} {content : Content}
    (follows : config.Follows route) (path : String) (leads : (Entry.directory entries).LeadsTo route content)
    (proper : ∀ name ∈ route, Path.IsEntryName name) : config.Wants path entries route := by
  obtain ⟨entered, name, last, selected⟩ := follows
  have extension := Path.extension?_under path route name (proper name (List.mem_of_getLast? last)) last
  rw [selects, Bool.and_eq_true, decide_eq_true_iff, acceptsExtension_iff, ← extension] at selected
  exact ⟨⟨content, leads⟩, fun folder between => (config.enters_iff folder).mp (entered folder between), selected.1,
    name, last, selected.2⟩

end Config

namespace Finding

theorem notAfter_iff (a b : Finding) : a.notAfter b = true ↔ a.1 ≤ b.1 := by
  rw [notAfter, decide_eq_true_iff, String.not_lt]

theorem notAfter_trans (a b c : Finding) (first : a.notAfter b = true) (second : b.notAfter c = true) :
    a.notAfter c = true := by
  rw [notAfter_iff] at first second ⊢
  exact String.le_trans first second

theorem notAfter_total (a b : Finding) : (a.notAfter b || b.notAfter a) = true := by
  rw [Bool.or_eq_true, notAfter_iff, notAfter_iff]
  exact String.le_total a.1 b.1

end Finding

section Findings

variable (config : Config) (path : String) (entries : List (String × Entry))

theorem findings_eq_map : Entry.findings config path entries = entries.map (Entry.finding config path) := by
  induction entries with
  | nil => rfl
  | cons entry entries ih => rw [Entry.findings, ih, List.map_cons]

theorem mem_sorted_findings (finding : Finding) :
    finding ∈ (Entry.findings config path entries).mergeSort Finding.notAfter ↔
      ∃ name entry, (name, entry) ∈ entries ∧ finding = (name, entry.files config (Path.join path name) name) := by
  rw [List.mem_mergeSort, findings_eq_map, List.mem_map]
  constructor
  · rintro ⟨⟨name, entry⟩, member, rfl⟩
    exact ⟨name, entry, member, rfl⟩
  · rintro ⟨name, entry, member, rfl⟩
    exact ⟨(name, entry), member, rfl⟩

/-- Entries of different names are taken in the order of the names. -/
theorem sorted_findings (distinct : (entries.map Prod.fst).Nodup) :
    ((Entry.findings config path entries).mergeSort Finding.notAfter).Pairwise fun a b => a.1 < b.1 := by
  have sorted := List.pairwise_mergeSort Finding.notAfter_trans Finding.notAfter_total
    (Entry.findings config path entries)
  have names : Prod.fst ∘ Entry.finding config path = Prod.fst := by
    funext ⟨name, entry⟩
    rfl
  have apart : (((Entry.findings config path entries).mergeSort Finding.notAfter).map Prod.fst).Nodup := by
    rw [((List.mergeSort_perm _ _).map Prod.fst).nodup_iff, findings_eq_map, List.map_map, names]
    exact distinct
  refine List.Pairwise.imp₂ ?_ sorted (List.pairwise_map.mp apart)
  intro a b ordered different
  have notAbove := (Finding.notAfter_iff a b).mp ordered
  exact String.not_le.mp fun back => different (String.le_antisymm notAbove back)

end Findings

/-- A walk of an entry lists what the tests along the way let through, sorted. -/
structure Walked (config : Config) (entry : Entry) : Prop where
  listed : ∀ path name file, file ∈ entry.files config path name ↔
    ∃ route content, entry.LeadsTo route content ∧ config.Follows (name :: route) ∧ file = Path.under path route
  sorted : ∀ path name, (entry.files config path name).Pairwise Path.Before

section Directory

variable (config : Config) (path : String) (entries : List (String × Entry))

theorem mem_walkDirectory (each : ∀ entry ∈ entries, Walked config entry.2) (file : String) :
    file ∈ walkDirectory config path entries ↔
      ∃ route content, (Entry.directory entries).LeadsTo route content ∧ config.Follows route ∧
        file = Path.under path route := by
  rw [walkDirectory, List.mem_flatMap]
  constructor
  · rintro ⟨finding, taken, inside⟩
    obtain ⟨name, entry, member, rfl⟩ := (mem_sorted_findings config path entries finding).mp taken
    obtain ⟨route, content, below, follows, same⟩ := ((each _ member).listed _ _ _).mp inside
    exact ⟨name :: route, content, .inside entries name entry route content member below, follows, same⟩
  · rintro ⟨route, content, leads, follows, same⟩
    cases leads with
    | inside _ name entry route _ member below =>
      refine ⟨_, (mem_sorted_findings config path entries _).mpr ⟨name, entry, member, rfl⟩, ?_⟩
      exact ((each _ member).listed _ _ _).mpr ⟨route, content, below, follows, same⟩

theorem walkDirectory_sorted (proper : (Entry.directory entries).Proper)
    (each : ∀ entry ∈ entries, Walked config entry.2) :
    (walkDirectory config path entries).Pairwise Path.Before := by
  obtain ⟨-⟩ | ⟨_, named, distinct, properEach⟩ := proper
  rw [walkDirectory, List.pairwise_flatMap]
  constructor
  · intro finding taken
    obtain ⟨name, entry, member, rfl⟩ := (mem_sorted_findings config path entries finding).mp taken
    exact (each _ member).sorted _ _
  · -- two entries part at their names, whatever lies below them
    refine (sorted_findings config path entries distinct).imp_of_mem ?_
    intro left right takenLeft takenRight less x insideLeft y insideRight
    obtain ⟨first, a, memberLeft, rfl⟩ := (mem_sorted_findings config path entries left).mp takenLeft
    obtain ⟨second, b, memberRight, rfl⟩ := (mem_sorted_findings config path entries right).mp takenRight
    obtain ⟨routeA, contentA, leadsA, -, rfl⟩ := ((each _ memberLeft).listed _ _ _).mp insideLeft
    obtain ⟨routeB, contentB, leadsB, -, rfl⟩ := ((each _ memberRight).listed _ _ _).mp insideRight
    apply Path.before_of_lt path first second routeA routeB less
    · exact List.forall_mem_cons.mpr ⟨named _ memberLeft, leadsA.names (properEach _ memberLeft)⟩
    · exact List.forall_mem_cons.mpr ⟨named _ memberRight, leadsB.names (properEach _ memberRight)⟩

end Directory

theorem walked_file (config : Config) (content : Content) : Walked config (.file content) := by
  constructor
  · intro path name file
    rw [Entry.files]
    constructor
    · intro inside
      split at inside
      · rename_i selected
        rw [List.mem_singleton.mp inside]
        exact ⟨[], content, .here content, (config.follows_singleton name).mpr selected, rfl⟩
      · cases inside
    · rintro ⟨route, held, leads, follows, rfl⟩
      cases leads
      rw [if_pos ((config.follows_singleton name).mp follows)]
      exact List.mem_singleton_self _
  · intro path name
    rw [Entry.files]
    split
    · exact List.pairwise_singleton _ _
    · exact List.Pairwise.nil

theorem files_directory (config : Config) (path name : String) (entries : List (String × Entry)) :
    (Entry.directory entries).files config path name =
      if config.enters name then walkDirectory config path entries else [] := by
  rw [Entry.files]
  rfl

theorem walked_directory (config : Config) (entries : List (String × Entry))
    (proper : (Entry.directory entries).Proper) (each : ∀ entry ∈ entries, Walked config entry.2) :
    Walked config (.directory entries) := by
  constructor
  · intro path name file
    rw [files_directory]
    by_cases entered : config.enters name = true
    · rw [if_pos entered, mem_walkDirectory config path entries each]
      constructor
      · rintro ⟨route, content, leads, follows, same⟩
        refine ⟨route, content, leads, ?_, same⟩
        cases leads
        exact (config.follows_cons name _ _).mpr ⟨entered, follows⟩
      · rintro ⟨route, content, leads, follows, same⟩
        refine ⟨route, content, leads, ?_, same⟩
        cases leads
        exact ((config.follows_cons name _ _).mp follows).2
    · rw [if_neg entered]
      constructor
      · exact fun inside => nomatch inside
      · rintro ⟨route, content, leads, follows, -⟩
        cases leads
        exact absurd ((config.follows_cons name _ _).mp follows).1 entered
  · intro path name
    rw [files_directory]
    split
    · exact walkDirectory_sorted config path entries proper each
    · exact List.Pairwise.nil

theorem walked_of_proper (config : Config) (entry : Entry) (proper : entry.Proper) : Walked config entry := by
  induction proper with
  | file content => exact walked_file config content
  | directory entries named distinct each ih =>
    exact walked_directory config entries (.directory entries named distinct each) ih

section Wanted

variable (config : Config) (path : String) (entries : List (String × Entry)) (proper : (Entry.directory entries).Proper)
include proper

theorem walked_entries : ∀ entry ∈ entries, Walked config entry.2 := by
  cases proper with
  | directory _ _ _ each => exact fun entry member => walked_of_proper config entry.2 (each entry member)

theorem mem_walkDirectory_iff_wants (file : String) :
    file ∈ walkDirectory config path entries ↔
      ∃ route, config.Wants path entries route ∧ file = Path.under path route := by
  rw [mem_walkDirectory config path entries (walked_entries config entries proper)]
  constructor
  · rintro ⟨route, content, leads, follows, same⟩
    exact ⟨route, follows.wants path leads (leads.names proper), same⟩
  · rintro ⟨route, wants, same⟩
    obtain ⟨content, leads⟩ := wants.leads
    exact ⟨route, content, leads, wants.follows (leads.names proper), same⟩

/-- The files that a walk lists stand at the ends of the ways that are wanted. -/
theorem exists_routes :
    ∃ routes : List (List String), walkDirectory config path entries = routes.map (Path.under path) ∧
      ∀ route, route ∈ routes ↔ config.Wants path entries route := by
  have mem := mem_walkDirectory_iff_wants config path entries proper
  obtain ⟨chosen, same⟩ : walkDirectory config path entries ∈
      Set.range (List.map fun route : { route // config.Wants path entries route } => Path.under path route.1) := by
    rw [Set.range_list_map]
    intro file inside
    obtain ⟨route, wants, rfl⟩ := (mem file).mp inside
    exact ⟨⟨route, wants⟩, rfl⟩
  refine ⟨chosen.map Subtype.val, by rw [← same, List.map_map]; rfl, fun route => ⟨?_, fun wants => ?_⟩⟩
  · intro member
    obtain ⟨⟨_, wants⟩, -, rfl⟩ := List.mem_map.mp member
    exact wants
  · -- a path is under the directory in one way only
    have inside := (mem _).mpr ⟨route, wants, rfl⟩
    rw [← same] at inside
    obtain ⟨⟨other, wantsOther⟩, found, equal⟩ := List.mem_map.mp inside
    obtain ⟨_, leads⟩ := wants.leads
    obtain ⟨_, leadsOther⟩ := wantsOther.leads
    have routes := Path.under_injective path other route (leadsOther.names proper) (leads.names proper) equal
    exact List.mem_map.mpr ⟨_, found, routes⟩

end Wanted

namespace FileTree

theorem walk_proper (passed reached : List Entry) (segments : List (List Char))
    (proper : ∀ entry ∈ passed, entry.Proper) (walks : walk passed segments = .ok reached) :
    ∀ entry ∈ reached, entry.Proper := by
  fun_induction walk passed segments with
  | case1 passed =>
    cases walks
    exact proper
  | case2 | case3 | case6 | case8 => cases walks
  | case4 segment segments entries outer same ih => exact ih proper walks
  | case5 segments entries outer back ih =>
    rw [List.forall_mem_cons] at proper
    refine ih ?_ walks
    split
    · exact List.forall_mem_singleton.mpr proper.1
    · exact proper.2
  | case7 segment segments entries outer _ _ _ inner found ih =>
    refine ih (List.forall_mem_cons.mpr ⟨?_, proper⟩) walks
    cases proper _ List.mem_cons_self with
    | directory _ _ _ each => exact each _ (Entry.mem_of_lookup _ entries inner found)

/-- An entry that a path leads to is as proper as the tree. -/
theorem resolve_proper (files : FileTree) (path : String) (entry : Entry) (proper : files.root.Proper)
    (there : files.resolve path = .ok entry) : entry.Proper := by
  unfold resolve at there
  split at there
  · cases there
  · split at there
    · cases there
    · dsimp only at there
      split at there
      · cases there
      · cases there
      · rename_i reached outer walks
        cases there
        exact walk_proper _ _ _ (List.forall_mem_singleton.mpr proper) walks _ List.mem_cons_self

theorem path_lintFile (files : FileTree) (linter : Linter) (path : String) :
    (files.lintFile linter path).path = path := by
  unfold lintFile
  dsimp only
  split <;> rfl

theorem lintPaths_of_resolve (files : FileTree) (config : Config) (path : String) (entries : List (String × Entry))
    (there : files.resolve path = .ok (.directory entries)) :
    ∃ report, files.lintPaths config [path] = .ok report ∧
      report.files.map FileReport.path = walkDirectory config path entries := by
  have selected : files.select config [path] = .ok (walkDirectory config path entries) := by
    simp only [select, there, List.append_nil]
  refine ⟨_, by rw [lintPaths, selected], ?_⟩
  rw [Report.ofFiles, List.map_map]
  exact List.map_id'' (files.path_lintFile _) _

/-- A directory that is given is walked whatever its name. It stands for the files below it that the config wants, each
once, and they come in the order of their paths, name by name. -/
theorem lintPaths_directory (files : FileTree) (config : Config) (path : String) (entries : List (String × Entry))
    (proper : files.root.Proper) (there : files.resolve path = .ok (.directory entries)) :
    ∃ (report : Report) (routes : List (List String)), files.lintPaths config [path] = .ok report ∧
      report.files.map FileReport.path = routes.map (Path.under path) ∧ routes.Nodup ∧
      (∀ route, route ∈ routes ↔ config.Wants path entries route) ∧
      (routes.map (Path.under path)).Pairwise Path.Before := by
  have properHere := files.resolve_proper path _ proper there
  obtain ⟨report, linted, listed⟩ := files.lintPaths_of_resolve config path entries there
  obtain ⟨routes, same, taken⟩ := exists_routes config path entries properHere
  have sorted := walkDirectory_sorted config path entries properHere (walked_entries config entries properHere)
  rw [same] at listed sorted
  have apart : routes.Nodup := by
    apply (List.pairwise_map.mp sorted).imp
    rintro first second before rfl
    exact Path.not_before_self _ before
  exact ⟨report, routes, linted, listed, apart, taken, sorted⟩

/-- A directory with files beside directories of the same stem, one that a walk skips and one that is hidden. -/
def sampleEntries : List (String × Entry) :=
  [("b.js", .file (.text "" none)), ("a.js", .file .binary), ("a", .directory [("x.ts", .file .binary)]),
    (".git", .directory [("hook.js", .file .binary)]), ("Main.JS", .file .binary),
    ("node_modules", .directory [("c.js", .file .binary)]), ("README.md", .file .binary)]

def sampleTree : FileTree := ⟨.directory [("lib", .directory sampleEntries)], []⟩

theorem proper_sampleTree : sampleTree.root.Proper := by
  have binary : (Entry.file .binary).Proper := .file .binary
  have single (name : String) (named : Path.IsEntryName name) (entry : Entry) (proper : entry.Proper) :
      (Entry.directory [(name, entry)]).Proper :=
    .directory _ (List.forall_mem_singleton.mpr named) (List.pairwise_singleton _ _)
      (List.forall_mem_singleton.mpr proper)
  apply single "lib" (by decide)
  refine .directory sampleEntries (by decide) (by decide) ?_
  simp only [sampleEntries, List.forall_mem_cons]
  exact ⟨.file _, binary, single _ (by decide) _ binary, single _ (by decide) _ binary, binary,
    single _ (by decide) _ binary, binary, nofun⟩

theorem wants_sampleRoute : Config.default.Wants "lib/" sampleEntries ["a", "x.ts"] where
  leads := by
    refine ⟨.binary, .inside _ "a" (.directory [("x.ts", .file .binary)]) _ _ (by simp [sampleEntries]) ?_⟩
    exact .inside _ "x.ts" _ _ _ List.mem_cons_self (.here _)
  entered := by decide
  accepted := ⟨"ts", by decide, by decide⟩
  known := ⟨"x.ts", rfl, by decide⟩

theorem lintPaths_directory_sampleTree :
    sampleTree.root.Proper ∧ sampleTree.resolve "lib/" = .ok (.directory sampleEntries) ∧
      ∃ (report : Report) (routes : List (List String)), sampleTree.lintPaths .default ["lib/"] = .ok report ∧
        report.files.map FileReport.path = routes.map (Path.under "lib/") ∧ routes.Nodup ∧
        ["a", "x.ts"] ∈ routes ∧ [".git", "hook.js"] ∉ routes ∧
        (routes.map (Path.under "lib/")).Pairwise Path.Before := by
  have there : sampleTree.resolve "lib/" = .ok (.directory sampleEntries) := by rfl
  obtain ⟨report, routes, linted, listed, apart, taken, sorted⟩ :=
    lintPaths_directory sampleTree .default "lib/" sampleEntries proper_sampleTree there
  refine ⟨proper_sampleTree, there, report, routes, linted, listed, apart, ?_, ?_, sorted⟩
  · exact (taken _).mpr wants_sampleRoute
  · intro inside
    exact (((taken _).mp inside).entered ".git" List.mem_cons_self).1 rfl

end FileTree

end Prologue
