import Prologue.Config.File
import Prologue.Proofs.Ancestors
import Prologue.Proofs.JsonReading

/-! Finding a config file. The search takes the nearest directory that holds any, and there the first in the order of
names. Whether that file can be loaded has no part in the choice. -/

namespace Prologue.Config

variable (files : FileTree)

/-- A directory that holds no config file. -/
def Bare (directory : String) : Prop := ∀ name ∈ fileNames, files.isFile (Path.join directory name) = false

/-- The config file of a directory whose name comes first. -/
def IsFirstIn (directory file : String) : Prop :=
  ∃ earlier name later, fileNames = earlier ++ name :: later ∧ file = Path.join directory name ∧
    files.isFile file = true ∧ ∀ other ∈ earlier, files.isFile (Path.join directory other) = false

/-- The first config file of the nearest directory that holds any. -/
def IsNearest (start file : String) : Prop :=
  ∃ steps directory, Path.above? steps start = some directory ∧ IsFirstIn files directory file ∧
    ∀ nearer < steps, ∀ inner, Path.above? nearer start = some inner → Bare files inner

theorem findIn?_eq_none_iff (directory : String) : findIn? files directory = none ↔ Bare files directory := by
  rw [findIn?, List.find?_eq_none, List.forall_mem_map]
  simp only [Bool.not_eq_true, Bare]

theorem findIn?_eq_some_iff (directory file : String) :
    findIn? files directory = some file ↔ IsFirstIn files directory file := by
  rw [findIn?, List.find?_map, Option.map_eq_some_iff]
  simp only [List.find?_eq_some_iff_append, Function.comp_apply, Bool.not_eq_true']
  constructor
  · rintro ⟨name, ⟨there, earlier, later, order, others⟩, rfl⟩
    exact ⟨earlier, name, later, order, rfl, there, others⟩
  · rintro ⟨earlier, name, later, order, rfl, there, others⟩
    exact ⟨name, ⟨there, earlier, later, order, others⟩, rfl⟩

theorem find?_eq_none_iff (start : String) :
    find? files start = none ↔ ∀ steps directory, Path.above? steps start = some directory → Bare files directory := by
  simp only [find?, List.findSome?_eq_none_iff, findIn?_eq_none_iff, List.mem_iff_getElem?, Path.getElem?_ancestors]
  constructor
  · intro bare steps directory there
    exact bare directory ⟨steps, there⟩
  · rintro bare directory ⟨steps, there⟩
    exact bare steps directory there

theorem find?_eq_some_iff (start file : String) : find? files start = some file ↔ IsNearest files start file := by
  rw [find?, List.findSome?_eq_some_iff]
  simp only [findIn?_eq_some_iff, findIn?_eq_none_iff]
  constructor
  · rintro ⟨nearer, directory, farther, chain, first, bare⟩
    have member (steps : Nat) : (nearer ++ directory :: farther)[steps]? = Path.above? steps start := by
      rw [← chain, Path.getElem?_ancestors]
    refine ⟨nearer.length, directory, ?_, first, ?_⟩
    · rw [← member, List.getElem?_append_right (Nat.le_refl _), Nat.sub_self]
      rfl
    · intro steps less inner there
      rw [← member, List.getElem?_append_left less] at there
      exact bare inner (List.mem_of_getElem? there)
  · rintro ⟨steps, directory, there, first, bare⟩
    rw [← Path.getElem?_ancestors, List.getElem?_eq_some_iff] at there
    obtain ⟨below, found⟩ := there
    refine ⟨(Path.ancestors start).take steps, directory, (Path.ancestors start).drop (steps + 1), ?_, first, ?_⟩
    · rw [← found, List.getElem_cons_drop, List.take_append_drop]
    · intro inner member
      obtain ⟨nearer, less, rfl⟩ := List.mem_take_iff_getElem.mp member
      refine bare nearer (by omega) _ ?_
      rw [← Path.getElem?_ancestors, List.getElem?_eq_getElem]

/-- The chain of directories ends, the search takes the first config file of the nearest directory that holds any, and
what comes of that file, a config or an error, is what comes of the search. -/
theorem discover_nearest (start : String) :
    (∀ steps, Path.above? steps start = none ↔ (Path.names start).length < steps) ∧
    (∀ file, find? files start = some file ↔ IsNearest files start file) ∧
    (find? files start = none ↔
      ∀ steps directory, Path.above? steps start = some directory → Bare files directory) ∧
    (∀ file, IsNearest files start file →
      (∀ config, load files file = .ok config → discover files start = .ok (some (file, config))) ∧
      ∀ error, load files file = .error error → discover files start = .error error) ∧
    ((∀ steps directory, Path.above? steps start = some directory → Bare files directory) →
      discover files start = .ok none) := by
  refine ⟨fun steps => Path.above?_eq_none_iff steps start, find?_eq_some_iff files start, find?_eq_none_iff files start,
    fun file nearest => ?_, fun bare => ?_⟩
  · have found := (find?_eq_some_iff files start file).mpr nearest
    have taken : discover files start = (load files file).map fun config => some (file, config) := by
      rw [discover, found]
    constructor
    · intro config loaded
      rw [taken, loaded]
      rfl
    · intro error failed
      rw [taken, failed]
      rfl
  · rw [discover, (find?_eq_none_iff files start).mpr bare]

/-- A config file that is no text, below a directory with a sound one. -/
def shadowedTree : FileTree :=
  ⟨.directory [(".strict-spacing.yaml", .file (.text "newline: never\n" none)),
    ("lib", .directory [(".strict-spacing.json", .file .binary), ("core", .directory [])])], []⟩

/-- From within the lower directory the search fails on its file, and from elsewhere it reaches the sound one. -/
theorem discover_shadowedTree :
    IsNearest shadowedTree "lib//core/." "lib/.strict-spacing.json" ∧
    discover shadowedTree "lib//core/." = .error (.file .notText) ∧
    IsNearest shadowedTree "docs/guide" ".strict-spacing.yaml" ∧
    discover shadowedTree "docs/guide" =
      .ok (some (".strict-spacing.yaml", { Config.default with newline := some (.uniform .never) })) := by
  have lower : find? shadowedTree "lib//core/." = some "lib/.strict-spacing.json" := by decide +kernel
  have upper : find? shadowedTree "docs/guide" = some ".strict-spacing.yaml" := by decide +kernel
  have sound : (load shadowedTree ".strict-spacing.yaml").toOption =
      some { Config.default with newline := some (.uniform .never) } := by decide +kernel
  obtain ⟨-, search, -, loading, -⟩ := discover_nearest shadowedTree "lib//core/."
  obtain ⟨-, search', -, loading', -⟩ := discover_nearest shadowedTree "docs/guide"
  have nearest := (search _).mp lower
  have nearest' := (search' _).mp upper
  exact ⟨nearest, (loading _ nearest).2 _ (by rfl), nearest',
    (loading' _ nearest').1 _ ((toOption_eq_some_iff _ _).mp sound)⟩

end Prologue.Config
