import Prologue.Proofs.Walks

/-! A tree of files without what the files hold. Where a path leads and which files a walk lists depends on this outline
alone, and of the config on its tests of names only. -/

namespace Prologue

namespace Entry

/-- A statement holds of every entry if it passes from the entries of a directory to the directory. -/
@[elab_as_elim]
theorem entry_induction {motive : Entry → Prop} (file : ∀ content, motive (.file content))
    (directory : ∀ entries, (∀ entry ∈ entries, motive entry.2) → motive (.directory entries)) (entry : Entry) :
    motive entry := by
  refine @Entry.rec motive (fun entries => ∀ entry ∈ entries, motive entry.2) (fun entry => motive entry.2)
    ?_ ?_ ?_ ?_ ?_ entry
  · exact file
  · exact directory
  · exact fun _ => nofun
  · intro first rest holds below
    exact List.forall_mem_cons.mpr ⟨holds, below⟩
  · intro name entry holds
    exact holds

mutual
/-- An entry with nothing in its files. -/
def outline : Entry → Entry
  | .file _ => .file .binary
  | .directory entries => .directory (outlines entries)
termination_by structural entry => entry

def outlines : List (String × Entry) → List (String × Entry)
  | [] => []
  | entry :: rest => outlineNamed entry :: outlines rest
termination_by structural entries => entries

def outlineNamed : String × Entry → String × Entry
  | (name, entry) => (name, entry.outline)
termination_by structural entry => entry
end

theorem outlines_eq_map (entries : List (String × Entry)) :
    outlines entries = entries.map fun entry => (entry.1, entry.2.outline) := by
  induction entries with
  | nil => rfl
  | cons entry rest ih =>
    obtain ⟨name, entry⟩ := entry
    rw [outlines, outlineNamed, ih, List.map_cons]

theorem lookup_outlines (name : String) (entries : List (String × Entry)) :
    lookup name (outlines entries) = (lookup name entries).map outline := by
  fun_induction lookup name entries with
  | case1 => rfl
  | case2 entry rest =>
    rw [outlines, outlineNamed, lookup, if_pos rfl]
    rfl
  | case3 key entry rest other ih => rw [outlines, outlineNamed, lookup, if_neg other, ih]

end Entry

/-- Two configs that test the names of files and directories alike. -/
structure Config.WalksLike (config other : Config) : Prop where
  enters : ∀ name, config.enters name = other.enters name
  selects : ∀ name, config.selects name = other.selects name

theorem Config.walksLike_refl (config : Config) : config.WalksLike config := ⟨fun _ => rfl, fun _ => rfl⟩

section Walk

variable {config other : Config}

theorem walkDirectory_outlines_of (entries : List (String × Entry)) (path : String)
    (each : ∀ entry ∈ entries, ∀ path name, entry.2.outline.files config path name = entry.2.files other path name) :
    walkDirectory config path (Entry.outlines entries) = walkDirectory other path entries := by
  rw [walkDirectory, walkDirectory, findings_eq_map, findings_eq_map, Entry.outlines_eq_map, List.map_map]
  congr 2
  apply List.map_congr_left
  intro entry member
  obtain ⟨name, entry⟩ := entry
  rw [Function.comp_apply, Entry.finding, Entry.finding, each _ member]

variable (alike : config.WalksLike other)
include alike

theorem files_outline (entry : Entry) (path name : String) :
    entry.outline.files config path name = entry.files other path name := by
  induction entry using Entry.entry_induction generalizing path name with
  | file content => rw [Entry.outline, Entry.files, Entry.files, alike.selects]
  | directory entries ih =>
    rw [Entry.outline, files_directory, files_directory, alike.enters, walkDirectory_outlines_of entries path ih]

theorem walkDirectory_outlines (entries : List (String × Entry)) (path : String) :
    walkDirectory config path (Entry.outlines entries) = walkDirectory other path entries :=
  walkDirectory_outlines_of entries path fun entry _ => files_outline alike entry.2

end Walk

namespace FileTree

/-- A tree whose files hold nothing. -/
def outline (files : FileTree) : FileTree := { files with root := files.root.outline }

theorem walk_outline (passed : List Entry) (segments : List (List Char)) :
    walk (passed.map Entry.outline) segments = (walk passed segments).map (List.map Entry.outline) := by
  fun_induction walk passed segments with
  | case1 passed => rfl
  | case2 segment segments => rfl
  | case3 segment segments content outer => rfl
  | case4 segment segments entries outer same ih =>
    rw [← ih, List.map_cons, Entry.outline, walk, if_pos same]
  | case5 segments entries outer back ih =>
    rw [← ih, List.map_cons, Entry.outline, walk, if_neg back, if_pos rfl, List.isEmpty_map, apply_ite (List.map _)]
    rfl
  | case6 segment segments entries outer named notBack long =>
    rw [List.map_cons, Entry.outline, walk, if_neg named, if_neg notBack, if_pos long]
    rfl
  | case7 segment segments entries outer named notBack short inner found ih =>
    rw [← ih, List.map_cons, Entry.outline, walk, if_neg named, if_neg notBack, if_neg short, Entry.lookup_outlines,
      found]
    rfl
  | case8 segment segments entries outer named notBack short missing =>
    rw [List.map_cons, Entry.outline, walk, if_neg named, if_neg notBack, if_neg short, Entry.lookup_outlines, missing]
    rfl

theorem resolve_outline (files : FileTree) (path : String) :
    files.outline.resolve path = (files.resolve path).map Entry.outline := by
  have walks (segments : List (List Char)) :
      walk [files.outline.root] segments = (walk [files.root] segments).map (List.map Entry.outline) :=
    walk_outline [files.root] segments
  have start : files.outline.current = files.current := rfl
  unfold resolve
  by_cases empty : path = ""
  · rw [if_pos empty, if_pos empty]
    rfl
  · rw [if_neg empty, if_neg empty]
    by_cases nul : path.toList.contains '\x00' = true
    · rw [if_pos nul, if_pos nul]
      rfl
    · rw [if_neg nul, if_neg nul]
      dsimp only
      rw [walks, start]
      cases walk [files.root] _ with
      | error fault => rfl
      | ok reached => cases reached <;> rfl

end FileTree

end Prologue
