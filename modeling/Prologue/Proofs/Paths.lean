import Prologue.Path
import Prologue.Proofs.Bytes

/-! The names along a path and the order of paths name by name. Joining a name of a directory to a path adds that name
at the end, whether or not the path ends with a slash, so paths inside one directory differ where their names do. -/

namespace Prologue.Path

/-- What a directory can call an entry. -/
structure IsEntryName (name : String) : Prop where
  filled : name ≠ ""
  notDot : name ≠ "."
  notDots : name ≠ ".."
  unbroken : '/' ∉ name.toList

instance (name : String) : Decidable (IsEntryName name) :=
  decidable_of_iff (name ≠ "" ∧ name ≠ "." ∧ name ≠ ".." ∧ '/' ∉ name.toList)
    ⟨fun ⟨filled, notDot, notDots, unbroken⟩ => ⟨filled, notDot, notDots, unbroken⟩,
      fun ⟨filled, notDot, notDots, unbroken⟩ => ⟨filled, notDot, notDots, unbroken⟩⟩

/-- The names among the parts of a path. -/
def namesAmong : List (List Char) → List (List Char)
  | [] => []
  | first :: rest => [first].filter (isName true) ++ rest.filter (isName false)

/-- The names along a path, from the first on. -/
def names (path : String) : List (List Char) := namesAmong (splitSlash path.toList)

/-- The order of paths name by name, and of names by their bytes. -/
def Before (a b : String) : Prop := (names a).map utf8 < (names b).map utf8

/-- The path that leads on from another through names. -/
def under (path : String) (route : List String) : String := route.foldl join path

theorem splitSlash_ne_nil (text : List Char) : splitSlash text ≠ [] := by
  fun_cases splitSlash text <;> simp

theorem splitSlash_append (front back : List Char) :
    splitSlash (front ++ '/' :: back) = splitSlash front ++ splitSlash back := by
  induction front with
  | nil => rfl
  | cons c front ih =>
    rw [List.cons_append, splitSlash, splitSlash, ih]
    by_cases slash : c = '/'
    · rw [if_pos slash, if_pos slash, List.cons_append]
    · rw [if_neg slash, if_neg slash]
      cases parts : splitSlash front with
      | nil => exact absurd parts (splitSlash_ne_nil front)
      | cons first rest => rfl

theorem splitSlash_unbroken (text : List Char) (unbroken : '/' ∉ text) : splitSlash text = [text] := by
  induction text with
  | nil => rfl
  | cons c text ih =>
    rw [List.mem_cons, not_or] at unbroken
    rw [splitSlash, if_neg (Ne.symm unbroken.1), ih unbroken.2]

theorem namesAmong_append (front back : List (List Char)) (filled : front ≠ []) :
    namesAmong (front ++ back) = namesAmong front ++ back.filter (isName false) := by
  cases front with
  | nil => exact absurd rfl filled
  | cons first rest => rw [List.cons_append, namesAmong, namesAmong, List.filter_append, List.append_assoc]

theorem toList_ne (name : String) (text : List Char) (other : name ≠ String.ofList text) : name.toList ≠ text := by
  intro same
  exact other (by rw [← same, String.ofList_toList])

namespace IsEntryName

variable {name : String} (proper : IsEntryName name)
include proper

theorem isName (atStart : Bool) : isName atStart name.toList = true := by
  simp [Path.isName, toList_ne name [] proper.filled, toList_ne name ['.'] proper.notDot]

theorem relative : isAbsolute name = false := by
  rw [isAbsolute, decide_eq_false_iff_not]
  exact fun first => proper.unbroken (List.mem_of_head? first)

theorem names : Path.names name = [name.toList] := by
  rw [Path.names, splitSlash_unbroken _ proper.unbroken, namesAmong, List.filter_cons, if_pos (proper.isName true)]
  rfl

/-- A joined path is a path, one slash and the name. -/
theorem toList_join (path : String) (given : path ≠ "") :
    ∃ front, (join path name).toList = front ++ '/' :: name.toList ∧
      (path.toList = front ∨ path.toList = front ++ ['/']) := by
  rw [join, proper.relative, Bool.false_or, if_neg (by simpa using given)]
  by_cases slash : path.toList.getLast? = some '/'
  · obtain ⟨front, split⟩ := List.getLast?_eq_some_iff.mp slash
    refine ⟨front, ?_, Or.inr split⟩
    rw [if_pos slash, String.toList_append, split, List.append_assoc, List.singleton_append]
  · refine ⟨path.toList, ?_, Or.inl rfl⟩
    rw [if_neg slash, String.toList_append, String.toList_append, List.append_assoc]
    rfl

/-- Joining adds one name at the end. -/
theorem names_join (path : String) : Path.names (join path name) = Path.names path ++ [name.toList] := by
  by_cases given : path = ""
  · rw [given, join, decide_eq_true rfl, Bool.or_true, if_pos rfl, proper.names]
    rfl
  · obtain ⟨front, joined, ends⟩ := proper.toList_join path given
    have added : Path.names (join path name) = namesAmong (splitSlash front) ++ [name.toList] := by
      rw [Path.names, joined, splitSlash_append, splitSlash_unbroken _ proper.unbroken,
        namesAmong_append _ _ (splitSlash_ne_nil front), List.filter_cons, if_pos (proper.isName false)]
      rfl
    have kept : Path.names path = namesAmong (splitSlash front) := by
      rw [Path.names]
      rcases ends with same | slash
      · rw [same]
      · -- the empty part behind the last slash is no name
        rw [slash, splitSlash_append, namesAmong_append _ _ (splitSlash_ne_nil front)]
        exact List.append_nil _
    rw [added, kept]

theorem fileName?_of_segments (path : String) (front : List (List Char))
    (last : segments path = front ++ [name.toList]) : fileName? path = some name.toList := by
  have ends : named path = name.toList :: front.reverse := by
    rw [named, last, List.reverse_append, List.reverse_singleton, List.singleton_append, dropUnnamed,
      if_pos (proper.isName _)]
  rw [fileName?, ends]
  exact if_neg (not_or.mpr ⟨toList_ne name ['.'] proper.notDot, toList_ne name ['.', '.'] proper.notDots⟩)

theorem fileName? : Path.fileName? name = some name.toList := by
  apply proper.fileName?_of_segments name []
  rw [segments, proper.relative]
  exact splitSlash_unbroken _ proper.unbroken

theorem fileName?_join (path : String) : Path.fileName? (join path name) = some name.toList := by
  by_cases given : path = ""
  · rw [given, join, decide_eq_true rfl, Bool.or_true, if_pos rfl, proper.fileName?]
  · obtain ⟨front, joined, -⟩ := proper.toList_join path given
    have single := splitSlash_unbroken _ proper.unbroken
    by_cases absolute : isAbsolute (join path name) = true
    · cases front with
      | nil =>
        apply proper.fileName?_of_segments _ []
        rw [segments, if_pos absolute, joined]
        exact single
      | cons c front =>
        apply proper.fileName?_of_segments _ (splitSlash front)
        rw [segments, if_pos absolute, joined, List.cons_append, List.drop_succ_cons, List.drop_zero,
          splitSlash_append, single]
    · apply proper.fileName?_of_segments _ (splitSlash front)
      rw [segments, if_neg absolute, joined, splitSlash_append, single]

/-- The extension of a path is the one of its last name. -/
theorem extension?_join (path : String) : extension? (join path name) = extension? name := by
  rw [extension?, extension?, proper.fileName?_join, proper.fileName?]

end IsEntryName

theorem names_under (path : String) (route : List String) (proper : ∀ name ∈ route, IsEntryName name) :
    names (under path route) = names path ++ route.map String.toList := by
  induction route generalizing path with
  | nil => exact (List.append_nil _).symm
  | cons name route ih =>
    rw [List.forall_mem_cons] at proper
    rw [under, List.foldl_cons, ← under, ih _ proper.2, proper.1.names_join, List.append_assoc, List.map_cons,
      List.singleton_append]

theorem extension?_under (path : String) (route : List String) (name : String) (proper : IsEntryName name)
    (last : route.getLast? = some name) : extension? (under path route) = extension? name := by
  obtain ⟨front, rfl⟩ := List.getLast?_eq_some_iff.mp last
  rw [under, List.foldl_append]
  exact proper.extension?_join _

theorem under_injective (path : String) (a b : List String) (properA : ∀ name ∈ a, IsEntryName name)
    (properB : ∀ name ∈ b, IsEntryName name) (same : under path a = under path b) : a = b := by
  have texts := congrArg names same
  rw [names_under path a properA, names_under path b properB] at texts
  exact (List.map_inj_right fun _ _ => String.toList_inj.mp).mp (List.append_cancel_left texts)

/-- Where ways part, the earlier name leads to the earlier path. -/
theorem before_of_lt (path first second : String) (a b : List String) (less : first < second)
    (properA : ∀ name ∈ first :: a, IsEntryName name) (properB : ∀ name ∈ second :: b, IsEntryName name) :
    Before (under path (first :: a)) (under path (second :: b)) := by
  rw [Before, names_under path _ properA, names_under path _ properB, List.map_append, List.map_append]
  apply List.append_left_lt
  exact List.cons_lt_cons_iff.mpr (Or.inl (utf8_lt first.toList second.toList less))

theorem not_before_self (path : String) : ¬ Before path path := List.lt_irrefl _

end Prologue.Path
