import Mathlib.Algebra.Ring.Parity
import Mathlib.Data.List.Basic
import Prologue.Arguments

/-! The roles of arguments. A flag that takes a value is looked for among all words, also among the values of other
flags, while paths are found by reading from the left. The two agree on which word is a value, except behind a flag that
is itself read as the value of the flag before it. -/

namespace Prologue.Arguments

/-- The positions of the arguments that are no flags and no values of flags, from a position on. -/
def pathPositions : (start : Nat) → List String → List Nat
  | _, [] => []
  | start, arg :: rest =>
    if valueFlags.contains arg then
      match rest with
      | [] => []
      | _ :: rest => pathPositions (start + 2) rest
    else if arg.toList.take 2 = ['-', '-'] then pathPositions (start + 1) rest
    else start :: pathPositions (start + 1) rest

/-- The position behind the first mention of a flag, if there is an argument. -/
def valuePosition? (flag : String) (args : List String) : Option Nat :=
  if args.idxOf flag + 1 < args.length then some (args.idxOf flag + 1) else none

/-- How many flags that take a value stand at the end of some arguments. -/
def flagRun (args : List String) : Nat := (args.reverse.takeWhile valueFlags.contains).length

def Dashed (word : String) : Prop := word.toList.take 2 = ['-', '-']

/-- A word that is no flag, behind an even number of flags that take a value: of these, every other one is a value. -/
def PathAt (args : List String) (position : Nat) : Prop :=
  ∃ word, args[position]? = some word ∧ ¬Dashed word ∧ Even (flagRun (args.take position))

theorem flagValue_eq_bind (flag : String) (args : List String) :
    flagValue? flag args = (valuePosition? flag args).bind fun position => args[position]? := by
  unfold valuePosition?
  induction args with
  | nil => rfl
  | cons arg rest ih =>
    rw [flagValue?]
    by_cases same : arg = flag
    · rw [if_pos same, same, List.idxOf_cons_self]
      cases rest with
      | nil => rfl
      | cons value rest => simp
    · rw [if_neg same, ih, List.idxOf_cons_ne _ same, List.length_cons]
      by_cases inside : rest.idxOf flag + 1 < rest.length
      · simp [inside]
      · simp [inside]

theorem positional_of_not_flag (arg : String) (rest : List String) (noFlag : ¬valueFlags.contains arg = true) :
    positional (arg :: rest) =
      if arg.toList.take 2 = ['-', '-'] then positional rest else arg :: positional rest := by
  rw [positional.eq_def]
  exact if_neg noFlag

theorem pathPositions_of_not_flag (start : Nat) (arg : String) (rest : List String)
    (noFlag : ¬valueFlags.contains arg = true) :
    pathPositions start (arg :: rest) =
      if arg.toList.take 2 = ['-', '-'] then pathPositions (start + 1) rest
      else start :: pathPositions (start + 1) rest := by
  rw [pathPositions.eq_def]
  exact if_neg noFlag

theorem positional_eq_filterMap (front args : List String) :
    positional args = (pathPositions front.length args).filterMap fun position => (front ++ args)[position]? := by
  induction args using positional.induct generalizing front with
  | case1 => rfl
  | case2 arg flag => rw [positional, pathPositions, if_pos flag, if_pos flag, List.filterMap_nil]
  | case3 arg flag value rest ih =>
    have later := ih (front ++ [arg, value])
    rw [List.append_assoc, List.length_append] at later
    rw [positional, pathPositions, if_pos flag, if_pos flag]
    exact later
  | case4 arg rest noFlag dashed ih =>
    have later := ih (front ++ [arg])
    rw [List.append_assoc, List.length_append] at later
    rw [positional_of_not_flag arg rest noFlag, pathPositions_of_not_flag _ arg rest noFlag, if_pos dashed,
      if_pos dashed]
    exact later
  | case5 arg rest noFlag plain ih =>
    have later := ih (front ++ [arg])
    have here : (front ++ arg :: rest)[front.length]? = some arg := by simp
    rw [List.append_assoc, List.length_append] at later
    rw [positional_of_not_flag arg rest noFlag, pathPositions_of_not_flag _ arg rest noFlag, if_neg plain, if_neg plain,
      List.filterMap_cons_some here]
    exact congrArg (arg :: ·) later

theorem flagRun_append_singleton (front : List String) (arg : String) :
    flagRun (front ++ [arg]) = if valueFlags.contains arg then flagRun front + 1 else 0 := by
  unfold flagRun
  rw [List.reverse_append, List.reverse_singleton, List.singleton_append, List.takeWhile_cons]
  split <;> simp

theorem dashed_of_contains (flag : String) (known : valueFlags.contains flag = true) : Dashed flag := by
  have all : valueFlags.all fun flag => flag.toList.take 2 = ['-', '-'] := by decide
  have found := List.all_eq_true.mp all flag (List.contains_iff_mem.mp known)
  rwa [decide_eq_true_eq] at found

theorem pathAt_here (front rest : List String) (arg : String) :
    PathAt (front ++ arg :: rest) front.length ↔ ¬Dashed arg ∧ Even (flagRun front) := by
  simp [PathAt]

theorem PathAt.lt_length {args : List String} {position : Nat} (path : PathAt args position) :
    position < args.length := by
  obtain ⟨word, here, _⟩ := path
  exact (List.getElem?_eq_some_iff.mp here).1

/-- The paths from a position on are the one at that position, if it is one, and those behind it. -/
theorem pathAt_from_iff (front rest : List String) (arg : String) (position : Nat) :
    front.length ≤ position ∧ PathAt (front ++ arg :: rest) position ↔
      (position = front.length ∧ ¬Dashed arg ∧ Even (flagRun front)) ∨
        (front ++ [arg]).length ≤ position ∧ PathAt (front ++ [arg] ++ rest) position := by
  rw [List.append_assoc, List.singleton_append, List.length_append, List.length_singleton, ← pathAt_here front rest arg]
  constructor
  · intro path
    by_cases here : position = front.length
    · exact Or.inl ⟨here, here ▸ path.2⟩
    · exact Or.inr ⟨by omega, path.2⟩
  · intro cases
    rcases cases with ⟨rfl, path⟩ | path
    · exact ⟨Nat.le_refl _, path⟩
    · exact ⟨by omega, path.2⟩

theorem not_pathAt_end (args : List String) (position : Nat) :
    ¬(args.length ≤ position ∧ PathAt (args ++ []) position) := by
  intro path
  have bound := path.2.lt_length
  rw [List.append_nil] at bound
  omega

/-- Reading from the left finds the paths: where it stops for a word, the flags before that word pair up. -/
theorem mem_pathPositions (front args : List String) (even : Even (flagRun front)) (position : Nat) :
    position ∈ pathPositions front.length args ↔ front.length ≤ position ∧ PathAt (front ++ args) position := by
  induction args using positional.induct generalizing front with
  | case1 => simpa [pathPositions] using not_pathAt_end front position
  | case2 arg flag =>
    have dashed : Dashed arg := dashed_of_contains arg flag
    have ends := not_pathAt_end (front ++ [arg]) position
    rw [pathPositions, if_pos flag, pathAt_from_iff]
    simp only [List.not_mem_nil, dashed, not_true_eq_false, false_and, and_false, ends, or_self]
  | case3 arg flag value rest ih =>
    -- Behind the flag the number is odd, and behind its value even again, also if that is a flag itself.
    have dashed : Dashed arg := dashed_of_contains arg flag
    have odd : ¬Even (flagRun (front ++ [arg])) := by
      rw [flagRun_append_singleton, if_pos flag, Nat.even_add_one, not_not]
      exact even
    have paired : Even (flagRun (front ++ [arg] ++ [value])) := by
      rw [flagRun_append_singleton]
      split
      · exact Nat.even_add_one.mpr odd
      · exact Even.zero
    have behind : (front ++ [arg] ++ [value]).length = front.length + 2 := by simp
    have later := ih (front ++ [arg] ++ [value]) paired
    rw [pathPositions, if_pos flag, pathAt_from_iff, pathAt_from_iff, ← later, behind]
    simp only [dashed, odd, not_true_eq_false, false_and, and_false, false_or]
  | case4 arg rest noFlag dashed ih =>
    have none : Even (flagRun (front ++ [arg])) := by
      rw [flagRun_append_singleton, if_neg noFlag]
      exact Even.zero
    have later := ih (front ++ [arg]) none
    rw [pathPositions_of_not_flag _ arg rest noFlag, if_pos dashed, pathAt_from_iff, ← later, List.length_append,
      List.length_singleton]
    simp only [Dashed, dashed, not_true_eq_false, false_and, and_false, false_or]
  | case5 arg rest noFlag plain ih =>
    have none : Even (flagRun (front ++ [arg])) := by
      rw [flagRun_append_singleton, if_neg noFlag]
      exact Even.zero
    have later := ih (front ++ [arg]) none
    rw [pathPositions_of_not_flag _ arg rest noFlag, if_neg plain, pathAt_from_iff, ← later, List.length_append,
      List.length_singleton, List.mem_cons]
    simp only [Dashed, plain, not_false_eq_true, even, and_true]

/-- The value of a flag is also a path exactly when it is no flag and the first mention of its flag is itself read as a
value, an odd number of flags that take one standing directly before. -/
theorem value_is_path_iff (args : List String) (flag : String) (known : flag ∈ valueFlags) :
    positional args = (pathPositions 0 args).filterMap (fun position => args[position]?) ∧
    flagValue? flag args = (valuePosition? flag args).bind (fun position => args[position]?) ∧
    ∀ position, valuePosition? flag args = some position →
      (position ∈ pathPositions 0 args ↔
        (∃ word, args[position]? = some word ∧ ¬Dashed word) ∧ Odd (flagRun (args.take (args.idxOf flag)))) := by
  refine ⟨positional_eq_filterMap [] args, flagValue_eq_bind flag args, ?_⟩
  intro position found
  unfold valuePosition? at found
  split at found
  · next inside =>
    cases found
    have bound : args.idxOf flag < args.length := by omega
    have mention : args.take (args.idxOf flag + 1) = args.take (args.idxOf flag) ++ [flag] := by
      rw [← List.take_append_getElem bound, List.getElem_idxOf bound]
    have read := mem_pathPositions [] args Even.zero (args.idxOf flag + 1)
    rw [List.nil_append, PathAt, mention, flagRun_append_singleton, if_pos (List.contains_iff_mem.mpr known),
      Nat.even_add_one, Nat.not_even_iff_odd, List.length_nil] at read
    rw [read]
    constructor
    · intro path
      obtain ⟨_, word, here, plain, odd⟩ := path
      exact ⟨⟨word, here, plain⟩, odd⟩
    · intro path
      obtain ⟨⟨word, here, plain⟩, odd⟩ := path
      exact ⟨Nat.zero_le _, word, here, plain, odd⟩
  · cases found

/-- The flag for the newline option stands where the path of a config is expected. -/
def swallowedFlag : List String := ["--config", "--newline", "never"]

theorem value_is_path_swallowedFlag :
    "--newline" ∈ valueFlags ∧ valuePosition? "--newline" swallowedFlag = some 2 ∧
    2 ∈ pathPositions 0 swallowedFlag := by
  have known : "--newline" ∈ valueFlags := by decide
  have found : valuePosition? "--newline" swallowedFlag = some 2 := by decide
  have roles := (value_is_path_iff swallowedFlag "--newline" known).2.2 2 found
  refine ⟨known, found, roles.mpr ⟨⟨"never", rfl, ?_⟩, ?_⟩⟩
  · unfold Dashed
    decide
  · exact ⟨0, by decide⟩

theorem not_value_apart_from_paths :
    ¬∀ (args : List String) (flag : String), flag ∈ valueFlags →
      ∀ position, valuePosition? flag args = some position → position ∉ pathPositions 0 args := by
  intro apart
  exact apart swallowedFlag "--newline" (by decide) 2 (by decide) (by decide)

end Prologue.Arguments
