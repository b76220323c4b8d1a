import Prologue.Proofs.Paths

/-! The chain of paths above a path. One step up takes the last name away and keeps a first part of the text, so the
chain has one member more than the path has names, and it ends before the fuel of the search does. -/

namespace Prologue.Path

/-- The path so many steps above another, if the chain goes that far. -/
def above? : (steps : Nat) → String → Option String
  | 0, path => some path
  | steps + 1, path => (parent? path).bind (above? steps)

/-! ### Parts and texts -/

theorem joinSlash_cons (first : List Char) (rest : List (List Char)) (more : rest ≠ []) :
    joinSlash (first :: rest) = first ++ '/' :: joinSlash rest := by
  cases rest with
  | nil => exact absurd rfl more
  | cons => rfl

theorem joinSlash_splitSlash (text : List Char) : joinSlash (splitSlash text) = text := by
  induction text with
  | nil => rfl
  | cons c text ih =>
    rw [splitSlash]
    by_cases slash : c = '/'
    · rw [if_pos slash, joinSlash_cons _ _ (splitSlash_ne_nil text), ih, slash, List.nil_append]
    · rw [if_neg slash]
      cases parts : splitSlash text with
      | nil => exact absurd parts (splitSlash_ne_nil text)
      | cons first rest =>
        rw [parts] at ih
        -- the character goes in front of the first part, whether or not others follow
        cases rest with
        | nil => exact congrArg (c :: ·) ih
        | cons => exact congrArg (c :: ·) ih

theorem unbroken_of_mem_splitSlash (text : List Char) : ∀ part ∈ splitSlash text, '/' ∉ part := by
  induction text with
  | nil => simp [splitSlash]
  | cons c text ih =>
    rw [splitSlash]
    by_cases slash : c = '/'
    · rw [if_pos slash, List.forall_mem_cons]
      exact ⟨List.not_mem_nil, ih⟩
    · rw [if_neg slash]
      cases parts : splitSlash text with
      | nil => exact absurd parts (splitSlash_ne_nil text)
      | cons first rest =>
        rw [parts, List.forall_mem_cons] at ih
        rw [List.forall_mem_cons]
        exact ⟨List.not_mem_cons_of_ne_of_not_mem (Ne.symm slash) ih.1, ih.2⟩

theorem splitSlash_joinSlash (parts : List (List Char)) (filled : parts ≠ []) (unbroken : ∀ part ∈ parts, '/' ∉ part) :
    splitSlash (joinSlash parts) = parts := by
  induction parts with
  | nil => exact absurd rfl filled
  | cons first rest ih =>
    rw [List.forall_mem_cons] at unbroken
    by_cases last : rest = []
    · rw [last]
      exact splitSlash_unbroken first unbroken.1
    · rw [joinSlash_cons first rest last, splitSlash_append, splitSlash_unbroken first unbroken.1, ih last unbroken.2,
        List.singleton_append]

theorem prefix_joinSlash (front parts : List (List Char)) (starts : front <+: parts) :
    joinSlash front <+: joinSlash parts := by
  obtain ⟨back, rfl⟩ := starts
  induction front with
  | nil => exact List.nil_prefix
  | cons first rest ih =>
    by_cases last : rest = []
    · subst last
      rw [List.singleton_append]
      cases back with
      | nil => exact List.prefix_rfl
      | cons => exact List.prefix_append _ _
    · have more : rest ++ back ≠ [] := by simp [last]
      rw [List.cons_append, joinSlash_cons first rest last, joinSlash_cons first _ more]
      exact (List.prefix_append_right_inj first).mpr (List.cons_prefix_cons.mpr ⟨rfl, ih⟩)

/-! ### Names from the last on -/

/-- The names among parts. Both are given from the last on. -/
def lastNames (absolute : Bool) : List (List Char) → List (List Char)
  | [] => []
  | segment :: before =>
    if isName (!absolute && before.isEmpty) segment then segment :: lastNames absolute before
    else lastNames absolute before

theorem lastNames_append_singleton (absolute : Bool) (first : List Char) (rest : List (List Char)) :
    lastNames absolute (rest ++ [first]) = rest.filter (isName false) ++ [first].filter (isName !absolute) := by
  induction rest with
  | nil => simp [lastNames, List.filter_cons]
  | cons segment before ih =>
    have inside : (!absolute && (before ++ [first]).isEmpty) = false := by simp
    rw [List.cons_append, lastNames, inside, ih]
    by_cases named : isName false segment = true <;> simp [named]

theorem reverse_names (path : String) :
    (names path).reverse = lastNames (isAbsolute path) (segments path).reverse := by
  cases parts : segments path with
  | nil => exact absurd parts (splitSlash_ne_nil _)
  | cons first rest =>
    rw [List.reverse_cons, lastNames_append_singleton, names]
    by_cases absolute : isAbsolute path = true
    · obtain ⟨text, rooted⟩ := List.head?_eq_some_iff.mp (of_decide_eq_true absolute)
      rw [segments, if_pos absolute, rooted, List.drop_succ_cons, List.drop_zero] at parts
      rw [absolute, rooted, splitSlash, if_pos rfl, parts, namesAmong, Bool.not_true, ← List.filter_append,
        ← List.reverse_cons, List.filter_reverse]
      rfl
    · rw [segments, if_neg absolute] at parts
      rw [Bool.not_eq_true] at absolute
      rw [absolute, parts, namesAmong, List.reverse_append, List.filter_reverse, Bool.not_false]
      congr 1
      cases named : isName true first <;> simp [named]

theorem dropUnnamed_suffix (absolute : Bool) (parts : List (List Char)) : dropUnnamed absolute parts <:+ parts := by
  fun_induction dropUnnamed absolute parts with
  | case1 => exact List.suffix_rfl
  | case2 => exact List.suffix_rfl
  | case3 segment before _ ih => exact ih.trans (List.suffix_cons segment before)

theorem lastNames_dropUnnamed (absolute : Bool) (parts : List (List Char)) :
    lastNames absolute (dropUnnamed absolute parts) = lastNames absolute parts := by
  fun_induction dropUnnamed absolute parts with
  | case1 => rfl
  | case2 => rfl
  | case3 segment before unnamed ih => rw [ih, lastNames, if_neg unnamed]

theorem isName_of_dropUnnamed (absolute : Bool) (parts before : List (List Char)) (segment : List Char)
    (kept : dropUnnamed absolute parts = segment :: before) :
    isName (!absolute && before.isEmpty) segment = true := by
  fun_induction dropUnnamed absolute parts with
  | case1 => cases kept
  | case2 first rest named =>
    cases kept
    exact named
  | case3 first rest unnamed ih => exact ih kept

/-! ### One step up -/

/-- What the parent of a path is made of: the parts in front of the last name, up to the name before it. -/
theorem exists_of_parent? (path above : String) (found : parent? path = some above) :
    ∃ last before, named path = last :: before ∧
      above.toList = (if isAbsolute path then ['/'] else []) ++
        joinSlash (dropUnnamed (isAbsolute path) before).reverse := by
  unfold parent? at found
  cases parts : named path with
  | nil =>
    rw [parts] at found
    cases found
  | cons last before =>
    rw [parts] at found
    cases found
    refine ⟨last, before, rfl, ?_⟩
    rw [String.toList_ofList]
    split <;> rfl

theorem toList_eq_joinSlash (path : String) :
    path.toList = (if isAbsolute path then ['/'] else []) ++ joinSlash (segments path) := by
  rw [segments, joinSlash_splitSlash]
  by_cases absolute : isAbsolute path = true
  · obtain ⟨rest, rooted⟩ := List.head?_eq_some_iff.mp (of_decide_eq_true absolute)
    rw [if_pos absolute, if_pos absolute, rooted]
    rfl
  · rw [if_neg absolute, if_neg absolute, List.nil_append]

/-- The parent of a path is a first part of its text. -/
theorem prefix_of_parent? (path above : String) (found : parent? path = some above) :
    above.toList <+: path.toList := by
  obtain ⟨last, before, parts, text⟩ := exists_of_parent? path above found
  have whole : last :: before <:+ (segments path).reverse := parts ▸ dropUnnamed_suffix _ _
  have outer := (dropUnnamed_suffix (isAbsolute path) before).trans (List.suffix_cons last before)
  have front : (dropUnnamed (isAbsolute path) before).reverse <+: segments path := by
    rw [← List.reverse_reverse (segments path)]
    exact List.reverse_prefix.mpr (outer.trans whole)
  rw [text, toList_eq_joinSlash path]
  exact (List.prefix_append_right_inj _).mpr (prefix_joinSlash _ _ front)

theorem isAbsolute_of_parent? (path above : String) (found : parent? path = some above) :
    isAbsolute above = isAbsolute path := by
  obtain ⟨last, before, -, text⟩ := exists_of_parent? path above found
  by_cases absolute : isAbsolute path = true
  · rw [absolute, isAbsolute, text, if_pos absolute]
    rfl
  · rw [Bool.not_eq_true] at absolute
    rw [absolute, isAbsolute, decide_eq_false_iff_not]
    intro rooted
    obtain ⟨rest, split⟩ := prefix_of_parent? path above found
    have first : path.toList.head? = some '/' := by rw [← split, List.head?_append, rooted, Option.some_or]
    rw [isAbsolute, first] at absolute
    cases absolute

/-- One step up takes the last name away. -/
theorem names_of_parent? (path above : String) (found : parent? path = some above) :
    ∃ last, names path = names above ++ [last] := by
  obtain ⟨last, before, parts, text⟩ := exists_of_parent? path above found
  have rooted := isAbsolute_of_parent? path above found
  refine ⟨last, ?_⟩
  have outer : (names path).reverse = last :: lastNames (isAbsolute path) before := by
    have named := isName_of_dropUnnamed _ _ _ _ parts
    rw [reverse_names, ← lastNames_dropUnnamed, ← Path.named, parts, lastNames, if_pos named]
  have inner : (names above).reverse = lastNames (isAbsolute path) before := by
    have parted : segments above = splitSlash (joinSlash (dropUnnamed (isAbsolute path) before).reverse) := by
      rw [segments, rooted, text]
      split <;> rfl
    rw [reverse_names, rooted, parted, ← lastNames_dropUnnamed _ before]
    by_cases none : dropUnnamed (isAbsolute path) before = []
    · -- the root and the empty path have one part, which is no name
      rw [none]
      cases isAbsolute path <;> rfl
    · rw [splitSlash_joinSlash, List.reverse_reverse]
      · simpa using none
      · intro part member
        have kept : last :: before <:+ (segments path).reverse := parts ▸ dropUnnamed_suffix _ _
        have within := (dropUnnamed_suffix _ before).mem (List.mem_reverse.mp member)
        have among := kept.mem (List.mem_cons_of_mem last within)
        exact unbroken_of_mem_splitSlash _ part (List.mem_reverse.mp among)
  rw [← inner] at outer
  have whole := congrArg List.reverse outer
  rwa [List.reverse_reverse, List.reverse_cons, List.reverse_reverse] at whole

theorem parent?_eq_none_iff (path : String) : parent? path = none ↔ names path = [] := by
  rw [← List.reverse_eq_nil_iff, reverse_names, ← lastNames_dropUnnamed, ← named, parent?]
  cases parts : named path with
  | nil => simp [lastNames]
  | cons last before => simp [lastNames, isName_of_dropUnnamed _ _ _ _ parts]

/-! ### The chain -/

theorem above?_eq_none_iff (steps : Nat) (path : String) : above? steps path = none ↔ (names path).length < steps := by
  induction steps generalizing path with
  | zero => simp [above?]
  | succ steps ih =>
    rw [above?]
    cases found : parent? path with
    | none =>
      rw [parent?_eq_none_iff] at found
      simp [found]
    | some above =>
      obtain ⟨last, taken⟩ := names_of_parent? path above found
      rw [Option.bind_some, ih, taken, List.length_append, List.length_singleton, Nat.add_lt_add_iff_right]

theorem countP_splitSlash_le (text : List Char) : (splitSlash text).countP (· ≠ []) ≤ text.length := by
  induction text with
  | nil => simp [splitSlash]
  | cons c text ih =>
    rw [splitSlash]
    by_cases slash : c = '/'
    · rw [if_pos slash]
      simpa using Nat.le_succ_of_le ih
    · rw [if_neg slash]
      cases parts : splitSlash text with
      | nil => simp
      | cons first rest =>
        rw [parts, List.countP_cons] at ih
        rw [List.countP_cons, List.length_cons, if_pos (by simp)]
        omega

theorem length_names_le (path : String) : (names path).length ≤ path.length := by
  have filled (parts : List (List Char)) (start : Bool) : (parts.filter (isName start)).length ≤ parts.countP (· ≠ []) := by
    rw [← List.countP_eq_length_filter]
    apply List.countP_mono_left
    intro part _ named
    rw [isName, Bool.and_eq_true] at named
    exact named.1
  have bound := countP_splitSlash_le path.toList
  rw [names]
  cases parts : splitSlash path.toList with
  | nil => exact Nat.zero_le _
  | cons first rest =>
    rw [parts, ← List.singleton_append, List.countP_append] at bound
    have one := filled [first] true
    have others := filled rest false
    rw [namesAmong, List.length_append, ← String.length_toList]
    omega

/-- With fuel for every name, the search goes up to the end of the chain. -/
theorem getElem?_ancestorsWithin (fuel steps : Nat) (path : String) (enough : (names path).length ≤ fuel) :
    (ancestorsWithin fuel path)[steps]? = above? steps path := by
  induction fuel generalizing steps path with
  | zero =>
    have last := (parent?_eq_none_iff path).mpr (List.length_eq_zero_iff.mp (Nat.le_zero.mp enough))
    cases steps with
    | zero => rfl
    | succ steps => simp [ancestorsWithin, above?, last]
  | succ fuel ih =>
    rw [ancestorsWithin]
    cases found : parent? path with
    | none => cases steps <;> simp [above?, found]
    | some above =>
      obtain ⟨last, taken⟩ := names_of_parent? path above found
      rw [taken, List.length_append, List.length_singleton, Nat.add_le_add_iff_right] at enough
      cases steps with
      | zero => rfl
      | succ steps => rw [List.getElem?_cons_succ, ih steps above enough, above?, found, Option.bind_some]

theorem getElem?_ancestors (steps : Nat) (path : String) : (ancestors path)[steps]? = above? steps path :=
  getElem?_ancestorsWithin _ steps path (length_names_le path)

end Prologue.Path
