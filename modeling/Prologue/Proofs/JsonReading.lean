import Prologue.Json.Reader

/-! Reading the tokens of a value. What comes back is the value with the members of its objects in the order of their
keys, as long as it is not nested too deep for the reader. Where the keys of an object are distinct, a look-up does not
see the order. -/

namespace Prologue

theorem toOption_eq_some_iff {ε α : Type} (result : Except ε α) (value : α) :
    result.toOption = some value ↔ result = .ok value := by
  cases result <;> simp [Except.toOption]

theorem toOption_eq_none_iff {ε α : Type} (result : Except ε α) :
    result.toOption = none ↔ ∃ fault, result = .error fault := by
  cases result <;> simp [Except.toOption]

theorem toOption_map {ε α β : Type} (result : Except ε α) (f : α → β) :
    (result.map f).toOption = result.toOption.map f := by
  cases result <;> rfl

/-- A result that agrees with an option fails where the option is none. -/
theorem cases_of_toOption {ε α β : Type} {result : Except ε β} {option : Option α} {f : α → β}
    (agrees : result.toOption = option.map f) :
    (option = none ∧ ∃ fault, result = .error fault) ∨ ∃ value, option = some value ∧ result = .ok (f value) := by
  cases option with
  | none => exact Or.inl ⟨rfl, (toOption_eq_none_iff result).mp agrees⟩
  | some value => exact Or.inr ⟨value, rfl, (toOption_eq_some_iff result _).mp agrees⟩

namespace Json

/-- A statement holds of every value if it passes from the items of a list and the members of an object to these. -/
@[elab_as_elim]
theorem value_induction {motive : Json → Prop} (null : motive .null) (bool : ∀ value, motive (.bool value))
    (number : ∀ value, motive (.number value)) (string : ∀ value, motive (.string value))
    (array : ∀ items, (∀ item ∈ items, motive item) → motive (.array items))
    (object : ∀ members, (∀ member ∈ members, motive member.2) → motive (.object members)) (value : Json) :
    motive value := by
  refine @Json.rec motive (fun items => ∀ item ∈ items, motive item)
    (fun members => ∀ member ∈ members, motive member.2) (fun member => motive member.2)
    null bool number string array object ?_ ?_ ?_ ?_ ?_ value
  · intro item member
    cases member
  · intro first rest holds below
    exact List.forall_mem_cons.mpr ⟨holds, below⟩
  · intro item member
    cases member
  · intro first rest holds below
    exact List.forall_mem_cons.mpr ⟨holds, below⟩
  · intro key value holds
    exact holds

mutual
/-- How deep lists and objects are nested in a value. -/
def nesting : Json → Nat
  | .null | .bool _ | .number _ | .string _ => 0
  | .array items => nestingOfItems items + 1
  | .object members => nestingOfMembers members + 1
termination_by structural value => value

def nestingOfItems : List Json → Nat
  | [] => 0
  | item :: items => max item.nesting (nestingOfItems items)
termination_by structural items => items

def nestingOfMembers : List (String × Json) → Nat
  | [] => 0
  | (_, value) :: members => max value.nesting (nestingOfMembers members)
termination_by structural members => members
end

mutual
/-- A value with the members of all its objects in the order of their keys; of members with one key the last stays. -/
def sorted : Json → Json
  | .null => .null
  | .bool value => .bool value
  | .number value => .number value
  | .string value => .string value
  | .array items => .array (sortedItems items)
  | .object members => .object (sortedMembers members [])
termination_by structural value => value

def sortedItems : List Json → List Json
  | [] => []
  | item :: items => item.sorted :: sortedItems items
termination_by structural items => items

/-- Members that are added to others. -/
def sortedMembers : List (String × Json) → (seen : List (String × Json)) → List (String × Json)
  | [], seen => seen
  | (key, value) :: members, seen => sortedMembers members (insertMember key value.sorted seen)
termination_by structural members => members
end

/-! ### The number of tokens -/

theorem length_add_count_le_pushItems (items : List Json) (first : Bool) (rest : Tokens)
    (each : ∀ item ∈ items, ∀ rest : Tokens, rest.count < (item.push rest).count) :
    items.length + rest.count ≤ (pushItems items first rest).count := by
  induction items generalizing first with
  | nil => simp [pushItems]
  | cons item items ih =>
    have head := each item List.mem_cons_self (pushItems items false rest)
    have tail := ih false fun other member => each other (List.mem_cons_of_mem _ member)
    rw [pushItems, List.length_cons]
    cases first with
    | true => simp only [if_true]; omega
    | false => simp only [Bool.false_eq_true, if_false, Tokens.count]; omega

theorem length_add_count_le_pushMembers (members : List (String × Json)) (first : Bool) (rest : Tokens)
    (each : ∀ member ∈ members, ∀ rest : Tokens, rest.count < (member.2.push rest).count) :
    members.length + rest.count ≤ (pushMembers members first rest).count := by
  induction members generalizing first with
  | nil => simp [pushMembers]
  | cons member members ih =>
    have head := each member List.mem_cons_self (pushMembers members false rest)
    have tail := ih false fun other inside => each other (List.mem_cons_of_mem _ inside)
    rw [pushMembers, List.length_cons]
    cases first with
    | true => simp only [if_true, Tokens.count]; omega
    | false => simp only [Bool.false_eq_true, if_false, Tokens.count]; omega

/-- Every value has a token. -/
theorem count_lt_push (value : Json) (rest : Tokens) : rest.count < (value.push rest).count := by
  induction value using value_induction generalizing rest with
  | null | bool | number | string => exact Nat.lt_succ_self _
  | array items ih =>
    have inside := length_add_count_le_pushItems items true (.next .closeArray 0 0 rest) ih
    simp only [push, Tokens.count] at inside ⊢
    omega
  | object members ih =>
    have inside := length_add_count_le_pushMembers members true (.next .closeObject 0 0 rest) ih
    simp only [push, Tokens.count] at inside ⊢
    omega

/-- The tokens of a list are fuel enough to read its items. -/
theorem length_lt_count_pushItems (items : List Json) (first : Bool) (rest : Tokens) :
    items.length < (pushItems items first rest).count + 1 := by
  have length := length_add_count_le_pushItems items first rest fun item _ => count_lt_push item
  omega

theorem length_lt_count_pushMembers (members : List (String × Json)) (first : Bool) (rest : Tokens) :
    members.length < (pushMembers members first rest).count + 1 := by
  have length := length_add_count_le_pushMembers members first rest fun member _ => count_lt_push member.2
  omega

/-! ### One step of a reader -/

@[simp]
theorem nextItem?_closeArray (first : Bool) (start stop : Nat) (rest : Tokens) :
    nextItem? first (.next .closeArray start stop rest) = .ok (false, .next .closeArray start stop rest) := rfl

@[simp]
theorem nextItem?_pushItems (item : Json) (items : List Json) (first : Bool) (rest : Tokens) :
    nextItem? first (pushItems (item :: items) first rest) = .ok (true, item.push (pushItems items false rest)) := by
  cases first <;> cases item <;> rfl

@[simp]
theorem nextKey?_closeObject (first : Bool) (start stop : Nat) (rest : Tokens) :
    nextKey? first (.next .closeObject start stop rest) = .ok (none, .next .closeObject start stop rest) := rfl

@[simp]
theorem nextKey?_pushMembers (key : String) (value : Json) (members : List (String × Json)) (first : Bool)
    (rest : Tokens) :
    nextKey? first (pushMembers ((key, value) :: members) first rest) =
      .ok (some key, .next .colon 0 0 (value.push (pushMembers members false rest))) := by
  cases first <;> rfl

/-- The items of a list are read one after another. -/
theorem toOption_readItems_pushItems (item : Tokens → Read Json) (fuel : Nat) (first : Bool) (value : Json)
    (values : List Json) (rest : Tokens) :
    (readItems item (fuel + 1) first (pushItems (value :: values) first rest)).toOption =
      (item (value.push (pushItems values false rest))).toOption.bind fun head =>
        (readItems item fuel false head.2).toOption.map fun tail => (head.1 :: tail.1, tail.2) := by
  simp only [readItems, nextItem?_pushItems]
  cases item (value.push (pushItems values false rest)) with
  | error => rfl
  | ok head =>
    simp only [Except.toOption, Option.bind_some]
    cases readItems item fuel false head.2 <;> rfl

theorem toOption_readMembers_pushMembers (item : Tokens → Read Json) (fuel : Nat) (first : Bool)
    (seen members : List (String × Json)) (key : String) (value : Json) (rest : Tokens) :
    (readMembers item (fuel + 1) first seen (pushMembers ((key, value) :: members) first rest)).toOption =
      (item (value.push (pushMembers members false rest))).toOption.bind fun head =>
        (readMembers item fuel false (insertMember key head.1 seen) head.2).toOption := by
  simp only [readMembers, nextKey?_pushMembers, colon]
  cases item (value.push (pushMembers members false rest)) <;> rfl

/-! ### A whole value -/

/-- What a reader for so many levels makes of a value. -/
def Rereads (depth : Nat) (value : Json) : Prop :=
  ∀ rest, (readValue depth (value.push rest)).toOption =
    if value.nesting < depth then some (value.sorted, rest) else none

theorem toOption_readItems (depth fuel : Nat) (positive : 0 < depth) (first : Bool) (items : List Json) (rest : Tokens)
    (enough : items.length < fuel) (each : ∀ item ∈ items, Rereads depth item) :
    (readItems (readValue depth) fuel first (pushItems items first (.next .closeArray 0 0 rest))).toOption =
      if nestingOfItems items < depth then some (sortedItems items, .next .closeArray 0 0 rest) else none := by
  induction items generalizing fuel first with
  | nil =>
    obtain ⟨fuel, rfl⟩ := Nat.exists_eq_add_one_of_ne_zero (Nat.ne_zero_of_lt enough)
    simp [pushItems, readItems, nestingOfItems, sortedItems, positive, Except.toOption]
  | cons item items ih =>
    obtain ⟨fuel, rfl⟩ := Nat.exists_eq_add_one_of_ne_zero (Nat.ne_zero_of_lt enough)
    have head := each item List.mem_cons_self
    have tail := ih fuel false (Nat.lt_of_succ_lt_succ enough) fun other member =>
      each other (List.mem_cons_of_mem _ member)
    rw [toOption_readItems_pushItems, head, nestingOfItems, sortedItems]
    by_cases shallow : item.nesting < depth
    · rw [if_pos shallow, Option.bind_some, tail]
      simp only [Nat.max_lt, shallow, true_and]
      split <;> rfl
    · simp only [Nat.max_lt, shallow, false_and, if_false]
      rfl

theorem toOption_readMembers (depth fuel : Nat) (positive : 0 < depth) (first : Bool)
    (members seen : List (String × Json)) (rest : Tokens) (enough : members.length < fuel)
    (each : ∀ member ∈ members, Rereads depth member.2) :
    (readMembers (readValue depth) fuel first seen
        (pushMembers members first (.next .closeObject 0 0 rest))).toOption =
      if nestingOfMembers members < depth then some (sortedMembers members seen, .next .closeObject 0 0 rest)
      else none := by
  induction members generalizing fuel first seen with
  | nil =>
    obtain ⟨fuel, rfl⟩ := Nat.exists_eq_add_one_of_ne_zero (Nat.ne_zero_of_lt enough)
    simp [pushMembers, readMembers, nestingOfMembers, sortedMembers, positive, Except.toOption]
  | cons member members ih =>
    obtain ⟨key, value⟩ := member
    obtain ⟨fuel, rfl⟩ := Nat.exists_eq_add_one_of_ne_zero (Nat.ne_zero_of_lt enough)
    have head := each (key, value) List.mem_cons_self
    have tail := ih fuel false (insertMember key value.sorted seen) (Nat.lt_of_succ_lt_succ enough)
      fun other inside => each other (List.mem_cons_of_mem _ inside)
    rw [toOption_readMembers_pushMembers, head, nestingOfMembers, sortedMembers]
    by_cases shallow : value.nesting < depth
    · rw [if_pos shallow, Option.bind_some, tail]
      simp only [Nat.max_lt, shallow, true_and]
    · simp only [Nat.max_lt, shallow, false_and, if_false]
      rfl

theorem rereads_array (depth : Nat) (items : List Json) (each : ∀ item ∈ items, Rereads depth item) :
    Rereads (depth + 1) (.array items) := by
  intro rest
  rw [push, readValue, nesting, sorted]
  cases depth with
  | zero => simp [Except.toOption]
  | succ depth =>
    have inside := toOption_readItems (depth + 1) _ (Nat.succ_pos depth) true items rest
      (length_lt_count_pushItems items true (.next .closeArray 0 0 rest)) each
    rw [if_neg (Nat.succ_ne_zero depth)]
    by_cases shallow : nestingOfItems items < depth + 1
    · rw [if_pos shallow] at inside
      rw [(toOption_eq_some_iff _ _).mp inside, if_pos (Nat.succ_lt_succ shallow)]
      rfl
    · rw [if_neg shallow] at inside
      obtain ⟨fault, failed⟩ := (toOption_eq_none_iff _).mp inside
      rw [failed, if_neg fun below => shallow (Nat.lt_of_succ_lt_succ below)]
      rfl

theorem rereads_object (depth : Nat) (members : List (String × Json))
    (each : ∀ member ∈ members, Rereads depth member.2) : Rereads (depth + 1) (.object members) := by
  intro rest
  rw [push, readValue, nesting, sorted]
  cases depth with
  | zero => simp [Except.toOption]
  | succ depth =>
    have inside := toOption_readMembers (depth + 1) _ (Nat.succ_pos depth) true members [] rest
      (length_lt_count_pushMembers members true (.next .closeObject 0 0 rest)) each
    rw [if_neg (Nat.succ_ne_zero depth)]
    by_cases shallow : nestingOfMembers members < depth + 1
    · rw [if_pos shallow] at inside
      rw [(toOption_eq_some_iff _ _).mp inside, if_pos (Nat.succ_lt_succ shallow)]
      rfl
    · rw [if_neg shallow] at inside
      obtain ⟨fault, failed⟩ := (toOption_eq_none_iff _).mp inside
      rw [failed, if_neg fun below => shallow (Nat.lt_of_succ_lt_succ below)]
      rfl

/-- Reading the tokens of a value gives it back with its members in order, or fails if it is nested too deep; what
follows is left. -/
theorem rereads (depth : Nat) (value : Json) : Rereads depth value := by
  induction value using value_induction generalizing depth with
  | null | bool | number | string =>
    intro rest
    cases depth <;> rfl
  | array items ih =>
    cases depth with
    | zero => exact fun rest => rfl
    | succ depth => exact rereads_array depth items fun item member => ih item member depth
  | object members ih =>
    cases depth with
    | zero => exact fun rest => rfl
    | succ depth => exact rereads_object depth members fun member inside => ih member inside depth

/-! ### Members -/

/-- Values in which no object has two members with one key. -/
inductive Keyed : Json → Prop where
  | null : Keyed .null
  | bool (value : Bool) : Keyed (.bool value)
  | number (value : Number) : Keyed (.number value)
  | string (value : String) : Keyed (.string value)
  | array (items : List Json) (each : ∀ item ∈ items, Keyed item) : Keyed (.array items)
  | object (members : List (String × Json)) (distinct : (members.map Prod.fst).Nodup)
      (each : ∀ member ∈ members, Keyed member.2) : Keyed (.object members)

theorem Keyed.distinct {members : List (String × Json)} (keyed : Keyed (.object members)) :
    (members.map Prod.fst).Nodup := by
  cases keyed with
  | object _ distinct _ => exact distinct

theorem Keyed.member {members : List (String × Json)} (keyed : Keyed (.object members)) :
    ∀ member ∈ members, member.2.Keyed := by
  cases keyed with
  | object _ _ each => exact each

theorem lookup_eq_none_iff (key : String) (members : List (String × Json)) :
    lookup key members = none ↔ key ∉ members.map Prod.fst := by
  induction members with
  | nil => simp [lookup]
  | cons member members ih =>
    rw [lookup, List.map_cons, List.mem_cons, not_or]
    by_cases same : member.1 = key
    · simp [same]
    · simp [same, ih, Ne.symm same]

/-- Where keys are distinct, a look-up finds every member. -/
theorem lookup_eq_some_iff {members : List (String × Json)} (distinct : (members.map Prod.fst).Nodup) (key : String)
    (value : Json) : lookup key members = some value ↔ (key, value) ∈ members := by
  induction members with
  | nil => simp [lookup]
  | cons member members ih =>
    obtain ⟨first, held⟩ := member
    rw [List.map_cons, List.nodup_cons] at distinct
    rw [lookup, List.mem_cons]
    by_cases same : first = key
    · subst same
      have fresh : (first, value) ∉ members := fun inside => distinct.1 (List.mem_map.mpr ⟨_, inside, rfl⟩)
      simp [fresh, eq_comm]
    · simp [same, Ne.symm same, ih distinct.2]

theorem lookup_insertMember (key other : String) (value : Json) (members : List (String × Json)) :
    lookup other (insertMember key value members) = if key = other then some value else lookup other members := by
  fun_induction insertMember key value members with
  | case1 => rfl
  | case2 => simp only [lookup]; split <;> rfl
  | case3 => rfl
  | case4 first held rest different _ ih =>
    rw [lookup, lookup, ih]
    by_cases found : first = other
    · subst found
      simp [different]
    · simp [found]

theorem lookup_sortedMembers_append (key : String) (members seen : List (String × Json))
    (distinct : (members.map Prod.fst).Nodup) :
    lookup key (sortedMembers members seen) = ((lookup key members).map sorted).or (lookup key seen) := by
  induction members generalizing seen with
  | nil => rfl
  | cons member members ih =>
    obtain ⟨first, value⟩ := member
    rw [List.map_cons, List.nodup_cons] at distinct
    rw [sortedMembers, ih _ distinct.2, lookup_insertMember, lookup]
    by_cases same : first = key
    · subst same
      simp [(lookup_eq_none_iff first members).mpr distinct.1]
    · simp [same]

theorem lookup_sortedMembers (key : String) (members : List (String × Json))
    (distinct : (members.map Prod.fst).Nodup) :
    lookup key (sortedMembers members []) = (lookup key members).map sorted := by
  rw [lookup_sortedMembers_append key members [] distinct, lookup, Option.or_none]

theorem sorted_eq_string_iff (value : Json) (text : String) : value.sorted = .string text ↔ value = .string text := by
  cases value <;> simp [sorted]

theorem nestingOfMembers_eq_zero (members : List (String × Json)) (flat : ∀ member ∈ members, member.2.nesting = 0) :
    nestingOfMembers members = 0 := by
  induction members with
  | nil => rfl
  | cons member members ih =>
    have tail := ih fun other inside => flat other (List.mem_cons_of_mem _ inside)
    rw [nestingOfMembers, flat member List.mem_cons_self, tail, Nat.max_self]

end Json

end Prologue
