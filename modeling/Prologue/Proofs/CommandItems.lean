import Prologue.Proofs.ArgumentRoles

/-! Command lines that are written from items. The readers of arguments scan each in a way of its own, but as long as no
value looks like a flag that one of them searches for, every scan stays in step with the items. -/

namespace Prologue.Arguments

instance (word : String) : Decidable (Dashed word) := inferInstanceAs (Decidable (_ = _))

/-- What a command line is written from. A value is no flag that takes one and not the switch for JSON. -/
inductive Item where
  | word (text : String) (plain : ¬Dashed text)
  | switch (text : String) (dashed : Dashed text) (bare : text ∉ valueFlags)
  | setting (flag value : String) (known : flag ∈ valueFlags) (inert : value ∉ valueFlags ∧ value ≠ "--json")

namespace Item

def args : Item → List String
  | word text _ => [text]
  | switch text _ _ => [text]
  | setting flag value _ _ => [flag, value]

def word? : Item → Option String
  | word text _ => some text
  | _ => none

def switch? : Item → Option String
  | switch text _ _ => some text
  | _ => none

def valueFor? (flag : String) : Item → Option String
  | setting given value _ _ => if given = flag then some value else none
  | _ => none

end Item

def written (items : List Item) : List String := items.flatMap Item.args

/-- The value of the first item that sets a flag. -/
def firstValue? (flag : String) (items : List Item) : Option String := items.findSome? (Item.valueFor? flag)

/-- The flags that set something over a config. -/
def overridingFlags : List String := ["--newline", "--before", "--after", "--severity"]

theorem not_contains_of_not_mem (arg : String) (other : arg ∉ valueFlags) : ¬valueFlags.contains arg = true := by
  rw [List.contains_iff_mem]
  exact other

theorem not_mem_of_not_dashed (arg : String) (plain : ¬Dashed arg) : arg ∉ valueFlags := by
  intro known
  exact plain (dashed_of_contains arg (List.contains_iff_mem.mpr known))

/-- Reading for paths passes one item at a time: a flag is passed together with its value. -/
theorem positional_args_append (item : Item) (rest : List String) :
    positional (item.args ++ rest) = item.word?.toList ++ positional rest := by
  cases item with
  | word text plain =>
    have other := not_contains_of_not_mem text (not_mem_of_not_dashed text plain)
    show positional (text :: rest) = text :: positional rest
    rw [positional_of_not_flag text rest other]
    exact if_neg plain
  | switch text dashed bare =>
    show positional (text :: rest) = positional rest
    rw [positional_of_not_flag text rest (not_contains_of_not_mem text bare)]
    exact if_pos dashed
  | setting flag value known inert =>
    show positional (flag :: value :: rest) = positional rest
    rw [positional, if_pos (List.contains_iff_mem.mpr known)]

theorem flagValue_cons_of_ne (flag arg : String) (rest : List String) (other : arg ≠ flag) :
    flagValue? flag (arg :: rest) = flagValue? flag rest := by
  rw [flagValue?, if_neg other]

/-- A search for a flag that takes a value finds it only where an item sets it. -/
theorem flagValue_args_append (flag : String) (searched : flag ∈ valueFlags) (item : Item) (rest : List String) :
    flagValue? flag (item.args ++ rest) = (item.valueFor? flag).or (flagValue? flag rest) := by
  cases item with
  | word text plain =>
    apply flagValue_cons_of_ne
    intro same
    exact not_mem_of_not_dashed text plain (same ▸ searched)
  | switch text dashed bare =>
    apply flagValue_cons_of_ne
    intro same
    exact bare (same ▸ searched)
  | setting given value known inert =>
    show flagValue? flag (given :: value :: rest) = (if given = flag then some value else none).or _
    by_cases same : given = flag
    · rw [flagValue?, if_pos same, if_pos same]
      rfl
    · have unlike : value ≠ flag := by
        intro equal
        exact inert.1 (equal ▸ searched)
      rw [flagValue_cons_of_ne flag given _ same, flagValue_cons_of_ne flag value rest unlike, if_neg same]
      rfl

theorem json_mem_args (item : Item) : "--json" ∈ item.args ↔ item.switch? = some "--json" := by
  cases item with
  | word text plain =>
    have unlike : "--json" ≠ text := by
      intro same
      exact plain (same ▸ by decide)
    simp [Item.args, Item.switch?, unlike]
  | switch text dashed bare => simp [Item.args, Item.switch?, eq_comm]
  | setting flag value known inert =>
    have unlike : "--json" ≠ flag := by
      intro same
      exact absurd (same ▸ known) (by decide)
    simp [Item.args, Item.switch?, unlike, inert.2.symm]

theorem positional_written (items : List Item) : positional (written items) = items.filterMap Item.word? := by
  induction items with
  | nil => rfl
  | cons item items ih =>
    rw [written, List.flatMap_cons, positional_args_append, ← written, ih]
    cases word : item.word? with
    | none =>
      rw [List.filterMap_cons_none word]
      rfl
    | some text =>
      rw [List.filterMap_cons_some word]
      rfl

theorem flagValue_written (flag : String) (searched : flag ∈ valueFlags) (items : List Item) :
    flagValue? flag (written items) = firstValue? flag items := by
  induction items with
  | nil => rfl
  | cons item items ih =>
    rw [written, List.flatMap_cons, flagValue_args_append flag searched, ← written, ih]
    unfold firstValue?
    rw [List.findSome?_cons]
    cases item.valueFor? flag with
    | none => rfl
    | some value => rfl

theorem hasFlag_written (items : List Item) :
    hasFlag "--json" (written items) = true ↔ "--json" ∈ items.filterMap Item.switch? := by
  rw [hasFlag, List.contains_iff_mem, written, List.mem_flatMap, List.mem_filterMap]
  simp only [json_mem_args]

/-- The overrides are a function of what the four searches find. -/
theorem overrides_congr (args others : List String)
    (same : ∀ flag ∈ overridingFlags, flagValue? flag args = flagValue? flag others) :
    overrides args = overrides others := by
  have newline := same "--newline" (by decide)
  have before := same "--before" (by decide)
  have after := same "--after" (by decide)
  have severity := same "--severity" (by decide)
  simp only [overrides, flagMode, flagSeverity, newline, before, after, severity]

/-- The words, the values and the switch of a written command line are read back from it. What it overrides depends on
the first value for each flag, wherever that stands among the other items. -/
theorem read_written (items : List Item) :
    positional (written items) = items.filterMap Item.word? ∧
    (∀ flag ∈ valueFlags, flagValue? flag (written items) = firstValue? flag items) ∧
    (hasFlag "--json" (written items) = true ↔ "--json" ∈ items.filterMap Item.switch?) ∧
    ∀ others : List Item, (∀ flag ∈ overridingFlags, firstValue? flag items = firstValue? flag others) →
      overrides (written items) = overrides (written others) := by
  refine ⟨positional_written items, ?_, hasFlag_written items, ?_⟩
  · intro flag searched
    exact flagValue_written flag searched items
  · intro others alike
    apply overrides_congr
    intro flag overriding
    have searched : flag ∈ valueFlags := List.mem_cons_of_mem _ overriding
    rw [flagValue_written flag searched items, flagValue_written flag searched others]
    exact alike flag overriding

/-- One value looks like a switch, and a flag is set twice. -/
def interleavedItems : List Item :=
  [.word "src" (by decide), .setting "--newline" "never" (by decide) (by decide),
    .setting "--config" "--quiet" (by decide) (by decide), .switch "--json" (by decide) (by decide),
    .word "lib" (by decide), .setting "--newline" "always" (by decide) (by decide)]

def loneItem : List Item := [.setting "--newline" "never" (by decide) (by decide)]

theorem read_written_interleavedItems :
    positional (written interleavedItems) = ["src", "lib"] ∧
    flagValue? "--config" (written interleavedItems) = some "--quiet" ∧
    hasFlag "--json" (written interleavedItems) = true ∧
    overrides (written interleavedItems) = overrides (written loneItem) := by
  obtain ⟨words, values, switch, settings⟩ := read_written interleavedItems
  refine ⟨words, values "--config" (by decide), switch.mpr (by decide), settings loneItem ?_⟩
  decide

end Prologue.Arguments
