import Prologue.Proofs.Place

/-! The table by which rules are found. It is filled rule by rule and kind by kind, and at every moment it holds under
a kind the places of the rules so far that list it, as often as they do. So reading it runs the rules in their order. -/

namespace Prologue

namespace Dispatch

/-- One subscription shows under its own kind only, behind what was there. -/
theorem places_subscribe (dispatch : Dispatch) (index : Nat) (kind other : ScopeKind) :
    (dispatch.subscribe index kind).places other = dispatch.places other ++ if kind = other then [index] else [] := by
  induction dispatch with
  | nil =>
    by_cases same : kind = other
    · simp only [subscribe, places, if_pos same, List.nil_append]
    · simp only [subscribe, places, if_neg same, List.nil_append]
  | cons entry rest ih =>
    obtain ⟨key, indices⟩ := entry
    by_cases found : key = kind
    · subst found
      by_cases same : key = other
      · simp only [subscribe, places, if_pos same, if_true]
      · simp only [subscribe, places, if_neg same, if_true, List.append_nil]
    · by_cases same : key = other
      · subst same
        simp only [subscribe, places, if_neg found, if_neg (Ne.symm found), if_true, List.append_nil]
      · simp only [subscribe, places, if_neg found, if_neg same, ih]

/-- A rule enters its place once for every mention of a kind. -/
theorem places_add (dispatch : Dispatch) (rule : Rule) (index : Nat) (kind : ScopeKind) :
    (dispatch.add rule index).places kind =
      dispatch.places kind ++ List.replicate (rule.kinds.count kind) index := by
  unfold add
  induction rule.kinds generalizing dispatch with
  | nil => simp
  | cons first rest ih =>
    rw [List.foldl_cons, ih, places_subscribe, List.append_assoc, List.count_cons]
    by_cases same : first = kind
    · simp [same, List.replicate_succ]
    · simp [same]

theorem places_foldl_add (entries : List (Rule × Nat)) (dispatch : Dispatch) (kind : ScopeKind) :
    (entries.foldl (fun dispatch entry => dispatch.add entry.1 entry.2) dispatch).places kind =
      dispatch.places kind ++ entries.flatMap fun entry => List.replicate (entry.1.kinds.count kind) entry.2 := by
  induction entries generalizing dispatch with
  | nil => simp
  | cons entry rest ih => rw [List.foldl_cons, ih, places_add, List.flatMap_cons, List.append_assoc]

theorem places_ofRules (rules : List Rule) (kind : ScopeKind) :
    (ofRules rules).places kind =
      rules.zipIdx.flatMap fun entry => List.replicate (entry.1.kinds.count kind) entry.2 :=
  places_foldl_add rules.zipIdx [] kind

end Dispatch

namespace Linter

variable (rules : List Rule)

/-- The table leads back to the rules themselves. -/
theorem subscribers_ofRules (kind : ScopeKind) :
    (ofRules rules).subscribers kind = rules.flatMap fun rule => List.replicate (rule.kinds.count kind) rule := by
  have found : ∀ entry ∈ rules.zipIdx,
      (List.replicate (entry.1.kinds.count kind) entry.2).filterMap (fun index => rules[index]?) =
        List.replicate (entry.1.kinds.count kind) entry.1 := by
    intro entry member
    have here : rules[entry.2]? = some entry.1 := by
      simpa using List.mem_zipIdx_iff_getElem?.mp member
    rw [List.filterMap_replicate_of_some here]
  calc
    _ = (rules.zipIdx.flatMap fun entry => List.replicate (entry.1.kinds.count kind) entry.2).filterMap
        fun index => rules[index]? := by rw [← Dispatch.places_ofRules]; rfl
    _ = rules.zipIdx.flatMap fun entry => List.replicate (entry.1.kinds.count kind) entry.1 := by
      rw [List.filterMap_flatMap, List.flatMap_congr found]
    _ = (rules.zipIdx.map Prod.fst).flatMap fun rule => List.replicate (rule.kinds.count kind) rule := by
      rw [List.flatMap_map]
    _ = _ := by rw [List.zipIdx_map_fst]

theorem checkScope_ofRules (trivia : Trivia) (scope : Scope) :
    (ofRules rules).checkScope trivia scope =
      rules.flatMap fun rule => (List.replicate (rule.kinds.count scope.kind) (rule.check scope trivia)).flatten := by
  rw [checkScope, subscribers_ofRules, List.flatMap_assoc]
  apply List.flatMap_congr
  intro rule _
  exact List.flatMap_replicate

/-- Looking rules up in the table is the same as asking every rule for every scope, and what comes out is put in order
by place alone: at one place, reports stay in the order of the scopes and then of the rules. -/
theorem lintFile_dispatch (file : SourceFile) :
    (∀ trivia scope, (ofRules rules).checkScope trivia scope =
      rules.flatMap fun rule => (List.replicate (rule.kinds.count scope.kind) (rule.check scope trivia)).flatten) ∧
    (∀ reports, reports = (ofRules rules).lintFile file ↔
      Diagnostic.StablySorted (file.scopes.flatMap ((ofRules rules).checkScope file.trivia)) reports) ∧
    ∀ place : Place, ((ofRules rules).lintFile file).filter (fun d => d.span.start = place) =
      file.scopes.flatMap fun scope => rules.flatMap fun rule =>
        (List.replicate (rule.kinds.count scope.kind)
          ((rule.check scope file.trivia).filter fun d => d.span.start = place)).flatten := by
  have sorted : Diagnostic.StablySorted (file.scopes.flatMap ((ofRules rules).checkScope file.trivia))
      ((ofRules rules).lintFile file) := Diagnostic.stablySorted_mergeSort _
  refine ⟨checkScope_ofRules rules, ?_, ?_⟩
  · intro reports
    constructor
    · intro same
      rw [same]
      exact sorted
    · intro other
      exact other.unique sorted
  · intro place
    rw [sorted.stable, List.filter_flatMap]
    apply List.flatMap_congr
    intro scope _
    rw [checkScope_ofRules, List.filter_flatMap]
    apply List.flatMap_congr
    intro rule _
    rw [List.filter_flatten, List.map_replicate]

end Linter

end Prologue
