import Mathlib.Algebra.BigOperators.Group.List.Basic
import Mathlib.Algebra.GroupWithZero.Nat
import Prologue.Proofs.Reports

/-! The two sides of a directive are judged apart. What is reported on one side depends on the mode of that side alone,
and a side that can be measured offends against exactly one of the two modes. -/

namespace Prologue

/-- Whether a blank line stands on a side of the directive of a scope. Nothing is measured without a directive, and
nothing behind one that stands alone. -/
def Scope.spacing? (trivia : Trivia) (scope : Scope) (side : Side) : Option Bool :=
  scope.body?.bind fun body => (directive? body).bind fun stmt =>
    match side with
    | .before => blankBefore? stmt.span (trivia.leading stmt.id)
    | .after =>
      if 2 ≤ body.length then blankAfter? stmt.span (trivia.trailing stmt.id) (trivia.tokenAfter stmt.id) else none

def Scope.measurable (trivia : Trivia) (scope : Scope) (side : Side) : Bool := (scope.spacing? trivia side).isSome

def Config.uniform (config : Config) (mode : Mode) : Config := { config with newline := some (.uniform mode) }

def Config.split (config : Config) (before after : Mode) : Config :=
  { config with newline := some (.split before after) }

/-- The mode that a measured side offends against. -/
def Mode.offended (blank : Bool) : Mode := if blank then .never else .always

def Diagnostic.on (side : Side) (reports : List Diagnostic) : List Diagnostic :=
  reports.filter fun d => d.side = side

theorem Diagnostic.on_append (side : Side) (first second : List Diagnostic) :
    on side (first ++ second) = on side first ++ on side second := List.filter_append first second

theorem Diagnostic.length_on_add (reports : List Diagnostic) :
    (on .before reports).length + (on .after reports).length = reports.length := by
  induction reports with
  | nil => rfl
  | cons d rest ih =>
    unfold on at ih ⊢
    cases side : d.side with
    | before =>
      rw [List.filter_cons_of_pos (by simp [side]), List.filter_cons_of_neg (by simp [side]), List.length_cons,
        List.length_cons]
      omega
    | after =>
      rw [List.filter_cons_of_neg (by simp [side]), List.filter_cons_of_pos (by simp [side]), List.length_cons,
        List.length_cons]
      omega

namespace Rule

theorem on_sideReport (policy : Policy) (severity : Severity) (span : Span) (side other : Side) (blank : Option Bool) :
    Diagnostic.on other (sideReport policy severity span side blank) =
      if side = other then sideReport policy severity span side blank else [] := by
  unfold sideReport Diagnostic.on
  cases blank.bind (mismatch? (policy.mode side)) with
  | none => simp
  | some expectation =>
    by_cases same : side = other
    · simp [spacingReport, same]
    · simp [spacingReport, same]

theorem length_sideReport (policy : Policy) (severity : Severity) (span : Span) (side : Side) (blank : Option Bool) :
    (sideReport policy severity span side blank).length =
      if blank.map Mode.offended = some (policy.mode side) then 1 else 0 := by
  unfold sideReport
  cases blank with
  | none => rfl
  | some blank => cases blank <;> cases policy.mode side <;> rfl

/-- The reports on one side of a scope are read off from its measured spacing. -/
theorem on_check (scope : Scope) (trivia : Trivia) (side : Side) :
    ∃ span, ∀ policy severity, Diagnostic.on side ((spacing policy severity).check scope trivia) =
      sideReport policy severity span side (scope.spacing? trivia side) := by
  unfold Scope.spacing?
  cases statements : scope.body? with
  | none =>
    refine ⟨scope.span, ?_⟩
    intro policy severity
    simp only [spacing, statements]
    rfl
  | some body =>
    cases found : directive? body with
    | none =>
      refine ⟨scope.span, ?_⟩
      intro policy severity
      simp only [spacing, statements, checkBody, found, Option.bind_some, Option.bind_none]
      rfl
    | some stmt =>
      have nonempty : body.length ≠ 0 := by
        intro empty
        rw [List.length_eq_zero_iff.mp empty] at found
        cases found
      refine ⟨stmt.span, ?_⟩
      intro policy severity
      simp only [spacing, statements, checkBody, found, Option.bind_some, Diagnostic.on_append, on_sideReport]
      by_cases alone : body.length = 1
      · cases side with
        | before => simp [alone, Diagnostic.on]
        | after => simp [alone, Diagnostic.on, sideReport]
      · have several : 2 ≤ body.length := by omega
        cases side with
        | before => simp [alone, on_sideReport]
        | after => simp [alone, several, on_sideReport]

end Rule

namespace Linter

theorem on_lintFile (config : Config) (file : SourceFile) (side : Side) :
    Diagnostic.on side ((ofConfig config).lintFile file) =
      (file.scopes.flatMap fun scope => Diagnostic.on side
        ((Rule.spacing config.policy config.severity).check scope file.trivia)).mergeSort Diagnostic.notAfter := by
  rw [lintFile, lint, Diagnostic.on, Diagnostic.mergeSort_filter, List.filter_flatMap]
  simp only [checkScope_ofConfig]
  rfl

theorem on_lintFile_congr (config config' : Config) (file : SourceFile) (side : Side)
    (severity : config.severity = config'.severity) (mode : config.policy.mode side = config'.policy.mode side) :
    Diagnostic.on side ((ofConfig config).lintFile file) = Diagnostic.on side ((ofConfig config').lintFile file) := by
  rw [on_lintFile, on_lintFile]
  congr 1
  apply List.flatMap_congr
  intro scope _
  obtain ⟨span, reports⟩ := Rule.on_check scope file.trivia side
  rw [reports, reports, severity, Rule.sideReport, Rule.sideReport, mode]

theorem length_on_checkScope (config : Config) (trivia : Trivia) (scope : Scope) (side : Side) :
    (Diagnostic.on side ((ofConfig config).checkScope trivia scope)).length =
      if (scope.spacing? trivia side).map Mode.offended = some (config.policy.mode side) then 1 else 0 := by
  obtain ⟨span, reports⟩ := Rule.on_check scope trivia side
  rw [checkScope_ofConfig, reports, Rule.length_sideReport]

/-- A side that is measured offends against one mode, whatever the rest of the config. -/
theorem exists_offended (trivia : Trivia) (scope : Scope) (side : Side)
    (measured : scope.measurable trivia side = true) :
    ∃ offended : Mode, ∀ config : Config,
      (Diagnostic.on side ((ofConfig config).checkScope trivia scope)).length =
        if config.policy.mode side = offended then 1 else 0 := by
  obtain ⟨blank, spacing⟩ := Option.isSome_iff_exists.mp measured
  refine ⟨.offended blank, ?_⟩
  intro config
  rw [length_on_checkScope, spacing, Option.map_some]
  simp only [Option.some.injEq, eq_comm]

theorem length_on_add (config : Config) (trivia : Trivia) (scope : Scope) (side : Side) :
    (Diagnostic.on side ((ofConfig (config.uniform .always)).checkScope trivia scope)).length +
      (Diagnostic.on side ((ofConfig (config.uniform .never)).checkScope trivia scope)).length =
      if scope.measurable trivia side then 1 else 0 := by
  have always : (config.uniform .always).policy.mode side = .always := by cases side <;> rfl
  have never : (config.uniform .never).policy.mode side = .never := by cases side <;> rfl
  rw [length_on_checkScope, length_on_checkScope, always, never, Scope.measurable]
  cases scope.spacing? trivia side with
  | none => rfl
  | some blank => cases blank <;> rfl

theorem length_checkScope_add (config : Config) (trivia : Trivia) (scope : Scope) :
    ((ofConfig (config.uniform .always)).checkScope trivia scope).length +
      ((ofConfig (config.uniform .never)).checkScope trivia scope).length =
      [Side.before, Side.after].countP (scope.measurable trivia) := by
  have always := Diagnostic.length_on_add ((ofConfig (config.uniform .always)).checkScope trivia scope)
  have never := Diagnostic.length_on_add ((ofConfig (config.uniform .never)).checkScope trivia scope)
  have before := length_on_add config trivia scope .before
  have after := length_on_add config trivia scope .after
  rw [List.countP_cons, List.countP_cons, List.countP_nil]
  omega

theorem length_lintFile (config : Config) (file : SourceFile) :
    ((ofConfig config).lintFile file).length =
      (file.scopes.map fun scope => ((ofConfig config).checkScope file.trivia scope).length).sum := by
  rw [lintFile, (lint_perm _ _ _).length_eq, List.length_flatMap]

/-- The reports on a side depend on the mode of that side alone. A side that can be measured is reported under one of
the two modes and not under the other, so that linting under both finds every such side once. -/
theorem lintFile_sides (config : Config) (file : SourceFile) :
    (∀ before after after', Diagnostic.on .before ((ofConfig (config.split before after)).lintFile file) =
      Diagnostic.on .before ((ofConfig (config.split before after')).lintFile file)) ∧
    (∀ before before' after, Diagnostic.on .after ((ofConfig (config.split before after)).lintFile file) =
      Diagnostic.on .after ((ofConfig (config.split before' after)).lintFile file)) ∧
    (∀ scope ∈ file.scopes, ∀ side, scope.measurable file.trivia side = true → ∃ offended : Mode, ∀ config : Config,
      (Diagnostic.on side ((ofConfig config).checkScope file.trivia scope)).length =
        if config.policy.mode side = offended then 1 else 0) ∧
    ((ofConfig (config.uniform .always)).lintFile file).length +
      ((ofConfig (config.uniform .never)).lintFile file).length =
      (file.scopes.map fun scope => [Side.before, Side.after].countP (scope.measurable file.trivia)).sum := by
  refine ⟨?_, ?_, ?_, ?_⟩
  · intro before after after'
    exact on_lintFile_congr _ _ file .before rfl rfl
  · intro before before' after
    exact on_lintFile_congr _ _ file .after rfl rfl
  · intro scope _ side measured
    exact exists_offended file.trivia scope side measured
  · rw [length_lintFile, length_lintFile, ← List.sum_map_add]
    simp only [length_checkScope_add]

theorem lintFile_sides_crampedFile :
    crampedScope ∈ crampedFile.scopes ∧ crampedScope.measurable crampedFile.trivia .after = true ∧
    (∃ offended : Mode, ∀ config : Config,
      (Diagnostic.on .after ((ofConfig config).checkScope crampedFile.trivia crampedScope)).length =
        if config.policy.mode .after = offended then 1 else 0) ∧
    ((ofConfig (Config.default.uniform .always)).lintFile crampedFile).length +
      ((ofConfig (Config.default.uniform .never)).lintFile crampedFile).length = 4 := by
  obtain ⟨_, _, reported, total⟩ := lintFile_sides .default crampedFile
  have member : crampedScope ∈ crampedFile.scopes := List.mem_cons_self
  have measured : crampedScope.measurable crampedFile.trivia .after = true := by decide
  exact ⟨member, measured, reported crampedScope member .after measured, total.trans (by decide)⟩

end Linter

end Prologue
