import Prologue.Proofs.Place

/-! The reports of the spacing rule on a file, said without running it. Of every scope that is headed by the
directive, a side is reported exactly when its measured gap contradicts the policy, and the list of all reports is
sorted by place with the two reports of a scope next to each other. -/

namespace Prologue

/-- A scope has statements, and the first is an expression statement of the string that makes a directive. -/
def Headed (scope : Scope) (stmt : Stmt) (rest : List Stmt) : Prop :=
  scope.body? = some (stmt :: rest) ∧ ∃ span, stmt.kind = .expression ⟨.literal (.string "use strict"), span⟩

/-- The first element after a statement, a trailing comment or else the next token, starts on a line. -/
def FollowedAt (trivia : Trivia) (id : StmtId) (line : Nat) : Prop :=
  (∃ comment rest, trivia.trailing id = comment :: rest ∧ comment.span.startLine = line) ∨
    (trivia.trailing id = [] ∧ ∃ token, trivia.tokenAfter id = some token ∧ token.span.startLine = line)

/-- The mode of a side as the option sets it. Without an option a blank line is required. -/
def Config.sideMode (config : Config) (side : Side) : Mode :=
  match config.newline, side with
  | none, _ => .always
  | some (.uniform mode), _ => mode
  | some (.split before _), .before => before
  | some (.split _ after), .after => after

/-- The report on a side that contradicts its mode. -/
def offence (config : Config) (span : Span) (side : Side) : Diagnostic :=
  { rule := "lines-around-use-strict"
    severity := config.severity
    span
    side
    expectation := match config.sideMode side with
      | .always => .expected
      | .never => .unexpected
    message := match config.sideMode side, side with
      | .always, .before => "Expected newline before 'use strict' directive."
      | .always, .after => "Expected newline after 'use strict' directive."
      | .never, .before => "Unexpected newline before 'use strict' directive."
      | .never, .after => "Unexpected newline after 'use strict' directive." }

/-- The reports that a scope deserves. A side contradicts its mode when it has an empty line that must never stand
there, or lacks one that must always stand there. -/
inductive Deserved (config : Config) (trivia : Trivia) (scope : Scope) : Diagnostic → Prop
  | before {stmt : Stmt} {rest : List Stmt} {comment : Comment} (headed : Headed scope stmt rest)
      (nearest : (trivia.leading stmt.id).getLast? = some comment)
      (contradicts : comment.span.endLine + 2 ≤ stmt.span.startLine ↔ config.sideMode .before = .never) :
      Deserved config trivia scope (offence config stmt.span .before)
  | after {stmt next : Stmt} {rest : List Stmt} {line : Nat} (headed : Headed scope stmt (next :: rest))
      (follows : FollowedAt trivia stmt.id line)
      (contradicts : stmt.span.endLine + 2 ≤ line ↔ config.sideMode .after = .never) :
      Deserved config trivia scope (offence config stmt.span .after)

/-- All reports of a scope are about its directive. -/
theorem Deserved.span_eq {config : Config} {trivia : Trivia} {scope : Scope} {d : Diagnostic}
    (deserved : Deserved config trivia scope d) {stmt : Stmt} {rest : List Stmt} (headed : Headed scope stmt rest) :
    d.span = stmt.span := by
  cases deserved with
  | before other =>
    cases headed.1.symm.trans other.1
    rfl
  | after other =>
    cases headed.1.symm.trans other.1
    rfl

theorem Deserved.headed {config : Config} {trivia : Trivia} {scope : Scope} {d : Diagnostic}
    (deserved : Deserved config trivia scope d) : ∃ stmt rest, Headed scope stmt rest := by
  cases deserved with
  | before headed => exact ⟨_, _, headed⟩
  | after headed => exact ⟨_, _, headed⟩

theorem isBlankGap_iff (first last : Nat) : isBlankGap first last = true ↔ first + 2 ≤ last := by
  simp only [isBlankGap, blankGap, ge_iff_le, decide_eq_true_eq]
  omega

theorem isUseStrict_iff (stmt : Stmt) :
    stmt.isUseStrict = true ↔ ∃ span, stmt.kind = .expression ⟨.literal (.string "use strict"), span⟩ := by
  rcases stmt with ⟨id, ⟨⟨⟨value⟩ | kind, exprSpan⟩⟩ | kind, span⟩
  · cases value <;> simp [Stmt.isUseStrict, Stmt.expression?, Expr.stringLiteral?, useStrict]
  · simp [Stmt.isUseStrict, Stmt.expression?, Expr.stringLiteral?]
  · simp [Stmt.isUseStrict, Stmt.expression?]

theorem followingLine_iff (trivia : Trivia) (id : StmtId) (line : Nat) :
    followingLine? (trivia.trailing id) (trivia.tokenAfter id) = some line ↔ FollowedAt trivia id line := by
  unfold followingLine? FollowedAt
  cases trailing : trivia.trailing id with
  | nil => simp
  | cons comment rest => simp

theorem Config.mode_policy (config : Config) (side : Side) : config.policy.mode side = config.sideMode side := by
  unfold policy sideMode
  cases config.newline with
  | none => cases side <;> rfl
  | some option => cases option <;> cases side <;> rfl

namespace Rule

/-- A measured side is reported exactly when its mode is contradicted. -/
theorem sideReport_measured (config : Config) (span : Span) (side : Side) (blank : Bool) (d : Diagnostic) :
    d ∈ sideReport config.policy config.severity span side (some blank) ↔
      (blank = true ↔ config.sideMode side = .never) ∧ d = offence config span side := by
  have messages : ∀ expectation, spacingReport config.severity span side expectation =
      { rule := "lines-around-use-strict", severity := config.severity, span, side, expectation,
        message := spacingMessage expectation side } := fun _ => rfl
  have resolved := config.mode_policy side
  cases mode : config.sideMode side <;> rw [mode] at resolved <;> cases blank <;> cases side <;>
    simp [sideReport, mismatch?, offence, messages, spacingMessage, mode, resolved, Expectation.word, Side.text,
      useStrict]

theorem sideReport_eq_of_mem (policy : Policy) (severity : Severity) (span : Span) (side : Side) (blank : Option Bool)
    (d : Diagnostic) (member : d ∈ sideReport policy severity span side blank) :
    sideReport policy severity span side blank = [d] := by
  unfold sideReport at member ⊢
  split at member
  · rw [List.mem_singleton.mp member]
  · cases member

theorem mem_sideReport (config : Config) (span : Span) (side : Side) (blank : Option Bool) (d : Diagnostic) :
    d ∈ sideReport config.policy config.severity span side blank ↔
      ∃ measured, blank = some measured ∧ (measured = true ↔ config.sideMode side = .never) ∧
        d = offence config span side := by
  cases blank with
  | none => simp [sideReport]
  | some measured => rw [sideReport_measured]; simp

/-- Of a side there is at most one report, and it is about that side. -/
theorem sideReport_count_le (policy : Policy) (severity : Severity) (span : Span) (side : Side) (blank : Option Bool)
    (d : Diagnostic) :
    (sideReport policy severity span side blank).count d ≤ if d.side = side then 1 else 0 := by
  unfold sideReport
  split
  · next expectation found =>
    rw [List.count_singleton]
    by_cases same : spacingReport severity span side expectation = d
    · subst same
      simp [spacingReport]
    · simp [same]
  · simp

variable (policy : Policy) (severity : Severity) (scope : Scope) (trivia : Trivia)

theorem check_headed {stmt : Stmt} {rest : List Stmt} (headed : Headed scope stmt rest) :
    (spacing policy severity).check scope trivia =
      sideReport policy severity stmt.span .before (blankBefore? stmt.span (trivia.leading stmt.id)) ++
        (if rest = [] then []
          else sideReport policy severity stmt.span .after
            (blankAfter? stmt.span (trivia.trailing stmt.id) (trivia.tokenAfter stmt.id))) := by
  have strict := (isUseStrict_iff stmt).mpr headed.2
  simp only [spacing, headed.1, checkBody, directive?, strict, ↓reduceIte, List.length_cons, Nat.add_eq_right,
    List.length_eq_zero_iff]

theorem check_not_headed (unheaded : ∀ stmt rest, ¬Headed scope stmt rest) :
    (spacing policy severity).check scope trivia = [] := by
  simp only [spacing]
  cases found : scope.body? with
  | none => rfl
  | some body =>
    cases body with
    | nil => rfl
    | cons stmt rest =>
      have other : stmt.isUseStrict ≠ true := fun strict => unheaded stmt rest ⟨found, (isUseStrict_iff stmt).mp strict⟩
      simp only [checkBody, directive?, other, Bool.false_eq_true, ↓reduceIte]

theorem check_count_le (d : Diagnostic) : ((spacing policy severity).check scope trivia).count d ≤ 1 := by
  by_cases headed : ∃ stmt rest, Headed scope stmt rest
  · obtain ⟨stmt, rest, headed⟩ := headed
    rw [check_headed policy severity scope trivia headed, List.count_append]
    have first := sideReport_count_le policy severity stmt.span .before
      (blankBefore? stmt.span (trivia.leading stmt.id)) d
    have second : (if rest = [] then [] else sideReport policy severity stmt.span .after
        (blankAfter? stmt.span (trivia.trailing stmt.id) (trivia.tokenAfter stmt.id))).count d ≤
        if d.side = .after then 1 else 0 := by
      split
      · simp
      · exact sideReport_count_le ..
    cases side : d.side with
    | before => rw [side] at first second; exact Nat.add_le_add first second
    | after => rw [side] at first second; exact Nat.add_le_add first second
  · rw [check_not_headed policy severity scope trivia (by simpa using headed)]
    simp

/-- The rule makes the reports that a scope deserves. -/
theorem mem_check_iff (config : Config) (d : Diagnostic) :
    d ∈ (spacing config.policy config.severity).check scope trivia ↔ Deserved config trivia scope d := by
  constructor
  · intro member
    by_cases headed : ∃ stmt rest, Headed scope stmt rest
    · obtain ⟨stmt, rest, headed⟩ := headed
      rw [check_headed _ _ scope trivia headed, List.mem_append] at member
      rcases member with before | after
      · obtain ⟨measured, found, contradicts, rfl⟩ := (mem_sideReport ..).mp before
        obtain ⟨comment, nearest, rfl⟩ := Option.map_eq_some_iff.mp found
        rw [isBlankGap_iff] at contradicts
        exact .before headed nearest contradicts
      · cases rest with
        | nil => simp at after
        | cons next rest =>
          rw [if_neg (List.cons_ne_nil next rest)] at after
          obtain ⟨measured, found, contradicts, rfl⟩ := (mem_sideReport ..).mp after
          obtain ⟨line, follows, rfl⟩ := Option.map_eq_some_iff.mp found
          rw [isBlankGap_iff] at contradicts
          exact .after headed ((followingLine_iff ..).mp follows) contradicts
    · rw [check_not_headed _ _ scope trivia (by simpa using headed)] at member
      cases member
  · intro deserved
    cases deserved with
    | @before stmt rest comment headed nearest contradicts =>
      rw [check_headed _ _ scope trivia headed]
      apply List.mem_append_left
      rw [mem_sideReport]
      exact ⟨_, congrArg (Option.map _) nearest, by rwa [isBlankGap_iff], rfl⟩
    | @after stmt next rest line headed follows contradicts =>
      rw [check_headed _ _ scope trivia headed, if_neg (List.cons_ne_nil next rest)]
      apply List.mem_append_right
      rw [mem_sideReport]
      exact ⟨_, congrArg (Option.map _) ((followingLine_iff ..).mpr follows), by rwa [isBlankGap_iff], rfl⟩

/-- A scope with a report on each side gives them in the order of the source. -/
theorem check_pair (config : Config) {b a : Diagnostic} (first : Deserved config trivia scope b)
    (second : Deserved config trivia scope a) (before : b.side = .before) (after : a.side = .after) :
    (spacing config.policy config.severity).check scope trivia = [b, a] := by
  have firstMember := (mem_check_iff scope trivia config b).mpr first
  have secondMember := (mem_check_iff scope trivia config a).mpr second
  cases first with
  | after => cases before
  | @before stmt rest comment headed nearest contradicts =>
    rw [check_headed _ _ scope trivia headed] at firstMember secondMember ⊢
    have left : offence config stmt.span .before ∈ _ := (List.mem_append.mp firstMember).resolve_right (by
      split
      · simp
      · rw [mem_sideReport]
        rintro ⟨_, _, _, same⟩
        cases congrArg Diagnostic.side same)
    have right : a ∈ _ := (List.mem_append.mp secondMember).resolve_left (by
      rw [mem_sideReport]
      rintro ⟨_, _, _, rfl⟩
      cases after)
    by_cases alone : rest = []
    · simp [alone] at right
    · rw [if_neg alone] at right ⊢
      rw [sideReport_eq_of_mem _ _ _ _ _ _ left, sideReport_eq_of_mem _ _ _ _ _ _ right]
      rfl

end Rule

instance (config : Config) (trivia : Trivia) (scope : Scope) (d : Diagnostic) :
    Decidable (Deserved config trivia scope d) :=
  decidable_of_iff _ (Rule.mem_check_iff scope trivia config d)

namespace Linter

/-- The rule subscribes to every kind of scope, once. -/
theorem checkScope_ofConfig (config : Config) (trivia : Trivia) (scope : Scope) :
    (ofConfig config).checkScope trivia scope = (Rule.spacing config.policy config.severity).check scope trivia := by
  have subscribed : (ofConfig config).subscribers scope.kind = [.spacing config.policy config.severity] := by
    cases scope.kind <;> rfl
  rw [checkScope, subscribed, List.flatMap_singleton]

theorem checkScope_count (config : Config) (trivia : Trivia) (scope : Scope) (d : Diagnostic) :
    ((ofConfig config).checkScope trivia scope).count d = if Deserved config trivia scope d then 1 else 0 := by
  rw [checkScope_ofConfig]
  have atMost := Rule.check_count_le config.policy config.severity scope trivia d
  split
  · next deserved =>
    have positive := List.count_pos_iff.mpr ((Rule.mem_check_iff scope trivia config d).mpr deserved)
    omega
  · next undeserved =>
    rw [List.count_eq_zero]
    exact fun member => undeserved ((Rule.mem_check_iff scope trivia config d).mp member)

theorem checkScopes_count (config : Config) (trivia : Trivia) (scopes : List Scope) (d : Diagnostic) :
    (scopes.flatMap ((ofConfig config).checkScope trivia)).count d =
      scopes.countP fun scope => Deserved config trivia scope d := by
  induction scopes with
  | nil => rfl
  | cons scope rest ih =>
    rw [List.flatMap_cons, List.count_append, checkScope_count, ih, List.countP_cons]
    simp only [decide_eq_true_eq]
    omega

/-- The two reports of a scope stand next to each other behind those of earlier scopes that equal them. -/
theorem lint_pair (config : Config) (trivia : Trivia) (earlier later : List Scope) (scope : Scope)
    (b a : Diagnostic) (first : Deserved config trivia scope b) (second : Deserved config trivia scope a)
    (before : b.side = .before) (after : a.side = .after) :
    ∃ front back, (ofConfig config).lint (earlier ++ scope :: later) trivia = front ++ b :: a :: back ∧
      front.count b = earlier.countP (fun scope => Deserved config trivia scope b) ∧
      front.count a = earlier.countP (fun scope => Deserved config trivia scope a) := by
  have pair := Rule.check_pair scope trivia config first second before after
  have together : a.span.start = b.span.start := by
    obtain ⟨stmt, rest, headed⟩ := first.headed
    rw [first.span_eq headed, second.span_eq headed]
  obtain ⟨front, back, elsewhere, split⟩ :=
    (ofConfig config).lint_run_at (earlier ++ scope :: later) trivia b.span.start
  rw [List.flatMap_append, List.flatMap_cons, checkScope_ofConfig, pair] at split
  simp only [List.filter_append, List.filter_cons, together, decide_true, ↓reduceIte, List.filter_nil] at split
  have countFront : ∀ d : Diagnostic, d.span.start = b.span.start →
      (front ++ (earlier.flatMap ((ofConfig config).checkScope trivia)).filter
        (fun d => d.span.start = b.span.start)).count d =
        earlier.countP fun scope => Deserved config trivia scope d := by
    intro d place
    have absent : front.count d = 0 := List.count_eq_zero.mpr fun member => elsewhere d member place
    rw [List.count_append, absent, List.count_filter (by simpa using place), checkScopes_count, Nat.zero_add]
  refine ⟨_, (later.flatMap ((ofConfig config).checkScope trivia)).filter (fun d => d.span.start = b.span.start) ++ back,
    ?_, countFront b rfl, countFront a together⟩
  rw [split]
  simp only [List.append_assoc, List.cons_append, List.nil_append]

/-- Linting gives the deserved reports of all scopes and nothing else: as often as scopes deserve them, sorted by
line and column, and of each scope the report on what precedes the directive right before the one on what follows. -/
theorem lintFile_deserved (config : Config) (file : SourceFile) :
    ((ofConfig config).lintFile file).Pairwise (fun a b => a.span.start ≤ b.span.start) ∧
    (∀ d, ((ofConfig config).lintFile file).count d =
      file.scopes.countP fun scope => Deserved config file.trivia scope d) ∧
    ∀ earlier scope later b a, file.scopes = earlier ++ scope :: later →
      Deserved config file.trivia scope b → Deserved config file.trivia scope a →
      b.side = .before → a.side = .after →
      ∃ front back, (ofConfig config).lintFile file = front ++ b :: a :: back ∧
        front.count b = earlier.countP (fun scope => Deserved config file.trivia scope b) ∧
        front.count a = earlier.countP (fun scope => Deserved config file.trivia scope a) := by
  refine ⟨lint_sorted _ _ _, ?_, ?_⟩
  · intro d
    rw [← checkScopes_count]
    exact (lint_perm _ _ _).count_eq d
  · intro earlier scope later b a scopes first second before after
    rw [lintFile, scopes]
    exact lint_pair config file.trivia earlier later scope b a first second before after

/-- A program with a comment right above its directive and a declaration right below it. -/
def crampedScope : Scope :=
  .program [⟨0, .expression ⟨.literal (.string "use strict"), ⟨2, 0, 2, 12⟩⟩, ⟨2, 0, 2, 13⟩⟩,
    ⟨1, .other "variable_declaration", ⟨3, 0, 3, 6⟩⟩] ⟨1, 0, 3, 6⟩

/-- The same scope twice, so that two statements share a number; the other statement is not in the table. -/
def crampedFile : SourceFile :=
  { language := .javaScript
    scopes := [crampedScope, crampedScope]
    trivia := .ofList [(0, ⟨[⟨.line, ⟨1, 0, 1, 4⟩, "// c"⟩], [], some ⟨"var", ⟨3, 0, 3, 3⟩⟩⟩)]
    sourceHash := "" }

/-- An option that forbids a blank line before the directive and requires one after it. -/
def splitConfig : Config := { Config.default with newline := some (.split .never .always) }

/-- By default both sides of each scope are reported, and with the split option the one that lacks its blank line. -/
theorem lintFile_crampedFile :
    crampedFile.scopes = [crampedScope] ++ crampedScope :: [] ∧
    Deserved .default crampedFile.trivia crampedScope (offence .default ⟨2, 0, 2, 13⟩ .before) ∧
    Deserved .default crampedFile.trivia crampedScope (offence .default ⟨2, 0, 2, 13⟩ .after) ∧
    ∃ front back, (ofConfig .default).lintFile crampedFile =
        front ++ offence .default ⟨2, 0, 2, 13⟩ .before :: offence .default ⟨2, 0, 2, 13⟩ .after :: back ∧
      front.count (offence .default ⟨2, 0, 2, 13⟩ .before) = 1 ∧
      front.count (offence .default ⟨2, 0, 2, 13⟩ .after) = 1 ∧
      ((ofConfig splitConfig).lintFile crampedFile).count (offence splitConfig ⟨2, 0, 2, 13⟩ .before) = 0 ∧
      ((ofConfig splitConfig).lintFile crampedFile).count (offence splitConfig ⟨2, 0, 2, 13⟩ .after) = 2 := by
  have first : Deserved .default crampedFile.trivia crampedScope (offence .default ⟨2, 0, 2, 13⟩ .before) := by decide
  have second : Deserved .default crampedFile.trivia crampedScope (offence .default ⟨2, 0, 2, 13⟩ .after) := by decide
  obtain ⟨front, back, split, firstCount, secondCount⟩ :=
    (lintFile_deserved .default crampedFile).2.2 [crampedScope] crampedScope [] _ _ rfl first second rfl rfl
  have counts := (lintFile_deserved splitConfig crampedFile).2.1
  exact ⟨rfl, first, second, front, back, split, firstCount.trans (by decide), secondCount.trans (by decide),
    (counts _).trans (by decide), (counts _).trans (by decide)⟩

end Linter

end Prologue
