import Prologue.Directive
import Prologue.Proofs.Numerals
import Prologue.Proofs.Scopes

/-! The spellings of a string. A character can be written as it is or by an escape sequence of one of six kinds, a
backslash at the end of a line adds nothing, and parentheses around the string change nothing. However a string is
written, the statement that is made of it has the same literal. -/

namespace Prologue

/-- The letters that stand for control characters behind a backslash. -/
def letterEscapes : List (Char × Char) :=
  [('n', '\n'), ('t', '\t'), ('r', '\r'), ('b', '\x08'), ('f', '\x0c'), ('v', '\x0b')]

def lineTerminators : List Char := ['\n', '\r', '\u2028', '\u2029']

/-- What stands behind a backslash that continues a line. -/
def lineContinuations : List (List Char) := ['\r', '\n'] :: lineTerminators.map fun c => [c]

def octalDigits : List Char := ['0', '1', '2', '3', '4', '5', '6', '7']

/-- The characters besides digits that do not stand for themselves behind a backslash. -/
def escapeHeads : List Char := letterEscapes.map Prod.fst ++ ['x', 'u'] ++ lineTerminators

/-- What can stand behind a backslash for a character. -/
inductive Spells (c : Char) : List Char → Prop where
  | byte (digits : List Char) (two : digits.length = 2) (value : Numeral 16 digits c.toNat) : Spells c ('x' :: digits)
  | unit (digits : List Char) (four : digits.length = 4) (value : Numeral 16 digits c.toNat) : Spells c ('u' :: digits)
  | braced (digits : List Char) (some : digits ≠ []) (value : Numeral 16 digits c.toNat) :
      Spells c ('u' :: '\x7b' :: (digits ++ ['\x7d']))
  | octal (digits : List Char) (some : digits ≠ []) (short : digits.length ≤ 3) (value : Numeral 8 digits c.toNat)
      (bounded : c.toNat ≤ 0o377) : Spells c digits
  | letter (name : Char) (listed : (name, c) ∈ letterEscapes) : Spells c [name]
  | itself (plain : c ∉ escapeHeads) (noDigit : c ∉ octalDigits) : Spells c [c]

theorem codePoint?_of_numeral (radix : Nat) (small : radix ≤ 16) (digits : List Char) (some : digits ≠ []) (c : Char)
    (value : Numeral radix digits c.toNat) : codePoint? radix digits = .some c := by
  have below : c.toNat < powerOfTwo 32 := Nat.lt_of_lt_of_le c.val.toNat_lt (by decide)
  have valid : c.toNat.isValidChar := c.valid
  rw [codePoint?, value.boundedValue small some _ below]
  simp only [if_pos valid, Char.ofNat_toNat]

theorem dropTrailing_append (digits : List Char) (c : Char) (inner : c ∉ digits) :
    dropTrailing c (digits ++ [c]) = digits := by
  have stops : digits.reverse.dropWhile (· = c) = digits.reverse := by
    cases reversed : digits.reverse with
    | nil => rfl
    | cons last front =>
      have member : last ∈ digits := by rw [← List.mem_reverse, reversed]; exact List.mem_cons_self
      have other : last ≠ c := fun same => inner (same ▸ member)
      simp [other]
  simp [dropTrailing, stops]

theorem mem_octalDigits (c : Char) (octal : isDigitOf 8 c = true) : c ∈ octalDigits := by
  unfold isDigitOf digitValue? at octal
  have code : Char.ofNat c.toNat = c := Char.ofNat_toNat c
  split_ifs at octal with digit lower upper
  · have least : 48 ≤ c.toNat := digit.1
    have greatest : c.toNat - 48 < 8 := of_decide_eq_true octal
    have range : c.toNat < 56 := by omega
    rw [← code]
    generalize c.toNat = code at least range
    interval_cases code <;> decide
  · have large := of_decide_eq_true octal
    omega
  · have large := of_decide_eq_true octal
    omega

/-- Behind a backslash, a digit starts the code of a character and any other character that is no head stands for
itself. -/
theorem escapeValue?_other (first : Char) (rest : List Char) (other : first ∉ escapeHeads) :
    escapeValue? (first :: rest) =
      if isDigitOf 8 first then (codePoint? 8 (first :: rest)).map fun c => [c] else some [first] := by
  have apart (c : Char) (head : c ∈ escapeHeads) : first ≠ c := by
    rintro rfl
    exact other head
  have noTerminator : ¬ (first = '\n' ∨ first = '\r' ∨ first = '\u2028' ∨ first = '\u2029') := by
    rintro (rfl | rfl | rfl | rfl) <;> exact other (by decide)
  unfold escapeValue?
  dsimp only
  rw [if_neg (apart 'n' (by decide)), if_neg (apart 't' (by decide)), if_neg (apart 'r' (by decide)),
    if_neg (apart 'b' (by decide)), if_neg (apart 'f' (by decide)), if_neg (apart 'v' (by decide)),
    if_neg noTerminator, if_neg (apart 'x' (by decide)), if_neg (apart 'u' (by decide))]

theorem escapeValue?_itself (c : Char) (plain : c ∉ escapeHeads) (noDigit : c ∉ octalDigits) :
    escapeValue? [c] = some [c] := by
  rw [escapeValue?_other c [] plain, if_neg fun octal => noDigit (mem_octalDigits c octal)]

theorem escapeValue?_octal (digits : List Char) (some : digits ≠ []) (c : Char) (value : Numeral 8 digits c.toNat) :
    escapeValue? digits = .some [c] := by
  have read := codePoint?_of_numeral 8 (by decide) digits some c value
  cases digits with
  | nil => exact absurd rfl some
  | cons first rest =>
    have octal := value.isDigitOf (by decide) first List.mem_cons_self
    have noHead : first ∉ escapeHeads := by
      intro head
      have none : escapeHeads.any (isDigitOf 8) = false := by decide
      exact absurd octal (by simpa using List.any_eq_false.mp none first head)
    rw [escapeValue?_other first rest noHead, if_pos octal, read]
    rfl

/-- Four digits do not start with a brace, so they are read as they are. -/
theorem escapeValue?_unit (digits : List Char) (some : digits ≠ []) (c : Char) (value : Numeral 16 digits c.toNat) :
    escapeValue? ('u' :: digits) = .some [c] := by
  have read := codePoint?_of_numeral 16 (by decide) digits some c value
  have unbraced : ∀ braced, digits ≠ '\x7b' :: braced := by
    rintro braced rfl
    have digit := value.isDigitOf (by decide) '\x7b' List.mem_cons_self
    revert digit
    decide
  rw [escapeValue?]
  · simp [read]
  · exact unbraced

theorem escapeValue?_braced (digits : List Char) (some : digits ≠ []) (c : Char) (value : Numeral 16 digits c.toNat) :
    escapeValue? ('u' :: '\x7b' :: (digits ++ ['\x7d'])) = .some [c] := by
  have read := codePoint?_of_numeral 16 (by decide) digits some c value
  have inner : '\x7d' ∉ digits := by
    intro member
    have digit := value.isDigitOf (by decide) '\x7d' member
    revert digit
    decide
  simp [escapeValue?, dropTrailing_append digits '\x7d' inner, read]

/-- Decoding gives the character back, whichever way it is written. -/
theorem decodeEscape_of_spells (c : Char) (body : List Char) (spells : Spells c body) :
    decodeEscape ('\\' :: body) = [c] := by
  have decoded : escapeValue? body = some [c] := by
    cases spells with
    | byte digits two value =>
      have read := codePoint?_of_numeral 16 (by decide) digits (by rintro rfl; cases two) c value
      simp [escapeValue?, read]
    | unit digits four value => exact escapeValue?_unit digits (by rintro rfl; cases four) c value
    | braced digits some value => exact escapeValue?_braced digits some c value
    | octal _ some _ value _ => exact escapeValue?_octal body some c value
    | letter name listed =>
      simp only [letterEscapes, List.mem_cons, Prod.mk.injEq, List.not_mem_nil, or_false] at listed
      rcases listed with ⟨rfl, rfl⟩ | ⟨rfl, rfl⟩ | ⟨rfl, rfl⟩ | ⟨rfl, rfl⟩ | ⟨rfl, rfl⟩ | ⟨rfl, rfl⟩ <;> rfl
    | itself plain noDigit => exact escapeValue?_itself c plain noDigit
  rw [decodeEscape, decoded]
  rfl

theorem decodeEscape_continuation (body : List Char) (line : body ∈ lineContinuations) :
    decodeEscape ('\\' :: body) = [] := by
  simp only [lineContinuations, lineTerminators, List.map_cons, List.map_nil, List.mem_cons, List.not_mem_nil,
    or_false] at line
  rcases line with rfl | rfl | rfl | rfl | rfl <;> rfl

namespace Node

/-- Nodes that spell a text piece by piece: a fragment spells its own text, an escape sequence a character or, if it
continues a line, nothing. -/
inductive Spelling (source : List Char) : List Node → List Char → Prop where
  | nil : Spelling source [] []
  | fragment (node : Node) (nodes : List Node) (text : List Char) (kind : node.kind = "string_fragment")
      (rest : Spelling source nodes text) : Spelling source (node :: nodes) ((node.text source).toList ++ text)
  | escape (node : Node) (nodes : List Node) (c : Char) (body text : List Char) (kind : node.kind = "escape_sequence")
      (raw : (node.text source).toList = '\\' :: body) (spells : Spells c body) (rest : Spelling source nodes text) :
      Spelling source (node :: nodes) (c :: text)
  | continuation (node : Node) (nodes : List Node) (body text : List Char) (kind : node.kind = "escape_sequence")
      (raw : (node.text source).toList = '\\' :: body) (line : body ∈ lineContinuations)
      (rest : Spelling source nodes text) : Spelling source (node :: nodes) text

/-- The value of a string is the text that its named children spell. -/
theorem cooked_of_spelling (source : List Char) (node : Node) (text : List Char)
    (spelled : Spelling source (node.children.filter named) text) : node.cooked source = String.ofList text := by
  rw [cooked]
  congr 1
  generalize node.children.filter named = nodes at spelled
  induction spelled with
  | nil => rfl
  | fragment node nodes text kind rest ih => rw [List.flatMap_cons, if_pos kind, ih]
  | escape node nodes c body text kind raw spells rest ih =>
    have other : node.kind ≠ "string_fragment" := by simp [kind]
    rw [List.flatMap_cons, if_neg other, if_pos kind, raw, decodeEscape_of_spells c body spells, ih]
    rfl
  | continuation node nodes body text kind raw line rest ih =>
    have other : node.kind ≠ "string_fragment" := by simp [kind]
    rw [List.flatMap_cons, if_neg other, if_pos kind, raw, decodeEscape_continuation body line, ih]
    rfl

/-- A node stands in any number of parentheses, which hold nothing before it but comments and tokens. -/
inductive Enclosed (inner : Node) : Node → Prop where
  | bare : Enclosed inner inner
  | parentheses (node content : Node) (kind : node.kind = "parenthesized_expression")
      (first : node.children.find? isContent = some content) (enclosed : Enclosed inner content) : Enclosed inner node

/-- Parentheses are passed over on the way to a string. -/
theorem expr_of_enclosed (source : List Char) (string node : Node) (kind : string.kind = "string")
    (enclosed : Enclosed string node) :
    node.expr source = { kind := .literal (.string (string.cooked source)), span := string.span } := by
  induction enclosed with
  | bare =>
    have other : string.kind ≠ "parenthesized_expression" := by simp [kind]
    rw [expr_eq, if_neg other, bareExpr, if_pos kind]
  | parentheses node content kind first enclosed ih =>
    rw [expr_eq, if_pos kind, first, Option.map_some, Option.getD_some, ih]

/-- An expression statement whose content is a string, with the text that the string spells. -/
structure StringStatement (source : List Char) (statement string : Node) (text : List Char) : Prop where
  named : statement.named = true
  kind : statement.kind = "expression_statement"
  content : ∃ outer, statement.children.find? isContent = some outer ∧ Enclosed string outer
  isString : string.kind = "string"
  spelled : Spelling source (string.children.filter Node.named) text

theorem StringStatement.isContent {source text : List Char} {statement string : Node}
    (stands : StringStatement source statement string text) : statement.isContent = true := by
  rw [Node.isContent, stands.named, isComment, stands.kind]
  decide

theorem StringStatement.stmtKind {source text : List Char} {statement string : Node}
    (stands : StringStatement source statement string text) :
    statement.stmtKind source =
      .expression { kind := .literal (.string (String.ofList text)), span := string.span } := by
  obtain ⟨outer, first, enclosed⟩ := stands.content
  have expression := expr_of_enclosed source string outer stands.isString enclosed
  rw [cooked_of_spelling source string text stands.spelled] at expression
  rw [Node.stmtKind, if_pos stands.kind, contentExpr_eq_map_find, first, Option.map_some, expression]

/-- However a string is spelled and enclosed, the statement made of it is an expression at the place of the string with
the text as its literal, and it is the directive if and only if the text is. -/
theorem body_stringStatement (source text : String) (next : StmtId) (container statement string : Node)
    (front after : List Node) (children : container.children = front ++ statement :: after)
    (stands : StringStatement source.toList statement string text.toList) :
    ∃ stmt, ((container.body source.toList next).map Placed.stmt)[front.countP isContent]? = some stmt ∧
      stmt.expression? = some { kind := .literal (.string text), span := string.span } ∧
      (stmt.isUseStrict = true ↔ text = "use strict") := by
  have lowered := stands.stmtKind
  rw [String.ofList_toList] at lowered
  refine ⟨(place source.toList (next + front.countP isContent) front.reverse statement after).stmt, ?_, ?_, ?_⟩
  · rw [List.getElem?_map, body, children, getElem_placeStmts _ _ _ _ _ _ stands.isContent, List.append_nil,
      Option.map_some]
  · simp only [Stmt.expression?, place, lowered]
  · simp only [Stmt.isUseStrict, Stmt.expression?, place, lowered, Expr.stringLiteral?, useStrict, Option.some.injEq,
      decide_eq_true_eq]

open SourceFile (plainNode)

def spelledSource : String := "(/**/'use\\x20\\u\x7b073\x7d\\\n\\164rict');\n"

/-- The directive with a blank, a letter behind leading zeros, a line that is continued and a letter in octal digits. -/
def spelledString : Node :=
  plainNode "string" true ⟨5, 0, 5⟩ ⟨31, 1, 9⟩
    [plainNode "'" false ⟨5, 0, 5⟩ ⟨6, 0, 6⟩ [],
      plainNode "string_fragment" true ⟨6, 0, 6⟩ ⟨9, 0, 9⟩ [],
      plainNode "escape_sequence" true ⟨9, 0, 9⟩ ⟨13, 0, 13⟩ [],
      plainNode "escape_sequence" true ⟨13, 0, 13⟩ ⟨20, 0, 20⟩ [],
      plainNode "escape_sequence" true ⟨20, 0, 20⟩ ⟨22, 1, 0⟩ [],
      plainNode "escape_sequence" true ⟨22, 1, 0⟩ ⟨26, 1, 4⟩ [],
      plainNode "string_fragment" true ⟨26, 1, 4⟩ ⟨30, 1, 8⟩ [],
      plainNode "'" false ⟨30, 1, 8⟩ ⟨31, 1, 9⟩ []]

def spelledOuter : Node :=
  plainNode "parenthesized_expression" true ⟨0, 0, 0⟩ ⟨32, 1, 10⟩
    [plainNode "(" false ⟨0, 0, 0⟩ ⟨1, 0, 1⟩ [], plainNode "comment" true ⟨1, 0, 1⟩ ⟨5, 0, 5⟩ [], spelledString,
      plainNode ")" false ⟨31, 1, 9⟩ ⟨32, 1, 10⟩ []]

def spelledStatement : Node :=
  plainNode "expression_statement" true ⟨0, 0, 0⟩ ⟨33, 1, 11⟩
    [spelledOuter, plainNode ";" false ⟨32, 1, 10⟩ ⟨33, 1, 11⟩ []]

def spelledTree : Node := plainNode "program" true ⟨0, 0, 0⟩ ⟨34, 2, 0⟩ [spelledStatement]

theorem spelling_spelledString :
    Spelling spelledSource.toList (spelledString.children.filter named) "use strict".toList := by
  have blank : Numeral 16 ['2', '0'] 32 :=
    ⟨[2, 0], .cons ⟨by decide, .inl rfl⟩ (.cons ⟨by decide, .inl rfl⟩ .nil), by decide⟩
  have s : Numeral 16 ['0', '7', '3'] 115 :=
    ⟨[0, 7, 3], .cons ⟨by decide, .inl rfl⟩ (.cons ⟨by decide, .inl rfl⟩ (.cons ⟨by decide, .inl rfl⟩ .nil)), by decide⟩
  have t : Numeral 8 ['1', '6', '4'] 116 :=
    ⟨[1, 6, 4], .cons ⟨by decide, .inl rfl⟩ (.cons ⟨by decide, .inl rfl⟩ (.cons ⟨by decide, .inl rfl⟩ .nil)), by decide⟩
  exact .fragment _ _ _ rfl
    (.escape _ _ ' ' ['x', '2', '0'] _ rfl (by decide) (.byte _ rfl blank)
      (.escape _ _ 's' ['u', '\x7b', '0', '7', '3', '\x7d'] _ rfl (by decide) (.braced ['0', '7', '3'] (by decide) s)
        (.continuation _ _ ['\n'] _ rfl (by decide) (by decide)
          (.escape _ _ 't' ['1', '6', '4'] _ rfl (by decide) (.octal _ (by decide) (by decide) t (by decide))
            (.fragment _ _ [] rfl .nil)))))

theorem body_stringStatement_spelledTree :
    StringStatement spelledSource.toList spelledStatement spelledString "use strict".toList ∧
    ∃ stmt, ((spelledTree.body spelledSource.toList 0).map Placed.stmt)[0]? = some stmt ∧
      stmt.expression? = some ⟨.literal (.string "use strict"), ⟨1, 5, 2, 9⟩⟩ ∧ stmt.isUseStrict = true := by
  have stands : StringStatement spelledSource.toList spelledStatement spelledString "use strict".toList :=
    ⟨rfl, rfl, ⟨spelledOuter, rfl, .parentheses spelledOuter spelledString rfl rfl .bare⟩, rfl, spelling_spelledString⟩
  obtain ⟨stmt, found, expression, directive⟩ :=
    body_stringStatement spelledSource "use strict" 0 spelledTree spelledStatement spelledString [] [] rfl stands
  exact ⟨stands, stmt, found, expression, directive.mpr rfl⟩

end Node

end Prologue
