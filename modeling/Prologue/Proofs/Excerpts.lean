import Prologue.Proofs.Bytes
import Prologue.Proofs.SyntaxFaults

/-! The text that is shown with a syntax error. It is the rest of the line, or as much of it as the limit lets through,
but only if the limit does not fall inside a character. -/

namespace Prologue

/-- A place of a text, counted in bytes, that is not inside a character. -/
def IsBoundary (text : List Char) (byte : Nat) : Prop := ∃ front back, text = front ++ back ∧ byteLength front = byte

theorem isSome_takeBytes_iff (count : Nat) (text : List Char) :
    (takeBytes count text).isSome = true ↔ IsBoundary text count := by
  constructor
  · intro ends
    obtain ⟨front, taken⟩ := Option.isSome_iff_exists.mp ends
    obtain ⟨back, split, length⟩ := takeBytes_eq_some count text front taken
    exact ⟨front, back, split, length⟩
  · intro ends
    obtain ⟨front, back, split, length⟩ := ends
    rw [split, ← length, takeBytes_append]
    rfl

instance (text : List Char) (byte : Nat) : Decidable (IsBoundary text byte) :=
  decidable_of_iff _ (isSome_takeBytes_iff byte text)

theorem IsBoundary.le_byteLength {text : List Char} {byte : Nat} (ends : IsBoundary text byte) :
    byte ≤ byteLength text := by
  obtain ⟨front, back, split, length⟩ := ends
  rw [split, byteLength_append]
  omega

section Excerpt

variable {source front rest : List Char} {span : Span} (counted : span.startLine ≠ 0)
  (line : (lines source)[span.startLine - 1]? = some (front ++ rest)) (column : byteLength front = span.startCol)
include counted line column

/-- The two bounds of an excerpt leave as many bytes as the limit and the rest of the line both have. -/
theorem excerpt_eq : excerpt source span = (takeBytes (min excerptLimit (byteLength rest)) rest).getD [] := by
  have start : min span.startCol (byteLength (front ++ rest)) = byteLength front := by
    rw [byteLength_append]
    omega
  have stop : min (byteLength front + excerptLimit) (byteLength (front ++ rest)) =
      byteLength front + min excerptLimit (byteLength rest) := by
    rw [byteLength_append]
    omega
  unfold excerpt
  rw [if_neg counted, line]
  dsimp only
  rw [start, stop, sliceBytes, if_pos (Nat.le_add_right _ _), dropBytes_append, Nat.add_sub_cancel_left]
  rfl

theorem excerpt_of_fits (fits : byteLength rest ≤ excerptLimit) : excerpt source span = rest := by
  have whole := takeBytes_append rest []
  rw [List.append_nil] at whole
  rw [excerpt_eq counted line column, Nat.min_eq_right fits, whole]
  rfl

theorem excerpt_of_exceeds (exceeds : excerptLimit < byteLength rest) :
    excerpt source span <+: rest ∧
      byteLength (excerpt source span) = if IsBoundary rest excerptLimit then excerptLimit else 0 := by
  rw [excerpt_eq counted line column, Nat.min_eq_left (Nat.le_of_lt exceeds)]
  cases taken : takeBytes excerptLimit rest with
  | none =>
    have inside : ¬IsBoundary rest excerptLimit := by
      intro ends
      rw [← isSome_takeBytes_iff, taken] at ends
      cases ends
    rw [if_neg inside]
    exact ⟨List.nil_prefix, rfl⟩
  | some shown =>
    obtain ⟨back, split, length⟩ := takeBytes_eq_some excerptLimit rest shown taken
    rw [if_pos ⟨shown, back, split, length⟩]
    exact ⟨⟨back, split.symm⟩, length⟩

end Excerpt

theorem byteLength_eq_zero_iff (text : List Char) : byteLength text = 0 ↔ text = [] := by
  cases text with
  | nil => exact ⟨fun _ => rfl, fun _ => rfl⟩
  | cons c text =>
    have size := c.utf8Size_pos
    constructor
    · intro empty
      rw [byteLength] at empty
      omega
    · intro empty
      cases empty

namespace Node

/-- A syntax error shows the source at its own place, and lines are counted from one. -/
theorem sourceText_eq_excerpt (source : List Char) (root : Node) (fault : SyntaxFault)
    (recorded : fault ∈ root.faults source) :
    fault.sourceText = excerpt source fault.span ∧ fault.span.startLine ≠ 0 := by
  induction root using tree_induction with
  | step info children ih =>
    rw [faults] at recorded
    split at recorded
    · cases recorded
    · split at recorded
      · cases List.mem_singleton.mp recorded
        exact ⟨rfl, Nat.succ_ne_zero _⟩
      · split at recorded
        · cases List.mem_singleton.mp recorded
          exact ⟨rfl, Nat.succ_ne_zero _⟩
        · rw [faultsOf_eq_flatMap] at recorded
          obtain ⟨child, member, below⟩ := List.mem_flatMap.mp recorded
          exact ih child member below

/-- With a syntax error inside a line stands the start of the rest of that line, within the limit: all of it if it fits,
and else up to the limit. But nothing is shown if it does not fit and the limit falls inside a character. -/
theorem sourceText_of_mem_faults (source : List Char) (root : Node) (fault : SyntaxFault) (front rest : List Char)
    (recorded : fault ∈ root.faults source)
    (line : (lines source)[fault.span.startLine - 1]? = some (front ++ rest))
    (column : byteLength front = fault.span.startCol) (filled : rest ≠ []) :
    fault.sourceText <+: rest ∧ byteLength fault.sourceText ≤ excerptLimit ∧
    (byteLength rest ≤ excerptLimit → fault.sourceText = rest) ∧
    (IsBoundary rest excerptLimit → byteLength fault.sourceText = excerptLimit) ∧
    (fault.sourceText = [] ↔ excerptLimit < byteLength rest ∧ ¬IsBoundary rest excerptLimit) := by
  obtain ⟨same, counted⟩ := sourceText_eq_excerpt source root fault recorded
  rw [same]
  by_cases fits : byteLength rest ≤ excerptLimit
  · rw [excerpt_of_fits counted line column fits]
    refine ⟨List.prefix_rfl, fits, fun _ => rfl, ?_, ?_⟩
    · intro ends
      exact Nat.le_antisymm fits ends.le_byteLength
    · constructor
      · intro empty
        exact absurd empty filled
      · intro cut
        exact absurd fits (Nat.not_le_of_lt cut.1)
  · have exceeds : excerptLimit < byteLength rest := Nat.lt_of_not_le fits
    obtain ⟨start, length⟩ := excerpt_of_exceeds counted line column exceeds
    have least : excerptLimit ≠ 0 := by decide
    refine ⟨start, ?_, fun fitting => absurd fitting fits, ?_, ?_⟩
    · rw [length]
      split
      · exact Nat.le_refl _
      · exact Nat.zero_le _
    · intro ends
      rw [length, if_pos ends]
    · rw [← byteLength_eq_zero_iff, length]
      by_cases ends : IsBoundary rest excerptLimit
      · rw [if_pos ends]
        exact ⟨fun empty => absurd empty least, fun cut => absurd ends cut.2⟩
      · rw [if_neg ends]
        exact ⟨fun _ => ⟨exceeds, ends⟩, fun _ => rfl⟩

/-- A word and, behind a space, one long word of letters of two bytes each. -/
def twoWords (first : List Char) : List Char := first ++ ' ' :: List.replicate 80 'é'

/-- The tree of such a text: the first word fits no rule. -/
def twoWordsTree (size : Nat) : Node :=
  flaggedNode "program" true false false 0 (size + 161)
    [flaggedNode "ERROR" true true false 0 size [SourceFile.rowNode "identifier" true none 0 size []],
      SourceFile.rowNode "expression_statement" true none (size + 1) (size + 161)
        [SourceFile.rowNode "identifier" true none (size + 1) (size + 161) []]]

def twoWordsFault (size : Nat) (shown : List Char) : SyntaxFault := ⟨"unexpected syntax", ⟨1, 0, 1, size⟩, shown⟩

theorem sourceText_twoWords :
    twoWordsFault 1 ('a' :: ' ' :: List.replicate 49 'é') ∈ (twoWordsTree 1).faults (twoWords ['a']) ∧
    excerptLimit < byteLength (twoWords ['a']) ∧
    'a' :: ' ' :: List.replicate 49 'é' <+: twoWords ['a'] ∧
    byteLength ('a' :: ' ' :: List.replicate 49 'é') = excerptLimit := by
  have recorded : twoWordsFault 1 ('a' :: ' ' :: List.replicate 49 'é') ∈
      (twoWordsTree 1).faults (twoWords ['a']) := by decide
  obtain ⟨start, -, -, full, -⟩ :=
    sourceText_of_mem_faults _ _ _ [] (twoWords ['a']) recorded (by decide) rfl (by decide)
  exact ⟨recorded, by decide, start, full (by decide)⟩

theorem not_sourceText_filled :
    ¬∀ (source : List Char) (root : Node) (fault : SyntaxFault) (front rest : List Char),
      fault ∈ root.faults source → (lines source)[fault.span.startLine - 1]? = some (front ++ rest) →
      byteLength front = fault.span.startCol → rest ≠ [] →
      fault.sourceText ≠ [] ∧ fault.sourceText <+: rest ∧ byteLength fault.sourceText ≤ excerptLimit ∧
        (byteLength rest ≤ excerptLimit → fault.sourceText = rest) := by
  intro filled
  have recorded : twoWordsFault 2 [] ∈ (twoWordsTree 2).faults (twoWords ['a', 'b']) := by decide
  exact (filled _ _ _ [] (twoWords ['a', 'b']) recorded (by decide) rfl (by decide)).1 rfl

end Node

end Prologue
