import Prologue.Proofs.Numerals
import Prologue.Proofs.Rounding
import Prologue.Scope.Literal

/-! Integers written in hexadecimal, octal or binary digits. Such a literal is read as the double nearest to its value
if the value fits 64 bits, and as not a number if it does not. -/

namespace Prologue

namespace Digit

variable {radix : Nat}

def lowered (digit : Digit radix) : Digit radix := { digit with upper := false }

theorem toLower_char (digit : Digit radix) (small : radix ≤ 16) : digit.char.toLower = digit.lowered.char := by
  have lower : ∀ value < 16, (Nat.digitChar value).toLower = Nat.digitChar value := by decide
  have upper : ∀ value < 16, (Nat.digitChar value).toUpper.toLower = Nat.digitChar value := by decide
  have below : digit.value.val < 16 := Nat.lt_of_lt_of_le digit.value.isLt small
  obtain ⟨value, capital⟩ := digit
  cases capital with
  | false => exact lower value below
  | true => exact upper value below

theorem number_lowered (digits : List (Digit radix)) : number (digits.map lowered) = number digits := by
  rw [number, List.map_map]
  rfl

theorem char_ne (digit : Digit radix) (small : radix ≤ 16) (c : Char) (other : isDigitOf 16 c = false) :
    digit.char ≠ c := by
  rintro rfl
  have listed : isDigitOf 16 digit.char = true := by
    rw [isDigitOf, digit.spellsDigit.digitValue small]
    exact decide_eq_true (Nat.lt_of_lt_of_le digit.value.isLt small)
  rw [listed] at other
  cases other

end Digit

/-- The bases that an integer can be written in besides ten. -/
inductive Base where
  | hexadecimal
  | octal
  | binary
deriving DecidableEq, Repr

namespace Base

def radix : Base → Nat
  | .hexadecimal => 16
  | .octal => 8
  | .binary => 2

/-- The letter behind the leading zero. -/
def mark : Base → Char
  | .hexadecimal => 'x'
  | .octal => 'o'
  | .binary => 'b'

def spelledMark (base : Base) (upper : Bool) : Char := if upper then base.mark.toUpper else base.mark

theorem radix_le (base : Base) : base.radix ≤ 16 := by cases base <;> decide

theorem spelledMark_ne (base : Base) (upper : Bool) : base.spelledMark upper ≠ '_' := by
  cases base <;> cases upper <;> decide

theorem toLower_spelledMark (base : Base) (upper : Bool) : (base.spelledMark upper).toLower = base.mark := by
  cases base <;> cases upper <;> decide

end Base

/-- An integer as it is written in a base: any number of underscores stands before each digit but the first. -/
structure RadixLiteral where
  base : Base
  upper : Bool
  first : Digit base.radix
  others : List (Nat × Digit base.radix)
  big : Bool

namespace RadixLiteral

def digits (literal : RadixLiteral) : List (Digit literal.base.radix) := literal.first :: literal.others.map Prod.snd

def value (literal : RadixLiteral) : Nat := Digit.number literal.digits

/-- The mark of a big integer, where there is one. -/
def suffix (literal : RadixLiteral) : List Char := if literal.big then ['n'] else []

def text (literal : RadixLiteral) : List Char :=
  '0' :: literal.base.spelledMark literal.upper :: literal.first.char ::
    (literal.others.flatMap fun other => List.replicate other.1 '_' ++ [other.2.char]) ++ literal.suffix

theorem filter_others {radix : Nat} (small : radix ≤ 16) (others : List (Nat × Digit radix)) :
    (others.flatMap fun other => List.replicate other.1 '_' ++ [other.2.char]).filter (· ≠ '_') =
      others.map fun other => other.2.char := by
  induction others with
  | nil => rfl
  | cons other rest ih =>
    have digit : other.2.char ≠ '_' := other.2.char_ne small '_' (by decide)
    rw [List.flatMap_cons, List.filter_append, ih]
    simp [digit]

theorem filter_text (literal : RadixLiteral) :
    literal.text.filter (· ≠ '_') =
      '0' :: literal.base.spelledMark literal.upper :: literal.digits.map Digit.char ++ literal.suffix := by
  have small := literal.base.radix_le
  have mark := literal.base.spelledMark_ne literal.upper
  have first : literal.first.char ≠ '_' := literal.first.char_ne small '_' (by decide)
  have kept : literal.suffix.filter (· ≠ '_') = literal.suffix := by
    unfold suffix
    split <;> rfl
  rw [text, List.filter_append, kept]
  simp only [List.filter_cons, filter_others small]
  simp [digits, mark, first]

theorem map_toLower_suffix (literal : RadixLiteral) : literal.suffix.map Char.toLower = literal.suffix := by
  unfold suffix
  split <;> rfl

theorem drop_suffix (literal : RadixLiteral) (plain : List Char) (unmarked : plain.getLast? ≠ some 'n') :
    (if (plain ++ literal.suffix).getLast? = some 'n' then (plain ++ literal.suffix).dropLast
      else plain ++ literal.suffix) = plain := by
  unfold suffix
  cases literal.big with
  | true => rw [if_pos rfl, if_pos List.getLast?_concat, List.dropLast_concat]
  | false => rw [if_neg Bool.false_ne_true, List.append_nil, if_neg unmarked]

/-- Without separators, in lower case and without the mark of a big integer, the base and the digits are left. -/
theorem plainDigits_text (literal : RadixLiteral) :
    plainDigits literal.text = '0' :: literal.base.mark :: (literal.digits.map Digit.lowered).map Digit.char := by
  have small := literal.base.radix_le
  have lower : literal.digits.map (Char.toLower ∘ Digit.char) = literal.digits.map (Digit.char ∘ Digit.lowered) :=
    List.map_congr_left fun digit _ => digit.toLower_char small
  have cleaned : (literal.text.filter (· ≠ '_')).map Char.toLower =
      '0' :: literal.base.mark :: (literal.digits.map Digit.lowered).map Digit.char ++ literal.suffix := by
    rw [filter_text, List.map_append, map_toLower_suffix, List.map_cons, List.map_cons, List.map_map, List.map_map,
      lower, Base.toLower_spelledMark]
    rfl
  unfold plainDigits
  rw [cleaned]
  apply drop_suffix
  -- There is a last digit, and no digit is the letter that marks a big integer.
  rw [List.getLast?_cons_cons, digits, List.map_cons, List.map_cons, List.getLast?_cons_cons]
  intro marked
  have member := List.mem_of_getLast? marked
  rw [← List.map_cons, List.mem_map] at member
  obtain ⟨digit, -, same⟩ := member
  exact digit.char_ne small 'n' (by decide) same

/-- A literal is read digit by digit if its value is below the limit of 64 bits. -/
theorem numberValue_text (literal : RadixLiteral) :
    numberValue literal.text = if literal.value < 2 ^ 64 then .ofNat literal.value else .nan := by
  have read : numberValue literal.text =
      radixNumber literal.base.radix ((literal.digits.map Digit.lowered).map Digit.char) := by
    rw [numberValue, plainDigits_text]
    cases literal with
    | mk base => cases base <;> rfl
  have numeral := Digit.numeral (literal.digits.map Digit.lowered)
  rw [Digit.number_lowered] at numeral
  have bounded : boundedValue? literal.base.radix (powerOfTwo 64) ((literal.digits.map Digit.lowered).map Digit.char) =
      if literal.value < 2 ^ 64 then some literal.value else none :=
    numeral.boundedValue_eq literal.base.radix_le (by simp [digits]) (powerOfTwo 64)
  rw [read, radixNumber, bounded]
  by_cases fits : literal.value < 2 ^ 64
  · rw [if_pos fits, if_pos fits]
  · rw [if_neg fits, if_neg fits]

/-- A literal is read as the double nearest to its value if and only if the value fits 64 bits. One that does not fit
is read as not a number. -/
theorem numberValue_isNearest_iff (literal : RadixLiteral) :
    (Binary64.IsNearest literal.value (numberValue literal.text) ↔ literal.value < 2 ^ 64) ∧
      (2 ^ 64 ≤ literal.value → numberValue literal.text = .nan) := by
  rw [numberValue_text]
  by_cases fits : literal.value < 2 ^ 64
  · rw [if_pos fits]
    refine ⟨iff_of_true (Binary64.isNearest_ofNat literal.value) fits, ?_⟩
    exact fun exceeds => absurd fits (Nat.not_lt.mpr exceeds)
  · rw [if_neg fits]
    exact ⟨iff_of_false (fun nearest => nearest.isNumber) fits, fun _ => rfl⟩

/-- The least hexadecimal literal beyond 64 bits. -/
def leastBeyond : RadixLiteral where
  base := .hexadecimal
  upper := false
  first := ⟨⟨1, by decide⟩, false⟩
  others := List.replicate 16 (0, ⟨⟨0, by decide⟩, false⟩)
  big := false

theorem not_isNearest_leastBeyond : ¬ Binary64.IsNearest leastBeyond.value (numberValue leastBeyond.text) := by
  have exceeds : ¬ leastBeyond.value < 2 ^ 64 := by decide
  rw [numberValue_text, if_neg exceeds]
  exact fun nearest => nearest.isNumber

end RadixLiteral

end Prologue
