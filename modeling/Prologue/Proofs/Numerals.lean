import Mathlib.Data.List.Forall2
import Mathlib.Data.Nat.Digits.Defs
import Mathlib.Tactic.IntervalCases
import Mathlib.Tactic.Ring
import Prologue.Text.Digits

/-! Numbers as they are written in a radix of at most sixteen, with leading zeros and letters of either case. Reading
the digits gives the number back. -/

namespace Prologue

/-- A character that stands for a digit of a radix, in either letter case. -/
def SpellsDigit (radix : Nat) (c : Char) (digit : Nat) : Prop :=
  digit < radix ∧ (c = Nat.digitChar digit ∨ c = (Nat.digitChar digit).toUpper)

/-- A text of digits, the most significant first, and the number it denotes. -/
def Numeral (radix : Nat) (text : List Char) (value : Nat) : Prop :=
  ∃ digits, List.Forall₂ (SpellsDigit radix) text digits ∧ Nat.ofDigits radix digits.reverse = value

theorem SpellsDigit.digitValue {radix digit : Nat} {c : Char} (spells : SpellsDigit radix c digit)
    (small : radix ≤ 16) : digitValue? c = some digit := by
  obtain ⟨below, spelled⟩ := spells
  have bound : digit < 16 := by omega
  clear below
  interval_cases digit <;> rcases spelled with rfl | rfl <;> decide

theorem SpellsDigit.isDigitOf {radix digit : Nat} {c : Char} (spells : SpellsDigit radix c digit)
    (small : radix ≤ 16) : isDigitOf radix c = true := by
  rw [Prologue.isDigitOf, spells.digitValue small]
  exact decide_eq_true spells.1

/-- Reading digits behind a number shifts it by as many places. -/
theorem appendDigits_of_spells {radix : Nat} {text : List Char} {digits : List Nat}
    (spelled : List.Forall₂ (SpellsDigit radix) text digits) (small : radix ≤ 16) (start : Nat) :
    appendDigits radix start text = some (start * radix ^ text.length + Nat.ofDigits radix digits.reverse) := by
  induction spelled generalizing start with
  | nil => simp [appendDigits]
  | @cons c digit rest digits first others ih =>
    have length : digits.length = rest.length := others.length_eq.symm
    rw [appendDigits, first.digitValue small]
    simp only [if_pos first.1]
    rw [ih, List.reverse_cons, Nat.ofDigits_append, List.length_reverse, length, Nat.ofDigits_singleton,
      List.length_cons, pow_succ]
    congr 1
    ring

namespace Numeral

variable {radix value : Nat} {text : List Char}

theorem spellsDigit (numeral : Numeral radix text value) (c : Char) (member : c ∈ text) :
    ∃ digit, SpellsDigit radix c digit := by
  obtain ⟨digits, spelled, -⟩ := numeral
  induction spelled with
  | nil => cases member
  | cons first _ ih =>
    rcases List.mem_cons.mp member with rfl | member
    · exact ⟨_, first⟩
    · exact ih member

theorem isDigitOf (numeral : Numeral radix text value) (small : radix ≤ 16) (c : Char) (member : c ∈ text) :
    isDigitOf radix c = true := by
  obtain ⟨digit, spells⟩ := numeral.spellsDigit c member
  exact spells.isDigitOf small

theorem appendDigits (numeral : Numeral radix text value) (small : radix ≤ 16) (start : Nat) :
    appendDigits radix start text = some (start * radix ^ text.length + value) := by
  obtain ⟨digits, spelled, rfl⟩ := numeral
  exact appendDigits_of_spells spelled small start

/-- A number is read from its digits, however many zeros they start with, unless it reaches the limit. -/
theorem boundedValue_eq (numeral : Numeral radix text value) (small : radix ≤ 16) (digits : text ≠ []) (limit : Nat) :
    boundedValue? radix limit text = if value < limit then some value else none := by
  cases text with
  | nil => exact absurd rfl digits
  | cons c rest =>
    have unsigned : c ≠ '+' := by
      rintro rfl
      obtain ⟨digit, spells⟩ := numeral.spellsDigit '+' List.mem_cons_self
      cases spells.digitValue small
    have read := numeral.appendDigits small 0
    rw [Nat.zero_mul, Nat.zero_add] at read
    unfold boundedValue?
    split
    · next sign =>
      cases sign
      exact absurd rfl unsigned
    · simp only [digitsValue?, read]

theorem boundedValue (numeral : Numeral radix text value) (small : radix ≤ 16) (digits : text ≠ []) (limit : Nat)
    (below : value < limit) : boundedValue? radix limit text = some value := by
  rw [numeral.boundedValue_eq small digits limit, if_pos below]

end Numeral

/-- A digit of a radix, with the letter case it is written in. -/
structure Digit (radix : Nat) where
  value : Fin radix
  upper : Bool
deriving DecidableEq, Repr

namespace Digit

variable {radix : Nat}

def char (digit : Digit radix) : Char :=
  if digit.upper then (Nat.digitChar digit.value).toUpper else Nat.digitChar digit.value

/-- The number that digits denote, the most significant first. -/
def number (digits : List (Digit radix)) : Nat := Nat.ofDigits radix (digits.map fun digit => digit.value.val).reverse

theorem spellsDigit (digit : Digit radix) : SpellsDigit radix digit.char digit.value := by
  refine ⟨digit.value.isLt, ?_⟩
  unfold char
  split
  · exact Or.inr rfl
  · exact Or.inl rfl

theorem number_lt (digits : List (Digit radix)) (base : 1 < radix) : number digits < radix ^ digits.length := by
  have below : ∀ value ∈ (digits.map fun digit => digit.value.val).reverse, value < radix := by
    intro value member
    obtain ⟨digit, -, rfl⟩ := List.mem_map.mp (List.mem_reverse.mp member)
    exact digit.value.isLt
  simpa [number] using Nat.ofDigits_lt_base_pow_length base below

theorem numeral (digits : List (Digit radix)) : Numeral radix (digits.map char) (number digits) := by
  refine ⟨digits.map fun digit => digit.value.val, ?_, rfl⟩
  rw [List.forall₂_map_left_iff, List.forall₂_map_right_iff, List.forall₂_same]
  exact fun digit _ => digit.spellsDigit

end Digit

end Prologue
