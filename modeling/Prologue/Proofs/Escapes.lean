import Prologue.Proofs.Spellings

/-! The values of escape sequences. An escape sequence of any kind is decoded to the characters it stands for, but for
one: octal digits beyond 0o377 are read as one character, where the last of them stands for itself. -/

namespace Prologue

/-- What can stand behind a backslash, by its kind. -/
inductive EscapeSequence where
  | character (c : Char) (plain : c ∉ ['x', 'u'] ++ octalDigits)
  | octal (digits : List (Digit 8)) (some : digits ≠ []) (short : digits.length ≤ 3)
  | byte (digits : List (Digit 16)) (two : digits.length = 2)
  | unit (digits : List (Digit 16)) (four : digits.length = 4)
  | braced (digits : List (Digit 16)) (some : digits ≠ [])
  | lineBreak

namespace EscapeSequence

open Digit (number)

/-- The text behind the backslash. -/
def body : EscapeSequence → List Char
  | .character c _ => [c]
  | .octal digits _ _ => digits.map Digit.char
  | .byte digits _ => 'x' :: digits.map Digit.char
  | .unit digits _ => 'u' :: digits.map Digit.char
  | .braced digits _ => 'u' :: '\x7b' :: (digits.map Digit.char ++ ['\x7d'])
  | .lineBreak => ['\r', '\n']

/-- The digits of an octal escape that count. Of three digits beyond 0o377 the last is a character of its own. -/
def counted (digits : List (Digit 8)) : List (Digit 8) :=
  if number digits ≤ 0o377 then digits else digits.dropLast

/-- The code points that an escape sequence stands for. They need not be characters. -/
def value : EscapeSequence → List Nat
  | .character c _ => if c ∈ lineTerminators then [] else [((letterEscapes.lookup c).getD c).toNat]
  | .octal digits _ _ =>
    number (counted digits) :: (digits.drop (counted digits).length).map fun digit => digit.char.toNat
  | .byte digits _ | .unit digits _ | .braced digits _ => [number digits]
  | .lineBreak => []

/-- Octal digits beyond the greatest byte. -/
def Overflows : EscapeSequence → Prop
  | .octal digits _ _ => 0o377 < number digits
  | _ => False

instance (sequence : EscapeSequence) : Decidable sequence.Overflows :=
  match sequence with
  | .octal digits _ _ => inferInstanceAs (Decidable (0o377 < number digits))
  | .character .. | .byte .. | .unit .. | .braced .. | .lineBreak => inferInstanceAs (Decidable False)

theorem map_char_ne_nil {radix : Nat} (digits : List (Digit radix)) (some : digits ≠ []) :
    digits.map Digit.char ≠ [] := by
  simpa using some

/-- A letter escape stands for its control character, and what is neither that nor a line terminator for itself. -/
theorem decodeEscape_character (c : Char) (plain : c ∉ ['x', 'u'] ++ octalDigits) (inside : c ∉ lineTerminators) :
    decodeEscape ['\\', c] = [(letterEscapes.lookup c).getD c] := by
  rw [List.mem_append, not_or] at plain
  cases found : letterEscapes.lookup c with
  | some control =>
    obtain ⟨front, back, split, -⟩ := List.lookup_eq_some_iff.mp found
    exact decodeEscape_of_spells control [c] (.letter c (by simp [split]))
  | none =>
    have other : c ∉ letterEscapes.map Prod.fst := by
      intro listed
      obtain ⟨pair, member, rfl⟩ := List.mem_map.mp listed
      simpa using List.lookup_eq_none_iff.mp found pair member
    apply decodeEscape_of_spells c [c]
    apply Spells.itself _ plain.2
    simp only [escapeHeads, List.mem_append, not_or]
    exact ⟨⟨other, plain.1⟩, inside⟩

/-- Octal digits are read as one character, however great their value. -/
theorem decodeEscape_octal (digits : List (Digit 8)) (some : digits ≠ []) (short : digits.length ≤ 3) :
    decodeEscape ('\\' :: digits.map Digit.char) = [Char.ofNat (number digits)] := by
  have below : number digits < 512 :=
    Nat.lt_of_lt_of_le (Digit.number_lt digits (by decide)) (Nat.pow_le_pow_right (n := 8) (by decide) short)
  have valid : (number digits).isValidChar := Or.inl (by omega)
  have code : (Char.ofNat (number digits)).toNat = number digits := by
    rw [Char.ofNat, dif_pos valid]
    rfl
  have read := escapeValue?_octal _ (map_char_ne_nil digits some) (Char.ofNat (number digits))
    (code.symm ▸ Digit.numeral digits)
  rw [decodeEscape, read]
  rfl

theorem value_octal_within (digits : List (Digit 8)) (some : digits ≠ []) (short : digits.length ≤ 3)
    (within : number digits ≤ 0o377) : (octal digits some short).value = [number digits] := by
  simp [value, counted, within]

/-- Octal digits beyond the limit stand for two characters. -/
theorem length_value_of_overflows (sequence : EscapeSequence) (overflows : sequence.Overflows) :
    sequence.value.length = 2 := by
  cases sequence with
  | octal digits some short =>
    have beyond : ¬ number digits ≤ 0o377 := Nat.not_le.mpr overflows
    have positive := List.length_pos_iff.mpr some
    simp only [value, counted, if_neg beyond, List.length_cons, List.length_map, List.length_drop,
      List.length_dropLast]
    omega
  | character | byte | unit | braced | lineBreak => exact absurd overflows id

theorem exists_of_codes (code : Nat) (text : List Char) (codes : [code] = text.map Char.toNat) :
    ∃ c : Char, text = [c] ∧ code = c.toNat := by
  obtain ⟨c, rfl, same⟩ := List.map_eq_singleton_iff.mp codes.symm
  exact ⟨c, rfl, same.symm⟩

/-- Decoding gives the characters an escape sequence stands for, unless it is one of octal digits beyond the limit. -/
theorem decodeEscape_of_value (sequence : EscapeSequence) (text : List Char)
    (scalars : sequence.value = text.map Char.toNat) (within : ¬ sequence.Overflows) :
    decodeEscape ('\\' :: sequence.body) = text := by
  cases sequence with
  | character c plain =>
    by_cases line : c ∈ lineTerminators
    · rw [value, if_pos line] at scalars
      rw [List.map_eq_nil_iff.mp scalars.symm]
      exact decodeEscape_continuation [c] (List.mem_cons_of_mem _ (List.mem_map_of_mem line))
    · rw [value, if_neg line] at scalars
      obtain ⟨d, rfl, same⟩ := exists_of_codes _ text scalars
      rw [body, decodeEscape_character c plain line, Char.toNat_inj.mp same]
  | octal digits some short =>
    rw [value_octal_within digits some short (Nat.not_lt.mp within)] at scalars
    obtain ⟨c, rfl, same⟩ := exists_of_codes _ text scalars
    rw [body, decodeEscape_octal digits some short, same, Char.ofNat_toNat]
  | byte digits two =>
    obtain ⟨c, rfl, same⟩ := exists_of_codes _ text scalars
    exact decodeEscape_of_spells c _ (.byte _ (by simpa using two) (same ▸ Digit.numeral digits))
  | unit digits four =>
    obtain ⟨c, rfl, same⟩ := exists_of_codes _ text scalars
    exact decodeEscape_of_spells c _ (.unit _ (by simpa using four) (same ▸ Digit.numeral digits))
  | braced digits some =>
    obtain ⟨c, rfl, same⟩ := exists_of_codes _ text scalars
    exact decodeEscape_of_spells c _ (.braced _ (map_char_ne_nil digits some) (same ▸ Digit.numeral digits))
  | lineBreak =>
    rw [List.map_eq_nil_iff.mp scalars.symm]
    exact decodeEscape_continuation _ List.mem_cons_self

/-- An escape sequence that stands for characters is decoded to these if and only if it is not one of octal digits
beyond 0o377. All octal digits are read as the code of one character. -/
theorem decodeEscape_value_iff (sequence : EscapeSequence) (text : List Char)
    (scalars : sequence.value = text.map Char.toNat) :
    (decodeEscape ('\\' :: sequence.body) = text ↔ ¬ sequence.Overflows) ∧
      ∀ digits some short, sequence = .octal digits some short →
        decodeEscape ('\\' :: sequence.body) = [Char.ofNat (number digits)] := by
  refine ⟨⟨?_, decodeEscape_of_value sequence text scalars⟩, ?_⟩
  · intro decoded overflows
    have two : text.length = 2 := by
      rw [← length_value_of_overflows sequence overflows, scalars, List.length_map]
    cases sequence with
    | octal digits some short =>
      rw [body, decodeEscape_octal digits some short] at decoded
      rw [← decoded] at two
      cases two
    | character | byte | unit | braced | lineBreak => exact overflows
  · rintro digits some short rfl
    exact decodeEscape_octal digits some short

def greatestOctal : EscapeSequence := .octal [⟨3, false⟩, ⟨7, false⟩, ⟨7, false⟩] (by decide) (by decide)

theorem decodeEscape_greatestOctal :
    greatestOctal.value = ['ÿ'].map Char.toNat ∧ decodeEscape ('\\' :: greatestOctal.body) = ['ÿ'] :=
  ⟨by decide, (decodeEscape_value_iff greatestOctal ['ÿ'] (by decide)).1.mpr (by decide)⟩

/-- Three sevens stand for a question mark and a seven, and are decoded to one other character. -/
theorem not_decodeEscape_sevens : ∃ (sequence : EscapeSequence) (text : List Char),
    sequence.value = text.map Char.toNat ∧ decodeEscape ('\\' :: sequence.body) ≠ text :=
  ⟨.octal [⟨7, false⟩, ⟨7, false⟩, ⟨7, false⟩] (by decide) (by decide), ['?', '7'], by decide, by decide⟩

end EscapeSequence

end Prologue
