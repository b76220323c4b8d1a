import Prologue.Text.Blank

/-! Bytes, rows and lines of a text. A place of a text at the bound of a character has as many line feeds before it as
the bytes before it hold, the text between two line feeds is a line, and texts are ordered as their bytes are. -/

namespace Prologue

/-- The bytes that encode a text. -/
def utf8 (text : List Char) : List UInt8 := text.flatMap String.utf8EncodeChar

/-- The byte of a line feed. -/
def lineFeed : UInt8 := 10

/-- The number of line feeds before a byte. -/
def rowAt (text : List Char) (byte : Nat) : Nat := ((utf8 text).take byte).count lineFeed

/-- The number of bytes between the last line feed before a byte, or the start of the text, and that byte. -/
def colAt (text : List Char) (byte : Nat) : Nat := (((utf8 text).take byte).reverse.takeWhile (· ≠ lineFeed)).length

theorem byteLength_eq_length_utf8 (text : List Char) : byteLength text = (utf8 text).length := by
  induction text with
  | nil => rfl
  | cons c rest ih =>
    rw [byteLength, ih, utf8, utf8, List.flatMap_cons, List.length_append, String.length_utf8EncodeChar]

theorem byteLength_append (front back : List Char) :
    byteLength (front ++ back) = byteLength front + byteLength back := by
  simp only [byteLength_eq_length_utf8, utf8, List.flatMap_append, List.length_append]

theorem ofNat_ne_lineFeed (value : Nat) (byte : value < 256) (other : value ≠ 10) : lineFeed ≠ UInt8.ofNat value := by
  intro same
  have values := congrArg UInt8.toNat same
  rw [UInt8.toNat_ofNat_of_lt' byte] at values
  exact other values.symm

/-- Only a line feed is encoded with the byte of one: the bytes of longer encodings are all above it. -/
theorem count_lineFeed_utf8EncodeChar (c : Char) :
    (String.utf8EncodeChar c).count lineFeed = if c = '\n' then 1 else 0 := by
  by_cases same : c = '\n'
  · subst same
    decide
  · have value : c.val.toNat ≠ 10 := fun value => same (Char.ext (UInt32.toNat_inj.mp value))
    rw [if_neg same, List.count_eq_zero]
    unfold String.utf8EncodeChar
    generalize c.val.toNat = code at value
    dsimp only
    split
    · rw [List.mem_singleton]
      exact ofNat_ne_lineFeed _ (by omega) value
    · split
      · simp only [List.mem_cons, List.not_mem_nil, or_false, not_or]
        exact ⟨ofNat_ne_lineFeed _ (by omega) (by omega), ofNat_ne_lineFeed _ (by omega) (by omega)⟩
      · split
        · simp only [List.mem_cons, List.not_mem_nil, or_false, not_or]
          exact ⟨ofNat_ne_lineFeed _ (by omega) (by omega), ofNat_ne_lineFeed _ (by omega) (by omega),
            ofNat_ne_lineFeed _ (by omega) (by omega)⟩
        · simp only [List.mem_cons, List.not_mem_nil, or_false, not_or]
          exact ⟨ofNat_ne_lineFeed _ (by omega) (by omega), ofNat_ne_lineFeed _ (by omega) (by omega),
            ofNat_ne_lineFeed _ (by omega) (by omega), ofNat_ne_lineFeed _ (by omega) (by omega)⟩

theorem count_lineFeed_utf8 (text : List Char) : (utf8 text).count lineFeed = text.count '\n' := by
  induction text with
  | nil => rfl
  | cons c rest ih =>
    rw [utf8, List.flatMap_cons, List.count_append, count_lineFeed_utf8EncodeChar, List.count_cons]
    rw [utf8] at ih
    simp only [ih, beq_iff_eq]
    omega

/-- The row of the place behind the front of a text. -/
theorem rowAt_append (front back : List Char) : rowAt (front ++ back) (byteLength front) = front.count '\n' := by
  have bytes : (utf8 (front ++ back)).take (byteLength front) = utf8 front := by
    rw [utf8, List.flatMap_append, byteLength_eq_length_utf8]
    exact List.take_left
  rw [rowAt, bytes, count_lineFeed_utf8]

theorem takeBytes_eq_some (count : Nat) (text front : List Char) (taken : takeBytes count text = some front) :
    ∃ back, text = front ++ back ∧ byteLength front = count := by
  fun_induction takeBytes count text generalizing front with
  | case1 text =>
    cases taken
    exact ⟨text, rfl, rfl⟩
  | case2 => cases taken
  | case3 count c rest fits ih =>
    obtain ⟨tail, found, rfl⟩ := Option.map_eq_some_iff.mp taken
    obtain ⟨back, split, length⟩ := ih tail found
    refine ⟨back, by rw [split, List.cons_append], ?_⟩
    rw [byteLength, length]
    omega
  | case4 => cases taken

theorem dropBytes_eq_some (count : Nat) (text back : List Char) (dropped : dropBytes count text = some back) :
    ∃ front, text = front ++ back ∧ byteLength front = count := by
  fun_induction dropBytes count text with
  | case1 text =>
    cases dropped
    exact ⟨[], rfl, rfl⟩
  | case2 => cases dropped
  | case3 count c rest fits ih =>
    obtain ⟨front, split, length⟩ := ih dropped
    refine ⟨c :: front, by rw [split, List.cons_append], ?_⟩
    rw [byteLength, length]
    omega
  | case4 => cases dropped

theorem takeBytes_cons (c : Char) (count : Nat) (text : List Char) :
    takeBytes (c.utf8Size + count) (c :: text) = (takeBytes count text).map (c :: ·) := by
  obtain ⟨less, size⟩ := Nat.exists_eq_succ_of_ne_zero (Nat.ne_of_gt c.utf8Size_pos)
  have whole : c.utf8Size + count = less + count + 1 := by omega
  have behind : less + count + 1 - c.utf8Size = count := by omega
  rw [whole, takeBytes, if_pos (by omega), behind]

theorem dropBytes_cons (c : Char) (count : Nat) (text : List Char) :
    dropBytes (c.utf8Size + count) (c :: text) = dropBytes count text := by
  obtain ⟨less, size⟩ := Nat.exists_eq_succ_of_ne_zero (Nat.ne_of_gt c.utf8Size_pos)
  have whole : c.utf8Size + count = less + count + 1 := by omega
  have behind : less + count + 1 - c.utf8Size = count := by omega
  rw [whole, dropBytes, if_pos (by omega), behind]

theorem takeBytes_append (front back : List Char) : takeBytes (byteLength front) (front ++ back) = some front := by
  induction front with
  | nil => exact takeBytes.eq_1 back
  | cons c front ih =>
    rw [byteLength, List.cons_append, takeBytes_cons, ih]
    rfl

theorem dropBytes_append (front back : List Char) : dropBytes (byteLength front) (front ++ back) = some back := by
  induction front with
  | nil => exact dropBytes.eq_1 back
  | cons c front ih => rw [byteLength, List.cons_append, dropBytes_cons, ih]

/-- A slice stands between a front and a back of the text that are as long as its bounds say. -/
theorem sliceBytes_eq_some (text middle : List Char) (start stop : Nat)
    (sliced : sliceBytes text start stop = some middle) :
    ∃ front back, text = front ++ (middle ++ back) ∧ byteLength front = start ∧
      byteLength (front ++ middle) = stop := by
  unfold sliceBytes at sliced
  split at sliced
  · obtain ⟨rest, dropped, taken⟩ := Option.bind_eq_some_iff.mp sliced
    obtain ⟨front, rfl, frontLength⟩ := dropBytes_eq_some start text rest dropped
    obtain ⟨back, rfl, middleLength⟩ := takeBytes_eq_some (stop - start) rest middle taken
    refine ⟨front, back, rfl, frontLength, ?_⟩
    rw [byteLength_append]
    omega
  · cases sliced

/-- The lines behind a line feed are the lines of what follows it. -/
theorem linesFrom_behind (line front rest : List Char) (index : Nat) :
    (linesFrom line (front ++ '\n' :: rest))[front.count '\n' + 1 + index]? = (lines rest)[index]? := by
  induction front generalizing line with
  | nil =>
    rw [List.nil_append, linesFrom, if_pos (beq_self_eq_true _), List.count_nil, Nat.zero_add, Nat.add_comm,
      List.getElem?_cons_succ]
    rfl
  | cons c front ih =>
    rw [List.cons_append, linesFrom]
    by_cases feed : c = '\n'
    · subst feed
      rw [if_pos (beq_self_eq_true _), List.count_cons_self,
        show front.count '\n' + 1 + 1 + index = front.count '\n' + 1 + index + 1 by omega,
        List.getElem?_cons_succ]
      exact ih []
    · rw [if_neg (by simpa using feed), List.count_cons_of_ne (by simpa using feed)]
      exact ih (c :: line)

theorem linesFrom_first (line first rest : List Char) (unbroken : '\n' ∉ first) :
    (linesFrom line (first ++ '\n' :: rest))[0]? = some (dropReturn (line.reverse ++ first)) := by
  induction first generalizing line with
  | nil => simp [linesFrom]
  | cons c first ih =>
    rw [List.mem_cons, not_or] at unbroken
    rw [List.cons_append, linesFrom, if_neg (by simpa using Ne.symm unbroken.1), ih (c :: line) unbroken.2]
    simp

/-- What stands between two line feeds is a line, less a carriage return at its end. -/
theorem lines_between (front line back : List Char) (unbroken : '\n' ∉ line) :
    (lines (front ++ '\n' :: (line ++ '\n' :: back)))[front.count '\n' + 1]? = some (dropReturn line) := by
  have behind := linesFrom_behind [] front (line ++ '\n' :: back) 0
  rw [Nat.add_zero] at behind
  rw [lines, behind]
  exact linesFrom_first [] line back unbroken

theorem mem_of_mem_dropReturn (line : List Char) (c : Char) (member : c ∈ dropReturn line) : c ∈ line := by
  unfold dropReturn at member
  split at member
  · exact (List.dropLast_sublist line).subset member
  · exact member

/-- A text with two line feeds holds a whole line right behind the first. -/
theorem exists_enclosed_line (text : List Char) (feeds : 2 ≤ text.count '\n') :
    ∃ head line rest, text = head ++ '\n' :: (line ++ '\n' :: rest) ∧ '\n' ∉ head ∧ '\n' ∉ line := by
  obtain ⟨head, tail, rfl, unbroken⟩ :=
    List.eq_append_cons_of_mem (List.count_pos_iff.mp (show 0 < text.count '\n' by omega))
  rw [List.count_append, List.count_eq_zero.mpr unbroken, List.count_cons_self] at feeds
  obtain ⟨line, rest, rfl, whole⟩ :=
    List.eq_append_cons_of_mem (List.count_pos_iff.mp (show 0 < tail.count '\n' by omega))
  exact ⟨head, line, rest, rfl, unbroken, whole⟩

/-- The first bytes decide, or else what follows them. -/
theorem cons_ofNat_lt (a b : Nat) (x y : List UInt8) (byte : b < 256) (notAbove : a ≤ b) (tail : a = b → x < y) :
    UInt8.ofNat a :: x < UInt8.ofNat b :: y := by
  rw [List.cons_lt_cons_iff, UInt8.lt_iff_toNat_lt, UInt8.toNat_ofNat_of_lt' (Nat.lt_of_le_of_lt notAbove byte),
    UInt8.toNat_ofNat_of_lt' byte]
  rcases Nat.lt_or_eq_of_le notAbove with less | same
  · exact Or.inl less
  · exact Or.inr ⟨congrArg UInt8.ofNat same, tail same⟩

/-- The encodings of two characters differ at a byte that both have, in the order of the characters. -/
theorem utf8EncodeChar_append_lt (c d : Char) (less : c < d) (x y : List UInt8) :
    String.utf8EncodeChar c ++ x < String.utf8EncodeChar d ++ y := by
  have codes : c.val.toNat < d.val.toNat := UInt32.lt_iff_toNat_lt.mp less
  have bound : d.val.toNat < 0x110000 := by
    rcases d.valid with low | ⟨-, high⟩
    · exact Nat.lt_trans low (by decide)
    · exact high
  unfold String.utf8EncodeChar
  generalize c.val.toNat = n at codes
  generalize d.val.toNat = m at codes bound
  dsimp only
  -- A longer encoding starts with a greater byte; encodings of one length are compared digit by digit.
  split
  · repeat' split
    all_goals exact cons_ofNat_lt _ _ _ _ (by omega) (by omega) fun same => by omega
  · rw [if_neg (by omega : ¬ m ≤ 127)]
    split
    · split
      · refine cons_ofNat_lt _ _ _ _ (by omega) (by omega) fun high => ?_
        exact cons_ofNat_lt _ _ _ _ (by omega) (by omega) fun low => by omega
      · split <;> exact cons_ofNat_lt _ _ _ _ (by omega) (by omega) fun same => by omega
    · rw [if_neg (by omega : ¬ m ≤ 2047)]
      split
      · split
        · refine cons_ofNat_lt _ _ _ _ (by omega) (by omega) fun high => ?_
          refine cons_ofNat_lt _ _ _ _ (by omega) (by omega) fun middle => ?_
          exact cons_ofNat_lt _ _ _ _ (by omega) (by omega) fun low => by omega
        · exact cons_ofNat_lt _ _ _ _ (by omega) (by omega) fun same => by omega
      · rw [if_neg (by omega : ¬ m ≤ 65535)]
        refine cons_ofNat_lt _ _ _ _ (by omega) (by omega) fun highest => ?_
        refine cons_ofNat_lt _ _ _ _ (by omega) (by omega) fun high => ?_
        refine cons_ofNat_lt _ _ _ _ (by omega) (by omega) fun middle => ?_
        exact cons_ofNat_lt _ _ _ _ (by omega) (by omega) fun low => by omega

/-- The bytes of texts have the order of the texts. -/
theorem utf8_lt (a b : List Char) (less : a < b) : utf8 a < utf8 b := by
  induction a generalizing b with
  | nil =>
    cases b with
    | nil => exact absurd less (List.not_lt_nil _)
    | cons d right =>
      have filled : 0 < (utf8 (d :: right)).length := by
        rw [← byteLength_eq_length_utf8, byteLength]
        exact Nat.add_pos_left d.utf8Size_pos _
      obtain ⟨byte, bytes, same⟩ := List.exists_cons_of_length_pos filled
      rw [same]
      exact List.nil_lt_cons byte bytes
  | cons c left ih =>
    cases b with
    | nil => exact absurd less (List.not_lt_nil _)
    | cons d right =>
      rw [utf8, utf8, List.flatMap_cons, List.flatMap_cons]
      rcases List.cons_lt_cons_iff.mp less with first | ⟨rfl, rest⟩
      · exact utf8EncodeChar_append_lt c d first _ _
      · exact List.append_left_lt (ih right rest)

end Prologue
