/-
A text between the quotes of JSON is read back.

Every character is written in ASCII: as it is, with a letter, as a unit of UTF-16, or as a pair of
them. Each way the reader finds the character again and goes on behind it (`stringBody_escaped`), so
it finds the text again (`stringAfterQuote_string`), whatever follows it.
-/
import DataContract.JsonText.Reader
import DataContract.JsonText.Writer
import Mathlib

namespace DataContract

/-! ### Digits -/

theorem digitOf_digitChar : ∀ d < 16, digitOf (Nat.digitChar d) = d := by decide

theorem isHexDigit_digitChar : ∀ d < 16, isHexDigit (Nat.digitChar d) = true := by decide

theorem digitsValue_append (base : Nat) (value : Char → Nat) (cs : List Char) (c : Char) :
    digitsValue base value (cs ++ [c]) = digitsValue base value cs * base + value c := by
  rw [digitsValue, List.foldl_append]
  rfl

section

variable {base n : Nat} {c : Char}

/-- Digits that write a number denote it. -/
theorem digitsValue_toDigits (several : 1 < base) (known : base ≤ 16) (n : Nat) :
    digitsValue base digitOf (Nat.toDigits base n) = n := by
  induction n using Nat.strongRecOn with
  | ind n ih =>
    by_cases small : n < base
    · rw [Nat.toDigits_of_lt_base small]
      show 0 * base + digitOf (Nat.digitChar n) = n
      rw [digitOf_digitChar n (by omega), Nat.zero_mul, Nat.zero_add]
    · have last : n % base < base := Nat.mod_lt n (by omega)
      have fewer : n / base < n := Nat.div_lt_self (by omega) several
      rw [Nat.toDigits_of_base_le several (by omega), digitsValue_append, ih _ fewer,
        digitOf_digitChar _ (by omega)]
      exact Nat.div_add_mod' n base

theorem exists_digit_of_mem_toDigits (several : 1 < base) (mem : c ∈ Nat.toDigits base n) :
    ∃ d < base, c = Nat.digitChar d := by
  induction n using Nat.strongRecOn with
  | ind n ih =>
    by_cases small : n < base
    · rw [Nat.toDigits_of_lt_base small, List.mem_singleton] at mem
      exact ⟨n, small, mem⟩
    · rw [Nat.toDigits_of_base_le several (by omega), List.mem_append, List.mem_singleton] at mem
      rcases mem with mem | rfl
      · exact ih _ (Nat.div_lt_self (by omega) several) mem
      · exact ⟨n % base, Nat.mod_lt n (by omega), rfl⟩

end

namespace Text

/-- Zeros in front do not change what digits denote. -/
theorem digitsValue_hexDigits (width n : Nat) : digitsValue 16 digitOf (hexDigits width n) = n := by
  have zeros : ∀ k, (List.replicate k '0').foldl (fun n c => n * 16 + digitOf c) 0 = 0 := by
    intro k
    induction k with
    | zero => rfl
    | succ k ih => exact ih
  rw [hexDigits, padZeros, digitsValue, List.foldl_append, zeros]
  exact digitsValue_toDigits (by decide) (Nat.le_refl _) n

theorem isHexDigit_of_mem_hexDigits {width n : Nat} {c : Char} (mem : c ∈ hexDigits width n) :
    isHexDigit c = true := by
  rcases List.mem_append.mp mem with mem | mem
  · rw [List.eq_of_mem_replicate mem]
    rfl
  · obtain ⟨d, small, rfl⟩ := exists_digit_of_mem_toDigits (by decide) mem
    exact isHexDigit_digitChar d small

theorem length_hexDigits {width n : Nat} (some : 0 < width) (fits : n < 16 ^ width) :
    (hexDigits width n).length = width := by
  have short : (Nat.toDigits 16 n).length ≤ width :=
    (Nat.length_toDigits_le_iff (by decide) some).mpr fits
  rw [hexDigits, padZeros, List.length_append, List.length_replicate]
  omega

end Text

/-! ### Escapes -/

namespace JsonText

open Text

/-- Four digits are read as the number that they write if anything follows them. -/
theorem unitValue?_hexDigits {n : Nat} {left : List Char} (fits : n < 0x10000) (more : left ≠ []) :
    unitValue? (hexDigits 4 n ++ left) = some (n, left) := by
  obtain ⟨e, rest, rfl⟩ := List.exists_cons_of_ne_nil more
  have four : (hexDigits 4 n).length = 4 := length_hexDigits (by decide) fits
  have digits : ∀ c ∈ hexDigits 4 n, isHexDigit c = true := fun c => isHexDigit_of_mem_hexDigits
  have value := digitsValue_hexDigits 4 n
  -- the reader takes four characters, whatever they are
  generalize hexDigits 4 n = ds at four digits value
  obtain ⟨a, b, c, d, rfl⟩ := List.length_eq_four.mp four
  show (if [a, b, c, d].all isHexDigit then _ else _) = _
  rw [if_pos (List.all_eq_true.mpr digits), value]

theorem isValidChar_toNat (c : Char) : c.toNat.isValidChar := c.valid

/-- No character is the first unit of a pair. -/
theorem not_high (c : Char) : ¬(0xd800 ≤ c.toNat ∧ c.toNat < 0xdc00) := by
  have valid := isValidChar_toNat c
  rw [Nat.isValidChar] at valid
  omega

theorem charOf_toNat (c : Char) : charOf c.toNat = c := by
  rw [charOf, if_pos (isValidChar_toNat c), Char.ofNat_toNat]

variable {c : Char} {left : List Char}

theorem unitEscape_append (n : Nat) :
    unitEscape n ++ left = '\\' :: 'u' :: (hexDigits 4 n ++ left) := rfl

/-- A unit that is a character is read as that. -/
theorem unitEscaped_of_small (small : c.toNat < 0x10000) (more : left ≠ []) :
    unitEscaped ('u' :: (hexDigits 4 c.toNat ++ left)) = .ok (c, left) := by
  have single : ¬(0xd800 ≤ c.toNat ∧ c.toNat < 0xdc00 ∧ 6 < left.length) :=
    fun ⟨high, low, _⟩ => not_high c ⟨high, low⟩
  rw [unitEscaped, List.drop_one, List.tail_cons, unitValue?_hexDigits small more]
  simp only [if_neg single, charOf_toNat]

/-- Two units that form a pair are read as the character that they form. -/
theorem unitEscaped_of_pair {high low : Nat} (first : 0xd800 ≤ high) (first' : high < 0xdc00)
    (second : 0xdc00 ≤ low) (second' : low < 0xe000)
    (whole : 0x10000 + (high - 0xd800) * 0x400 + (low - 0xdc00) = c.toNat) (more : left ≠ []) :
    unitEscaped ('u' :: (hexDigits 4 high ++ (unitEscape low ++ left))) = .ok (c, left) := by
  have pair : 6 < (unitEscape low ++ left).length := by
    have four : (hexDigits 4 low).length = 4 := length_hexDigits (by decide) (by omega)
    have some := List.length_pos_iff.mpr more
    simp only [unitEscape, List.length_append, List.length_cons, four]
    omega
  rw [unitEscaped, List.drop_one, List.tail_cons,
    unitValue?_hexDigits (by omega) (List.ne_nil_of_length_pos (by omega))]
  have behind : unitValue? (hexDigits 4 low ++ left) = some (low, left) :=
    unitValue?_hexDigits (by omega) more
  simp only [if_pos (And.intro first (And.intro first' pair))]
  simp only [unitEscape, List.cons_append, behind, if_pos (And.intro second second'), whole,
    charOf_toNat]

/-- The units that a character past the first 65536 is written in form a pair, and that character. -/
theorem units_of_large (large : 0x10000 ≤ c.toNat) :
    (c.toNat - 0x10000) / 0x400 < 0x400 ∧
      (c.toNat - 0x10000) / 0x400 * 0x400 + (c.toNat - 0x10000) % 0x400 + 0x10000 = c.toNat := by
  have valid := isValidChar_toNat c
  rw [Nat.isValidChar] at valid
  omega

/-! ### Texts -/

variable {opening cs rest rest' : List Char} {fuel : Nat}

theorem stringBody_unit (escape : unitEscaped ('u' :: rest) = .ok (c, left))
    (behind : stringBody opening fuel left = .ok (cs, rest')) :
    stringBody opening (fuel + 1) ('\\' :: 'u' :: rest) = .ok (c :: cs, rest') := by
  simp only [stringBody, escape, bind, Except.bind, behind]
  rfl

theorem stringBody_letter {e : Char} (letter : e ≠ 'u') (escape : simpleEscape? e = some c)
    (behind : stringBody opening fuel left = .ok (cs, rest)) :
    stringBody opening (fuel + 1) ('\\' :: e :: left) = .ok (c :: cs, rest) := by
  simp only [stringBody, escape, bind, Except.bind, behind]
  rfl

theorem stringBody_plain (quote : c ≠ '"') (backslash : c ≠ '\\') (visible : 0x1f < c.toNat)
    (behind : stringBody opening fuel left = .ok (cs, rest)) :
    stringBody opening (fuel + 1) (c :: left) = .ok (c :: cs, rest) := by
  simp only [stringBody, backslash, false_implies, implies_true,
    if_neg (Nat.not_le.mpr visible), bind, Except.bind, behind]
  rfl

/-- The reader finds a character that is written, and goes on behind it. -/
theorem stringBody_escaped (more : left ≠ [])
    (behind : stringBody opening fuel left = .ok (cs, rest)) :
    stringBody opening (fuel + 1) (escaped c ++ left) = .ok (c :: cs, rest) := by
  rw [escaped]
  -- in the order of the writer: what is written with a letter, as it is, or in units
  split
  case isTrue h =>
    obtain rfl | rfl := h
    · exact stringBody_letter (by decide) rfl behind
    · exact stringBody_letter (by decide) rfl behind
  case isFalse quote =>
  obtain ⟨quote, backslash⟩ := not_or.mp quote
  split
  case isTrue h => exact h ▸ stringBody_letter (by decide) rfl behind
  split
  case isTrue h => exact h ▸ stringBody_letter (by decide) rfl behind
  split
  case isTrue h => exact h ▸ stringBody_letter (by decide) rfl behind
  split
  case isTrue h => exact h ▸ stringBody_letter (by decide) rfl behind
  split
  case isTrue h => exact h ▸ stringBody_letter (by decide) rfl behind
  split
  case isTrue h =>
    have visible : 0x20 ≤ c.toNat := h.1
    exact stringBody_plain quote backslash visible behind
  split
  case isTrue small =>
    rw [unitEscape_append]
    exact stringBody_unit (unitEscaped_of_small small more) behind
  case isFalse large =>
    obtain ⟨high, whole⟩ := units_of_large (Nat.not_lt.mp large)
    have low : (c.toNat - 0x10000) % 0x400 < 0x400 := Nat.mod_lt _ (by decide)
    -- only what both numbers are bounded by, and put together to, matters from here on
    generalize (c.toNat - 0x10000) / 0x400 = h at high whole ⊢
    generalize (c.toNat - 0x10000) % 0x400 = l at low whole ⊢
    have pair : unitEscaped ('u' :: (hexDigits 4 (0xd800 + h) ++
        (unitEscape (0xdc00 + l) ++ left))) = .ok (c, left) :=
      unitEscaped_of_pair (by omega) (by omega) (by omega) (by omega) (by omega) more
    rw [List.append_assoc, unitEscape_append]
    exact stringBody_unit pair behind

/-- The reader finds characters that are written up to a quote. -/
theorem stringBody_quoted (fits : cs.length < fuel) :
    stringBody opening fuel (cs.flatMap escaped ++ '"' :: rest) = .ok (cs, rest) := by
  induction cs generalizing fuel with
  | nil =>
    obtain ⟨fuel, rfl⟩ := Nat.exists_eq_succ_of_ne_zero (Nat.ne_of_gt fits)
    rfl
  | cons c cs ih =>
    obtain ⟨fuel, rfl⟩ := Nat.exists_eq_succ_of_ne_zero (Nat.ne_of_gt (Nat.zero_lt_of_lt fits))
    rw [List.flatMap_cons, List.append_assoc]
    exact stringBody_escaped (by simp) (ih (Nat.lt_of_succ_lt_succ fits))

theorem escaped_ne_nil (c : Char) : escaped c ≠ [] := by
  have unit : ∀ n, unitEscape n ≠ [] := fun n => List.cons_ne_nil _ _
  rw [escaped]
  split_ifs
  case neg => exact List.append_ne_nil_of_left_ne_nil (unit _) _
  all_goals exact List.cons_ne_nil _ _

theorem length_le_flatMap_escaped (cs : List Char) : cs.length ≤ (cs.flatMap escaped).length := by
  induction cs with
  | nil => exact Nat.le_refl 0
  | cons c cs ih =>
    have some : 0 < (escaped c).length := List.length_pos_iff.mpr (escaped_ne_nil c)
    rw [List.flatMap_cons, List.length_append, List.length_cons]
    omega

/-- A text that is written is read again, whatever follows it. -/
theorem stringAfterQuote_string (s : String) (rest : List Char) :
    stringAfterQuote (s.toList.flatMap escaped ++ '"' :: rest) = .ok (s, rest) := by
  have fits : s.toList.length < (s.toList.flatMap escaped ++ '"' :: rest).length + 1 := by
    have := length_le_flatMap_escaped s.toList
    rw [List.length_append]
    omega
  simp only [stringAfterQuote, stringBody_quoted fits, bind, Except.bind, String.ofList_toList]
  rfl

end JsonText

end DataContract
