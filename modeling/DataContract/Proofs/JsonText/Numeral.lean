/-
An integer that is written is read back.

Digits are read up to the first character that does not go on with a number, so what follows an
integer must not (`JsonText.EndsNumber`). Then neither a fraction nor an exponent is found behind the
digits, and the number is the integer again (`JsonText.scalar_numeral`). One with too many digits is
not written at all (`JsonText.digits_eq_ok`, `JsonText.digits_of_overlong`).
-/
import DataContract.Proofs.JsonText.Escaping
import DataContract.Proofs.Value.Written

namespace DataContract

namespace JsonText

/-- Whether a character behind digits goes on with the number. -/
def continuesNumber (c : Char) : Bool :=
  isAsciiDigit c || c = '.' || c = 'e' || c = 'E'

/-- Characters do not go on with a number in front of them. -/
def EndsNumber (rest : List Char) : Prop :=
  ∀ c ∈ rest.head?, continuesNumber c = false

section

variable {c d : Char} {ds rest : List Char} {n : Nat}

theorem endsNumber_nil : EndsNumber [] := nofun

theorem endsNumber_cons_iff : EndsNumber (c :: rest) ↔ continuesNumber c = false :=
  ⟨fun h => h c rfl, fun h _ first => Option.some.inj first ▸ h⟩

/-- A blank goes on with no number, and what follows blanks is no matter. -/
theorem EndsNumber.of_skipBlanks (h : EndsNumber (skipBlanks rest)) : EndsNumber rest := by
  cases rest with
  | nil => exact endsNumber_nil
  | cons c rest =>
    rw [endsNumber_cons_iff]
    cases blank : isBlank c with
    | true =>
      simp only [isBlank, Bool.or_eq_true, decide_eq_true_eq] at blank
      rcases blank with ((rfl | rfl) | rfl) | rfl <;> rfl
    | false =>
      rw [skipBlanks, List.dropWhile_cons_of_neg (ne_true_of_eq_false blank)] at h
      exact endsNumber_cons_iff.mp h

/-! ### Digits up to the end of a number -/

theorem isAsciiDigit_digitChar : ∀ d < 10, isAsciiDigit (Nat.digitChar d) = true := by decide

theorem isAsciiDigit_of_mem_toDigits (mem : c ∈ Nat.toDigits 10 n) : isAsciiDigit c = true := by
  obtain ⟨d, small, rfl⟩ := exists_digit_of_mem_toDigits (by decide) mem
  exact isAsciiDigit_digitChar d small

/-- The digits of a number begin with no zero, unless it is zero. -/
theorem exists_toDigits (n : Nat) : ∃ d ds, Nat.toDigits 10 n = d :: ds ∧ (d = '0' → n = 0) := by
  induction n using Nat.strongRecOn with
  | ind n ih =>
    by_cases small : n < 10
    · refine ⟨n.digitChar, [], Nat.toDigits_of_lt_base small, ?_⟩
      have single : ∀ n < 10, n.digitChar = '0' → n = 0 := by decide
      exact single n small
    · obtain ⟨d, ds, digits, zero⟩ := ih (n / 10) (by omega)
      refine ⟨d, ds ++ [(n % 10).digitChar], ?_, fun first => ?_⟩
      · rw [Nat.toDigits_of_base_le (by decide) (by omega), digits, List.cons_append]
      · have none := zero first
        omega

theorem takeWhile_endsNumber (h : EndsNumber rest) : rest.takeWhile isAsciiDigit = [] := by
  cases rest with
  | nil => rfl
  | cons c rest =>
    have ends := endsNumber_cons_iff.mp h
    simp only [continuesNumber, Bool.or_eq_false_iff] at ends
    exact List.takeWhile_cons_of_neg (ne_true_of_eq_false ends.1.1.1)

theorem wholeDigits?_toDigits (n : Nat) (h : EndsNumber rest) :
    wholeDigits? (Nat.toDigits 10 n ++ rest) = some (Nat.toDigits 10 n, rest) := by
  obtain ⟨d, ds, digits, zero⟩ := exists_toDigits n
  have all : ∀ c ∈ d :: ds, isAsciiDigit c = true :=
    fun c mem => isAsciiDigit_of_mem_toDigits (digits ▸ mem)
  obtain ⟨first, others⟩ := List.forall_mem_cons.mp all
  rw [digits, List.cons_append]
  by_cases leading : d = '0'
  · -- a zero in front is read alone, and it stands alone
    have single : d :: ds = ['0'] := by
      rw [← digits, zero leading]
      rfl
    cases single
    rfl
  · unfold wholeDigits?
    split
    case h_1 same => exact absurd (List.cons.inj same).1 leading
    case h_2 same =>
      cases same
      have run : (ds ++ rest).takeWhile isAsciiDigit = ds := by
        rw [List.takeWhile_append_of_pos others, takeWhile_endsNumber h, List.append_nil]
      simp only [if_pos first, run, List.drop_left]
    case h_3 same => cases same

theorem fraction_endsNumber (h : EndsNumber rest) : fraction rest = ([], rest) := by
  unfold fraction
  split
  · exact absurd (endsNumber_cons_iff.mp h) (by decide)
  · rfl

theorem exponent_endsNumber (h : EndsNumber rest) : exponent rest = ([], rest) := by
  cases rest with
  | nil => rfl
  | cons c rest =>
    have ends := endsNumber_cons_iff.mp h
    simp only [continuesNumber, Bool.or_eq_false_iff, decide_eq_false_iff_not] at ends
    unfold exponent
    exact if_neg (not_or.mpr ⟨ends.1.2, ends.2⟩)

end

/-! ### Integers -/

/-- The sign in front of a number. -/
def sign (negative : Bool) : List Char :=
  if negative then ['-'] else []

/-- What an integer is written as: a sign if it is negative, and digits. -/
def numeral (n : Int) : List Char :=
  sign (decide (n < 0)) ++ Nat.toDigits 10 n.natAbs

section

variable {n : Int} {rest : List Char}

theorem toList_toString (n : Int) : (toString n).toList = numeral n := by
  cases n with
  | ofNat n =>
    show (String.ofList (Nat.toDigits 10 n)).toList = _
    rw [String.toList_ofList]
    rfl
  | negSucc n =>
    have negative : decide (Int.negSucc n < 0) = true := decide_eq_true (Int.negSucc_lt_zero n)
    show ("-" ++ String.ofList (Nat.toDigits 10 (n + 1))).toList = _
    simp only [String.toList_append, String.toList_ofList, numeral, negative]
    rfl

theorem digits_eq_ok (short : ¬IsOverlong n) : digits n = .ok (numeral n) := by
  have written := decimalText_eq_ok short
  unfold digits
  generalize decimalText n = text at written ⊢
  subst written
  exact congrArg Except.ok (toList_toString n)

theorem digits_of_overlong (long : IsOverlong n) : digits n = .error .tooManyDigits := by
  have refused := (decimalText_eq_error_iff (e := .mk)).mpr long
  unfold digits
  generalize decimalText n = text at refused ⊢
  subst refused
  rfl

theorem signed_natAbs (n : Int) : Double.signed (decide (n < 0)) n.natAbs = n := by
  rw [Double.signed]
  split
  case isTrue negative =>
    have := of_decide_eq_true negative
    omega
  case isFalse positive =>
    have := mt decide_eq_true positive
    omega

/-- A numeral begins with a digit, perhaps behind a sign. -/
theorem exists_numeral (n : Int) :
    ∃ d ds, numeral n = sign (decide (n < 0)) ++ d :: ds ∧ isAsciiDigit d = true := by
  obtain ⟨d, ds, whole, -⟩ := exists_toDigits n.natAbs
  exact ⟨d, ds, by rw [numeral, whole], isAsciiDigit_of_mem_toDigits (whole ▸ List.mem_cons_self)⟩

theorem length_toDigits_le (short : ¬IsOverlong n) :
    (Nat.toDigits 10 n.natAbs).length ≤ digitLimit := by
  have some : 0 < digitLimit := by decide
  rw [IsOverlong, Nat.not_le] at short
  -- how great the limit is does not matter, and its power is not to be computed
  generalize digitLimit = limit at some short ⊢
  exact (Nat.length_toDigits_le_iff (by decide) some).mpr short

/-- A number is read with its sign, if what follows ends it. -/
theorem number_numeral (short : ¬IsOverlong n) (h : EndsNumber rest) :
    number (numeral n ++ rest) = .ok (.int n, rest) := by
  obtain ⟨d, ds, whole, -⟩ := exists_toDigits n.natAbs
  have digit : isAsciiDigit d = true := isAsciiDigit_of_mem_toDigits (whole ▸ List.mem_cons_self)
  have few : ¬digitLimit < (d :: ds).length :=
    whole ▸ Nat.not_lt.mpr (length_toDigits_le short)
  have value : Double.signed (decide (n < 0)) (decimalValue (d :: ds)) = n := by
    rw [← whole, decimalValue, digitsValue_toDigits (by decide) (by decide), signed_natAbs]
  have read : wholeDigits? (d :: ds ++ rest) = some (d :: ds, rest) :=
    whole ▸ wholeDigits?_toDigits n.natAbs h
  rw [numeral, List.append_assoc, whole]
  unfold number
  split
  next negative unsigned taken =>
  obtain ⟨rfl, rfl⟩ : decide (n < 0) = negative ∧ d :: ds ++ rest = unsigned := by
    cases signed : decide (n < 0) with
    | true =>
      rw [signed] at taken
      exact Prod.mk.inj taken
    | false =>
      rw [signed] at taken
      split at taken
      case h_1 same =>
        -- no digit is a minus
        cases (List.cons.inj same).1
        exact absurd digit (by decide)
      case h_2 => exact Prod.mk.inj taken
  simp only [read, fraction_endsNumber h, exponent_endsNumber h, List.isEmpty_nil, Bool.and_self,
    if_true, gt_iff_lt, if_neg few, value]

/-- A word begins with a letter, perhaps behind a sign. -/
theorem exists_letter_of_mem_words {w : List Char × Value} (mem : w ∈ words) :
    ∃ negative c tail, w.1 = sign negative ++ c :: tail ∧ isAsciiDigit c = false ∧ c ≠ '-' := by
  simp only [words, List.mem_cons, List.not_mem_nil, or_false] at mem
  rcases mem with rfl | rfl | rfl | rfl | rfl | rfl
  · exact ⟨false, 'n', _, rfl, rfl, by decide⟩
  · exact ⟨false, 't', _, rfl, rfl, by decide⟩
  · exact ⟨false, 'f', _, rfl, rfl, by decide⟩
  · exact ⟨false, 'N', _, rfl, rfl, by decide⟩
  · exact ⟨false, 'I', _, rfl, rfl, by decide⟩
  · exact ⟨true, 'I', _, rfl, rfl, by decide⟩

/-- No word stands where a numeral does. -/
theorem find?_words_numeral (n : Int) (rest : List Char) :
    words.find? (fun w => w.1.isPrefixOf (numeral n ++ rest)) = none := by
  refine List.find?_eq_none.mpr fun w mem => ?_
  obtain ⟨d, ds, whole, digit⟩ := exists_numeral n
  obtain ⟨negative, c, tail, word, letter, minus⟩ := exists_letter_of_mem_words mem
  rw [whole, word, List.isPrefixOf_iff_prefix, List.append_assoc]
  generalize decide (n < 0) = below
  intro same
  have apart : c ≠ d ∧ '-' ≠ d := by
    refine ⟨?_, ?_⟩
    · rintro rfl
      exact Bool.false_ne_true (letter.symm.trans digit)
    · rintro rfl
      exact absurd digit (by decide)
  cases negative <;> cases below
  · exact apart.1 (List.cons_prefix_cons.mp same).1
  · exact minus (List.cons_prefix_cons.mp same).1
  · exact apart.2 (List.cons_prefix_cons.mp same).1
  · exact apart.1 (List.cons_prefix_cons.mp (List.cons_prefix_cons.mp same).2).1

theorem scalar_numeral (short : ¬IsOverlong n) (h : EndsNumber rest) :
    scalar (numeral n ++ rest) = .ok (.int n, rest) := by
  rw [scalar, find?_words_numeral]
  exact number_numeral short h

end

end JsonText

end DataContract
