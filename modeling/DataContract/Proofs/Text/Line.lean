/-
Texts on one line.

A text is on one line if it holds no line break (`OneLine`). Texts put together are on one line if
all of them are (`oneLine_append_iff`, `OneLine.intercalate`). What is written between quotes is on
one line whatever is quoted (`oneLine_quoted`, `oneLine_quotedBytes`), and so are numbers of either
kind (`oneLine_int`, `oneLine_double`), all of whose characters are even seen (`Visible`).
-/
import DataContract.Proofs.JsonText.Escaping

namespace DataContract

/-- A text without a line break. -/
def OneLine (s : String) : Prop :=
  '\n' ∉ s.toList

instance (s : String) : Decidable (OneLine s) :=
  inferInstanceAs (Decidable ('\n' ∉ s.toList))

variable {s t : String} {parts : List String} {cs : List Char}

@[simp] theorem oneLine_append_iff : OneLine (s ++ t) ↔ OneLine s ∧ OneLine t := by
  simp [OneLine]

@[simp] theorem oneLine_ofList_iff : OneLine (String.ofList cs) ↔ '\n' ∉ cs := by
  simp [OneLine]

theorem OneLine.between {front back : String} (h : OneLine s) (first : OneLine front)
    (last : OneLine back) : OneLine (front ++ s ++ back) :=
  oneLine_append_iff.mpr ⟨oneLine_append_iff.mpr ⟨first, h⟩, last⟩

theorem oneLine_ite {p : Prop} [Decidable p] (first : OneLine s) (second : OneLine t) :
    OneLine (if p then s else t) := by
  split
  · exact first
  · exact second

theorem OneLine.intercalate (between : OneLine s) (each : ∀ p ∈ parts, OneLine p) :
    OneLine (s.intercalate parts) := by
  induction parts with
  | nil =>
    rw [String.intercalate_nil]
    decide
  | cons p rest ih =>
    obtain ⟨first, behind⟩ := List.forall_mem_cons.mp each
    by_cases last : rest = []
    · rwa [last, String.intercalate_singleton]
    · rw [String.intercalate_cons_of_ne_nil last, oneLine_append_iff, oneLine_append_iff]
      exact ⟨⟨first, between⟩, ih behind⟩

/-! ### Visible characters -/

/-- Characters that are seen: those of ASCII from the blank on. -/
def Visible (cs : List Char) : Prop :=
  ∀ c ∈ cs, ' ' ≤ c ∧ c ≤ '~'

instance (cs : List Char) : Decidable (Visible cs) :=
  List.decidableBAll (fun c => ' ' ≤ c ∧ c ≤ '~') cs

@[simp] theorem visible_nil : Visible [] :=
  List.forall_mem_nil _

@[simp] theorem visible_append_iff {ds : List Char} :
    Visible (cs ++ ds) ↔ Visible cs ∧ Visible ds :=
  List.forall_mem_append

theorem visible_cons_iff {c : Char} : Visible (c :: cs) ↔ Visible [c] ∧ Visible cs :=
  @visible_append_iff [c] cs

/-- A line break is not seen. -/
theorem Visible.newline_not_mem (h : Visible cs) : '\n' ∉ cs :=
  fun mem => absurd (h _ mem).1 (by decide)

theorem oneLine_of_visible (h : Visible s.toList) : OneLine s :=
  h.newline_not_mem

/-! ### Digits -/

theorem visible_toDigits {base : Nat} (several : 1 < base) (known : base ≤ 16) (n : Nat) :
    Visible (Nat.toDigits base n) := by
  have each : ∀ d < 16, Visible [Nat.digitChar d] := by decide
  intro c mem
  obtain ⟨d, small, rfl⟩ := exists_digit_of_mem_toDigits several mem
  exact each d (by omega) _ List.mem_cons_self

theorem visible_padZeros {width : Nat} (h : Visible cs) : Visible (padZeros width cs) := by
  refine visible_append_iff.mpr ⟨fun c mem => ?_, h⟩
  rw [List.eq_of_mem_replicate mem]
  decide

theorem visible_hexDigits (width n : Nat) : Visible (Text.hexDigits width n) :=
  visible_padZeros (visible_toDigits (by decide) (by decide) n)

theorem visible_nat (n : Nat) : Visible (toString n).toList := by
  show Visible (String.ofList (Nat.toDigits 10 n)).toList
  rw [String.toList_ofList]
  exact visible_toDigits (by decide) (by decide) n

theorem visible_int (n : Int) : Visible (toString n).toList := by
  cases n with
  | ofNat n => exact visible_nat n
  | negSucc n =>
    show Visible ("-" ++ toString (n + 1)).toList
    rw [String.toList_append, visible_append_iff]
    exact ⟨by decide, visible_nat (n + 1)⟩

theorem oneLine_nat (n : Nat) : OneLine (toString n) :=
  oneLine_of_visible (visible_nat n)

theorem oneLine_int (n : Int) : OneLine (toString n) :=
  oneLine_of_visible (visible_int n)

/-! ### Doubles -/

theorem visible_text (d : Decimal) : Visible d.text :=
  visible_toDigits (by decide) (by decide) d.digits

theorem visible_positional (d : Decimal) : Visible d.positional := by
  have digits := visible_text d
  simp only [Decimal.positional]
  split
  · have zeros : Visible (List.replicate d.exponent.toNat '0') := by
      have none : Visible (padZeros d.exponent.toNat []) := visible_padZeros visible_nil
      rwa [padZeros, List.append_nil] at none
    have point : Visible ['.', '0'] := by decide
    exact visible_append_iff.mpr ⟨visible_append_iff.mpr ⟨digits, zeros⟩, point⟩
  · have padded : Visible (padZeros ((-d.exponent).toNat + 1) d.text) := visible_padZeros digits
    rw [visible_append_iff, visible_cons_iff]
    exact ⟨fun c mem => padded c (List.mem_of_mem_take mem), by decide,
      fun c mem => padded c (List.mem_of_mem_drop mem)⟩

theorem visible_exponentText (width : Nat) (e : Int) : Visible (exponentText width e) := by
  have sign : Visible [if e < 0 then '-' else '+'] := by split <;> decide
  have digits : Visible (padZeros width (Nat.toDigits 10 e.natAbs)) :=
    visible_padZeros (visible_toDigits (by decide) (by decide) _)
  exact visible_cons_iff.mpr ⟨sign, digits⟩

theorem visible_scientific (width : Nat) (d : Decimal) : Visible (d.scientific width) := by
  have digits := visible_text d
  have exponent : Visible ('e' :: exponentText width d.magnitude) :=
    visible_cons_iff.mpr ⟨by decide, visible_exponentText width d.magnitude⟩
  rw [Decimal.scientific]
  split
  · exact visible_nil
  · next c single =>
    rw [single] at digits
    exact visible_cons_iff.mpr ⟨digits, exponent⟩
  · next c rest _ several =>
    rw [several] at digits
    obtain ⟨first, others⟩ := visible_cons_iff.mp digits
    have fraction : Visible ('.' :: (rest ++ 'e' :: exponentText width d.magnitude)) :=
      visible_cons_iff.mpr ⟨by decide, visible_append_iff.mpr ⟨others, exponent⟩⟩
    exact visible_cons_iff.mpr ⟨first, fraction⟩

/-- A double is seen in every layout whose words are. -/
theorem visible_textIn {layout : FloatLayout} (nan : Visible layout.nanText.toList)
    (infinity : Visible layout.infinityText.toList) (x : Double) :
    Visible (x.textIn layout).toList := by
  have sign : ∀ negative : Bool, Visible (if negative then "-" else "").toList := by decide
  cases x with
  | nan => exact nan
  | infinite negative =>
    rw [Double.textIn, String.toList_append, visible_append_iff]
    exact ⟨sign negative, infinity⟩
  | finite negative mantissa shift =>
    simp only [Double.textIn, String.toList_append, String.toList_ofList, visible_append_iff]
    refine ⟨sign negative, ?_⟩
    split
    · decide
    · split
      · exact visible_positional _
      · exact visible_scientific _ _

theorem oneLine_double (x : Double) : OneLine x.text :=
  oneLine_of_visible (visible_textIn (by decide) (by decide) x)

theorem oneLine_of_decimalText {n : Int} (h : decimalText n = .ok s) : OneLine s := by
  rw [decimalText] at h
  split at h
  · cases h
    exact oneLine_int n
  · cases h

theorem oneLine_of_number {n : Number} (h : n.text = .ok s) : OneLine s := by
  cases n with
  | int n => exact oneLine_of_decimalText h
  | double x =>
    cases h
    exact oneLine_double x

/-! ### Quotes -/

/-- A quote is no line break. -/
theorem quoteFor_ne_newline (cs : List Char) : Text.quoteFor cs ≠ '\n' := by
  rw [Text.quoteFor]
  split <;> decide

/-- What is written between quotes, piece by piece, is on one line if the pieces are. -/
theorem newline_not_mem_between {α : Type} {quote : Char} (h : quote ≠ '\n') {xs : List α}
    {write : α → List Char} (each : ∀ x, '\n' ∉ write x) :
    '\n' ∉ quote :: (xs.flatMap write ++ [quote]) := by
  intro mem
  rcases List.mem_cons.mp mem with mem | mem
  · exact h mem.symm
  · rcases List.mem_append.mp mem with mem | mem
    · obtain ⟨x, -, mem⟩ := List.mem_flatMap.mp mem
      exact each x mem
    · exact h (List.mem_singleton.mp mem).symm

/-- An escape that writes a character by its number. -/
theorem newline_not_mem_numbered {mark : Char} (h : mark ≠ '\n') (width n : Nat) :
    '\n' ∉ '\\' :: mark :: Text.hexDigits width n := by
  intro mem
  rcases List.mem_cons.mp mem with mem | mem
  · exact absurd mem (by decide)
  · rcases List.mem_cons.mp mem with mem | mem
    · exact h mem.symm
    · exact (visible_hexDigits _ _).newline_not_mem mem

/-- An escape that puts a backslash in front of a quote or a backslash. -/
theorem newline_not_mem_backslashed {quote c : Char} (h : quote ≠ '\n') (special : c = quote ∨ c = '\\') :
    '\n' ∉ ['\\', c] := by
  rcases special with rfl | rfl
  · simp [h.symm]
  · decide

theorem newline_not_mem_quotedChar {quote : Char} (h : quote ≠ '\n') (c : Char) :
    '\n' ∉ Text.quotedChar quote c := by
  rw [Text.quotedChar]
  split_ifs with special newline
  · exact newline_not_mem_backslashed h special
  · decide
  · decide
  · decide
  -- what is written as it is is no line break, which has a letter of its own
  · simpa using Ne.symm newline
  · exact newline_not_mem_numbered (by decide) _ _
  · exact newline_not_mem_numbered (by decide) _ _
  · exact newline_not_mem_numbered (by decide) _ _

theorem newline_not_mem_quotedByte {quote : Char} (h : quote ≠ '\n') (b : UInt8) :
    '\n' ∉ Text.quotedByte quote b := by
  simp only [Text.quotedByte]
  split_ifs with special newline
  · exact newline_not_mem_backslashed h special
  · decide
  · decide
  · decide
  · simpa using Ne.symm newline
  · exact newline_not_mem_numbered (by decide) _ _

/-- Whatever text is quoted, it is written on one line. -/
theorem oneLine_quoted (s : String) : OneLine (Text.quoted s) := by
  rw [Text.quoted, oneLine_ofList_iff, Text.quotedChars]
  have quote := quoteFor_ne_newline s.toList
  exact newline_not_mem_between quote (newline_not_mem_quotedChar quote)

theorem oneLine_quotedBytes (bs : List UInt8) : OneLine (Text.quotedBytes bs) := by
  simp only [Text.quotedBytes, oneLine_ofList_iff]
  have quote := quoteFor_ne_newline (bs.map fun b => Char.ofNat b.toNat)
  rw [List.mem_cons, not_or]
  exact ⟨by decide, newline_not_mem_between quote (newline_not_mem_quotedByte quote)⟩

end DataContract
