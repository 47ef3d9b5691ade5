/-
Which readings fail at a repetition that cannot be counted out.

Only patterns hold repetitions, so only what reads a pattern can fail at one (`Uncountable`):
`uncountable_under_iff`, `uncountable_both_iff` and `uncountable_map_iff` pass this on to the parts,
and texts, numbers and truth values are read without it.
-/
import DataContract.Declaration.Fault
import DataContract.Proofs.Value.Keys

namespace DataContract

namespace Reading

variable {α β : Type} {r : Reading α} {s : Reading β} {v : Value}

/-- The reading fails at a repetition that cannot be counted out. -/
def Uncountable (r : Reading α) : Prop :=
  r = .error .repetitionTooLarge

theorem not_uncountable_ok {a : α} : ¬Uncountable (.ok a : Reading α) :=
  nofun

theorem not_uncountable_fault {k : FaultKind} : ¬Uncountable (fault k : Reading α) :=
  nofun

theorem not_uncountable_ensure {holds : Bool} {rule : String} {a : α} :
    ¬Uncountable (ensure holds rule a) := by
  rw [ensure]
  split
  · exact not_uncountable_ok
  · exact not_uncountable_fault

/-- A failure is handed on as it is. -/
theorem uncountable_of_error {e : Unreadable} (h : r = .error e)
    (u : Uncountable (.error e : Reading β)) : Uncountable r := by
  cases u
  exact h

theorem uncountable_under_iff {step : Step} : Uncountable (under step r) ↔ Uncountable r := by
  cases r with
  | ok a => exact ⟨nofun, nofun⟩
  | error e =>
    cases e with
    | faults fs => exact ⟨nofun, nofun⟩
    | repetitionTooLarge => exact ⟨fun _ => rfl, fun _ => rfl⟩

theorem uncountable_map_iff {f : α → β} : Uncountable (Except.map f r) ↔ Uncountable r := by
  cases r with
  | ok a => exact ⟨nofun, nofun⟩
  | error e => simp only [Uncountable, Except.map, Except.error.injEq]

theorem uncountable_both_iff : Uncountable (both r s) ↔ Uncountable r ∨ Uncountable s := by
  rcases r with ⟨_ | _⟩ | _ <;> rcases s with ⟨_ | _⟩ | _ <;> simp [Uncountable, both]

theorem uncountable_needed_iff {name : String} {read : Value → Reading α} :
    Uncountable (needed name [(.text name, v)] read) ↔ Uncountable (read v) := by
  rw [needed, Value.lookup?_singleton rfl, uncountable_under_iff]

theorem not_uncountable_writtenForm {k : FaultKind} : ¬Uncountable (writtenForm? k v) := by
  unfold writtenForm?
  split
  · exact not_uncountable_ok
  · split
    · exact not_uncountable_ok
    · exact not_uncountable_fault
  · exact not_uncountable_ok

theorem not_uncountable_text : ¬Uncountable (text v) := by
  unfold text
  split
  · next h => exact fun u => not_uncountable_writtenForm (uncountable_of_error h u)
  · exact not_uncountable_ok
  · split
    · exact not_uncountable_ok
    · exact not_uncountable_fault

theorem not_uncountable_nonEmptyText : ¬Uncountable (nonEmptyText v) := by
  unfold nonEmptyText
  split
  · split
    · exact not_uncountable_fault
    · exact not_uncountable_ok
  · exact not_uncountable_text

theorem not_uncountable_integerOfText {s : String} : ¬Uncountable (integerOfText s) := by
  unfold integerOfText
  split
  split
  · exact not_uncountable_fault
  · dsimp only
    split
    · exact not_uncountable_fault
    · split
      · exact not_uncountable_ok
      · exact not_uncountable_fault

theorem not_uncountable_integerOfDouble {x : Double} : ¬Uncountable (integerOfDouble x) := by
  unfold integerOfDouble
  split
  · exact not_uncountable_fault
  · exact not_uncountable_fault
  · split
    · exact not_uncountable_fault
    · split
      · exact not_uncountable_ok
      · exact not_uncountable_fault

theorem not_uncountable_integerLike : ¬Uncountable (integerLike v) := by
  unfold integerLike
  split
  · exact not_uncountable_ok
  · exact not_uncountable_ok
  · exact not_uncountable_ok
  · exact fun u => not_uncountable_integerOfDouble (uncountable_map_iff.mp u)
  · exact fun u => not_uncountable_integerOfDouble (uncountable_map_iff.mp u)
  · split
    · next h => exact fun u => not_uncountable_writtenForm (uncountable_of_error h u)
    · exact fun u => not_uncountable_integerOfText (uncountable_map_iff.mp u)
    · split
      · exact not_uncountable_ok
      · exact not_uncountable_fault

theorem not_uncountable_length : ¬Uncountable (length v) := by
  unfold length
  split
  · next h => exact fun u => not_uncountable_integerLike (uncountable_of_error h u)
  · split
    · exact not_uncountable_fault
    · exact not_uncountable_ok
  · exact not_uncountable_fault

theorem not_uncountable_doubleOfText {s : String} : ¬Uncountable (doubleOfText s) := by
  unfold doubleOfText
  dsimp only
  split
  · exact not_uncountable_ok
  · exact not_uncountable_fault

theorem not_uncountable_double : ¬Uncountable (double v) := by
  unfold double
  split
  · exact not_uncountable_ok
  · exact not_uncountable_ok
  · exact not_uncountable_ok
  · exact not_uncountable_ok
  · split
    · next h => exact fun u => not_uncountable_writtenForm (uncountable_of_error h u)
    · exact fun u => not_uncountable_doubleOfText (uncountable_map_iff.mp u)
    · exact not_uncountable_fault

theorem not_uncountable_bound : ¬Uncountable (bound v) := by
  have integer : ¬Uncountable (under (.name "int") (integerLike v)) := fun u =>
    not_uncountable_integerLike (uncountable_under_iff.mp u)
  have double : ¬Uncountable (under (.name "float") (double v)) := fun u =>
    not_uncountable_double (uncountable_under_iff.mp u)
  unfold bound
  dsimp only
  split
  · exact not_uncountable_ok
  · split
    · exact not_uncountable_ok
    · exact not_uncountable_ok
  · exact not_uncountable_ok
  · exact not_uncountable_ok
  · -- neither reading succeeds, and the faults of both are kept
    next hi hd =>
    rw [uncountable_map_iff, uncountable_both_iff]
    rintro (u | u)
    · exact integer (uncountable_of_error hi u)
    · exact double (uncountable_of_error hd u)

theorem not_uncountable_booleanOfInteger {n : Int} : ¬Uncountable (booleanOfInteger n) := by
  unfold booleanOfInteger
  split
  · exact not_uncountable_ok
  · split
    · exact not_uncountable_ok
    · exact not_uncountable_fault

theorem not_uncountable_booleanOfDouble {x : Double} : ¬Uncountable (booleanOfDouble x) := by
  unfold booleanOfDouble
  split
  · exact not_uncountable_booleanOfInteger
  · exact not_uncountable_fault

theorem not_uncountable_booleanOfText {s : String} : ¬Uncountable (booleanOfText s) := by
  unfold booleanOfText
  dsimp only
  split
  · exact not_uncountable_ok
  · split
    · exact not_uncountable_ok
    · exact not_uncountable_fault

theorem not_uncountable_boolean : ¬Uncountable (boolean v) := by
  unfold boolean
  split
  · exact not_uncountable_ok
  · split
    · exact not_uncountable_booleanOfInteger
    · exact not_uncountable_booleanOfDouble
  · exact not_uncountable_booleanOfInteger
  · exact not_uncountable_booleanOfDouble
  · exact not_uncountable_booleanOfDouble
  · split
    · next h => exact fun u => not_uncountable_writtenForm (uncountable_of_error h u)
    · exact not_uncountable_booleanOfText
    · exact not_uncountable_fault

theorem not_uncountable_distinct {fields : List Field} : ¬Uncountable (distinct fields) := by
  unfold distinct
  split
  · exact not_uncountable_fault
  · exact not_uncountable_ok

end Reading

/-- A declaration fails at a repetition that cannot be counted out where the reading does. -/
theorem DeclarationFault.ofReading_eq_tooLarge_iff {α : Type} {title : String} {r : Reading α} :
    ofReading title r = .error .repetitionTooLarge ↔ r.Uncountable := by
  unfold ofReading
  split
  · exact ⟨nofun, nofun⟩
  · exact ⟨nofun, nofun⟩
  · exact ⟨fun _ => rfl, fun _ => rfl⟩

end DataContract
