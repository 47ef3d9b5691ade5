/-
What successful readings come to.

A reading put together of others succeeds exactly if all of them do (`under_eq_ok_iff`,
`both_eq_ok_iff`), and a rule on top of it must hold (`ensure_eq_ok_iff`, `distinct_eq_ok_iff`). What
a definition may write beside a keyword is read as it stands: a text as a pattern if it is one
(`pattern_eq_ok_iff`), an integer as a length (`length_of_integer`), a number as a bound
(`bound_of_number`).
-/
import DataContract.Declaration.Fault
import DataContract.Proofs.Contract.Tree
import DataContract.Proofs.Value.Keys

namespace DataContract

namespace Reading

variable {α β : Type} {r : Reading α} {s : Reading β} {v : Value} {a : α}

theorem under_eq_ok_iff {step : Step} : under step r = .ok a ↔ r = .ok a :=
  mapError_eq_ok_iff

theorem both_eq_ok_iff {p : α × β} : both r s = .ok p ↔ r = .ok p.1 ∧ s = .ok p.2 := by
  obtain ⟨x, y⟩ := p
  rcases r with ⟨_ | _⟩ | _ <;> rcases s with ⟨_ | _⟩ | _ <;> simp [both]

theorem ensure_eq_ok_iff {holds : Bool} {rule : String} {b : α} :
    ensure holds rule a = .ok b ↔ holds = true ∧ a = b := by
  cases holds <;> simp [ensure, fault]

theorem nonEmptyText_eq_ok_iff {t : String} : nonEmptyText v = .ok t ↔ text v = .ok t ∧ t ≠ "" := by
  unfold nonEmptyText
  cases ht : text v with
  | error e => simp
  | ok w =>
    by_cases empty : w = ""
    · simp [empty, fault, eq_comm]
    · simp only [empty, if_false, Except.ok.injEq]
      constructor
      · rintro rfl
        exact ⟨rfl, empty⟩
      · exact fun h => h.1

theorem text_of_asText {t : String} (h : v.asText? = some t) : text v = .ok t := by
  simp only [text, writtenForm?, h]

theorem distinct_eq_ok_iff {fields fs : List Field} :
    distinct fields = .ok fs ↔ fields = fs ∧ (fields.map (·.name)).Nodup := by
  have none : duplicateName? [] fields = none ↔ (fields.map (·.name)).Nodup := by
    simp [duplicateName?_eq_none_iff]
  unfold distinct
  split
  · next name duplicate =>
    rw [← none, duplicate]
    simp [fault]
  · next apart => simp [none.mp apart]

theorem nestedOf_eq_ok_iff {fields : List Field} {nested : Option (List Field)} :
    nestedOf (.ok fields) = .ok nested ↔
      nested = some fields ∧ (fields.map (·.name)).Nodup := by
  rw [nestedOf, map_eq_ok_iff]
  simp only [distinct_eq_ok_iff]
  constructor
  · rintro ⟨_, ⟨rfl, apart⟩, rfl⟩
    exact ⟨rfl, apart⟩
  · rintro ⟨rfl, apart⟩
    exact ⟨fields, ⟨rfl, apart⟩, rfl⟩

theorem needed_eq {name : String} {read : Value → Reading α} :
    needed name [(.text name, v)] read = under (.name name) (read v) := by
  rw [needed, Value.lookup?_singleton rfl]

/-! ### What stands beside a keyword -/

/-- A text is read as the pattern that it writes. -/
theorem pattern_eq_ok_iff {t : String} {p : Pattern} (h : v.asText? = some t) :
    pattern v = .ok p ↔ Pattern.read? (.text t) .off = .ok p := by
  unfold pattern
  simp only [h]
  split
  · cases h
  · next none => cases none
  · next source =>
    cases source
    cases Pattern.read? (.text t) .off with
    | ok q => simp only [Except.ok.injEq]
    | error e => cases e <;> simp [fault]

/-- How a number is read: an integer exactly, or closely if it is a member. -/
theorem integerLike_of_integer {n : Int} (h : v.asNumber? = some (.int n)) :
    integerLike v = .ok (.number (.int n), .exact) ∨
      integerLike v = .ok (.number (.int n), .close) ∧ double v = .ok (.ofInt n, .close) := by
  unfold Value.asNumber? at h
  split at h
  · cases h
    exact .inl rfl
  · cases h
  · cases h
    exact .inr ⟨rfl, rfl⟩
  · cases h
  · cases h

/-- How a double is read: as an integer loosely at best, and better as a double. -/
theorem reads_of_double {x : Double} (h : v.asNumber? = some (.double x)) :
    integerLike v = (integerOfDouble x).map (fun n => (.number (.int n), .loose)) ∧
      ∃ fit, double v = .ok (x, fit) ∧ Fit.loose.worse fit = true := by
  unfold Value.asNumber? at h
  split at h
  · cases h
  · cases h
    exact ⟨rfl, .exact, rfl, rfl⟩
  · cases h
  · cases h
    exact ⟨rfl, .close, rfl, rfl⟩
  · cases h

theorem length_of_integer {n : Nat} (h : v.asNumber? = some (.int n)) : length v = .ok n := by
  obtain read | ⟨read, -⟩ := integerLike_of_integer h
  · simp [length, read]
  · simp [length, read]

theorem bound_of_integer {n : Int} (h : v.asNumber? = some (.int n)) :
    bound v = .ok (.number (.int n)) := by
  obtain read | ⟨read, close⟩ := integerLike_of_integer h
  · simp [bound, read, under, Except.mapError]
  · simp [bound, read, close, under, Except.mapError, Fit.worse]

theorem bound_of_double {x : Double} (h : v.asNumber? = some (.double x)) :
    bound v = .ok (.number (.double x)) := by
  obtain ⟨integer, fit, double, better⟩ := reads_of_double h
  simp only [bound, integer, double]
  cases integerOfDouble x with
  | ok n => simp [under, Except.mapError, Except.map, better]
  | error e => simp [under, Except.mapError, Except.map]

theorem bound_of_number {x : Number} (h : v.asNumber? = some x) : bound v = .ok (.number x) := by
  cases x with
  | int n => exact bound_of_integer h
  | double d => exact bound_of_double h

end Reading

namespace DeclarationFault

theorem ofReading_eq_ok_iff {α : Type} {title : String} {r : Reading α} {a : α} :
    ofReading title r = .ok a ↔ r = .ok a := by
  unfold ofReading
  split <;> simp

end DeclarationFault

end DataContract
