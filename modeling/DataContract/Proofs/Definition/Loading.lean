/-
How loading a document ends.

A document is loaded, or it is refused with a report that names its source (`Reported`), or neither.
`Leaks` lists the cases of the third kind: a fault of the format that cannot be written, a pattern
with a repetition that cannot be counted out, and a refused contract whose name cannot be shown.
There are no others (`load_reported_iff`). A document in which a contract's name is a fraction is one
of them (`fractionName_leaks`).
-/
import DataContract.Proofs.Definition.Conversion
import DataContract.Proofs.Definition.Report

namespace DataContract

/-- A registration is refused if there is a contract of the name, unless it may be replaced. -/
theorem Registry.result_registerContract {c : Contract} {replacing : Bool} {r : Registry} :
    (registerContract c replacing r).2.result =
      if (r.find? c.name).isSome && !replacing then .error (.alreadyRegistered c.name)
      else .ok () := by
  refine (Action.bind_of_ok (s := r) (a := r) rfl).2.trans ?_
  split <;> rfl

namespace Definition

variable {document name fields : Value} {source : String} {r : Registry}
  {es : List (Value × Value)}

/-- Loading succeeds, or it is refused with a report on what comes from the source. -/
def Reported (source : String) (result : Except LoadFault Unit) : Prop :=
  result = .ok () ∨ ∃ m, result = .error (.malformed m) ∧ m.source = source

/-- A contract is refused, but its refusal cannot be reported. -/
inductive Unreported (name fields : Value) (r : Registry) : Prop where
  /-- A pattern in it has a repetition that cannot be counted out. -/
  | repetition (h : (contractOf name fields).result = .error (.declaration .repetitionTooLarge))
  /-- Its name is an integer with too many digits, or holds one, and either it cannot be converted
  or there is a contract of its name. -/
  | name {e : TooManyDigits} (shown : name.display = .error e)
    (refused : ∀ c, (contractOf name fields).result = .ok c → (r.find? c.name).isSome)

/-- After contracts that are loaded comes one whose refusal cannot be reported. -/
inductive UnreportedIn (source : String) : List (Value × Value) → Registry → Prop where
  | first {name fields : Value} {rest : List (Value × Value)} {r : Registry}
    (h : Unreported name fields r) : UnreportedIn source ((name, fields) :: rest) r
  | later {name fields : Value} {rest : List (Value × Value)} {r : Registry}
    (loaded : (loadContract source name fields r).2.result = .ok ())
    (h : UnreportedIn source rest (loadContract source name fields r).1) :
    UnreportedIn source ((name, fields) :: rest) r

/-- The ways in which a document is neither loaded nor refused with a report. -/
inductive Leaks (document : Value) (source : String) (r : Registry) : Prop where
  /-- It breaks the format, and a fault cannot be written. -/
  | check {f : FormatFault} (mem : f ∈ faults document) (unwritable : f.Unwritable)
  /-- It follows the format. -/
  | contract (sound : faults document = [])
    (h : UnreportedIn source (contractEntries document) r)

theorem reported_malformed {m : Malformed} (h : m.source = source) :
    Reported source (.error (.malformed m)) :=
  .inr ⟨m, rfl, h⟩

theorem not_reported_of_ne {e : LoadFault} (h : ∀ m, e ≠ .malformed m) :
    ¬Reported source (.error e) := by
  rintro (loaded | ⟨m, malformed, -⟩)
  · cases loaded
  · exact h m (Except.error.inj malformed)

/-! ### One contract -/

/-- A refusal is reported if the name of the contract can be shown. -/
theorem reported_refused_iff {text : String} {cause : Option ModelFault} :
    Reported source (.error (refused source name text cause)) ↔ ¬∃ e, name.display = .error e := by
  rw [exists_error_iff, not_not]
  unfold refused
  split
  · next s shown => exact ⟨fun _ => ⟨s, shown⟩, fun _ => reported_malformed rfl⟩
  · next e shown =>
    refine ⟨fun h => absurd h (not_reported_of_ne nofun), ?_⟩
    rintro ⟨s, h⟩
    cases h.symm.trans shown

theorem unreported_iff_of_refused
    (counted : (contractOf name fields).result ≠ .error (.declaration .repetitionTooLarge))
    (refused : ∀ c, (contractOf name fields).result = .ok c → (r.find? c.name).isSome) :
    Unreported name fields r ↔ ∃ e, name.display = .error e := by
  constructor
  · intro u
    cases u with
    | repetition h => exact absurd h counted
    | name shown _ => exact ⟨_, shown⟩
  · rintro ⟨e, shown⟩
    exact .name shown refused

theorem loadContract_of_error {f : ConversionFault}
    (h : (contractOf name fields).result = .error f) :
    (loadContract source name fields r).2.result = .error (refusedConversion source name f) := by
  refine (Action.bind_of_error ?_).2
  show Except.mapError _ _ = _
  rw [h]
  rfl

theorem loadContract_of_ok {c : Contract} (h : (contractOf name fields).result = .ok c) :
    (loadContract source name fields r).2.result =
      if (r.find? c.name).isSome then
        .error (refused source name (RegistrationFault.alreadyRegistered c.name).message none)
      else .ok () := by
  refine ((Action.bind_of_ok (a := c) ?_).2).trans ?_
  · show Except.mapError _ _ = _
    rw [h]
    rfl
  · show Except.mapError _ (Registry.registerContract c false r).2.result = _
    rw [Registry.result_registerContract]
    cases (r.find? c.name).isSome <;> rfl

/-- Loading a contract whose entries follow the format ends in one of the two ways, unless its
refusal is one of those that cannot be reported. -/
theorem loadContract_reported_iff (sound : fieldListFaults fields = []) :
    Reported source (loadContract source name fields r).2.result ↔ ¬Unreported name fields r := by
  cases hc : (contractOf name fields).result with
  | ok c =>
    rw [loadContract_of_ok hc]
    split
    · next there =>
      rw [reported_refused_iff, unreported_iff_of_refused]
      · simp only [hc, ne_eq, reduceCtorEq, not_false_eq_true]
      · intro d hd
        cases hc.symm.trans hd
        exact there
    · next there =>
      refine ⟨fun _ u => ?_, fun _ => .inl rfl⟩
      cases u with
      | repetition h => cases hc.symm.trans h
      | name _ refused => exact there (refused c hc)
  | error f =>
    rw [loadContract_of_error hc, refusedConversion]
    -- a fault that is not reported is the repetition, since the entries follow the format
    obtain reported | ⟨rfl, -⟩ := contractOf_fails sound hc
    · rw [if_pos reported, reported_refused_iff, unreported_iff_of_refused]
      · rintro h
        cases hc.symm.trans h
        cases reported
      · intro d hd
        cases hc.symm.trans hd
    · exact ⟨fun h => absurd h (not_reported_of_ne nofun), fun u => absurd (.repetition hc) u⟩

/-! ### All contracts -/

theorem loadContracts_reported_iff (sound : ∀ e ∈ es, fieldListFaults e.2 = []) :
    Reported source (loadContracts source es r).2.result ↔ ¬UnreportedIn source es r := by
  induction es generalizing r with
  | nil => exact ⟨fun _ => nofun, fun _ => .inl rfl⟩
  | cons e rest ih =>
    obtain ⟨name, fields⟩ := e
    have first : Reported source (loadContract source name fields r).2.result ↔ _ :=
      loadContract_reported_iff (sound _ List.mem_cons_self)
    rw [loadContracts]
    cases hl : (loadContract source name fields r).2.result with
    | ok done =>
      -- what is left to load decides, in the registry reached
      rw [(Action.bind_of_ok hl).2, ih fun e mem => sound e (List.mem_cons_of_mem _ mem)]
      refine not_congr ⟨.later hl, fun h => ?_⟩
      cases h with
      | first h => exact absurd h (first.mp (.inl hl))
      | later _ h => exact h
    | error fault =>
      -- nothing behind it is looked at
      rw [(Action.bind_of_error hl).2, ← hl, first]
      refine not_congr ⟨.first, fun h => ?_⟩
      cases h with
      | first h => exact h
      | later loaded _ => cases hl.symm.trans loaded

theorem fieldListFaults_of_sound (sound : faults document = []) :
    ∀ e ∈ contractEntries document, fieldListFaults e.2 = [] := by
  intro e mem
  exact fieldListFaults_eq_nil_iff.mpr (isFieldList_of_document (faults_eq_nil_iff.mp sound) e mem)

/-- A document is loaded or refused with a report in all cases but those listed. If a contract fails
at a repetition that cannot be counted out, a pattern with it is written under `format`. -/
theorem load_reported_iff (document : Value) (source : String) (r : Registry) :
    (Reported source (load document source r).2.result ↔ ¬Leaks document source r) ∧
      (faults document = [] → ∀ e ∈ contractEntries document,
        (contractOf e.1 e.2).result = .error (.declaration .repetitionTooLarge) →
          ∃ p, ListHasFormat p e.2 ∧ (Reading.pattern p).Uncountable) := by
  constructor
  · by_cases unwritable : ∃ f ∈ faults document, f.Unwritable
    · -- the check itself fails
      obtain ⟨u, hu⟩ : ∃ u, check document source = .error u := check_of_unwritable unwritable
      obtain ⟨f, mem, hf⟩ := unwritable
      rw [load, hu]
      exact ⟨fun h => absurd h (not_reported_of_ne nofun), fun h => absurd (.check mem hf) h⟩
    · by_cases sound : faults document = []
      · simp only [load, check_of_sound sound]
        rw [loadContracts_reported_iff (fieldListFaults_of_sound sound)]
        refine not_congr ⟨.contract sound, fun h => ?_⟩
        cases h with
        | check mem hf => exact absurd ⟨_, mem, hf⟩ unwritable
        | contract _ h => exact h
      · -- every fault is reported
        obtain ⟨m, hm, from', -⟩ :
            ∃ m, check document source = .ok (some m) ∧ m.source = source ∧ _ :=
          check_of_writable sound unwritable
        rw [load, hm]
        refine ⟨fun _ h => ?_, fun _ => reported_malformed from'⟩
        cases h with
        | check mem hf => exact unwritable ⟨_, mem, hf⟩
        | contract none _ => exact sound none
  · intro sound e mem h
    obtain reported | ⟨-, found⟩ := contractOf_fails (fieldListFaults_of_sound sound e mem) h
    · cases reported
    · exact found

/-- A document in which the name of a contract is the number 1.5, and null stands for its entries. -/
def fractionName : Value :=
  .map [(.text "contracts", .map [(.float (.finite false 6755399441055744 1022), .null)])]

theorem fractionName_leaks :
    (load fractionName noSource .empty).2.result = .error (.unwritable (.keyType "float")) ∧
      ¬Reported noSource (load fractionName noSource .empty).2.result := by
  have result : (load fractionName noSource .empty).2.result =
      .error (.unwritable (.keyType "float")) := by
    cbv
  rw [result]
  refine ⟨rfl, not_reported_of_ne fun m h => ?_⟩
  cases h

end Definition

end DataContract
