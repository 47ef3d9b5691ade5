/-
What a policy does with data.

* `Policy.make_eq_ok` — a policy looks contracts up where it is told to, and asking for settings
  leaves the registries alone;
* `Policy.enforce_of_error`, `Policy.enforce_of_valid`, `Policy.enforce_of_invalid` — what comes of
  a validation, and how it is counted (`Policy.enforce_tally`);
* `Policy.enforce_eq_ok` — whatever a policy lets through is the data that it was given.
-/
import DataContract.Guard.Policy
import DataContract.Proofs.Lists
import DataContract.Proofs.Validation.Outcome

namespace DataContract

namespace LogEntry

variable {fields : List (String × Value)}

/-- A field as an entry's message shows it. -/
def shownField (f : String × Value) : Except TooManyDigits String := do
  let text ← f.2.display
  return f.1 ++ "=" ++ text

theorem shownFields_eq_mapM (fields : List (String × Value)) :
    shownFields fields = fields.mapM shownField := by
  induction fields with
  | nil => rfl
  | cons f rest ih => simp only [shownFields, ih, List.mapM_cons, shownField, bind_assoc, pure_bind]

theorem shownFields_eq_ok (h : ∀ f ∈ fields, ∃ t, f.2.display = .ok t) :
    ∃ shown, shownFields fields = .ok shown := by
  rw [shownFields_eq_mapM]
  refine exists_mapM_eq_ok fun f mem => ?_
  obtain ⟨t, shown⟩ := h f mem
  exact ⟨f.1 ++ "=" ++ t, by rw [shownField, shown]; rfl⟩

theorem shownFields_eq_error {f : String × Value} {e : TooManyDigits} (mem : f ∈ fields)
    (h : f.2.display = .error e) : shownFields fields = .error e := by
  rw [shownFields_eq_mapM]
  refine mapM_eq_error (fun g _ => ?_) ⟨f, mem, by rw [shownField, h]; rfl⟩
  cases shownField g with
  | ok s => exact .inl ⟨s, rfl⟩
  | error d => exact .inr (congrArg _ (Subsingleton.elim d e))

theorem structured_eq_ok {logger message : String} {level : Int}
    (h : ∀ f ∈ fields, ∃ t, f.2.display = .ok t) :
    ∃ entry, structured logger level message fields = .ok entry := by
  obtain ⟨shown, hs⟩ : ∃ shown, shownFields (fields.filter isPresent) = .ok shown :=
    shownFields_eq_ok fun f mem => h f (List.mem_filter.mp mem).1
  rw [structured, hs]
  exact ⟨_, rfl⟩

theorem structured_eq_error {logger message : String} {level : Int} {f : String × Value}
    {e : TooManyDigits} (mem : f ∈ fields) (present : isPresent f = true)
    (h : f.2.display = .error e) : structured logger level message fields = .error e := by
  rw [structured, shownFields_eq_error (List.mem_filter.mpr ⟨mem, present⟩) h]
  rfl

end LogEntry

namespace Policy

variable {p : Policy} {name data target : Value} {label : String} {h : Host} {r : ValidationResult}

theorem enforce_of_error {e : CheckFault}
    (hv : (validate (h.store.ownerOf p.source) name data).result = .error e) :
    (p.enforce name data target h).1 = h ∧
      (p.enforce name data target h).2.result = .error (.check e) := by
  simp [enforce, bind, Action.andThen, Action.state, Action.noted, Noted.mapError, Noted.ok, hv,
    Except.mapError]

theorem enforce_of_valid (hl : name.display = .ok label)
    (hv : (validate (h.store.ownerOf p.source) name data).result = .ok r) (valid : r.valid = true) :
    (p.enforce name data target h).1 = { h with tally := h.tally.add label .passed } ∧
      (p.enforce name data target h).2.result = .ok r.data := by
  simp [enforce, bind, Action.andThen, Action.state, Action.noted, Noted.mapError, Noted.ok, hv, hl,
    Except.mapError, Action.of, Noted.of, CheckFault.ofText, decide, valid, Host.record,
    Action.update, entry?, pure, Action.ok]

/-- Making a policy changes no more of the program than the settings, even if none is made. -/
theorem make_keeps (s : Surroundings) (strict : Value) (source : Source) (h : Host) :
    (make s strict source h).1.store = h.store ∧ (make s strict source h).1.tally = h.tally := by
  unfold make
  split
  · cases hs : (Host.currentSettings s h).2.result with
    | ok settings =>
      rw [(Action.bind_of_ok hs).1]
      exact ⟨rfl, rfl⟩
    | error e =>
      rw [(Action.bind_of_error hs).1]
      exact ⟨rfl, rfl⟩
  · exact ⟨rfl, rfl⟩

/-- Making a policy keeps to what is said, and changes no more of the program than the settings. -/
theorem make_eq_ok {s : Surroundings} {strict : Value} {source : Source}
    (hm : (make s strict source h).2.result = .ok p) :
    p.source = source ∧ (make s strict source h).1.store = h.store ∧
      (make s strict source h).1.tally = h.tally ∧
      (strict ≠ .null → p.strict = strict) ∧
      (strict = .null → ∃ settings, (Host.currentSettings s h).2.result = .ok settings ∧
        p.strict = .bool settings.guardStrict) := by
  -- settings are asked for only if nothing is said about strictness
  by_cases said : strict = .null
  · subst said
    simp only [make] at hm ⊢
    cases hs : (Host.currentSettings s h).2.result with
    | error e =>
      rw [(Action.bind_of_error hs).2] at hm
      cases hm
    | ok settings =>
      obtain ⟨state, result⟩ := Action.bind_of_ok (f := fun settings : Settings =>
        (pure ⟨.bool settings.guardStrict, source⟩ : Action Host SettingsFault Policy)) hs
      rw [result] at hm
      cases hm
      rw [state]
      exact ⟨rfl, rfl, rfl, fun said => absurd rfl said, fun _ => ⟨settings, rfl, rfl⟩⟩
  · have given : make s strict source = pure ⟨strict, source⟩ := by
      unfold make
      split
      · exact absurd rfl said
      · rfl
    rw [given] at hm ⊢
    cases hm
    exact ⟨rfl, rfl, rfl, fun _ => rfl, fun none => absurd none said⟩

/-- What a policy says of data that is not valid. -/
def verdict (p : Policy) (name data : Value) (violations : List Violation) :
    Except EnforcementFault Value :=
  if p.strict.truthy then .error (.refused ⟨violations, some name⟩) else .ok data

/-- The entry that tells of a decision can be written unless there are too many violations to
write down how many. -/
theorem entry_eq_ok {d : Decision} {violations : List Violation}
    (ht : ∃ place, target.display = .ok place) (hl : name.display = .ok label)
    (failed : d ≠ .passed) (few : ¬IsOverlong violations.length) :
    ∃ entry, entry? d label name target violations = some (.ok entry) := by
  have shown : ∀ f ∈ [("contract", name), ("target", target),
      ("violations", Value.int violations.length)], ∃ t, f.2.display = .ok t := by
    intro f mem
    simp only [List.mem_cons, List.not_mem_nil, or_false] at mem
    rcases mem with rfl | rfl | rfl
    · exact ⟨label, hl⟩
    · exact ht
    · obtain ⟨count, hc⟩ := exists_decimalText few
      exact ⟨count, (Value.display_int _).trans hc⟩
  cases d with
  | passed => exact absurd rfl failed
  | rejected =>
    obtain ⟨entry, he⟩ := LogEntry.structured_eq_ok shown
    exact ⟨entry, congrArg some he⟩
  | warned =>
    obtain ⟨entry, he⟩ := LogEntry.structured_eq_ok shown
    exact ⟨entry, congrArg some he⟩

theorem entry_eq_error {d : Decision} {violations : List Violation} (label : String)
    (name target : Value) (failed : d ≠ .passed) (many : IsOverlong violations.length) :
    entry? d label name target violations = some (.error .mk) := by
  have hidden : (Value.int violations.length).display = .error .mk :=
    (Value.display_int _).trans (decimalText_eq_error_iff.mpr many)
  have mem : ("violations", Value.int violations.length) ∈ [("contract", name),
      ("target", target), ("violations", Value.int violations.length)] := by simp
  cases d with
  | passed => exact absurd rfl failed
  | rejected => exact congrArg some (LogEntry.structured_eq_error mem rfl hidden)
  | warned => exact congrArg some (LogEntry.structured_eq_error mem rfl hidden)

theorem decide_of_invalid (invalid : r.valid = false) :
    p.decide r = if p.strict.truthy then .rejected else .warned := by
  rw [decide, invalid]
  rfl

theorem decide_ne_passed (p : Policy) (invalid : r.valid = false) : p.decide r ≠ .passed := by
  rw [decide_of_invalid invalid]
  split <;> nofun

/-- Data that failed its contract is counted before the entry is written. The count stays whether or
not the entry can be written, and the verdict is given if it can. -/
theorem enforce_of_entry {told : Except TooManyDigits LogEntry} (hl : name.display = .ok label)
    (hv : (validate (h.store.ownerOf p.source) name data).result = .ok r)
    (invalid : r.valid = false)
    (he : entry? (p.decide r) label name target r.violations = some told) :
    (p.enforce name data target h).1 = { h with tally := h.tally.add label (p.decide r) } ∧
      (p.enforce name data target h).2.result = ((CheckFault.ofText told).mapError .check).bind
        fun _ => p.verdict name data r.violations := by
  simp only [enforce, bind, Action.andThen, Action.state, Action.noted, Noted.mapError, Noted.ok,
    hv, hl, Except.mapError, Action.of, Noted.of, CheckFault.ofText, Host.record, Action.update, he,
    Action.note, Noted.note]
  cases told with
  | error e => exact ⟨rfl, rfl⟩
  | ok entry =>
    rw [decide_of_invalid invalid, verdict]
    cases p.strict.truthy <;> exact ⟨rfl, rfl⟩

theorem entry_of_invalid (label : String) (name target : Value) (violations : List Violation)
    (invalid : r.valid = false) :
    ∃ told, entry? (p.decide r) label name target violations = some told := by
  rw [decide_of_invalid invalid]
  split <;> exact ⟨_, rfl⟩

theorem enforce_of_invalid (ht : ∃ place, target.display = .ok place)
    (hl : name.display = .ok label)
    (hv : (validate (h.store.ownerOf p.source) name data).result = .ok r)
    (invalid : r.valid = false) (few : ¬IsOverlong r.violations.length) :
    (p.enforce name data target h).1 = { h with tally := h.tally.add label (p.decide r) } ∧
      (p.enforce name data target h).2.result = p.verdict name data r.violations := by
  obtain ⟨entry, he⟩ := entry_eq_ok ht hl (p.decide_ne_passed invalid) few
  exact enforce_of_entry hl hv invalid he

theorem enforce_of_uncountable (hl : name.display = .ok label)
    (hv : (validate (h.store.ownerOf p.source) name data).result = .ok r)
    (invalid : r.valid = false) (many : IsOverlong r.violations.length) :
    (p.enforce name data target h).2.result = .error (.check .tooManyDigits) :=
  (enforce_of_entry hl hv invalid
    (entry_eq_error label name target (p.decide_ne_passed invalid) many)).2

/-- Where the validation comes to an outcome, the name can be shown. -/
theorem exists_label_of_validate {o : Owner} (hv : (validate o name data).result = .ok r) :
    ∃ label, name.display = .ok label := by
  obtain ⟨-, label, shown, -⟩ | ⟨c, hc, -⟩ | ⟨c, -, -, hc, -⟩ := validate_eq_ok hv
  · exact ⟨label, shown⟩
  · obtain ⟨s, text⟩ := Owner.asText_of_find hc
    exact ⟨s, Value.display_of_asText text⟩
  · obtain ⟨s, text⟩ := Owner.asText_of_find hc
    exact ⟨s, Value.display_of_asText text⟩

/-- A decision is counted once, in one cell. -/
theorem enforce_tally (hl : name.display = .ok label)
    (hv : (validate (h.store.ownerOf p.source) name data).result = .ok r) :
    (p.enforce name data target h).1 = { h with tally := h.tally.add label (p.decide r) } := by
  cases valid : r.valid with
  | true =>
    rw [(enforce_of_valid hl hv valid).1, decide, valid]
    rfl
  | false =>
    obtain ⟨told, he⟩ := entry_of_invalid label name target r.violations valid
    exact (enforce_of_entry hl hv valid he).1

/-- A policy answers with the data that it is given. -/
theorem enforce_eq_ok {v : Value} (hl : name.display = .ok label)
    (he : (p.enforce name data target h).2.result = .ok v) : v = data := by
  cases hv : (validate (h.store.ownerOf p.source) name data).result with
  | error e => cases (enforce_of_error hv).2.symm.trans he
  | ok r =>
    cases valid : r.valid with
    | true =>
      cases (enforce_of_valid hl hv valid).2.symm.trans he
      exact (of_valid hv valid).1
    | false =>
      obtain ⟨told, entry⟩ := entry_of_invalid label name target r.violations valid
      have hr := (enforce_of_entry hl hv valid entry).2.symm.trans he
      cases told with
      | error e => cases hr
      | ok entry =>
        simp only [verdict] at hr
        split at hr <;> cases hr
        rfl

end Policy

end DataContract
