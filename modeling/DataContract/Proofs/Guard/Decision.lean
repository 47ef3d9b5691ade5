/-
What a guarded call comes to.

A call whose arguments fit the function comes to the decision of the guard on the watched argument
(`GuardedFunction.decision`): the function runs, on the arguments just as they were assigned, if the
policy answers, and otherwise the call fails as the policy does (`GuardedFunction.call_of_bound`).
-/
import DataContract.Declaration.Basic
import DataContract.Guard.Basic
import DataContract.Proofs.Guard.Enforcement
import DataContract.Proofs.Guard.Passing

namespace DataContract

/-- Putting an argument in its own place changes nothing. -/
theorem Signature.put_listed {s : Signature} {p : Parameter} (arg : Parameter → Argument)
    (h : s.Lawful) (mem : p ∈ s) : (s.listed arg).put p.name (arg p) = s.listed arg := by
  have held : (s.listed arg).has p.name = true := by
    rw [NamedArguments.has, argument?_listed arg h mem]
    rfl
  rw [NamedArguments.put, if_pos held, listed, List.map_map]
  refine List.map_congr_left fun q hq => ?_
  show (if q.name = p.name then (p.name, arg p) else (q.name, arg q)) = (q.name, arg q)
  split
  · rename_i same
    rw [h.eq_of_name hq mem same]
  · rfl

/-- A guard is set on a function if it can be shown and watches a parameter of it. -/
theorem Guard.setOn_eq_ok {g : Guard} {f : Function} {gd : GuardedFunction}
    (h : (g.setOn f).result = .ok gd) :
    gd.function = f ∧ gd.guard = g ∧ (∃ label, g.contract.display = .ok label) ∧
      ∃ p ∈ f.signature, p.name = gd.watched := by
  simp only [setOn, Noted.result_bind, bind_eq_ok_iff] at h
  obtain ⟨watched, hw, label, hl, ⟨⟩, -, h⟩ := h
  cases h
  refine ⟨rfl, rfl, ?_, ?_⟩
  · cases hd : g.contract.display with
    | ok text => exact ⟨text, rfl⟩
    | error e =>
      rw [hd] at hl
      cases hl
  · simp only [Noted.of, Guard.watched] at hw
    split at hw
    · cases hw
    · split at hw
      · rename_i has
        cases hw
        simpa [Function.hasParameter] using has
      · cases hw

/-- What a policy makes of a call whose arguments are bound: what comes of the call, by what the
validation of the watched argument comes to. -/
structure Policy.Decided (p : Policy) (contract : Value) (bound : NamedArguments)
    (outcome : Except CheckFault ValidationResult) (result : Except CallFault NamedArguments) :
    Prop where
  /-- If the function runs, it sees the arguments as they were assigned. -/
  seen : ∀ l, result = .ok l → l = bound
  /-- Under a strict policy the function runs exactly on valid arguments. -/
  strict : p.strict.truthy = true →
    ((∃ l, result = .ok l) ↔ ∃ r, outcome = .ok r ∧ r.valid = true)
  /-- Others are refused, with the contract and the violations in their order. -/
  refused : p.strict.truthy = true → ∀ r, outcome = .ok r → r.valid = false →
    ¬IsOverlong r.violations.length →
      result = .error (.enforcement (.refused ⟨r.violations, some contract⟩))
  /-- Under any other policy the function runs whenever the validation comes to an outcome, and the
  number of violations can be written. -/
  lenient : p.strict.truthy = false →
    ((∃ l, result = .ok l) ↔ ∃ r, outcome = .ok r ∧ ¬IsOverlong r.violations.length)
  /-- Where the validation fails, the call fails. -/
  stuck : ∀ e, outcome = .error e → result = .error (.enforcement (.check e))

theorem Policy.decided_of_enforce {p : Policy} {contract data : Value} {target label : String}
    {bound : NamedArguments} {h : Host} (hl : contract.display = .ok label) :
    p.Decided contract bound (validate (h.store.ownerOf p.source) contract data).result
      (((p.enforce contract data (.text target) h).2.result.mapError CallFault.enforcement).map
        fun _ => bound) := by
  cases hv : (validate (h.store.ownerOf p.source) contract data).result with
  | error e =>
    rw [(Policy.enforce_of_error hv).2]
    constructor <;> simp [Except.mapError, Except.map]
  | ok r =>
    cases valid : r.valid with
    | true =>
      have none := (of_valid hv valid).2
      rw [(Policy.enforce_of_valid hl hv valid).2]
      constructor <;> simp [Except.mapError, Except.map, valid, none, not_isOverlong_zero]
    | false =>
      by_cases many : IsOverlong r.violations.length
      · rw [Policy.enforce_of_uncountable hl hv valid many]
        constructor <;> simp [Except.mapError, Except.map, valid, many]
      · rw [(Policy.enforce_of_invalid ⟨_, rfl⟩ hl hv valid many).2, Policy.verdict]
        cases strict : p.strict.truthy <;>
          constructor <;> simp [Except.mapError, Except.map, valid, many, strict]

namespace GuardedFunction

/-- The arguments by name that a caller passes. -/
def passedNames (named : List (String × Value)) : NamedArguments :=
  named.map fun (name, v) => (name, .passed v)

/-- The arguments of a call, assigned to the parameters of the function. -/
def assigned (g : GuardedFunction) (arguments : List Value) (named : List (String × Value)) :
    Except BindingFault NamedArguments :=
  g.function.signature.assign (g.function.positions arguments) (passedNames named)

/-- What the guard decides on a watched argument: what the policy of the moment makes of it. -/
def decision (g : GuardedFunction) (s : Surroundings) (assigned : NamedArguments) (a : Argument) :
    Action Host CallFault Value := do
  let policy ← Action.mapError CallFault.settings
    (Policy.make s g.guard.strict (g.guard.sourceAt g.function assigned))
  Action.mapError CallFault.enforcement
    (policy.enforce g.contract a.value (.text g.function.target))

variable {g : GuardedFunction} {s : Surroundings} {arguments : List Value}
  {named : List (String × Value)} {bound : NamedArguments} {h : Host}

theorem call_of_unbound {fault : BindingFault} (hb : g.assigned arguments named = .error fault) :
    g.call s arguments named h = (h, .fail (.binding fault)) := by
  simp only [assigned, passedNames] at hb
  simp only [call, hb, Except.mapError]
  rfl

theorem call_of_assigned (hb : g.assigned arguments named = .ok bound) :
    g.call s arguments named = g.check s bound >>= fun checked =>
      Action.of ((g.function.signature.assign (g.function.signature.spread checked).1
        (g.function.signature.spread checked).2).mapError CallFault.binding) := by
  simp only [assigned, passedNames] at hb
  simp only [call, hb, Except.mapError]
  exact pure_bind bound _

theorem check_of_argument {a : Argument} (found : bound.argument? g.watched = some a) :
    g.check s bound = g.decision s bound a >>= fun v =>
      pure (bound.put g.watched { a with value := v }) := by
  simp only [check, found, decision, bind_assoc]

/-- Without a policy there is no decision. -/
theorem decision_of_settings {a : Argument} {e : SettingsFault}
    (hm : (Policy.make s g.guard.strict (g.guard.sourceAt g.function bound) h).2.result =
      .error e) : (g.decision s bound a h).2.result = .error (.settings e) := by
  have failed := congrArg (Except.mapError CallFault.settings) hm
  exact (Action.bind_of_error failed).2

/-- The decision is that of the policy made at the call. -/
theorem decision_of_policy {a : Argument} {p : Policy}
    (hm : (Policy.make s g.guard.strict (g.guard.sourceAt g.function bound) h).2.result = .ok p) :
    (g.decision s bound a h).2.result = ((p.enforce g.contract a.value (.text g.function.target)
      (Policy.make s g.guard.strict (g.guard.sourceAt g.function bound) h).1).2.result).mapError
        CallFault.enforcement := by
  have made := congrArg (Except.mapError CallFault.settings) hm
  exact (Action.bind_of_ok made).2

theorem host_of_settings {a : Argument} {e : SettingsFault}
    (hm : (Policy.make s g.guard.strict (g.guard.sourceAt g.function bound) h).2.result =
      .error e) : (g.decision s bound a h).1 =
        (Policy.make s g.guard.strict (g.guard.sourceAt g.function bound) h).1 := by
  have failed := congrArg (Except.mapError CallFault.settings) hm
  exact (Action.bind_of_error failed).1

theorem host_of_policy {a : Argument} {p : Policy}
    (hm : (Policy.make s g.guard.strict (g.guard.sourceAt g.function bound) h).2.result = .ok p) :
    (g.decision s bound a h).1 = (p.enforce g.contract a.value (.text g.function.target)
      (Policy.make s g.guard.strict (g.guard.sourceAt g.function bound) h).1).1 := by
  have made := congrArg (Except.mapError CallFault.settings) hm
  exact (Action.bind_of_ok made).1

theorem decision_eq_ok {a : Argument} {v : Value} (shown : ∃ label, g.contract.display = .ok label)
    (hd : (g.decision s bound a h).2.result = .ok v) : v = a.value := by
  obtain ⟨label, hl⟩ := shown
  cases hm : (Policy.make s g.guard.strict (g.guard.sourceAt g.function bound) h).2.result with
  | error e => cases (decision_of_settings hm).symm.trans hd
  | ok p =>
    rw [decision_of_policy hm, mapError_eq_ok_iff] at hd
    exact Policy.enforce_eq_ok hl hd

/-- A call whose arguments fit comes to the decision on the watched one. -/
theorem call_of_bound (lawful : g.function.signature.Lawful)
    (shown : ∃ label, g.contract.display = .ok label)
    (watched : ∃ p ∈ g.function.signature, p.name = g.watched)
    (hb : g.assigned arguments named = .ok bound) :
    ∃ a, bound.argument? g.watched = some a ∧
      g.call s arguments named h = (g.decision s bound a >>= fun _ => pure bound) h := by
  obtain ⟨p, mem, name⟩ := watched
  obtain ⟨arg, fits, rfl⟩ := Signature.assign_listed lawful hb
  have found := Signature.argument?_listed arg lawful mem
  have kept := Signature.put_listed arg lawful mem
  have again := Signature.assign_spread lawful fits
  rw [name] at found kept
  refine ⟨arg p, found, ?_⟩
  rw [call_of_assigned hb, check_of_argument found, bind_assoc]
  refine Action.bind_congr fun v hv => ?_
  -- the policy answers with the argument itself, so what is passed on is what was bound
  obtain rfl := decision_eq_ok shown hv
  rw [pure_bind, kept, again]
  rfl

theorem result_of_bind {a : Argument} :
    ((g.decision s bound a >>= fun _ => pure bound) h).2.result =
      (g.decision s bound a h).2.result.map fun _ => bound := by
  cases hd : (g.decision s bound a h).2.result with
  | ok v => exact (Action.bind_of_ok hd).2
  | error e => exact (Action.bind_of_error hd).2

theorem host_of_bind {a : Argument} : ((g.decision s bound a >>= fun _ => pure bound) h).1 =
    (g.decision s bound a h).1 := by
  cases hd : (g.decision s bound a h).2.result with
  | ok v => exact (Action.bind_of_ok hd).1
  | error e => exact (Action.bind_of_error hd).1

end GuardedFunction

/-- Arguments that do not fit are refused, and nothing is checked or counted. Where they fit, the
call comes to the decision of the policy that is made at the call, and the function runs by it. -/
theorem guarded_call_decided {g : Guard} {f : Function} {gd : GuardedFunction}
    (lawful : f.signature.Lawful) (set : (g.setOn f).result = .ok gd) (s : Surroundings)
    (arguments : List Value) (named : List (String × Value)) (h : Host) :
    (∀ fault, gd.assigned arguments named = .error fault →
      gd.call s arguments named h = (h, .fail (.binding fault))) ∧
    ∀ bound, gd.assigned arguments named = .ok bound →
      ∃ a, bound.argument? gd.watched = some a ∧
        gd.call s arguments named h = (gd.decision s bound a >>= fun _ => pure bound) h ∧
        (∀ e, (Policy.make s g.strict (g.sourceAt f bound) h).2.result = .error e →
          (gd.call s arguments named h).2.result = .error (.settings e)) ∧
        ∀ p, (Policy.make s g.strict (g.sourceAt f bound) h).2.result = .ok p →
          (g.strict ≠ .null → p.strict = g.strict) ∧
          (g.strict = .null → ∃ settings, (Host.currentSettings s h).2.result = .ok settings ∧
            p.strict = .bool settings.guardStrict) ∧
          p.Decided g.contract bound
            (validate (h.store.ownerOf (g.sourceAt f bound)) g.contract a.value).result
            (gd.call s arguments named h).2.result := by
  obtain ⟨rfl, rfl, ⟨label, hl⟩, watched⟩ := Guard.setOn_eq_ok set
  refine ⟨fun fault hb => GuardedFunction.call_of_unbound hb, fun bound hb => ?_⟩
  obtain ⟨a, found, hc⟩ :=
    GuardedFunction.call_of_bound (h := h) (s := s) lawful ⟨label, hl⟩ watched hb
  -- either way the result is read off the decision, without a policy or with the one made
  refine ⟨a, found, hc, fun e hm => ?_, fun p hm => ?_⟩
  · rw [hc, GuardedFunction.result_of_bind, GuardedFunction.decision_of_settings hm]
    rfl
  · obtain ⟨source, store, -, given, asked⟩ := Policy.make_eq_ok hm
    refine ⟨given, asked, ?_⟩
    rw [hc, GuardedFunction.result_of_bind, GuardedFunction.decision_of_policy hm, ← store,
      ← source]
    exact Policy.decided_of_enforce hl

/-- A function with a parameter of each kind. -/
def submit : Function :=
  ⟨"submit", "submit", "app", some none, "", [⟨"request", .positional, none⟩,
    ⟨"data", .normal, none⟩, ⟨"rest", .restPositional, none⟩, ⟨"note", .named, some .null⟩,
    ⟨"others", .restNamed, none⟩], none⟩

/-- A contract of one text, the code, with constraints on it. -/
def parcel (constraints : List Constraint) : Contract :=
  ⟨"parcel", [⟨"code", .kind .string, true, constraints, none⟩]⟩

/-- The same function, guarded by such a contract that is given in a map. -/
def guardedSubmit (constraints : List Constraint) (strict : Bool) : GuardedFunction :=
  ⟨submit, ⟨.text "parcel", .given (.value (.map [(.text "parcel", (parcel constraints).toValue)])),
    some "data", .bool strict⟩, "data"⟩

/-- A strict guard refuses a parcel whose code is a number. -/
theorem submit_refused :
    ((guardedSubmit [] true).call default [.text "sent", .map [(.text "code", .int 1)], .int 7]
      [("page", .int 1)] Host.fresh).2.result =
        .error (.enforcement (.refused ⟨[⟨"code", "expected string, got integer", []⟩],
          some (.text "parcel")⟩)) := by
  have set : ((guardedSubmit [] true).guard.setOn submit).result = .ok (guardedSubmit [] true) := by
    cbv
  obtain ⟨a, found, -, -, decided⟩ := (guarded_call_decided (by decide) set default
    [.text "sent", .map [(.text "code", .int 1)], .int 7] [("page", .int 1)] Host.fresh).2
      [("request", .passed (.text "sent")), ("data", .passed (.map [(.text "code", .int 1)])),
        ("rest", .made (.tuple [.int 7])), ("note", .made .null),
        ("others", .made (.map [(.text "page", .int 1)]))] (by cbv)
  obtain rfl : Argument.passed (.map [(.text "code", .int 1)]) = a := by
    refine Option.some.inj (Eq.trans ?_ found)
    cbv
  have few : ¬IsOverlong 1 := by
    rw [IsOverlong]
    generalize hd : digitLimit = limit
    exact Nat.not_le.mpr (Nat.one_lt_pow (hd ▸ by decide) (by decide))
  have outcome : (validate (.value (.map [(.text "parcel", (parcel []).toValue)]))
      (.text "parcel") (.map [(.text "code", .int 1)])).result =
        .ok (.error [⟨"code", "expected string, got integer", []⟩]) := by
    cbv
  exact (decided ⟨.bool true, _⟩ rfl).2.2.refused rfl _ outcome rfl few

/-- A guard that is not strict keeps the function from running where the validation fails, as under
a pattern of bytes. -/
theorem submit_stuck :
    ∃ bytes, Constraint.declared (.text "format") (.bytes [0x62]) = .ok bytes ∧
      ((guardedSubmit [bytes] false).guard.setOn submit).result =
        .ok (guardedSubmit [bytes] false) ∧
      ¬∃ seen, ((guardedSubmit [bytes] false).call default
        [.text "sent", .map [(.text "code", .text "a")]] [] Host.fresh).2.result = .ok seen := by
  have stuck : ((guardedSubmit [.format ⟨.bytes [0x62], .off, .literal 0x62⟩] false).call default
      [.text "sent", .map [(.text "code", .text "a")]] [] Host.fresh).2.result =
        .error (.enforcement (.check .bytesPattern)) := by
    cbv
  refine ⟨.format ⟨.bytes [0x62], .off, .literal 0x62⟩, by cbv, by cbv, ?_⟩
  rintro ⟨seen, h⟩
  cases stuck.symm.trans h

end DataContract
