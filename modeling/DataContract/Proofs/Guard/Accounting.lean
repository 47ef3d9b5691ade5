/-
Every check at a boundary is counted, and counted once.

A service keeps the policies that it has made (`Service`). Events come to it one after the other:
its registries change, its settings are forgotten, a policy is made, data is put before a policy, or
a guarded function is called, which makes a policy of its own (`Service.Event`).

* `Turn.puts_or_quiet` — an event puts data before a policy, or counts nothing;
* `Turn.accounted` — what one event does;
* `checks_accounted` — what all events have done, from the start of the service.
-/
import DataContract.Proofs.Guard.Decision
import DataContract.Proofs.Guard.Judgement

namespace DataContract

/-! ### Services -/

/-- A function with a guard set on it. -/
structure Boundary where
  guard : Guard
  function : Function
  guarded : GuardedFunction
  lawful : function.signature.Lawful
  set : (guard.setOn function).result = .ok guarded

/-- A running program with the policies that it has made. -/
structure Service where
  host : Host
  policies : List Policy

namespace Service

/-- A service that has just been started. -/
def start : Service := ⟨.fresh, []⟩

/-- What can come to a service. -/
inductive Event where
  /-- Anything is done to the registries: contracts are registered or attached, say. -/
  | registries (change : Store → Store)
  /-- The settings are forgotten, or others are kept. -/
  | settings (kept : Option Settings)
  | makePolicy (s : Surroundings) (strict : Value) (source : Source)
  /-- Data is put before the policy that was made at a place in the order. -/
  | enforce (policy : Nat) (name data : Value) (target : Option String)
  | call (b : Boundary) (s : Surroundings) (arguments : List Value) (named : List (String × Value))

/-- What an event comes to. -/
inductive Answer where
  | done
  | enforced (result : Except EnforcementFault Value)
  | called (result : Except CallFault NamedArguments)

/-- What an event makes of a service, and what it comes to. -/
def Event.perform (e : Event) (x : Service) : Service × Answer :=
  match e with
  | registries change => ({ x with host.store := change x.host.store }, .done)
  | settings kept => ({ x with host.settings := kept }, .done)
  | makePolicy s strict source =>
    let (host, made) := Policy.make s strict source x.host
    (⟨host, x.policies ++ made.result.toOption.toList⟩, .done)
  | enforce i name data target =>
    match x.policies[i]? with
    | none => (x, .done)
    | some p =>
      let (host, done) := p.enforce name data (Settings.textOrNull target) x.host
      ({ x with host := host }, .enforced done.result)
  | call b s arguments named =>
    let (host, done) := b.guarded.call s arguments named x.host
    ({ x with host := host }, .called done.result)

/-- What an event puts before a policy. A guarded call does so if its arguments fit the function and
its policy can be made. -/
def Event.check? (e : Event) (x : Service) : Option Check :=
  match e with
  | enforce i name data _ => x.policies[i]?.map fun p => ⟨p, name, data, x.host.store⟩
  | call b s arguments named => do
    let bound ← (b.guarded.assigned arguments named).toOption
    let p ← (Policy.make s b.guard.strict (b.guard.sourceAt b.function bound)
      x.host).2.result.toOption
    let a ← bound.argument? b.guarded.watched
    return ⟨p, b.guard.contract, a.value, x.host.store⟩
  | _ => none

/-- The service after events in order. -/
def after (x : Service) (events : List Event) : Service :=
  events.foldl (fun x e => (e.perform x).1) x

end Service

/-- An event that comes to a service. -/
structure Turn where
  before : Service
  event : Service.Event

namespace Turn

/-- The service after the event. -/
def after (t : Turn) : Service := (t.event.perform t.before).1

/-- What the event comes to. -/
def answer (t : Turn) : Service.Answer := (t.event.perform t.before).2

/-- What the event puts before a policy. -/
def check? (t : Turn) : Option Check := t.event.check? t.before

/-- The judgement on what the event puts before a policy. -/
def judgement? (t : Turn) : Option (String × Decision) := t.check?.bind (·.judgement?)

/-- The number of violations of what the event puts before a policy can be written. -/
def Countable (t : Turn) : Prop := ∀ c, t.check? = some c → c.Countable

end Turn

/-- The refusal that data meets with. -/
def EnforcementFault.refusal? : Except EnforcementFault Value → Option Refusal
  | .error (.refused r) => some r
  | _ => none

/-- The label of the contract that a refusal tells. -/
def Refusal.label? (r : Refusal) : Option String :=
  r.contract.bind (·.display.toOption)

namespace Service

/-- The refusal that an event comes to. -/
def Answer.refusal? : Answer → Option Refusal
  | .enforced (.error (.refused r)) => some r
  | .called (.error (.enforcement (.refused r))) => some r
  | _ => none

/-- Whether data got past a policy. -/
def Answer.returns : Answer → Bool
  | .enforced (.ok _) => true
  | .called (.ok _) => true
  | _ => false

namespace Answer

variable (result : Except EnforcementFault Value) (bound : NamedArguments)

@[simp]
theorem refusal?_enforced : (enforced result).refusal? = EnforcementFault.refusal? result := by
  obtain fault | v := result
  · cases fault <;> rfl
  · rfl

@[simp]
theorem refusal?_called :
    (called ((result.mapError CallFault.enforcement).map fun _ => bound)).refusal? =
      EnforcementFault.refusal? result := by
  obtain fault | v := result
  · cases fault <;> rfl
  · rfl

@[simp]
theorem returns_enforced : (enforced result).returns = result.isOk := by
  cases result <;> rfl

@[simp]
theorem returns_called :
    (called ((result.mapError CallFault.enforcement).map fun _ => bound)).returns =
      result.isOk := by
  cases result <;> rfl

end Answer

/-- Events in order, each with the service that it comes to. -/
def turns : Service → List Event → List Turn
  | _, [] => []
  | x, e :: rest => ⟨x, e⟩ :: turns (e.perform x).1 rest

end Service

/-! ### One event -/

namespace Turn

/-- An event puts data before a policy: at a host with the registries and the tally of before, with
a place that can be shown. -/
structure Puts (t : Turn) (c : Check) (target : Value) (h : Host) : Prop where
  store : c.store = h.store
  tally : h.tally = t.before.host.tally
  shown : ∃ place, target.display = .ok place
  counted : t.after.host.tally = (c.policy.enforce c.name c.data target h).1.tally
  refusal : t.answer.refusal? =
    EnforcementFault.refusal? (c.policy.enforce c.name c.data target h).2.result
  returns : t.answer.returns = (c.policy.enforce c.name c.data target h).2.result.isOk

/-- An event that puts nothing before a policy counts nothing, and lets nothing past. -/
structure Quiet (t : Turn) : Prop where
  tally : t.after.host.tally = t.before.host.tally
  refusal : t.answer.refusal? = none
  returns : t.answer.returns = false

variable {t : Turn} {y : Service} {answer : Service.Answer}

theorem Quiet.of_step (step : t.event.perform t.before = (y, answer))
    (tally : y.host.tally = t.before.host.tally) (refusal : answer.refusal? = none)
    (returns : answer.returns = false) : t.Quiet := by
  constructor
  · rw [after, step, tally]
  · rw [Turn.answer, step, refusal]
  · rw [Turn.answer, step, returns]

theorem textOrNull_shown (target : Option String) :
    ∃ place, (Settings.textOrNull target).display = .ok place := by
  cases target with
  | none => exact ⟨"None", rfl⟩
  | some place => exact ⟨place, rfl⟩

theorem enforce_puts_or_quiet (x : Service) (i : Nat) (name data : Value) (target : Option String) :
    let t : Turn := ⟨x, .enforce i name data target⟩
    (∃ c target h, t.check? = some c ∧ t.Puts c target h) ∨ t.check? = none ∧ t.Quiet := by
  intro t
  cases hp : x.policies[i]? with
  | none =>
    have step : t.event.perform x = (x, .done) := by simp only [t, Service.Event.perform, hp]
    exact .inr ⟨by simp [t, check?, Service.Event.check?, hp], .of_step step rfl rfl rfl⟩
  | some p =>
    have step : t.event.perform x = ({ x with
        host := (p.enforce name data (Settings.textOrNull target) x.host).1 },
          .enforced (p.enforce name data (Settings.textOrNull target) x.host).2.result) := by
      simp only [t, Service.Event.perform, hp]
    refine .inl ⟨⟨p, name, data, x.host.store⟩, Settings.textOrNull target, x.host,
      by simp [t, check?, Service.Event.check?, hp], rfl, rfl, textOrNull_shown target, ?_, ?_, ?_⟩
    · rw [after, step]
    · rw [Turn.answer, step, Service.Answer.refusal?_enforced]
    · rw [Turn.answer, step, Service.Answer.returns_enforced]

theorem call_puts_or_quiet (x : Service) (b : Boundary) (s : Surroundings) (arguments : List Value)
    (named : List (String × Value)) :
    let t : Turn := ⟨x, .call b s arguments named⟩
    (∃ c target h, t.check? = some c ∧ t.Puts c target h) ∨ t.check? = none ∧ t.Quiet := by
  obtain ⟨guard, function, g, lawful, set⟩ := b
  obtain ⟨rfl, rfl, label, watched⟩ := Guard.setOn_eq_ok set
  intro t
  have step : t.event.perform x = ({ x with host := (g.call s arguments named x.host).1 },
      .called (g.call s arguments named x.host).2.result) := rfl
  cases hb : g.assigned arguments named with
  | error fault =>
    rw [GuardedFunction.call_of_unbound hb] at step
    exact .inr ⟨by simp [t, check?, Service.Event.check?, hb, Except.toOption],
      .of_step step rfl rfl rfl⟩
  | ok bound =>
    obtain ⟨a, found, hc⟩ :=
      GuardedFunction.call_of_bound (h := x.host) (s := s) lawful label watched hb
    have keeps := Policy.make_keeps s g.guard.strict (g.guard.sourceAt g.function bound) x.host
    cases hm : (Policy.make s g.guard.strict (g.guard.sourceAt g.function bound)
        x.host).2.result with
    | error e =>
      -- without a policy the call fails before anything is checked
      have result : (g.call s arguments named x.host).2.result = .error (.settings e) := by
        rw [hc, GuardedFunction.result_of_bind, GuardedFunction.decision_of_settings hm]
        rfl
      have host : (g.call s arguments named x.host).1.tally = x.host.tally := by
        rw [hc, GuardedFunction.host_of_bind, GuardedFunction.host_of_settings hm, keeps.2]
      rw [result] at step
      exact .inr ⟨by simp [t, check?, Service.Event.check?, hb, hm, Except.toOption],
        .of_step step host rfl rfl⟩
    | ok p =>
      have result : (g.call s arguments named x.host).2.result =
          ((p.enforce g.contract a.value (.text g.function.target)
            (Policy.make s g.guard.strict (g.guard.sourceAt g.function bound)
              x.host).1).2.result.mapError CallFault.enforcement).map fun _ => bound := by
        rw [hc, GuardedFunction.result_of_bind, GuardedFunction.decision_of_policy hm]
      refine .inl ⟨⟨p, g.guard.contract, a.value, x.host.store⟩, .text g.function.target, _,
        by simp [t, check?, Service.Event.check?, hb, hm, found, Except.toOption], keeps.1.symm,
        keeps.2, ⟨_, rfl⟩, ?_, ?_, ?_⟩
      · rw [after, step, hc, GuardedFunction.host_of_bind, GuardedFunction.host_of_policy hm]
        rfl
      · rw [Turn.answer, step, result, Service.Answer.refusal?_called]
        rfl
      · rw [Turn.answer, step, result, Service.Answer.returns_called]
        rfl

/-- An event puts data before a policy, or it counts nothing and lets nothing past. -/
theorem puts_or_quiet (t : Turn) :
    (∃ c target h, t.check? = some c ∧ t.Puts c target h) ∨ t.check? = none ∧ t.Quiet := by
  obtain ⟨x, event⟩ := t
  cases event with
  | registries change => exact .inr ⟨rfl, rfl, rfl, rfl⟩
  | settings kept => exact .inr ⟨rfl, rfl, rfl, rfl⟩
  | makePolicy s strict source =>
    exact .inr ⟨rfl, (Policy.make_keeps s strict source x.host).2, rfl, rfl⟩
  | enforce i name data target => exact enforce_puts_or_quiet x i name data target
  | call b s arguments named => exact call_puts_or_quiet x b s arguments named

/-- What one event does. -/
structure Accounted (t : Turn) : Prop where
  /-- What is put before a policy is judged if the validation comes to an outcome. -/
  judged : ∀ c r, t.check? = some c → c.outcome = .ok r →
    ∃ label, c.name.display = .ok label ∧ t.judgement? = some (label, c.decision r)
  /-- A judgement counts once, in its own cell. -/
  counted : ∀ label d, t.after.host.tally.count label d =
    t.before.host.tally.count label d + if t.judgement? = some (label, d) then 1 else 0
  /-- What is rejected is refused, and nothing else. -/
  refused : t.Countable → ∀ label,
    t.answer.refusal?.bind (·.label?) = some label ↔ t.judgement? = some (label, .rejected)
  /-- What is judged otherwise gets past the policy, and nothing else. -/
  returned : t.Countable →
    (t.answer.returns = true ↔ ∃ label d, t.judgement? = some (label, d) ∧ d ≠ .rejected)
  /-- A policy answers with the data that was put before it. -/
  data : ∀ i name data target v, t.event = .enforce i name data target →
    t.answer = .enforced (.ok v) → v = data
  /-- A guarded function sees the arguments as they were assigned. -/
  arguments : ∀ b s arguments named l, t.event = .call b s arguments named →
    t.answer = .called (.ok l) → b.guarded.assigned arguments named = .ok l
  /-- A policy without a source uses the registry that all share, as it is then. -/
  shared : ∀ c, t.check? = some c → c.policy.source = .shared →
    c.outcome = (validate (.registry t.before.host.store.sharedRegistry) c.name c.data).result
  /-- Policies stay as they were made. -/
  policies : t.before.policies <+: t.after.policies

theorem store_of_check {c : Check} (hc : t.check? = some c) : c.store = t.before.host.store := by
  obtain ⟨x, event⟩ := t
  cases event with
  | enforce i name data target =>
    obtain ⟨p, -, rfl⟩ := Option.map_eq_some_iff.mp hc
    rfl
  | call b s arguments named =>
    simp only [check?, Service.Event.check?, Option.bind_eq_bind, Option.bind_eq_some_iff] at hc
    obtain ⟨bound, -, p, -, a, -, hc⟩ := hc
    cases hc
    rfl
  | _ => cases hc

theorem data_of_enforced {i : Nat} {name data v : Value} {target : Option String}
    (event : t.event = .enforce i name data target) (returned : t.answer = .enforced (.ok v)) :
    v = data := by
  obtain ⟨x, _⟩ := t
  subst event
  simp only [Turn.answer, Service.Event.perform] at returned
  split at returned
  · cases returned
  · rename_i p _
    have he := Service.Answer.enforced.inj returned
    cases hv : (validate (x.host.store.ownerOf p.source) name data).result with
    | error fault => cases (Policy.enforce_of_error hv).2.symm.trans he
    | ok r =>
      obtain ⟨label, shown⟩ := Policy.exists_label_of_validate hv
      exact Policy.enforce_eq_ok shown he

theorem assigned_of_called {b : Boundary} {s : Surroundings} {arguments : List Value}
    {named : List (String × Value)} {l : NamedArguments}
    (event : t.event = .call b s arguments named) (returned : t.answer = .called (.ok l)) :
    b.guarded.assigned arguments named = .ok l := by
  obtain ⟨x, _⟩ := t
  subst event
  obtain ⟨guard, function, g, lawful, set⟩ := b
  obtain ⟨rfl, rfl, label, watched⟩ := Guard.setOn_eq_ok set
  have result : (g.call s arguments named x.host).2.result = .ok l :=
    Service.Answer.called.inj returned
  cases hb : g.assigned arguments named with
  | error fault =>
    rw [GuardedFunction.call_of_unbound hb] at result
    cases result
  | ok bound =>
    obtain ⟨a, -, hc⟩ :=
      GuardedFunction.call_of_bound (h := x.host) (s := s) lawful label watched hb
    rw [hc, GuardedFunction.result_of_bind] at result
    cases hd : (g.decision s bound a x.host).2.result with
    | error e =>
      rw [hd] at result
      cases result
    | ok v =>
      rw [hd] at result
      cases result
      rfl

theorem policies_prefix (t : Turn) : t.before.policies <+: t.after.policies := by
  obtain ⟨x, event⟩ := t
  cases event with
  | makePolicy s strict source => exact List.prefix_append _ _
  | enforce i name data target =>
    show x.policies <+: ((Service.Event.enforce i name data target).perform x).1.policies
    rw [Service.Event.perform]
    split <;> exact List.prefix_rfl
  | _ => exact List.prefix_rfl

/-- An event that puts data before a policy is judged and counted, and comes to what the judgement
says; any other counts nothing. -/
theorem accounted (t : Turn) : t.Accounted := by
  have shared : ∀ c, t.check? = some c → c.policy.source = .shared →
      c.outcome = (validate (.registry t.before.host.store.sharedRegistry) c.name c.data).result :=
    fun c hc source => by rw [Check.outcome, source, store_of_check hc, Store.ownerOf]
  obtain ⟨c, target, h, hc, puts⟩ | ⟨hc, quiet⟩ := t.puts_or_quiet
  · have judgement : t.judgement? = c.judgement? := by rw [judgement?, hc, Option.bind_some]
    obtain ⟨p, name, data, store⟩ := c
    obtain ⟨rfl, tally, shown, counted, refusal, returns⟩ := puts
    have leads (countable : t.Countable) := Check.leads p name data target h shown (countable _ hc)
    refine ⟨fun c' r hc' ho => ?_, fun label d => ?_, fun countable label => ?_,
      fun countable => ?_, fun _ _ _ _ _ => data_of_enforced, fun _ _ _ _ _ => assigned_of_called,
      shared, t.policies_prefix⟩
    · cases hc.symm.trans hc'
      obtain ⟨label, shown⟩ := Policy.exists_label_of_validate ho
      exact ⟨label, shown, judgement.trans (Check.judgement?_of_ok shown ho)⟩
    · rw [counted, judgement, ← tally]
      exact Check.count_enforce p name data target h label d
    · rw [refusal, judgement]
      have leads := leads countable
      generalize (p.enforce name data target h).2.result = result at leads
      cases leads with
      | returns judged through => simp [EnforcementFault.refusal?, judged, through]
      | refuses violations shown judged =>
        rw [judged]
        simp [EnforcementFault.refusal?, Refusal.label?, shown, Except.toOption]
      | fails e unjudged => simp [EnforcementFault.refusal?, unjudged]
    · rw [returns, judgement]
      have leads := leads countable
      generalize (p.enforce name data target h).2.result = result at leads
      cases leads with
      | returns judged through => simp [Except.isOk, Except.toBool, judged, through]
      | refuses violations shown judged => simp [Except.isOk, Except.toBool, judged]
      | fails e unjudged => simp [Except.isOk, Except.toBool, unjudged]
  · have judgement : t.judgement? = none := by rw [judgement?, hc, Option.bind_none]
    refine ⟨fun c r hc' => ?_, fun label d => ?_, fun _ label => ?_, fun _ => ?_,
      fun _ _ _ _ _ => data_of_enforced, fun _ _ _ _ _ => assigned_of_called, shared,
      t.policies_prefix⟩
    · cases hc.symm.trans hc'
    · rw [quiet.tally, judgement]
      rfl
    · simp [quiet.refusal, judgement]
    · simp [quiet.returns, judgement]

end Turn

/-! ### All events -/

namespace Turn

/-- The event is judged, on the contract with a label and with a decision. -/
def judges (label : String) (d : Decision) (t : Turn) : Bool :=
  t.judgement? = some (label, d)

/-- The event is judged, on the contract with a label. -/
def concerns (label : String) (t : Turn) : Bool :=
  t.judgement?.any (·.1 = label)

/-- The event comes to a refusal, on the contract with a label. -/
def refuses (label : String) (t : Turn) : Bool :=
  t.answer.refusal?.bind (·.label?) = some label

/-- What is judged on a contract has passed, or is rejected or warned of. -/
theorem countP_concerns (ts : List Turn) (label : String) : ts.countP (concerns label) =
    ts.countP (judges label .passed) + ts.countP (judges label .rejected) +
      ts.countP (judges label .warned) := by
  induction ts with
  | nil => rfl
  | cons t rest ih =>
    have one : (if t.concerns label then 1 else 0) = (if t.judges label .passed then 1 else 0) +
        (if t.judges label .rejected then 1 else 0) + if t.judges label .warned then 1 else 0 := by
      rcases Option.eq_none_or_eq_some t.judgement? with none | ⟨⟨l, d⟩, judged⟩
      · simp [concerns, judges, none]
      · by_cases same : l = label <;> cases d <;> simp [concerns, judges, judged, same]
    simp only [List.countP_cons, ih, one]
    omega

end Turn

namespace Service

/-- The counts after events are those before, and one more for each event judged so. -/
theorem count_after (x : Service) (events : List Event) (label : String) (d : Decision) :
    (x.after events).host.tally.count label d =
      x.host.tally.count label d + (x.turns events).countP (Turn.judges label d) := by
  induction events generalizing x with
  | nil => rfl
  | cons e rest ih =>
    have step : (e.perform x).1.host.tally.count label d = x.host.tally.count label d +
        if (Turn.mk x e).judges label d = true then 1 else 0 := by
      simp only [Turn.judges, decide_eq_true_eq]
      exact (Turn.accounted ⟨x, e⟩).counted label d
    show (after (e.perform x).1 rest).host.tally.count label d = _
    rw [ih, step, turns, List.countP_cons]
    omega

theorem after_append (x : Service) (events more : List Event) :
    x.after (events ++ more) = (x.after events).after more :=
  List.foldl_append

end Service

/-- From the start of a service each event is accounted for. So for every contract the counts add up
to the number of checks that came to an outcome, and what is counted as rejected is the number of
refusals; and no count ever goes down. -/
theorem checks_accounted (events : List Service.Event) :
    let turns := Service.start.turns events
    let count := (Service.start.after events).host.tally.count
    (∀ t ∈ turns, t.Accounted) ∧
      (∀ label d, count label d = turns.countP (Turn.judges label d)) ∧
      (∀ label, count label .passed + count label .rejected + count label .warned =
        turns.countP (Turn.concerns label)) ∧
      ((∀ t ∈ turns, t.Countable) →
        ∀ label, count label .rejected = turns.countP (Turn.refuses label)) ∧
      ∀ more label d,
        count label d ≤ (Service.start.after (events ++ more)).host.tally.count label d := by
  intro turns count
  have cells : ∀ label d, count label d = turns.countP (Turn.judges label d) := fun label d =>
    (Service.start.count_after events label d).trans (Nat.zero_add _)
  refine ⟨fun t _ => t.accounted, cells, fun label => ?_, fun countable label => ?_,
    fun more label d => ?_⟩
  · rw [cells, cells, cells, Turn.countP_concerns]
  · rw [cells]
    refine List.countP_congr fun t mem => ?_
    simp only [Turn.judges, Turn.refuses, decide_eq_true_eq]
    exact (t.accounted.refused (countable t mem) label).symm
  · rw [Service.after_append, Service.count_after]
    exact Nat.le_add_right _ _

/-- A function under a guard that is not strict, with a contract of its own. -/
def lenientSubmit : Boundary :=
  ⟨(guardedSubmit [] false).guard, submit, guardedSubmit [] false, by decide, by cbv⟩

/-- A strict policy without a source is made before its contract is registered. Data comes before it
and after it, and to the function in between. -/
def parcelEvents : List Service.Event :=
  [.makePolicy default (.bool true) .shared,
    .enforce 0 (.text "parcel") (.map [(.text "code", .text "a")]) none,
    .call lenientSubmit default [.text "sent", .map [(.text "code", .int 1)]] [],
    .registries fun s => (Store.within ⟨0⟩ (Registry.register (parcel []).toValue false)
      (@Store.sharedKey RegistrationFault s).1).1,
    .settings none,
    .enforce 0 (.text "parcel") (.map [(.text "code", .text "a")]) (some "app.submit")]

theorem parcelEvents_refused :
    (Service.start.after parcelEvents).host.tally.count "parcel" .rejected =
        (Service.start.turns parcelEvents).countP (Turn.refuses "parcel") ∧
      (Service.start.turns parcelEvents).countP (Turn.refuses "parcel") = 1 ∧
      (Service.start.turns parcelEvents).countP (Turn.concerns "parcel") = 3 := by
  have few : (Service.start.turns parcelEvents).all (fun t => t.check?.all fun c =>
      c.outcome.toOption.all fun r => r.violations.length < 2) = true := by
    decide +kernel
  have countable : ∀ t ∈ Service.start.turns parcelEvents, t.Countable := by
    intro t mem c hc r ho
    have short := List.all_eq_true.mp few t mem
    simp only [hc, ho, Option.all_some, Except.toOption, decide_eq_true_eq] at short
    exact not_isOverlong_of_lt (by omega)
  exact ⟨(checks_accounted parcelEvents).2.2.2.1 countable "parcel", by decide +kernel, by decide +kernel⟩

end DataContract
