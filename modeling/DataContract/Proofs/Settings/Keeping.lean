/-
The settings of a running program are kept from when they are first loaded until they are reset.

Around a program variables are set and files are written; now and then it asks for its settings,
makes policies, or resets the settings (`Program.Event`). The settings that it keeps are those that
the first request served since the last reset loaded when it came: nothing is kept if there was none
(`Moment.KeepsTo`). One event preserves that (`Moment.KeepsTo.step`), so all do from the start on
(`Program.keepsTo`), and every answer follows from it (`settings_kept_until_reset`).
-/
import DataContract.Proofs.Guard.Enforcement
import DataContract.Proofs.Settings.Loading

namespace DataContract

/-! ### Programs and what happens to them -/

/-- What changes around a program. -/
inductive Change where
  | setVariable (name value : String)
  | unsetVariable (name : String)
  | writeFile (p : Path) (content : List UInt8)
  | deleteFile (p : Path)

/-- What a change makes of the surroundings. -/
def Change.apply (c : Change) (s : Surroundings) : Surroundings :=
  match c with
  | setVariable name value => { s with environment := s.environment.set name value }
  | unsetVariable name => { s with environment := s.environment.erase name }
  | writeFile p content => { s with files := s.files.write p content }
  | deleteFile p => { s with files := s.files.delete p }

/-- A running program in its surroundings, with the policies that it has made. -/
structure Program where
  surroundings : Surroundings
  host : Host
  policies : List Policy

namespace Program

/-- A program that has just been started. -/
def start (s : Surroundings) : Program := ⟨s, .fresh, []⟩

/-- What can happen to a program. -/
inductive Event where
  | change (c : Change)
  | askSettings
  | makePolicy (strict : Value) (source : Source)
  | resetSettings

/-- What an event comes to. -/
inductive Answer where
  | done
  | settings (result : Except SettingsFault Settings)
  | policy (result : Except SettingsFault Policy)

/-- What an event makes of a program, and what it comes to. -/
def Event.perform (e : Event) (x : Program) : Program × Answer :=
  match e with
  | change c => ({ x with surroundings := c.apply x.surroundings }, .done)
  | askSettings =>
    let (host, asked) := Host.currentSettings x.surroundings x.host
    ({ x with host := host }, .settings asked.result)
  | makePolicy strict source =>
    let (host, made) := Policy.make x.surroundings strict source x.host
    (⟨x.surroundings, host, x.policies ++ made.result.toOption.toList⟩, .policy made.result)
  | resetSettings => ({ x with host := { x.host with settings := none } }, .done)

/-- Whether an event is a request for the settings: made as such, or by a policy that is not told
how strict to be. -/
def Event.asks : Event → Bool
  | askSettings => true
  | makePolicy .null _ => true
  | _ => false

/-- Whether an event resets the settings. -/
def Event.resets : Event → Bool
  | resetSettings => true
  | _ => false

theorem Event.resets_of_asks {e : Event} (asks : e.asks = true) : e.resets = false := by
  cases e with
  | resetSettings => cases asks
  | _ => rfl

/-- Whether what was asked for has been given. -/
def Answer.gives : Answer → Bool
  | settings result => result.isOk
  | policy result => result.isOk
  | done => false

/-- The program after events in order. -/
def after (x : Program) (events : List Event) : Program :=
  events.foldl (fun x e => (e.perform x).1) x

end Program

/-- An event that happens to a program. -/
structure Moment where
  before : Program
  event : Program.Event

namespace Moment

/-- The program after the event. -/
def after (m : Moment) : Program := (m.event.perform m.before).1

/-- What the event comes to. -/
def answer (m : Moment) : Program.Answer := (m.event.perform m.before).2

/-- What loading the settings comes to at the moment. -/
def loaded (m : Moment) : Except SettingsFault Settings :=
  (Settings.load m.before.surroundings none).result

/-- Whether the event is a request for the settings that is served. -/
def served (m : Moment) : Bool := m.event.asks && m.answer.gives

/-- The moments after the last reset. -/
def sinceReset (ms : List Moment) : List Moment :=
  ms.rtakeWhile fun m => !m.event.resets

/-- The first request that was served since the last reset. -/
def firstServed? (ms : List Moment) : Option Moment :=
  (sinceReset ms).find? served

/-- A program keeps to the moments in front of it: its settings are what was loaded for the first
request served since the last reset, and it has none if there was no such request. -/
def KeepsTo (x : Program) (ms : List Moment) : Prop :=
  x.host.settings.map .ok = (firstServed? ms).map loaded

end Moment

/-- Events in order, each with the program that it happens to. -/
def Program.moments : Program → List Program.Event → List Moment
  | _, [] => []
  | x, e :: rest => ⟨x, e⟩ :: moments (e.perform x).1 rest

/-! ### One request -/

namespace Host

variable {s : Surroundings} {h : Host} {settings : Settings} {fault : SettingsFault}

theorem currentSettings_of_kept (kept : h.settings = some settings) :
    (currentSettings s h).1 = h ∧ (currentSettings s h).2.result = .ok settings := by
  obtain ⟨store, _, tally⟩ := h
  obtain rfl : _ = some settings := kept
  exact ⟨rfl, rfl⟩

/-- If none are kept they are loaded, and kept from then on. -/
theorem currentSettings_of_loaded (none : h.settings = none)
    (loaded : (Settings.load s Option.none).result = .ok settings) :
    (currentSettings s h).1 = { h with settings := some settings } ∧
      (currentSettings s h).2.result = .ok settings := by
  have current : (Settings.current s h.settings).1 = some settings ∧
      (Settings.current s h.settings).2.result = .ok settings := by
    rw [none]
    simp only [Settings.current, bind, Action.andThen, Action.state, Action.noted, Noted.ok, loaded,
      Action.replace]
    exact ⟨rfl, rfl⟩
  exact ⟨congrArg (fun kept => ({ h with settings := kept } : Host)) current.1, current.2⟩

theorem currentSettings_of_fault (none : h.settings = none)
    (failed : (Settings.load s Option.none).result = .error fault) :
    (currentSettings s h).1 = h ∧ (currentSettings s h).2.result = .error fault := by
  have current : (Settings.current s h.settings).1 = h.settings ∧
      (Settings.current s h.settings).2.result = .error fault := by
    rw [none]
    simp only [Settings.current, bind, Action.andThen, Action.state, Action.noted, Noted.ok, failed,
      true_and]
  exact ⟨congrArg (fun kept => ({ h with settings := kept } : Host)) current.1, current.2⟩

end Host

namespace Policy

variable {s : Surroundings} {h : Host} {source : Source}

/-- A policy that is not told how strict to be asks for the settings, and needs no more of them. -/
theorem make_null : (make s .null source h).1 = (Host.currentSettings s h).1 ∧
    (make s .null source h).2.result = (Host.currentSettings s h).2.result.map
      fun settings => ⟨.bool settings.guardStrict, source⟩ := by
  cases hs : (Host.currentSettings s h).2.result with
  | ok settings => exact Action.bind_of_ok hs
  | error fault => exact Action.bind_of_error hs

theorem make_of_said {strict : Value} (said : strict ≠ .null) :
    make s strict source h = (h, .ok ⟨strict, source⟩) := by
  unfold make
  split
  · exact absurd rfl said
  · rfl

end Policy

/-! ### One moment -/

namespace Moment

variable {m : Moment} {earlier : List Moment}

/-- What a request comes to: the host afterwards, and whether it is served, are those of the request
for the settings that it makes. -/
theorem asked (asks : m.event.asks = true) :
    m.after.host = (Host.currentSettings m.before.surroundings m.before.host).1 ∧
      m.served = (Host.currentSettings m.before.surroundings m.before.host).2.result.isOk := by
  obtain ⟨x, event⟩ := m
  rw [served, asks, Bool.true_and]
  cases event with
  | askSettings => exact ⟨rfl, rfl⟩
  | makePolicy strict source =>
    obtain rfl : strict = .null := by
      cases strict
      case null => rfl
      all_goals cases asks
    obtain ⟨host, made⟩ := @Policy.make_null x.surroundings x.host source
    refine ⟨host, ?_⟩
    show (Policy.make x.surroundings .null source x.host).2.result.isOk = _
    rw [made]
    cases (Host.currentSettings x.surroundings x.host).2.result <;> rfl
  | change c => cases asks
  | resetSettings => cases asks

theorem settings_of_unasked (asks : m.event.asks = false) : m.after.host.settings =
    if m.event.resets then none else m.before.host.settings := by
  obtain ⟨x, event⟩ := m
  cases event with
  | askSettings => cases asks
  | makePolicy strict source =>
    have said : strict ≠ .null := by
      rintro rfl
      cases asks
    show (Policy.make x.surroundings strict source x.host).1.settings = _
    rw [Policy.make_of_said said]
    rfl
  | change c => rfl
  | resetSettings => rfl

/-- One more moment is a reset, or comes behind those since the last one. -/
theorem firstServed?_concat : firstServed? (earlier ++ [m]) =
    if m.event.resets then none
    else (firstServed? earlier).or (if m.served then some m else none) := by
  simp only [firstServed?, sinceReset, List.rtakeWhile_concat]
  cases hr : m.event.resets with
  | true => rfl
  | false =>
    simp only [Bool.not_false, if_true, List.find?_append, Bool.false_eq_true, if_false,
      List.find?_singleton]

/-- What serves a request behind others: the settings that are kept or, if there are none, what is
loaded now. -/
theorem KeepsTo.asked (h : KeepsTo m.before earlier) (asks : m.event.asks = true) :
    (∃ settings, (firstServed? (earlier ++ [m])).map loaded = some (.ok settings) ∧
        m.after.host.settings = some settings ∧
        (Host.currentSettings m.before.surroundings m.before.host).2.result = .ok settings) ∨
      ∃ fault, m.loaded = .error fault ∧ firstServed? (earlier ++ [m]) = none ∧
        m.after.host.settings = none ∧
        (Host.currentSettings m.before.surroundings m.before.host).2.result = .error fault := by
  obtain ⟨host, served⟩ := m.asked asks
  rw [firstServed?_concat, Program.Event.resets_of_asks asks, if_neg Bool.false_ne_true, host, served]
  cases kept : m.before.host.settings with
  | some settings =>
    -- an earlier request was the first, and what is around by now is not looked at
    obtain ⟨same, result⟩ := Host.currentSettings_of_kept (s := m.before.surroundings) kept
    obtain ⟨first, found, what⟩ := Option.map_eq_some_iff.mp (h.symm.trans (congrArg _ kept))
    refine .inl ⟨settings, ?_, by rw [same, kept], result⟩
    rw [found, Option.some_or, Option.map_some, what]
  | none =>
    have unserved : firstServed? earlier = none :=
      Option.map_eq_none_iff.mp (h.symm.trans (congrArg _ kept))
    rw [unserved, Option.none_or]
    -- this request is the first to be served, if the settings can be loaded now
    cases now : (Settings.load m.before.surroundings none).result with
    | ok settings =>
      obtain ⟨same, result⟩ := Host.currentSettings_of_loaded kept now
      refine .inl ⟨settings, ?_, congrArg Host.settings same, result⟩
      rw [result]
      exact congrArg some now
    | error fault =>
      obtain ⟨same, result⟩ := Host.currentSettings_of_fault kept now
      refine .inr ⟨fault, now, ?_, by rw [same, kept], result⟩
      rw [result]
      rfl

/-- An event keeps a program to the moments up to it. -/
theorem KeepsTo.step (h : KeepsTo m.before earlier) : KeepsTo m.after (earlier ++ [m]) := by
  rw [KeepsTo]
  cases asks : m.event.asks with
  | true =>
    obtain ⟨settings, first, kept, -⟩ | ⟨fault, -, unserved, kept, -⟩ := h.asked asks
    · rw [first, kept, Option.map_some]
    · rw [unserved, kept, Option.map_none, Option.map_none]
  | false =>
    have unserved : m.served = false := by rw [served, asks, Bool.false_and]
    rw [settings_of_unasked asks, firstServed?_concat, unserved, if_neg Bool.false_ne_true,
      Option.or_none]
    split
    · rfl
    · exact h

/-- How an event is answered behind others. -/
structure Answered (earlier : List Moment) (m : Moment) : Prop where
  /-- Settings that are given are what was loaded for the first request served since the reset. -/
  given : m.event = .askSettings → ∀ settings, m.answer = .settings (.ok settings) ↔
    (firstServed? (earlier ++ [m])).map loaded = some (.ok settings)
  /-- So is what a policy is made from that is not told how strict to be. -/
  policy : ∀ source, m.event = .makePolicy .null source → ∀ p, m.answer = .policy (.ok p) ↔
    ∃ settings, (firstServed? (earlier ++ [m])).map loaded = some (.ok settings) ∧
      p = ⟨.bool settings.guardStrict, source⟩
  /-- A request is not served if the settings are not kept and cannot be loaded: then none are. -/
  unserved : ∀ fault, m.answer = .settings (.error fault) ∨ m.answer = .policy (.error fault) →
    m.loaded = .error fault ∧ firstServed? (earlier ++ [m]) = none ∧ m.after.host.settings = none
  /-- Where none has been served, the next one has the settings loaded. -/
  afresh : m.event = .askSettings → firstServed? earlier = none → m.answer = .settings m.loaded
  /-- A policy that is told how strict to be is so, with any settings and with none. -/
  said : ∀ strict source, strict ≠ .null → m.event = .makePolicy strict source →
    m.answer = .policy (.ok ⟨strict, source⟩) ∧ m.after.host = m.before.host
  /-- A policy that is made comes behind those that there are, which stay as they are. -/
  policies : m.after.policies = m.before.policies ++ match m.answer with
    | .policy (.ok p) => [p]
    | _ => []

theorem after_policies (m : Moment) : m.after.policies = m.before.policies ++ match m.answer with
    | .policy (.ok p) => [p]
    | _ => [] := by
  obtain ⟨x, event⟩ := m
  cases event with
  | makePolicy strict source =>
    simp only [after, answer, Program.Event.perform]
    cases (Policy.make x.surroundings strict source x.host).2.result <;> rfl
  | _ => exact (List.append_nil _).symm

theorem answer_of_askSettings (he : m.event = .askSettings) : m.answer =
    .settings (Host.currentSettings m.before.surroundings m.before.host).2.result := by
  rw [answer, he]
  rfl

theorem answer_of_makePolicy {source : Source} (he : m.event = .makePolicy .null source) :
    m.answer = .policy ((Host.currentSettings m.before.surroundings m.before.host).2.result.map
      fun settings => ⟨.bool settings.guardStrict, source⟩) := by
  rw [answer, he, ← Policy.make_null.2]
  rfl

/-- A request that is refused is one for the settings, and what it is refused with. -/
theorem asked_of_refused {fault : SettingsFault}
    (refused : m.answer = .settings (.error fault) ∨ m.answer = .policy (.error fault)) :
    m.event.asks = true ∧
      (Host.currentSettings m.before.surroundings m.before.host).2.result = .error fault := by
  obtain ⟨x, event⟩ := m
  cases event with
  | askSettings =>
    refine ⟨rfl, ?_⟩
    rcases refused with refused | refused
    · exact Program.Answer.settings.inj refused
    · cases refused
  | makePolicy strict source =>
    have made : (Policy.make x.surroundings strict source x.host).2.result = .error fault := by
      rcases refused with refused | refused
      · cases refused
      · exact Program.Answer.policy.inj refused
    by_cases said : strict = .null
    · subst said
      rw [Policy.make_null.2] at made
      refine ⟨rfl, ?_⟩
      cases hs : (Host.currentSettings x.surroundings x.host).2.result with
      | ok settings =>
        rw [hs] at made
        cases made
      | error e =>
        rw [hs] at made
        exact congrArg Except.error (Except.error.inj made)
    · rw [Policy.make_of_said said] at made
      cases made
  | change c => rcases refused with refused | refused <;> cases refused
  | resetSettings => rcases refused with refused | refused <;> cases refused

/-- A program that keeps to what was before answers so. -/
theorem KeepsTo.answered (h : KeepsTo m.before earlier) : m.Answered earlier where
  given he settings := by
    rw [answer_of_askSettings he]
    obtain ⟨kept, first, -, result⟩ | ⟨fault, -, unserved, -, result⟩ := h.asked (by rw [he]; rfl)
    · rw [result, first]
      simp
    · rw [result, unserved]
      simp
  policy source he p := by
    rw [answer_of_makePolicy he]
    obtain ⟨kept, first, -, result⟩ | ⟨fault, -, unserved, -, result⟩ := h.asked (by rw [he]; rfl)
    · rw [result, first]
      simp [Except.map, eq_comm]
    · rw [result, unserved]
      simp [Except.map]
  unserved fault := by
    intro refused
    obtain ⟨asks, failed⟩ := asked_of_refused refused
    obtain ⟨kept, first, -, result⟩ | ⟨fault', now, unserved, kept, result⟩ := h.asked asks
    · cases failed.symm.trans result
    · cases failed.symm.trans result
      exact ⟨now, unserved, kept⟩
  afresh he unserved := by
    have none : m.before.host.settings = none := by
      rw [KeepsTo, unserved] at h
      exact Option.map_eq_none_iff.mp h
    rw [answer_of_askSettings he]
    cases now : m.loaded with
    | ok settings => rw [(Host.currentSettings_of_loaded none now).2]
    | error fault => rw [(Host.currentSettings_of_fault none now).2]
  said strict source said he := by
    rw [answer, after, he]
    show _ = _ ∧ _
    simp only [Program.Event.perform, Policy.make_of_said said, Noted.ok, and_self]
  policies := m.after_policies

end Moment

/-! ### All moments -/

namespace Program

variable {x : Program} {ms earlier later : List Moment} {m : Moment} {events : List Event}

/-- Each event happens to a program that keeps to the moments in front of it. -/
theorem keepsTo (h : Moment.KeepsTo x ms) (split : x.moments events = earlier ++ m :: later) :
    Moment.KeepsTo m.before (ms ++ earlier) := by
  induction events generalizing x ms earlier with
  | nil => simp [moments] at split
  | cons e rest ih =>
    cases earlier with
    | nil =>
      obtain ⟨rfl, -⟩ := List.cons.inj split
      rwa [List.append_nil]
    | cons first between =>
      obtain ⟨rfl, behind⟩ := List.cons.inj split
      -- the event joins the moments in front, and the invariant goes with them
      have after : Moment.KeepsTo (e.perform x).1 (ms ++ [⟨x, e⟩]) :=
        Moment.KeepsTo.step (m := ⟨x, e⟩) h
      rw [List.append_cons]
      exact ih after behind

theorem policies_prefix (x : Program) (events : List Event) :
    x.policies <+: (x.after events).policies := by
  induction events generalizing x with
  | nil => exact List.prefix_rfl
  | cons e rest ih =>
    have one : x.policies <+: (e.perform x).1.policies := by
      rw [show (e.perform x).1.policies = _ from Moment.after_policies ⟨x, e⟩]
      exact List.prefix_append _ _
    exact one.trans (ih _)

/-- What there is of policies after an event there is at the end. -/
theorem policies_prefix_of_split (split : x.moments events = earlier ++ m :: later) :
    m.after.policies <+: (x.after events).policies := by
  induction events generalizing x earlier with
  | nil => simp [moments] at split
  | cons e rest ih =>
    cases earlier with
    | nil =>
      obtain ⟨rfl, -⟩ := List.cons.inj split
      exact policies_prefix _ rest
    | cons first between => exact ih (List.cons.inj split).2

end Program

/-- Whatever changes around a program, its settings are those that were loaded for the first request
served since they were reset, and policies that are made stay as they are. -/
theorem settings_kept_until_reset (s : Surroundings) (events : List Program.Event) :
    let moments := (Program.start s).moments events
    ∀ earlier m later, moments = earlier ++ m :: later →
      m.Answered earlier ∧ m.after.policies <+: ((Program.start s).after events).policies := by
  intro moments earlier m later split
  have start : Moment.KeepsTo (Program.start s) [] := rfl
  have before : Moment.KeepsTo m.before earlier := Program.keepsTo start split
  exact ⟨before.answered, Program.policies_prefix_of_split split⟩

/-- Variables that say how strict to be. -/
def strictness (raw : String) : Surroundings := ⟨⟨[("PERIMETER_GUARD_STRICT", raw)]⟩, .empty⟩

/-- A program is told not to be strict and makes a policy, then it is told to be strict and asks for
its settings. -/
def hesitantEvents : List Program.Event :=
  [.change (.setVariable "PERIMETER_GUARD_STRICT" "false"), .makePolicy .null .shared,
    .change (.setVariable "PERIMETER_GUARD_STRICT" "true"), .askSettings]

theorem hesitantEvents_lenient :
    let moments := (Program.start ⟨⟨[]⟩, .empty⟩).moments hesitantEvents
    ∃ earlier m, moments = earlier ++ [m] ∧ m.loaded = .ok Settings.default ∧
      m.answer = .settings (.ok { Settings.default with guardStrict := false }) := by
  intro moments
  have strict : (Settings.load (strictness "true") none).result = .ok Settings.default := by
    rw [strictness, Settings.result_load_of_noFiles rfl]
    decide +kernel
  have lenient : (Settings.load (strictness "false") none).result =
      .ok { Settings.default with guardStrict := false } := by
    rw [strictness, Settings.result_load_of_noFiles rfl]
    decide +kernel
  have served : moments[1].served = true := by
    show Moment.served ⟨⟨strictness "false", .fresh, []⟩, .makePolicy .null .shared⟩ = true
    rw [(Moment.asked rfl).2, (Host.currentSettings_of_loaded rfl lenient).2]
    rfl
  have split : moments = moments.take 3 ++ [moments[3]] := rfl
  have first : Moment.firstServed? (moments.take 3 ++ [moments[3]]) = some moments[1] := by
    show List.find? Moment.served (moments[0] :: moments[1] :: _) = some moments[1]
    rw [List.find?_cons_of_neg (by decide), List.find?_cons_of_pos served]
  refine ⟨moments.take 3, moments[3], split, strict, ?_⟩
  have answered := (settings_kept_until_reset _ hesitantEvents _ _ _ split).1
  -- what counts is what was loaded for the policy, before the variable was set again
  rw [answered.given rfl, first]
  exact congrArg some lenient

end DataContract
