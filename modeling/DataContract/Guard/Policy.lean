/-
Policies: what happens at a boundary to data that fails its contract.

A strict policy refuses such data; any other lets it through with a warning. Either way the decision
is counted. What strict means where nothing is said is a setting.
-/
import DataContract.Guard.Tally
import DataContract.Registry.Source
import DataContract.Settings.Loading

namespace DataContract

/-- What a running program keeps: its registries, its settings once they are loaded, and its
tally. -/
structure Host where
  store : Store
  settings : Option Settings
  tally : Tally
  deriving Inhabited

namespace Host

/-- A program that has just been started. -/
def fresh : Host := ⟨.empty, none, .empty⟩

/-- The settings of a running program. -/
def currentSettings (s : Surroundings) : Action Host SettingsFault Settings :=
  Action.zoom (·.settings) (fun h t => { h with settings := t }) (Settings.current s)

/-- An action on the registries of a running program. -/
def onStore {ε α : Type} (x : Action Store ε α) : Action Host ε α :=
  Action.zoom (·.store) (fun h t => { h with store := t }) x

/-- Counts a decision on the contract with a label. -/
def record {ε : Type} (contract : String) (d : Decision) : Action Host ε Unit :=
  Action.update fun h => { h with tally := h.tally.add contract d }

end Host

/-- How one boundary is guarded: whether it is strict, and where contracts are looked up. -/
structure Policy where
  strict : Value
  source : Source
  deriving Inhabited

/-- Why data does not get past a boundary. -/
inductive EnforcementFault where
  | refused (r : Refusal)
  | check (fault : CheckFault)
  deriving Inhabited

namespace Policy

/-- A policy that is as strict as is said or, if nothing is said, as the settings are now. -/
def make (s : Surroundings) (strict : Value) (source : Source) :
    Action Host SettingsFault Policy := do
  match strict with
  | .null =>
    let settings ← Host.currentSettings s
    return ⟨.bool settings.guardStrict, source⟩
  | strict => return ⟨strict, source⟩

/-- What a policy decides on an outcome. -/
def decide (p : Policy) (outcome : ValidationResult) : Decision :=
  if outcome.valid then .passed else if p.strict.truthy then .rejected else .warned

/-- The entry that tells of data that failed its contract; none if the data passed. -/
def entry? (d : Decision) (label : String) (name target : Value) (violations : List Violation) :
    Option (Except TooManyDigits LogEntry) :=
  let fields := [("contract", name), ("target", target), ("violations", .int violations.length)]
  let told (level : LogLevel) (message : String) : Except TooManyDigits LogEntry :=
    LogEntry.structured Component.policy.loggerName level.number message fields
  match d with
  | .passed => none
  | .rejected => some (told .info ("Contract " ++ label ++ " rejected input"))
  | .warned =>
    some (told .warning ("Contract " ++ label ++ " violated (not enforced)\n" ++ report violations))

/-- Checks data against the contract under a name, and answers with the data to go on with. -/
def enforce (p : Policy) (name data target : Value) : Action Host EnforcementFault Value := do
  let host ← Action.state
  let outcome ← Action.noted ((validate (host.store.ownerOf p.source) name data).mapError
    EnforcementFault.check)
  let label ← Action.of ((CheckFault.ofText name.display).mapError .check)
  let decision := p.decide outcome
  Host.record label decision
  match entry? decision label name target outcome.violations with
  | none => return outcome.data
  | some entry =>
    Action.note (← Action.of ((CheckFault.ofText entry).mapError .check))
    match decision with
    | .rejected => Action.fail (.refused ⟨outcome.violations, some name⟩)
    | _ => return data

end Policy

end DataContract
