/-
All models by name: reading one from a value, and setting one of its parts afterwards.

Models cannot be changed once they are read, the settings apart.
-/
import DataContract.Reading.Contract
import DataContract.Reading.Outcome
import DataContract.Settings.Basic

namespace DataContract

/-- The models that can be read. -/
inductive Model where
  | listOf
  | constraint (k : ConstraintKind)
  | anyConstraint
  | field
  | contract
  | violation
  | outcome
  | settings
  deriving DecidableEq, Inhabited

/-- What was read. -/
inductive AnyModel where
  | listOf (item : FieldType)
  | constraint (c : Constraint)
  | field (f : Field)
  | contract (c : Contract)
  | violation (v : Violation)
  | outcome (r : ValidationResult)
  | settings (s : Settings)
  deriving Inhabited

/-- Why a part of a model cannot be set. -/
inductive AssignmentFault where
  | frozen (fault : ModelFault)
  | noField (model name : String)
  deriving DecidableEq, Inhabited

/-- What the refusal of an assignment reads. -/
def AssignmentFault.message : AssignmentFault → String
  | .frozen fault => fault.headline
  | .noField model name => "\"" ++ model ++ "\" object has no field \"" ++ name ++ "\""

namespace Model

/-- The title of a model in refusals. -/
def title : Model → String
  | .listOf => "ListOf"
  | .constraint k => Constraint.modelName k
  | .anyConstraint => "tagged-union[" ++
      ",".intercalate (ConstraintKind.all.map Constraint.modelName) ++ "]"
  | .field => "ContractField"
  | .contract => "Contract"
  | .violation => "Violation"
  | .outcome => "ValidationResult"
  | .settings => "Settings"

/-- All models of one kind. -/
def all : List Model :=
  [.listOf, .field, .contract, .violation, .outcome, .settings] ++
    ConstraintKind.all.map .constraint

/-- The model with a name; `Constraint` is a constraint of whatever kind the value says. -/
def ofName? (s : String) : Option Model :=
  if s = "Constraint" then some .anyConstraint else all.find? (·.title = s)

/-- Reads a model from a value. -/
def read (m : Model) (v : Value) : Reading AnyModel :=
  match m with
  | .listOf =>
    (Reading.listType v).map fun t => match t with
      | .listOf item => .listOf item
      | t => .listOf t
  | .constraint k => (Reading.constraintOf k v).map .constraint
  | .anyConstraint => (Reading.constraint v).map .constraint
  | .field => (Reading.field v).map .field
  | .contract => (Reading.contract v).map .contract
  | .violation => (Reading.violation v).map .violation
  | .outcome => (Reading.outcome v).map .outcome
  | .settings => (Reading.settings v).map .settings

end Model

namespace AnyModel

/-- The name of the model that was read. -/
def name : AnyModel → String
  | .listOf _ => Model.listOf.title
  | .constraint c => Constraint.modelName c.kind
  | .field _ => Model.field.title
  | .contract _ => Model.contract.title
  | .violation _ => Model.violation.title
  | .outcome _ => Model.outcome.title
  | .settings _ => Model.settings.title

/-- Whether a part of this name can be set: names that begin with an underscore name no part and are
free, all others are those of the settings. -/
def assign (m : AnyModel) (part : String) : Except AssignmentFault Unit :=
  if part.startsWith "_" then .ok ()
  else
    match m with
    | .settings _ =>
      if SettingKey.all.any (·.name = part) then .ok () else .error (.noField m.name part)
    | m => .error (.frozen ⟨m.name, [⟨[.name part], .frozen⟩]⟩)

end AnyModel

end DataContract
