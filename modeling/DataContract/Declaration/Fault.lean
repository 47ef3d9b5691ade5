/-
Why a declaration is refused.
-/
import DataContract.Reading.Contract

namespace DataContract

/-- Why a type, a constraint, a field or a contract cannot be declared. -/
inductive DeclarationFault where
  /-- No kind has this name; the text shows what was given. -/
  | unknownType (shown : String)
  /-- What was given is no spelling of a type. -/
  | unsupportedType (shown : String)
  /-- No constraint has this keyword. -/
  | unknownConstraint (keyword : String)
  /-- The values of a choice cannot be gone through. -/
  | notIterable (type : String)
  /-- A field that is no map is given fields. -/
  | fieldsOutsideMap (name : String) (type : FieldType)
  /-- A part does not fit its model. -/
  | model (fault : ModelFault)
  | repetitionTooLarge
  | tooManyDigits
  deriving DecidableEq, Inhabited

namespace DeclarationFault

/-- What the refusal reads. -/
def message : DeclarationFault → String
  | .unknownType shown => "unknown field type: " ++ shown
  | .unsupportedType shown => "unsupported field type: " ++ shown
  | .unknownConstraint keyword => "unknown constraint: " ++ keyword
  | .notIterable type => "'" ++ type ++ "' object is not iterable"
  | .fieldsOutsideMap name type =>
    "field '" ++ name ++ "' of type " ++ type.name ++ " cannot declare nested fields"
  | .model fault => fault.headline
  | .repetitionTooLarge => repetitionTooLargeText
  | .tooManyDigits => TooManyDigits.message

/-- Carries on where a model could be read. -/
def ofReading {α : Type} (title : String) (r : Reading α) : Except DeclarationFault α :=
  match r with
  | .ok a => .ok a
  | .error (.faults fs) => .error (.model ⟨title, fs⟩)
  | .error .repetitionTooLarge => .error .repetitionTooLarge

/-- Carries on where a text could be written. -/
def ofText {α : Type} (r : Except TooManyDigits α) : Except DeclarationFault α :=
  match r with
  | .ok a => .ok a
  | .error _ => .error .tooManyDigits

end DeclarationFault

end DataContract
