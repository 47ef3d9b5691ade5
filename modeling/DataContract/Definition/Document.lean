/-
Loading definition documents into a registry.

A document is checked against the format first. Then its contracts are converted and registered one
by one, each completely, in the document's order; at the first that cannot be, loading stops, and
what was registered until then stays.
-/
import DataContract.Definition.Format
import DataContract.Definition.Conversion

namespace DataContract

/-- Why a document is not loaded. -/
inductive LoadFault where
  /-- The document breaks its format, or a contract in it breaks a rule. -/
  | malformed (m : Malformed)
  /-- It breaks its format, but what is wrong cannot be reported. -/
  | unwritable (u : UnwritableReport)
  /-- A contract fails to be converted for a reason that is not the document's. -/
  | conversion (f : ConversionFault)
  deriving Inhabited

/-- What the refusal of a document reads. -/
def LoadFault.message : LoadFault → String
  | .malformed m => m.message
  | .unwritable u => u.message
  | .conversion f => f.message

namespace Definition

/-- Whether a fault of conversion is one of the document, to be reported with its source. -/
def isReported : ConversionFault → Bool
  | .declaration .repetitionTooLarge => false
  | .declaration _ => true
  | .notIterable _ => true
  | _ => false

/-- The model that a fault of conversion is about. -/
def modelAtFault? : ConversionFault → Option ModelFault
  | .declaration (.model m) => some m
  | _ => none

/-- The refusal of a document for one of its contracts. -/
def refused (source : String) (name : Value) (text : String) (cause : Option ModelFault) :
    LoadFault :=
  match name.display with
  | .ok shown => .malformed ⟨source, ["contract " ++ shown ++ ": " ++ text], cause⟩
  | .error _ => .unwritable .tooManyDigits

/-- A fault of conversion as one of loading. -/
def refusedConversion (source : String) (name : Value) (f : ConversionFault) : LoadFault :=
  if isReported f then refused source name f.message (modelAtFault? f) else .conversion f

/-- Converts and registers one contract. -/
def loadContract (source : String) (name fields : Value) : Action Registry LoadFault Unit := do
  let c ← Action.noted ((contractOf name fields).mapError (refusedConversion source name))
  Action.mapError (fun e => refused source name e.message none) (Registry.registerContract c false)

/-- Converts and registers the contracts under their names, in order. -/
def loadContracts (source : String) : List (Value × Value) → Action Registry LoadFault Unit
  | [] => Action.ok ()
  | (name, fields) :: rest => do
    loadContract source name fields
    loadContracts source rest

/-- The contracts of a document that follows the format, by their names. -/
def contractEntries (document : Value) : List (Value × Value) :=
  let entries := document.asEntries?.getD []
  ((Value.lookup? (.text "contracts") entries).bind Value.asEntries?).getD []

/-- Loads a document into the registry. -/
def load (document : Value) (source : String) : Action Registry LoadFault Unit :=
  match check document source with
  | .error u => Action.fail (.unwritable u)
  | .ok (some m) => Action.fail (.malformed m)
  | .ok none => loadContracts source (contractEntries document)

end Definition

/-- The source of a document that comes from no file. -/
def Definition.noSource : String := "<document>"

end DataContract
