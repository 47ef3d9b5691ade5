/-
Owners: whatever contracts can be attached to, and finding a contract by name at one.

`Owner.get` asks what an owner holds, which may refuse what cannot be a key; `Owner.find?` is the
contract that it holds, none for an unknown name and for an owner that holds no contracts.
`validate` is validation against the contract that an owner holds under a name.
-/
import DataContract.Registry.Basic
import DataContract.Validation.Engine

namespace DataContract

/-- What is attached to an owner: a registry, or some value, which may be a map of contracts. -/
inductive Attachment where
  | registry (r : Registry)
  | value (v : Value)
  deriving Inhabited

/-- An owner: a registry, something that contracts can be attached to, such as a class or a module,
or a value. -/
inductive Owner where
  | registry (r : Registry)
  | attached (a : Option Attachment)
  | value (v : Value)
  deriving Inhabited

namespace Attachment

/-- The contract a map holds under a name; other values hold none. -/
def findIn? (v : Value) (name : String) : Option Contract :=
  v.asEntries?.bind fun entries =>
    (Value.lookup? (.text name) entries).bind Contract.ofValue?

/-- The contract under a name. -/
def find? (a : Attachment) (name : String) : Option Contract :=
  match a with
  | .registry r => r.find? name
  | .value v => findIn? v name

/-- Asks a map for what it holds under a key. -/
def getEntry (entries : List (Value × Value)) (key : Value) :
    Except LookupFault (Option Value) :=
  match key.unhashable? with
  | some type => .error (.unhashable type)
  | none => .ok (Value.lookup? key entries)

/-- Asks for the contract under a value that serves as a name. -/
def get (a : Attachment) (name : Value) : Except LookupFault (Option Contract) :=
  match a with
  | .registry r => r.get name
  | .value v =>
    match v.asEntries? with
    | none => .ok none
    | some entries => (getEntry entries name).map (·.bind Contract.ofValue?)

end Attachment

namespace Owner

/-- The contract that an owner holds under a text. -/
def findNamed? (o : Owner) (name : String) : Option Contract :=
  match o with
  | .registry r => r.find? name
  | .attached none => none
  | .attached (some a) => a.find? name
  | .value v => Attachment.findIn? v name

/-- The contract that an owner holds under a value that serves as a name. -/
def find? (o : Owner) (name : Value) : Option Contract :=
  name.asText?.bind o.findNamed?

/-- Asks an owner for the contract under a value; it is asked for texts alone. -/
def get (o : Owner) (name : Value) : Except LookupFault (Option Contract) :=
  if name.asText?.isNone then .ok none
  else
    match o with
    | .registry r => r.get name
    | .attached none => .ok none
    | .attached (some a) => a.get name
    | .value v => Attachment.get (.value v) name

end Owner

/-- The outcome for a contract that is not found. -/
def unknownContract (name : Value) : Except CheckFault ValidationResult := do
  let text ← CheckFault.ofText name.display
  return .error [⟨contractField, "contract " ++ text ++ " not found", []⟩]

/-- The entry written when data fails its contract. -/
def rejectedNote (name : Value) (violations : List Violation) :
    Except CheckFault LogEntry := do
  let text ← CheckFault.ofText name.display
  return .plain .validator .debug ("Contract " ++ text ++ " rejected data with " ++
    toString violations.length ++ " violation(s)")

/-- Validates data against the contract that an owner holds under a name. -/
def validate (o : Owner) (name data : Value) : Noted CheckFault ValidationResult :=
  match o.find? name with
  | none => .of (unknownContract name)
  | some c =>
    match data.asEntries?, c.validate data with
    | _, .error e => .fail e
    | none, .ok outcome => .ok outcome
    | some _, .ok outcome =>
      if outcome.valid then .ok outcome
      else
        match rejectedNote name outcome.violations with
        | .ok entry => do
          Noted.note entry
          return outcome
        | .error e => .fail e

end DataContract
