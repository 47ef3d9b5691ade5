/-
Registries: contracts by name, in the order of their registration.

Registering a name again is refused unless replacing is asked for, and then the contract keeps its
place. A refused registration changes nothing; a list of registrations stops at the first that is
refused.
-/
import DataContract.Contract.Basic
import DataContract.Journal.Action

namespace DataContract

/-- Contracts under their names, in order. -/
structure Registry where
  entries : List (String × Contract)
  deriving Inhabited

/-- Why a registration is refused. -/
inductive RegistrationFault where
  | notContract (type : String)
  | alreadyRegistered (name : String)
  deriving DecidableEq, Inhabited

/-- What the refusal of a registration reads. -/
def RegistrationFault.message : RegistrationFault → String
  | .notContract type => "expected Contract, got " ++ type
  | .alreadyRegistered name => "contract " ++ name ++ " is already registered"

/-- Why a look-up fails. -/
inductive LookupFault where
  | notFound (name : Value)
  | unhashable (type : String)
  deriving Inhabited

/-- What the failure of a look-up reads. -/
def LookupFault.message : LookupFault → Except TooManyDigits String
  | .notFound name => do
    let text ← name.display
    return "contract " ++ text ++ " not found"
  | .unhashable type => .ok ("unhashable type: '" ++ type ++ "'")

namespace Registry

/-- A registry with no contract. -/
def empty : Registry := ⟨[]⟩

/-- The names, in order. -/
def names (r : Registry) : List String :=
  r.entries.map (·.1)

/-- The contracts, in order. -/
def contracts (r : Registry) : List Contract :=
  r.entries.map (·.2)

/-- How many contracts there are. -/
def size (r : Registry) : Nat :=
  r.entries.length

/-- The contract under a name. -/
def find? (r : Registry) (name : String) : Option Contract :=
  (r.entries.find? (·.1 = name)).map (·.2)

/-- Puts a contract under its name: in the place of the one that is there, or last. -/
def put (r : Registry) (c : Contract) : Registry :=
  if (r.find? c.name).isSome then
    ⟨r.entries.map fun e => if e.1 = c.name then (e.1, c) else e⟩
  else ⟨r.entries ++ [(c.name, c)]⟩

/-- The entry that a registration writes. -/
def registered (c : Contract) : LogEntry :=
  .plain .registry .debug
    ("Registered contract " ++ c.name ++ " (" ++ toString c.fields.length ++ " fields)")

/-- Registers a contract. -/
def registerContract (c : Contract) (replacing : Bool) : Action Registry RegistrationFault Unit :=
  do
    let r ← Action.state
    if (r.find? c.name).isSome && !replacing then Action.fail (.alreadyRegistered c.name)
    else
      Action.replace (r.put c)
      Action.note (registered c)

/-- Registers a value, which must be a contract. -/
def register (v : Value) (replacing : Bool) : Action Registry RegistrationFault Contract :=
  match Contract.ofValue? v with
  | some c => do
    registerContract c replacing
    return c
  | none => Action.fail (.notContract v.typeName)

/-- Registers values in order. -/
def extend : List Value → Bool → Action Registry RegistrationFault Unit
  | [], _ => Action.ok ()
  | v :: rest, replacing => do
    let _ ← register v replacing
    extend rest replacing

/-- A registry of the values in order. -/
def ofValues (values : List Value) : Noted RegistrationFault Registry :=
  let (r, done) := extend values false empty
  ⟨done.result.map fun _ => r, done.notes⟩

/-- A registry of contracts in order. -/
def ofContracts (contracts : List Contract) : Noted RegistrationFault Registry :=
  ofValues (contracts.map Contract.toValue)

/-- The contract under a value that serves as a name. -/
def get (r : Registry) (name : Value) : Except LookupFault (Option Contract) :=
  match name.unhashable? with
  | some type => .error (.unhashable type)
  | none => .ok (name.asText?.bind r.find?)

/-- The contract under a name, which must be there. -/
def require (r : Registry) (name : Value) : Except LookupFault Contract :=
  match r.get name with
  | .error e => .error e
  | .ok (some c) => .ok c
  | .ok none => .error (.notFound name)

/-- Whether there is a contract under a value that serves as a name. -/
def contains (r : Registry) (name : Value) : Except LookupFault Bool :=
  match r.get name with
  | .error e => .error e
  | .ok c => .ok c.isSome

/-- The registry as it shows itself: its names. -/
def text (r : Registry) : String :=
  "ContractRegistry([" ++ ", ".intercalate (r.names.map Text.quoted) ++ "])"

/-- The contracts that an iteration yields when each turn empties the registry, and the registry
afterwards: the iteration has taken down what there was. -/
def drain (r : Registry) : List Contract × Registry :=
  (r.contracts, if r.contracts.isEmpty then r else empty)

end Registry

end DataContract
