/-
Guards: a function that checks one of its arguments against a contract before it runs.

A guard watches the parameter it names or, if it names none, the first one that is not the receiver
of a method. At every call the arguments are assigned to the parameters, the watched one is put
before a policy, and the function runs only if the policy answers. It then sees the arguments that
were assigned.
-/
import DataContract.Guard.Policy
import DataContract.Guard.Signature

namespace DataContract

/-- What a method is called on: the object that is passed for it, and the holder whose contracts it
has. -/
structure Receiver where
  object : Handle
  holder : HolderKey
  deriving DecidableEq, Inhabited

/-- A function: where it is declared, what is attached to its module if that can be found, and its
parameters. -/
structure Function where
  name : String
  qualifiedName : String
  moduleName : String
  module : Option (Option Holding)
  documentation : String
  signature : Signature
  receiver : Option Receiver
  deriving Inhabited

/-- Where a guard looks up its contract. -/
inductive GuardSource where
  | given (source : Source)
  /-- What the function belongs to: the receiver of a method, or the module. -/
  | owner
  deriving Inhabited

/-- What a guard is told: the contract, where to look it up, the parameter to watch, and whether it
is strict; null if nothing is said about that. -/
structure Guard where
  contract : Value
  source : GuardSource
  argument : Option String
  strict : Value
  deriving Inhabited

/-- Why a function cannot be guarded. -/
inductive GuardingFault where
  | nothingToGuard (function : String)
  | noParameter (function name : String)
  | tooManyDigits
  deriving DecidableEq, Inhabited

/-- What the refusal to guard a function reads. -/
def GuardingFault.message : GuardingFault → String
  | .nothingToGuard function => function ++ " has no parameter to guard"
  | .noParameter function name => function ++ " has no parameter named '" ++ name ++ "'"
  | .tooManyDigits => TooManyDigits.message

/-- A function with the guard set on it and the parameter that is watched. -/
structure GuardedFunction where
  function : Function
  guard : Guard
  watched : String
  deriving Inhabited

/-- Why a guarded call does not reach the function. -/
inductive CallFault where
  | binding (fault : BindingFault)
  | settings (fault : SettingsFault)
  | enforcement (fault : EnforcementFault)
  deriving Inhabited

namespace Function

/-- The function as a place that is guarded. -/
def target (f : Function) : String :=
  f.moduleName ++ "." ++ f.qualifiedName

/-- The names that the receivers of methods bear. -/
def receiverNames : List String := ["self", "cls"]

/-- The parameter that a guard watches if it names none. -/
def firstParameter? (f : Function) : Option String :=
  (f.signature.find? fun p => !receiverNames.contains p.name && p.kind.isSingle).map (·.name)

/-- Whether there is a parameter with a name. -/
def hasParameter (f : Function) (name : String) : Bool :=
  f.signature.any (·.name = name)

/-- The arguments of a call with the receiver, if there is one, before the others. -/
def positions (f : Function) (arguments : List Value) : List Argument :=
  (f.receiver.map fun r => Argument.made (.handle r.object)).toList ++
    arguments.map Argument.passed

/-- The contracts of the function's module, or those that all share if it cannot be found. -/
def moduleSource (f : Function) : Source :=
  match f.module with
  | none => .shared
  | some own => .module own

/-- The contracts of an object. -/
def sourceOf (f : Function) (v : Value) : Source :=
  match v, f.receiver with
  | .handle h, some r => if h = r.object then .holder r.holder else .value v
  | v, _ => .ofValue v

/-- The contracts of what the function belongs to, by the arguments of a call. -/
def ownerSource (f : Function) (assigned : NamedArguments) : Source :=
  match receiverNames.findSome? assigned.argument? with
  | some a => f.sourceOf a.value
  | none => f.moduleSource

end Function

namespace Guard

/-- The parameter that a guard watches. -/
def watched (g : Guard) (f : Function) : Except GuardingFault String :=
  let asked := (g.argument.filter (· ≠ "")).orElse fun _ => f.firstParameter?
  match asked with
  | none => .error (.nothingToGuard f.qualifiedName)
  | some name =>
    if f.hasParameter name then .ok name else .error (.noParameter f.qualifiedName name)

/-- Sets a guard on a function. -/
def setOn (g : Guard) (f : Function) : Noted GuardingFault GuardedFunction := do
  let watched ← Noted.of (g.watched f)
  let contract ← Noted.of (g.contract.display.mapError fun _ => GuardingFault.tooManyDigits)
  Noted.note (.plain .guard .debug
    ("Guarding " ++ f.target ++ " with contract " ++ contract))
  return ⟨f, g, watched⟩

/-- Where a guard looks up its contract at a call. -/
def sourceAt (g : Guard) (f : Function) (assigned : NamedArguments) : Source :=
  match g.source with
  | .given source => source
  | .owner => f.ownerSource assigned

end Guard

namespace GuardedFunction

/-- The contract that is enforced on a function's watched argument. -/
def contract (g : GuardedFunction) : Value :=
  g.guard.contract

/-- Puts the watched argument before the policy; the arguments to go on with. -/
def check (g : GuardedFunction) (s : Surroundings) (assigned : NamedArguments) :
    Action Host CallFault NamedArguments := do
  let policy ← Action.mapError CallFault.settings
    (Policy.make s g.guard.strict (g.guard.sourceAt g.function assigned))
  match assigned.argument? g.watched with
  | none => return assigned
  | some a =>
    let v ← Action.mapError CallFault.enforcement
      (policy.enforce g.contract a.value (.text g.function.target))
    return assigned.put g.watched { a with value := v }

/-- Calls a guarded function; what the function sees, if it runs. -/
def call (g : GuardedFunction) (s : Surroundings) (arguments : List Value)
    (named : List (String × Value)) : Action Host CallFault NamedArguments := do
  let signature := g.function.signature
  let passed := named.map fun (name, v) => (name, Argument.passed v)
  let assigned ← Action.of ((signature.assign (g.function.positions arguments) passed).mapError
    CallFault.binding)
  let checked ← g.check s assigned
  let (positions, names) := signature.spread checked
  Action.of ((signature.assign positions names).mapError CallFault.binding)

end GuardedFunction

end DataContract
