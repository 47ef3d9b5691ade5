/-
Signatures: the parameters of a function, and how the arguments of a call are assigned to them.

A call passes arguments by position and by name. Those by position go to the parameters in order;
what is left of either kind goes to the parameters that collect the rest, if there are such. A
parameter without an argument takes its default, or nothing at all if it collects the rest.

* `Signature.assign` — the argument of every parameter, for a call that fits;
* `Signature.spread` — arguments assigned to parameters, as a call passes them.
-/
import DataContract.Value.Equality

namespace DataContract

/-- The kinds of parameter. -/
inductive ParameterKind where
  /-- Takes an argument by position only. -/
  | positional
  /-- Takes an argument by position or by name. -/
  | normal
  /-- Collects the remaining arguments by position. -/
  | restPositional
  /-- Takes an argument by name only. -/
  | named
  /-- Collects the remaining arguments by name. -/
  | restNamed
  deriving DecidableEq, Inhabited

namespace ParameterKind

/-- Whether a parameter takes one argument for itself. -/
def isSingle : ParameterKind → Bool
  | .restPositional => false
  | .restNamed => false
  | _ => true

/-- Whether a parameter takes arguments by position. -/
def takesPosition : ParameterKind → Bool
  | .named => false
  | .restNamed => false
  | _ => true

end ParameterKind

/-- A parameter; a default if it has one. -/
structure Parameter where
  name : String
  kind : ParameterKind
  default : Option Value
  deriving Inhabited

/-- An argument: its value, and whether it is the very one that a caller passed. -/
structure Argument where
  value : Value
  isPassed : Bool
  deriving Inhabited

namespace Argument

/-- The argument that a caller passes. -/
def passed (v : Value) : Argument := ⟨v, true⟩

/-- The argument that is made for a parameter. -/
def made (v : Value) : Argument := ⟨v, false⟩

end Argument

/-- Arguments by name. -/
abbrev NamedArguments := List (String × Argument)

/-- The parameters of a function, in order. -/
abbrev Signature := List Parameter

/-- Why the arguments of a call do not fit the parameters. -/
inductive BindingFault where
  | tooMany
  | missing (name : String)
  | twice (name : String)
  | byPositionOnly (name : String)
  | unexpected (name : String)
  deriving DecidableEq, Inhabited

/-- What the refusal of a call reads. -/
def BindingFault.message : BindingFault → String
  | .tooMany => "too many positional arguments"
  | .missing name => "missing a required argument: " ++ Text.quoted name
  | .twice name => "multiple values for argument " ++ Text.quoted name
  | .byPositionOnly name =>
    Text.quoted name ++ " parameter is positional only, but was passed as a keyword"
  | .unexpected name => "got an unexpected keyword argument " ++ Text.quoted name

namespace NamedArguments

/-- The argument under a name. -/
def argument? (l : NamedArguments) (name : String) : Option Argument :=
  (List.find? (·.1 = name) l).map (·.2)

/-- Whether there is an argument under a name. -/
def has (l : NamedArguments) (name : String) : Bool :=
  (l.argument? name).isSome

/-- The arguments but the one under a name. -/
def without (l : NamedArguments) (name : String) : NamedArguments :=
  l.filter (·.1 ≠ name)

/-- Puts an argument under a name: in the place of the one that is there, or last. -/
def put (l : NamedArguments) (name : String) (a : Argument) : NamedArguments :=
  if l.has name then l.map fun e => if e.1 = name then (name, a) else e else l ++ [(name, a)]

/-- Arguments as a map. -/
def toValue (l : NamedArguments) : Value :=
  .map (l.map fun (name, a) => (.text name, a.value))

/-- The arguments that a map holds under texts. -/
def ofValue (v : Value) : NamedArguments :=
  (v.asEntries?.getD []).filterMap fun (k, v) => k.asText?.map (·, .made v)

end NamedArguments

namespace Signature

/-- The parameters that arguments by position are given to, and those that remain. -/
def bindPositions (named : NamedArguments) :
    Signature → List Argument → Except BindingFault (NamedArguments × Signature)
  | [], [] => .ok ([], [])
  | [], _ :: _ => .error .tooMany
  | p :: rest, [] =>
    if p.kind = .restPositional then .ok ([], rest)
    else if named.has p.name then
      if p.kind = .positional then .error (.byPositionOnly p.name) else .ok ([], p :: rest)
    else if p.kind = .restNamed || p.default.isSome then .ok ([], p :: rest)
    else .error (.missing p.name)
  | p :: rest, a :: others =>
    if !p.kind.takesPosition then .error .tooMany
    else if p.kind = .restPositional then
      .ok ([(p.name, .made (.tuple ((a :: others).map (·.value))))], rest)
    else if named.has p.name && p.kind ≠ .positional then .error (.twice p.name)
    else do
      let (bound, remaining) ← bindPositions named rest others
      return ((p.name, a) :: bound, remaining)

/-- The parameters that arguments by name are given to, and the arguments that remain. -/
def bindNames : Signature → NamedArguments → Except BindingFault (NamedArguments × NamedArguments)
  | [], named => .ok ([], named)
  | p :: rest, named =>
    if !p.kind.isSingle then bindNames rest named
    else
      match named.argument? p.name with
      | none => if p.default.isNone then .error (.missing p.name) else bindNames rest named
      | some a =>
        if p.kind = .positional then .error (.byPositionOnly p.name)
        else do
          let (bound, remaining) ← bindNames rest (named.without p.name)
          return ((p.name, a) :: bound, remaining)

/-- What becomes of the arguments by name that no parameter takes for itself. -/
def collectNames (s : Signature) (named : NamedArguments) : Except BindingFault NamedArguments :=
  match named, s.reverse.find? (·.kind = .restNamed) with
  | [], _ => .ok []
  | _ :: _, some p => .ok [(p.name, .made named.toValue)]
  | (name, _) :: _, none => .error (.unexpected name)

/-- The parameters that arguments are given to, with their arguments. -/
def bind (s : Signature) (positions : List Argument) (named : NamedArguments) :
    Except BindingFault NamedArguments := do
  let (first, remaining) ← bindPositions named s positions
  let (second, leftover) ← bindNames remaining named
  let last ← collectNames remaining leftover
  return first ++ second ++ last

/-- The argument of a parameter that none is given to; none if it has no default. -/
def defaultOf (p : Parameter) : Option Argument :=
  match p.default, p.kind with
  | some v, _ => some (.made v)
  | none, .restPositional => some (.made (.tuple []))
  | none, .restNamed => some (.made (.map []))
  | none, _ => none

/-- Arguments with the defaults of the parameters that have none, in the order of the parameters. -/
def complete (s : Signature) (bound : NamedArguments) : NamedArguments :=
  s.filterMap fun p => ((bound.argument? p.name).orElse fun _ => defaultOf p).map (p.name, ·)

/-- The argument of every parameter, in order. -/
def assign (s : Signature) (positions : List Argument) (named : NamedArguments) :
    Except BindingFault NamedArguments :=
  (s.bind positions named).map s.complete

/-- A parameter's argument as a call passes it by position: what was collected one by one. -/
def asPositions (p : Parameter) (a : Argument) : List Argument :=
  if p.kind = .restPositional then (a.value.asItems?.getD []).map Argument.made else [a]

/-- A parameter's argument as a call passes it by name: what was collected under its own names. -/
def asNames (p : Parameter) (a : Argument) : NamedArguments :=
  if p.kind = .restNamed then NamedArguments.ofValue a.value else [(p.name, a)]

/-- The assigned arguments that a call passes by position: those of the parameters that allow it, up
to the first parameter without an argument. -/
def spreadPositions (assigned : NamedArguments) : Signature → List Argument
  | [] => []
  | p :: rest =>
    match assigned.argument? p.name with
    | none => []
    | some a =>
      if p.kind.takesPosition then asPositions p a ++ spreadPositions assigned rest else []

/-- The assigned arguments that a call passes by name: all from where those by position end. -/
def spreadNames (assigned : NamedArguments) : Signature → NamedArguments
  | [] => []
  | p :: rest =>
    if p.kind.takesPosition && assigned.has p.name then spreadNames assigned rest
    else
      (p :: rest).flatMap fun q => ((assigned.argument? q.name).map (asNames q)).getD []

/-- Assigned arguments as a call passes them, by position as far as possible. -/
def spread (s : Signature) (assigned : NamedArguments) : List Argument × NamedArguments :=
  (spreadPositions assigned s, spreadNames assigned s)

end Signature

end DataContract
