/-
Stores: every registry of a running program under a key, and what contracts are attached to.

Whoever holds a key sees what becomes of the registry under it, so several can share one; an action
on the registry under a key leaves every other registry as it is. A holder is something contracts
can be attached to and that passes them on to its heirs: what it holds is what is attached to
itself or, if that is nothing, to the nearest one in its line.

Attaching contracts to a holder puts them into a registry of its own. The first time that registry
is made, with the contracts of the registry that the holder has inherited.
-/
import DataContract.Registry.Lineage
import DataContract.Registry.Owner

namespace DataContract

/-- The key of a registry in a store. -/
structure RegistryKey where
  index : Nat
  deriving DecidableEq, Inhabited

/-- The key of a holder in a store. -/
structure HolderKey where
  index : Nat
  deriving DecidableEq, Inhabited

/-- What is attached to a holder: the registry under a key, or some value. -/
inductive Holding where
  | registry (key : RegistryKey)
  | value (v : Value)
  deriving Inhabited

/-- A holder: its name, those it inherits from, the nearest first, and what is attached to it. -/
structure Holder where
  name : String
  line : List HolderKey
  own : Option Holding
  deriving Inhabited

/-- Why a holder cannot inherit from others; with their names. -/
inductive LineageFault where
  | repeated (name : String)
  | contradiction (names : List String)
  deriving DecidableEq, Inhabited

/-- What the refusal to inherit reads. -/
def LineageFault.message : LineageFault → String
  | .repeated name => "duplicate base class " ++ name
  | .contradiction names =>
    "Cannot create a consistent method resolution\norder (MRO) for bases " ++ ", ".intercalate names

/-- Registries and holders by their keys, and the key of the registry that all share, once there is
one. -/
structure Store where
  registries : List Registry
  shared : Option RegistryKey
  holders : List Holder
  deriving Inhabited

namespace Store

/-- A store with nothing in it. -/
def empty : Store := ⟨[], none, []⟩

/-! Registries -/

/-- The registry under a key. -/
def registry (s : Store) (k : RegistryKey) : Registry :=
  (s.registries[k.index]?).getD .empty

/-- Puts a registry under a key that is there. -/
def put (s : Store) (k : RegistryKey) (r : Registry) : Store :=
  { s with registries := s.registries.set k.index r }

/-- Puts a registry under a key of its own. -/
def add {ε : Type} (r : Registry) : Action Store ε RegistryKey := fun s =>
  ({ s with registries := s.registries ++ [r] }, .ok ⟨s.registries.length⟩)

/-- An action on the registry under a key. -/
def within {ε α : Type} (k : RegistryKey) (x : Action Registry ε α) : Action Store ε α :=
  Action.zoom (·.registry k) (fun s r => s.put k r) x

/-- An action on the registry under a key or, if none is named, on a new one; its key. -/
def into {ε : Type} (target : Option RegistryKey) (x : Action Registry ε Unit) :
    Action Store ε RegistryKey := do
  let k ←
    match target with
    | some k => pure k
    | none => add .empty
  within k x
  return k

/-- Makes a registry of values, in order; none is made if one of them is refused. -/
def create (values : List Value) : Action Store RegistrationFault RegistryKey := do
  let r ← Action.noted (Registry.ofValues values)
  add r

/-- Makes a registry of the contracts in the registry under a key. -/
def copy (k : RegistryKey) : Action Store RegistrationFault RegistryKey := do
  let s ← Action.state
  create ((s.registry k).contracts.map Contract.toValue)

/-- The key of the registry that all share; it is made when it is first asked for. -/
def sharedKey {ε : Type} : Action Store ε RegistryKey := do
  let s ← Action.state
  match s.shared with
  | some k => return k
  | none =>
    let k ← add .empty
    Action.update fun s => { s with shared := some k }
    return k

/-- Forgets the registry that all share, so that another is made when it is asked for. -/
def forgetShared {ε : Type} : Action Store ε Unit :=
  Action.update fun s => { s with shared := none }

/-! Holders -/

/-- The holder under a key. -/
def holder (s : Store) (h : HolderKey) : Holder :=
  (s.holders[h.index]?).getD ⟨"", [], none⟩

/-- A holder and those it inherits from, the nearest first. -/
def line (s : Store) (h : HolderKey) : List HolderKey :=
  h :: (s.holder h).line

/-- The line of a holder that inherits from others. -/
def lineOf (s : Store) (parents : List HolderKey) : Except LineageFault (List HolderKey) :=
  match Lineage.repeated? parents with
  | some h => .error (.repeated (s.holder h).name)
  | none =>
    match Lineage.merge (parents.map s.line ++ [parents]) with
    | .ok keys => .ok keys
    | .error lists =>
      let heads := (lists.filterMap List.head?).eraseDups
      .error (.contradiction (heads.map fun h => (s.holder h).name))

/-- Makes a holder that inherits from others. -/
def declare (name : String) (parents : List HolderKey) (own : Option Holding) :
    Action Store LineageFault HolderKey := do
  let s ← Action.state
  let keys ← Action.of (s.lineOf parents)
  Action.replace { s with holders := s.holders ++ [⟨name, keys, own⟩] }
  return ⟨s.holders.length⟩

/-- What a holder holds: what is attached to it, or to the nearest one it inherits from. -/
def held? (s : Store) (h : HolderKey) : Option Holding :=
  (s.line h).findSome? fun k => (s.holder k).own

/-- What is attached under keys, as it is now. -/
def attachment (s : Store) : Holding → Attachment
  | .registry k => .registry (s.registry k)
  | .value v => .value v

/-- A holder as an owner of contracts. -/
def owner (s : Store) (h : HolderKey) : Owner :=
  .attached ((s.held? h).map s.attachment)

/-- Attaches something to a holder, in the place of what was attached to it. -/
def setOwn (h : HolderKey) (own : Holding) (s : Store) : Store :=
  { s with holders := s.holders.modify h.index fun x => { x with own := some own } }

/-- The contracts of the registry that a holder holds; none if it holds something else. -/
def inherited (s : Store) (h : HolderKey) : List Contract :=
  match s.held? h with
  | some (.registry k) => (s.registry k).contracts
  | _ => []

/-- The key of the registry attached to a holder itself, which is made if there is none. -/
def ownRegistry (h : HolderKey) : Action Store RegistrationFault RegistryKey := do
  let s ← Action.state
  match (s.holder h).own with
  | some (.registry k) => return k
  | _ =>
    let k ← create ((s.inherited h).map Contract.toValue)
    Action.update (setOwn h (.registry k))
    return k

/-- Attaches contracts to a holder, in order. -/
def attach (h : HolderKey) (contracts : List Value) : Action Store RegistrationFault Unit := do
  let k ← ownRegistry h
  within k (Registry.extend contracts false)

end Store

end DataContract
