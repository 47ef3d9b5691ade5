/-
Sources: where a contract is looked up by its name.

A source names its registry by key, so what counts is what the registry holds when a contract is
looked up in it.
-/
import DataContract.Registry.Store

namespace DataContract

/-- A source of contracts. -/
inductive Source where
  /-- The registry that all share. -/
  | shared
  | registry (key : RegistryKey)
  | holder (key : HolderKey)
  /-- A module, with what is attached to it. -/
  | module (own : Option Holding)
  | value (v : Value)
  deriving Inhabited

namespace Source

/-- The source that a value is: null stands for the registry that all share. -/
def ofValue : Value → Source
  | .null => .shared
  | v => .value v

/-- The source that a holding is. -/
def ofHolding : Holding → Source
  | .registry k => .registry k
  | .value v => .value v

end Source

namespace Store

/-- The registry that all share; an empty one if there is none yet. -/
def sharedRegistry (s : Store) : Registry :=
  (s.shared.map s.registry).getD .empty

/-- A source as an owner of contracts. -/
def ownerOf (s : Store) : Source → Owner
  | .shared => .registry s.sharedRegistry
  | .registry k => .registry (s.registry k)
  | .holder h => s.owner h
  | .module own => .attached (own.map s.attachment)
  | .value v => .value v

end Store

end DataContract
