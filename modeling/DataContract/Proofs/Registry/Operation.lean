/-
Operations on any number of registries.

An operation is performed on a store (`RegistryOperation.perform`). What it should come to is said
by the ledgers of the registries (`RegistryOperation.expected`), where each registration is written
down and nothing else is kept. A run performs operations in order, whether or not they fail
(`Store.run`, `Ledgers.run`).
-/
import DataContract.Registry.Store
import DataContract.Proofs.Registry.Ledger

namespace DataContract

/-! ### Operations -/

/-- Where values come from: they are given, or they are the contracts of a registry. -/
inductive Supply where
  | values (vs : List Value)
  | registry (k : RegistryKey)

/-- An operation on registries. -/
inductive RegistryOperation where
  /-- Asks for the registry that all share. -/
  | shared
  | make (supply : Supply)
  | register (k : RegistryKey) (v : Value) (replacing : Bool)
  | extend (k : RegistryKey) (supply : Supply) (replacing : Bool)
  | get (k : RegistryKey) (name : Value)
  | require (k : RegistryKey) (name : Value)
  | contains (k : RegistryKey) (name : Value)
  | names (k : RegistryKey)
  | iterate (k : RegistryKey)
  /-- Goes through a registry and empties it at each turn. -/
  | drain (k : RegistryKey)
  | clear (k : RegistryKey)

/-- What an operation comes to. -/
inductive RegistryAnswer where
  | done
  | key (k : RegistryKey)
  | contract (c : Contract)
  | found (c : Option Contract)
  | held (b : Bool)
  | names (ns : List String)
  | contracts (cs : List Contract)

/-- Why an operation fails. -/
inductive RegistryFault where
  | registration (fault : RegistrationFault)
  | lookup (fault : LookupFault)

namespace RegistryAnswer

/-- What a registration comes to. -/
def ofRegistration {α : Type} (answer : α → RegistryAnswer) (x : Except RegistrationFault α) :
    Except RegistryFault RegistryAnswer :=
  (x.map answer).mapError .registration

/-- What a look-up comes to. -/
def ofLookup {α : Type} (answer : α → RegistryAnswer) (x : Except LookupFault α) :
    Except RegistryFault RegistryAnswer :=
  (x.map answer).mapError .lookup

end RegistryAnswer

open RegistryAnswer (ofRegistration ofLookup)

/-- The values supplied, as the registries are now. -/
def Supply.items (s : Store) : Supply → List Value
  | values vs => vs
  | registry k => (s.registry k).contracts.map Contract.toValue

/-- Performs an operation on a store. -/
def RegistryOperation.perform (op : RegistryOperation) (s : Store) :
    Store × Except RegistryFault RegistryAnswer :=
  match op with
  | shared =>
    let (t, x) := Store.sharedKey s
    (t, ofRegistration .key x.result)
  | make supply =>
    let (t, x) := Store.create (supply.items s) s
    (t, ofRegistration .key x.result)
  | register k v replacing =>
    let (t, x) := Store.within k (Registry.register v replacing) s
    (t, ofRegistration .contract x.result)
  | extend k supply replacing =>
    let (t, x) := Store.within k (Registry.extend (supply.items s) replacing) s
    (t, ofRegistration (fun _ => .done) x.result)
  | get k name => (s, ofLookup .found ((s.registry k).get name))
  | require k name => (s, ofLookup .contract ((s.registry k).require name))
  | contains k name => (s, ofLookup .held ((s.registry k).contains name))
  | names k => (s, .ok (.names (s.registry k).names))
  | iterate k => (s, .ok (.contracts (s.registry k).contracts))
  | drain k => (s.put k (s.registry k).drain.2, .ok (.contracts (s.registry k).drain.1))
  | clear k => (s.put k .empty, .ok .done)

/-- Performs operations in order, whether or not they fail: the store afterwards, and what each came
to. -/
def Store.run : List RegistryOperation → Store → Store × List (Except RegistryFault RegistryAnswer)
  | [], s => (s, [])
  | op :: rest, s =>
    let (t, answer) := op.perform s
    let (u, answers) := run rest t
    (u, answer :: answers)

/-! ### Ledgers in the place of registries -/

/-- The ledgers of registries by their keys, and the key of the registry that all share, once there
is one. -/
structure Ledgers where
  ledgers : List Ledger
  shared : Option RegistryKey

namespace Ledgers

def empty : Ledgers := ⟨[], none⟩

def ledger (b : Ledgers) (k : RegistryKey) : Ledger :=
  (b.ledgers[k.index]?).getD .empty

def put (b : Ledgers) (k : RegistryKey) (l : Ledger) : Ledgers :=
  { b with ledgers := b.ledgers.set k.index l }

def add (b : Ledgers) (l : Ledger) : Ledgers :=
  { b with ledgers := b.ledgers ++ [l] }

/-- The key of the ledger that is added next. -/
def next (b : Ledgers) : RegistryKey :=
  ⟨b.ledgers.length⟩

end Ledgers

/-- The values supplied, as the ledgers say. -/
def Supply.recorded (b : Ledgers) : Supply → List Value
  | values vs => vs
  | registry k => (b.ledger k).contracts.map Contract.toValue

/-- What an operation should come to, and the ledgers after it. -/
def RegistryOperation.expected (op : RegistryOperation) (b : Ledgers) :
    Ledgers × Except RegistryFault RegistryAnswer :=
  match op with
  | shared =>
    match b.shared with
    | some k => (b, .ok (.key k))
    | none => ({ b.add .empty with shared := some b.next }, .ok (.key b.next))
  | make supply =>
    match Ledger.empty.extend false (supply.recorded b) with
    | (l, .ok _) => (b.add l, .ok (.key b.next))
    | (_, .error f) => (b, .error (.registration f))
  | register k v replacing =>
    match (b.ledger k).accept v replacing with
    | .ok c => (b.put k ((b.ledger k).record c), .ok (.contract c))
    | .error f => (b, .error (.registration f))
  | extend k supply replacing =>
    let (l, result) := (b.ledger k).extend replacing (supply.recorded b)
    (b.put k l, ofRegistration (fun _ => .done) result)
  | get k name => (b, ofLookup .found ((b.ledger k).look name))
  | require k name =>
    match (b.ledger k).look name with
    | .ok (some c) => (b, .ok (.contract c))
    | .ok none => (b, .error (.lookup (.notFound name)))
    | .error f => (b, .error (.lookup f))
  | contains k name => (b, ofLookup (fun c => .held c.isSome) ((b.ledger k).look name))
  | names k => (b, .ok (.names (b.ledger k).names))
  | iterate k => (b, .ok (.contracts (b.ledger k).contracts))
  | drain k => (b.put k .empty, .ok (.contracts (b.ledger k).contracts))
  | clear k => (b.put k .empty, .ok .done)

/-- Operations in order on ledgers. -/
def Ledgers.run :
    List RegistryOperation → Ledgers → Ledgers × List (Except RegistryFault RegistryAnswer)
  | [], b => (b, [])
  | op :: rest, b =>
    let (t, answer) := op.expected b
    let (u, answers) := run rest t
    (u, answer :: answers)

end DataContract
