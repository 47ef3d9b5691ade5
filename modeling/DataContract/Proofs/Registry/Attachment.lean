/-
What attaching contracts to a holder does.

Behind the registry that the holder holds, its own or an inherited one, come the contracts that it
admits. They stand in the registry of the holder's own, which is made if there is none, and nothing
else changes (`attach_attaches`). What this needs of a store holds in every running program
(`Sound.after`).

So a name is looked up among the contracts attached first, and then where it was looked up before
(`find?_attach`). But what a map holds that was attached to the holder, or inherited, is not found
any more (`mapFamily_forgets`).
-/
import DataContract.Proofs.Registry.Runs

namespace DataContract

namespace Store

/-- There is a holder under a key. -/
def Knows (s : Store) (h : HolderKey) : Prop :=
  h.index < s.holders.length

/-- The registry that is attached, if it is one. -/
def registryOf? (s : Store) : Option Holding → Option Registry
  | some (.registry k) => some (s.registry k)
  | _ => none

/-- The registry that a holder holds; an empty one if it holds none. -/
def heldRegistry (s : Store) (h : HolderKey) : Registry :=
  (s.registryOf? (s.held? h)).getD .empty

/-- What becomes of the registry that a holder holds when values are attached to it. -/
def extended (s : Store) (h : HolderKey) (values : List Value) : Registry :=
  (s.heldRegistry h).followedBy ((s.heldRegistry h).admitted values)

/-- Every registry is an ordered map, and those attached to holders are there. -/
structure Sound (s : Store) : Prop where
  recorded : ∀ r ∈ s.registries, ∃ l, r.Records l
  attached : ∀ h k, (s.holder h).own = some (.registry k) → s.Holds k

variable {s t : Store} {h j : HolderKey} {k : RegistryKey} {values : List Value}

theorem registry_mem (there : s.Holds k) : s.registry k ∈ s.registries := by
  rw [registry, List.getElem?_eq_getElem there, Option.getD_some]
  exact List.getElem_mem there

/-- The registries are those under the keys. -/
theorem forall_mem_registries_iff {P : Registry → Prop} :
    (∀ r ∈ s.registries, P r) ↔ ∀ k, s.Holds k → P (s.registry k) := by
  refine ⟨fun each k there => each _ (registry_mem there), fun each r mem => ?_⟩
  obtain ⟨i, there, rfl⟩ := List.mem_iff_getElem.mp mem
  have under := each ⟨i⟩ there
  rwa [registry, List.getElem?_eq_getElem there, Option.getD_some] at under

/-- What a holder holds is attached to it, or to one it inherits from. -/
theorem exists_own_of_held {a : Holding} (held : s.held? h = some a) :
    ∃ j, (s.holder j).own = some a := by
  obtain ⟨j, -, own⟩ := List.exists_of_findSome?_eq_some held
  exact ⟨j, own⟩

theorem held?_of_own {a : Holding} (own : (s.holder h).own = some a) : s.held? h = some a := by
  rw [held?, line, List.findSome?_cons, own]

theorem heldRegistry_of_own (own : (s.holder h).own = some (.registry k)) :
    s.heldRegistry h = s.registry k := by
  rw [heldRegistry, held?_of_own own]
  rfl

theorem Sound.heldRegistry (sound : s.Sound) (h : HolderKey) :
    ∃ l, (s.heldRegistry h).Records l := by
  rw [Store.heldRegistry]
  cases held : s.held? h with
  | none => exact ⟨_, .empty⟩
  | some a =>
    cases a with
    | value v => exact ⟨_, .empty⟩
    | registry k =>
      obtain ⟨j, own⟩ := exists_own_of_held held
      exact sound.recorded _ (registry_mem (sound.attached j k own))

theorem Sound.extended (sound : s.Sound) (h : HolderKey) (values : List Value) :
    ∃ l, (s.extended h values).Records l := by
  obtain ⟨l, recorded⟩ := sound.heldRegistry h
  have after := (recorded.extend false values).2
  rw [(Registry.extend_eq_followedBy (s.heldRegistry h) values).1] at after
  exact ⟨_, after⟩

theorem inherited_eq (s : Store) (h : HolderKey) :
    s.inherited h = (s.heldRegistry h).contracts := by
  rw [inherited, Store.heldRegistry]
  cases s.held? h with
  | none => rfl
  | some a => cases a <;> rfl

/-! ### Holders -/

theorem holder_setOwn_self {own : Holding} (there : s.Knows h) :
    (setOwn h own s).holder h = { s.holder h with own := some own } := by
  rw [holder, holder, setOwn, List.getElem?_modify_eq, List.getElem?_eq_getElem there]
  rfl

theorem holder_setOwn {own : Holding} (other : j ≠ h) :
    (setOwn h own s).holder j = s.holder j := by
  have apart : h.index ≠ j.index := fun same => other (by cases h; cases j; cases same; rfl)
  show ((s.holders.modify h.index _)[j.index]?).getD _ = _
  rw [List.getElem?_modify_ne _ _ apart]
  rfl

theorem holds_put {i : RegistryKey} {r : Registry} : (s.put k r).Holds i ↔ s.Holds i := by
  show _ < (s.registries.set k.index r).length ↔ _
  rw [List.length_set]
  rfl

theorem holds_concat_iff {i : RegistryKey} {r : Registry} {shared : Option RegistryKey}
    {holders : List Holder} :
    Holds ⟨s.registries ++ [r], shared, holders⟩ i ↔ s.Holds i ∨ i = ⟨s.registries.length⟩ := by
  obtain ⟨i⟩ := i
  show i < (s.registries ++ [r]).length ↔ i < s.registries.length ∨ _
  rw [List.length_append, List.length_singleton, Nat.lt_succ_iff_lt_or_eq, RegistryKey.mk.injEq]

theorem registry_last {r : Registry} {shared : Option RegistryKey} {holders : List Holder} :
    registry ⟨s.registries ++ [r], shared, holders⟩ ⟨s.registries.length⟩ = r := by
  show ((s.registries ++ [r])[s.registries.length]?).getD _ = _
  rw [List.getElem?_concat_length, Option.getD_some]

/-- Only the holder that something is attached to comes to hold it. -/
theorem own_setOwn {a b : Holding} (own : ((setOwn h a s).holder j).own = some b) :
    (j = h ∧ b = a) ∨ (j ≠ h ∧ (s.holder j).own = some b) := by
  by_cases same : j = h
  · subst same
    rw [holder, setOwn, List.getElem?_modify_eq] at own
    cases there : s.holders[j.index]? with
    | none =>
      rw [there] at own
      cases own
    | some x =>
      rw [there] at own
      exact .inl ⟨rfl, (Option.some.inj own).symm⟩
  · exact .inr ⟨same, holder_setOwn same ▸ own⟩

/-! ### Attaching -/

theorem within_extend (k : RegistryKey) (values : List Value) (s : Store) :
    (within k (Registry.extend values false) s).1 =
        s.put k ((s.registry k).followedBy ((s.registry k).admitted values)) ∧
      ((within k (Registry.extend values false) s).2.result = .ok () ↔
        values.map Contract.ofValue? = ((s.registry k).admitted values).map some) := by
  obtain ⟨state, result⟩ := Registry.extend_eq_followedBy (s.registry k) values
  exact ⟨congrArg (s.put k) state, result⟩

/-- Values are attached to a holder with a registry of its own by registering them there. -/
theorem attach_of_own (own : (s.holder h).own = some (.registry k)) (values : List Value) :
    (attach h values s).1 = s.put k (s.extended h values) ∧
      ((attach h values s).2.result = .ok () ↔
        values.map Contract.ofValue? = ((s.heldRegistry h).admitted values).map some) := by
  have key : ownRegistry h s = (s, .ok k) := by
    simp only [ownRegistry, bind, Action.andThen, Action.state, Noted.ok, own]
    rfl
  obtain ⟨state, result⟩ := @Action.bind_of_ok _ _ _ _ (ownRegistry h)
    (fun k => within k (Registry.extend values false)) s k (congrArg (·.2.result) key)
  rw [key] at state result
  rw [extended, heldRegistry_of_own own]
  obtain ⟨state', result'⟩ := within_extend k values s
  exact ⟨state.trans state', result ▸ result'⟩

/-- The registry that is made for a holder holds what the holder has inherited. -/
theorem ownRegistry_of_bare (sound : s.Sound) (bare : ∀ k, (s.holder h).own ≠ some (.registry k)) :
    (ownRegistry h s).1 = setOwn h (.registry ⟨s.registries.length⟩)
        { s with registries := s.registries ++ [s.heldRegistry h] } ∧
      (ownRegistry h s).2.result = .ok ⟨s.registries.length⟩ := by
  obtain ⟨l, recorded⟩ := sound.heldRegistry h
  obtain ⟨made, same⟩ := Registry.extend_contracts recorded.keyed recorded.distinct
  obtain ⟨state, result⟩ := @create_of_ok s _ made
  rw [same, ← inherited_eq] at state
  rw [← inherited_eq] at result
  have making : ownRegistry h s = (create ((s.inherited h).map Contract.toValue) >>= fun k => do
      Action.update (setOwn h (.registry k))
      return k) s := by
    simp only [ownRegistry, bind, Action.andThen, Action.state, Noted.ok]
    cases own : (s.holder h).own with
    | none => rfl
    | some a =>
      cases a with
      | registry k => exact absurd own (bare k)
      | value v => rfl
  obtain ⟨after, key⟩ := @Action.bind_of_ok _ _ _ _ (create ((s.inherited h).map Contract.toValue))
    (fun k => do Action.update (setOwn h (.registry k)); return k) s _ result
  rw [making, after, key, state]
  exact ⟨rfl, rfl⟩

/-- Values are attached to a holder with no registry of its own by registering them in one that is
made for it. -/
theorem attach_of_bare (sound : s.Sound) (bare : ∀ k, (s.holder h).own ≠ some (.registry k))
    (values : List Value) :
    (attach h values s).1 = setOwn h (.registry ⟨s.registries.length⟩)
        { s with registries := s.registries ++ [s.extended h values] } ∧
      ((attach h values s).2.result = .ok () ↔
        values.map Contract.ofValue? = ((s.heldRegistry h).admitted values).map some) := by
  obtain ⟨made, key⟩ := ownRegistry_of_bare sound bare
  obtain ⟨state, result⟩ := @Action.bind_of_ok _ _ _ _ (ownRegistry h)
    (fun k => within k (Registry.extend values false)) s _ key
  obtain ⟨state', result'⟩ := within_extend ⟨s.registries.length⟩ values (ownRegistry h s).1
  have new : (ownRegistry h s).1.registry ⟨s.registries.length⟩ = s.heldRegistry h := by
    rw [made]
    exact registry_last
  rw [new] at state' result'
  refine ⟨state.trans (state'.trans ?_), result ▸ result'⟩
  rw [made, put, setOwn]
  show Store.mk ((s.registries ++ [_]).set s.registries.length _) _ _ = _
  rw [List.set_append_right _ _ le_rfl, Nat.sub_self]
  rfl

/-- Attaching succeeds if the registry that the holder holds admits all values. -/
theorem attach_eq_ok_iff (sound : s.Sound) (h : HolderKey) (values : List Value) :
    (attach h values s).2.result = .ok () ↔
      values.map Contract.ofValue? = ((s.heldRegistry h).admitted values).map some := by
  by_cases bare : ∀ k, (s.holder h).own ≠ some (.registry k)
  · exact (attach_of_bare sound bare values).2
  · obtain ⟨k, own⟩ := not_forall_not.mp bare
    exact (attach_of_own own values).2

/-- What attaching values to a holder comes to: they are registered under a key, behind what the
holder held, and nothing else changes. -/
structure Attaches (s : Store) (h : HolderKey) (values : List Value) (k : RegistryKey) (t : Store) :
    Prop where
  /-- The registry was attached to the holder before, or it is new. -/
  key : (s.holder h).own = some (.registry k) ∨ ¬ s.Holds k
  holds : ∀ i, t.Holds i ↔ s.Holds i ∨ i = k
  registry : t.registry k = s.extended h values
  others : ∀ i, s.Holds i → i ≠ k → t.registry i = s.registry i
  own : s.Knows h → (t.holder h).own = some (.registry k)
  only : ∀ a, (t.holder h).own = some a → a = .registry k
  holders : ∀ j, j ≠ h → t.holder j = s.holder j

theorem attach_attaches (sound : s.Sound) (h : HolderKey) (values : List Value) :
    ∃ k, s.Attaches h values k (attach h values s).1 := by
  by_cases bare : ∀ k, (s.holder h).own ≠ some (.registry k)
  · refine ⟨⟨s.registries.length⟩, ?_⟩
    rw [(attach_of_bare sound bare values).1]
    constructor
    case key => exact .inr (Nat.lt_irrefl _)
    case holds => exact fun i => holds_concat_iff
    case registry => exact registry_last
    case others => exact fun i holds _ => @registry_append s i _ s.shared holds
    case own => exact fun there => congrArg Holder.own (holder_setOwn_self there)
    case only =>
      intro a own
      obtain ⟨-, is⟩ | ⟨other, -⟩ := own_setOwn own
      · exact is
      · exact absurd rfl other
    case holders => exact fun j other => holder_setOwn other
  · obtain ⟨k, own⟩ := not_forall_not.mp bare
    have holds := sound.attached h k own
    refine ⟨k, ?_⟩
    rw [(attach_of_own own values).1]
    constructor
    case key => exact .inl own
    case holds =>
      intro i
      rw [holds_put]
      exact (or_iff_left_of_imp fun same => same ▸ holds).symm
    case registry => exact registry_put_self holds
    case others => exact fun i _ other => registry_put (Ne.symm other)
    case own => exact fun _ => own
    case only => exact fun a held => Option.some.inj (held.symm.trans own)
    case holders => exact fun _ _ => rfl

end Store

/-! ### Programs -/

/-- An operation on a store. -/
inductive StoreOperation where
  | registry (op : RegistryOperation)
  /-- Makes a holder that inherits from others. -/
  | declare (name : String) (parents : List HolderKey) (own : Option Holding)
  | attach (h : HolderKey) (values : List Value)

namespace StoreOperation

/-- The store after an operation, whether or not it fails. -/
def perform (op : StoreOperation) (s : Store) : Store :=
  match op with
  | registry op => (op.perform s).1
  | declare name parents own => (Store.declare name parents own s).1
  | attach h values => (Store.attach h values s).1

/-- A registry that is attached to a new holder is there. -/
def Refers (s : Store) : StoreOperation → Prop
  | declare _ _ (some (.registry k)) => s.Holds k
  | _ => True

end StoreOperation

namespace Store

/-- The store after operations in order. -/
def after (s : Store) (ops : List StoreOperation) : Store :=
  ops.foldl (fun s op => op.perform s) s

/-- Each operation attaches only registries that are there when it is performed. -/
def Refers : Store → List StoreOperation → Prop
  | _, [] => True
  | s, op :: rest => op.Refers s ∧ Refers (op.perform s) rest

variable {s : Store} {k : RegistryKey}

theorem holders_perform (op : RegistryOperation) : (op.perform s).1.holders = s.holders := by
  cases op with
  | shared =>
    rw [RegistryOperation.perform]
    cases shared : s.shared with
    | some k => rw [sharedKey_of_some shared]
    | none => rw [sharedKey_of_none shared]
  | make supply =>
    show (create (supply.items s) s).1.holders = _
    cases made : (Registry.extend (supply.items s) false .empty).2.result with
    | ok done => rw [(create_of_ok made).1]
    | error f => rw [(create_of_error made).1]
  | _ => rfl

/-- Registries stay where they are. -/
theorem holds_perform (op : RegistryOperation) (holds : s.Holds k) : (op.perform s).1.Holds k := by
  cases op with
  | shared =>
    rw [RegistryOperation.perform]
    cases shared : s.shared with
    | some k => rwa [sharedKey_of_some shared]
    | none =>
      rw [sharedKey_of_none shared]
      exact holds_concat_iff.mpr (.inl holds)
  | make supply =>
    show (create (supply.items s) s).1.Holds k
    cases made : (Registry.extend (supply.items s) false .empty).2.result with
    | ok done =>
      rw [(create_of_ok made).1]
      exact holds_concat_iff.mpr (.inl holds)
    | error f => rwa [(create_of_error made).1]
  | register j v replacing => exact holds_put.mpr holds
  | extend j supply replacing => exact holds_put.mpr holds
  | drain j => exact holds_put.mpr holds
  | clear j => exact holds_put.mpr holds
  | _ => exact holds

theorem records_iff : (∃ b : Ledgers, s.Records b) ↔ ∀ r ∈ s.registries, ∃ l, r.Records l := by
  constructor
  · rintro ⟨b, -, registries⟩ r mem
    obtain ⟨l, -, recorded⟩ := exists_of_forall₂ registries r mem
    exact ⟨l, recorded⟩
  · intro each
    obtain ⟨ledgers, registries⟩ := exists_forall₂ each
    exact ⟨⟨ledgers, s.shared⟩, rfl, registries⟩

/-- Making a holder changes no other, and no registry. -/
theorem declare_cases (name : String) (parents : List HolderKey) (own : Option Holding)
    (s : Store) : (declare name parents own s).1 = s ∨ ∃ keys,
      (declare name parents own s).1 = { s with holders := s.holders ++ [⟨name, keys, own⟩] } := by
  simp only [declare, bind, Action.andThen, Action.state, Action.of, Noted.ok, Noted.of]
  cases s.lineOf parents with
  | error f => exact .inl rfl
  | ok keys => exact .inr ⟨keys, rfl⟩

/-- A holder is one of those before, or the one that is made, or none. -/
theorem own_concat {x : Holder} {j : HolderKey} {a : Holding}
    (own : (holder { s with holders := s.holders ++ [x] } j).own = some a) :
    (s.holder j).own = some a ∨ x.own = some a := by
  by_cases there : s.Knows j
  · refine .inl ?_
    rw [holder, List.getElem?_append_left there] at own
    exact own
  · refine .inr ?_
    rw [holder, List.getElem?_append_right (Nat.not_lt.mp there)] at own
    cases at' : j.index - s.holders.length with
    | zero => simpa [at'] using own
    | succ n => simp [at'] at own

theorem Sound.empty : Sound .empty :=
  ⟨List.forall_mem_nil _, nofun⟩

theorem Sound.attach (sound : s.Sound) (h : HolderKey) (values : List Value) :
    (attach h values s).1.Sound := by
  obtain ⟨k, attaches⟩ := attach_attaches sound h values
  refine ⟨forall_mem_registries_iff.mpr fun i there => ?_, fun j i own => ?_⟩
  · by_cases same : i = k
    · subst same
      rw [attaches.registry]
      exact sound.extended h values
    · have before : s.Holds i := ((attaches.holds i).mp there).resolve_right same
      rw [attaches.others i before same]
      exact sound.recorded _ (registry_mem before)
  · by_cases same : j = h
    · subst same
      cases attaches.only _ own
      exact (attaches.holds k).mpr (.inr rfl)
    · rw [attaches.holders j same] at own
      exact (attaches.holds i).mpr (.inl (sound.attached j i own))

/-- Operations keep a store sound. -/
theorem Sound.perform (sound : s.Sound) (op : StoreOperation) (refers : op.Refers s) :
    (op.perform s).Sound := by
  cases op with
  | registry op =>
    obtain ⟨b, recorded⟩ := records_iff.mpr sound.recorded
    refine ⟨records_iff.mp ⟨_, (perform_records recorded op).2⟩, fun h k own => ?_⟩
    have same : (op.perform s).1.holder h = s.holder h := by
      rw [holder, holders_perform]
      rfl
    exact holds_perform op (sound.attached h k (same ▸ own))
  | declare name parents own =>
    obtain same | ⟨keys, made⟩ := declare_cases name parents own s
    · show (declare name parents own s).1.Sound
      rwa [same]
    · show (declare name parents own s).1.Sound
      rw [made]
      refine ⟨sound.recorded, fun j k held => ?_⟩
      obtain old | new := own_concat held
      · exact sound.attached j k old
      · subst new
        exact refers
  | attach h values => exact sound.attach h values

theorem Sound.after (sound : s.Sound) (ops : List StoreOperation) (refers : s.Refers ops) :
    (s.after ops).Sound := by
  induction ops generalizing s with
  | nil => exact sound
  | cons op rest ih => exact ih (sound.perform op refers.1) refers.2

end Store

/-! ### Looking up names -/

/-- The contract among others that bears a value as its name. -/
def contractNamed? (cs : List Contract) (name : Value) : Option Contract :=
  name.asText?.bind fun n => cs.find? (·.name = n)

namespace Store

variable {s : Store} {h : HolderKey} {name : Value}

/-- Where a holder holds no value, names are looked up in the registry that it holds. -/
theorem find?_owner (registry : ∀ v, s.held? h ≠ some (.value v)) :
    (s.owner h).find? name = name.asText?.bind (s.heldRegistry h).find? := by
  rw [owner, heldRegistry, Owner.find?]
  congr 1
  funext n
  cases held : s.held? h with
  | none => rfl
  | some a =>
    cases a with
    | registry k => rfl
    | value v => exact absurd held (registry v)

theorem find?_heldRegistry_of_value {v : Value} (held : s.held? h = some (.value v)) (n : String) :
    (s.heldRegistry h).find? n = none := by
  rw [heldRegistry, held]
  rfl

/-- Contracts that are attached to a holder are found at it, and so are those that were found
before. If a value was attached to it, such as a map of contracts, then only the contracts attached
are found. -/
theorem find?_attach (s : Store) (sound : s.Sound) (h : HolderKey) (there : s.Knows h)
    (cs : List Contract)
    (returned : (attach h (cs.map Contract.toValue) s).2.result = .ok ()) :
    ((∀ v, s.held? h ≠ some (.value v)) → ∀ name,
      ((attach h (cs.map Contract.toValue) s).1.owner h).find? name =
        (contractNamed? cs name).or ((s.owner h).find? name)) ∧
    ∀ v, s.held? h = some (.value v) → ∀ name,
      ((attach h (cs.map Contract.toValue) s).1.owner h).find? name = contractNamed? cs name := by
  have all : (s.heldRegistry h).admitted (cs.map Contract.toValue) = cs := by
    have each : (cs.map Contract.toValue).map Contract.ofValue? = cs.map some := by
      rw [List.map_map]
      exact List.map_congr_left fun c _ => Contract.ofValue?_toValue c
    have admitted := (attach_eq_ok_iff sound h _).mp returned
    rw [each] at admitted
    exact (List.map_injective_iff.mpr (Option.some_injective _) admitted).symm
  have admits : (s.heldRegistry h).Admits cs := all ▸ Registry.admits_admitted _ _
  -- afterwards names are looked up in the holder's own registry
  have found (name : Value) : ((attach h (cs.map Contract.toValue) s).1.owner h).find? name =
      name.asText?.bind fun n =>
        (cs.find? (·.name = n)).or ((s.heldRegistry h).find? n) := by
    obtain ⟨k, attaches⟩ := attach_attaches sound h (cs.map Contract.toValue)
    have held := held?_of_own (attaches.own there)
    rw [find?_owner, heldRegistry_of_own (attaches.own there), attaches.registry, extended, all]
    · congr 1
      funext n
      exact admits.find?_followedBy
    · intro v value
      cases held.symm.trans value
  refine ⟨fun registry name => ?_, fun v held name => ?_⟩
  · rw [found, find?_owner registry, contractNamed?]
    cases name.asText? <;> rfl
  · rw [found, contractNamed?]
    congr 1
    funext n
    rw [find?_heldRegistry_of_value held, Option.or_none]

/-- A contract of a name, without fields. -/
def bareContract (name : String) : Contract := ⟨name, []⟩

/-- A holder to which something is attached, and one that inherits from it. -/
def familyOf (own : Holding) : List StoreOperation :=
  [.declare "Base" [] (some own), .declare "Child" [⟨0⟩] none]

/-- A family with a registry of one contract. -/
def registryFamily : Store :=
  Store.after .empty (.registry (.make (.values [(bareContract "ping").toValue])) ::
    familyOf (.registry ⟨0⟩))

/-- The heir finds both the contract inherited and the one attached to it. -/
theorem registryFamily_finds : registryFamily.Sound ∧ registryFamily.Knows ⟨1⟩ ∧
    (attach ⟨1⟩ ([bareContract "pong"].map Contract.toValue) registryFamily).2.result = .ok () ∧
    ((attach ⟨1⟩ ([bareContract "pong"].map Contract.toValue) registryFamily).1.owner ⟨1⟩).find?
      (.text "ping") = some (bareContract "ping") := by
  have sound : registryFamily.Sound := Sound.empty.after _ ⟨trivial, Nat.one_pos, trivial, trivial⟩
  have there : registryFamily.Knows ⟨1⟩ := Nat.one_lt_two
  have held : registryFamily.held? ⟨1⟩ = some (.registry ⟨0⟩) := by cbv
  have returned : (attach ⟨1⟩ ([bareContract "pong"].map Contract.toValue)
      registryFamily).2.result = .ok () := by cbv
  have finds := (find?_attach registryFamily sound ⟨1⟩ there [bareContract "pong"] returned).1
    (fun v value => by cases held.symm.trans value) (.text "ping")
  exact ⟨sound, there, returned, finds.trans (by cbv)⟩

/-- A family with a map of one contract. -/
def mapFamily : Store :=
  Store.after .empty (familyOf (.value (.map [(.text "ping", (bareContract "ping").toValue)])))

/-- The heir finds the contract in the map until another contract is attached to it. -/
theorem mapFamily_forgets : mapFamily.Sound ∧ mapFamily.Knows ⟨1⟩ ∧
    (attach ⟨1⟩ ([bareContract "pong"].map Contract.toValue) mapFamily).2.result = .ok () ∧
    contractNamed? [bareContract "pong"] (.text "ping") = none ∧
    (mapFamily.owner ⟨1⟩).find? (.text "ping") = some (bareContract "ping") ∧
    ((attach ⟨1⟩ ([bareContract "pong"].map Contract.toValue) mapFamily).1.owner ⟨1⟩).find?
      (.text "ping") = none := by
  have sound : mapFamily.Sound := Sound.empty.after _ ⟨trivial, trivial, trivial⟩
  exact ⟨sound, Nat.one_lt_two, by cbv, by cbv, by cbv, by cbv⟩

end Store

end DataContract
