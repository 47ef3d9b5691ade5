/-
Registries are ordered maps.

Each operation on a store comes to what the ledgers of its registries say, and afterwards every
registry holds what its ledger says again (`perform_records`). So it is for every run of operations,
from a store without registries (`runs_record_ledgers`). An operation changes at most the registry
it is about (`registry_perform`), and none if it fails, but for registering several values: then
those in front of the one that is refused are registered (`perform_extend_of_error`). A copy is the
same as the registry it is made from (`perform_make_of_registry`).
-/
import DataContract.Proofs.Lists
import DataContract.Proofs.Registry.Operation

namespace DataContract

open RegistryAnswer (ofRegistration ofLookup)

/-! ### Each operation -/

/-- Every registry of a store holds what its ledger says. -/
structure Store.Records (s : Store) (b : Ledgers) : Prop where
  shared : s.shared = b.shared
  registries : List.Forall₂ Registry.Records s.registries b.ledgers

namespace Store.Records

variable {s : Store} {b : Ledgers}

theorem empty : Store.Records .empty .empty :=
  ⟨rfl, .nil⟩

theorem registry (h : s.Records b) (k : RegistryKey) : (s.registry k).Records (b.ledger k) := by
  have lengths : s.registries.length = b.ledgers.length := h.registries.length_eq
  by_cases there : k.index < s.registries.length
  · have there' : k.index < b.ledgers.length := lengths ▸ there
    rw [Store.registry, Ledgers.ledger, List.getElem?_eq_getElem there,
      List.getElem?_eq_getElem there']
    exact h.registries.get there there'
  · rw [Store.registry, Ledgers.ledger, List.getElem?_eq_none (by omega),
      List.getElem?_eq_none (by omega)]
    exact .empty

theorem put (h : s.Records b) (k : RegistryKey) {r : Registry} {l : Ledger}
    (related : r.Records l) : (s.put k r).Records (b.put k l) :=
  ⟨h.shared, forall₂_set h.registries related k.index⟩

theorem next (h : s.Records b) : (⟨s.registries.length⟩ : RegistryKey) = b.next :=
  congrArg RegistryKey.mk h.registries.length_eq

theorem items (h : s.Records b) (supply : Supply) : supply.items s = supply.recorded b := by
  cases supply with
  | values vs => rfl
  | registry k => exact congrArg (List.map Contract.toValue) (h.registry k).contracts

end Store.Records

namespace Store

variable {s : Store} {k : RegistryKey} {values : List Value}

theorem put_registry : s.put k (s.registry k) = s := by
  have same : s.registries.set k.index (s.registry k) = s.registries := by
    by_cases there : k.index < s.registries.length
    · rw [registry, List.getElem?_eq_getElem there, Option.getD_some, List.set_getElem_self]
    · exact List.set_eq_of_length_le (Nat.not_lt.mp there)
  rw [put, same]

theorem sharedKey_of_some (shared : s.shared = some k) :
    @sharedKey RegistrationFault s = (s, .ok k) := by
  simp only [sharedKey, bind, Action.andThen, Action.state, Noted.ok, shared]
  rfl

theorem sharedKey_of_none (none : s.shared = none) : @sharedKey RegistrationFault s =
    (⟨s.registries ++ [.empty], some ⟨s.registries.length⟩, s.holders⟩,
      .ok ⟨s.registries.length⟩) := by
  simp only [sharedKey, bind, Action.andThen, Action.state, Noted.ok, none]
  rfl

theorem create_of_ok (made : (Registry.extend values false .empty).2.result = .ok ()) :
    (create values s).1 =
        { s with registries := s.registries ++ [(Registry.extend values false .empty).1] } ∧
      (create values s).2.result = .ok ⟨s.registries.length⟩ := by
  have first : (Action.noted (Registry.ofValues values) s).2.result =
      .ok (Registry.extend values false .empty).1 := by
    show Except.map _ _ = _
    rw [made]
    rfl
  exact Action.bind_of_ok first

theorem create_of_error {f : RegistrationFault}
    (failed : (Registry.extend values false .empty).2.result = .error f) :
    (create values s).1 = s ∧ (create values s).2.result = .error f := by
  have first : (Action.noted (Registry.ofValues values) s).2.result = .error f := by
    show Except.map _ _ = _
    rw [failed]
    rfl
  exact Action.bind_of_error first

end Store

theorem perform_records {s : Store} {b : Ledgers} (h : s.Records b) (op : RegistryOperation) :
    (op.perform s).2 = (op.expected b).2 ∧ (op.perform s).1.Records (op.expected b).1 := by
  cases op with
  | shared =>
    rw [RegistryOperation.expected, RegistryOperation.perform, ← h.shared, ← h.next]
    cases shared : s.shared with
    | some k =>
      rw [Store.sharedKey_of_some shared]
      exact ⟨rfl, h⟩
    | none =>
      rw [Store.sharedKey_of_none shared]
      exact ⟨rfl, rfl, List.rel_append h.registries (.cons .empty .nil)⟩
  | make supply =>
    -- both sides register the same values, in what is empty
    rw [RegistryOperation.expected, ← h.items supply, ← h.next]
    obtain ⟨same, after⟩ : _ ∧ _ := Registry.Records.empty.extend false (supply.items s)
    generalize Ledger.empty.extend false (supply.items s) = recorded at same after ⊢
    obtain ⟨l, result⟩ := recorded
    cases result with
    | ok done =>
      obtain ⟨state, made⟩ := Store.create_of_ok same
      refine ⟨congrArg (ofRegistration .key) made, ?_⟩
      show (Store.create (supply.items s) s).1.Records (b.add l)
      rw [state]
      exact ⟨h.shared, List.rel_append h.registries (.cons after .nil)⟩
    | error f =>
      obtain ⟨state, failed⟩ := Store.create_of_error same
      refine ⟨congrArg (ofRegistration .key) failed, ?_⟩
      show (Store.create (supply.items s) s).1.Records b
      rw [state]
      exact h
  | register k v replacing =>
    cases accepted : (b.ledger k).accept v replacing with
    | ok c =>
      obtain ⟨result, after⟩ := (h.registry k).register_of_accepted accepted
      rw [RegistryOperation.expected, accepted]
      exact ⟨congrArg (ofRegistration .contract) result,
        h.put k (after ▸ (h.registry k).put c)⟩
    | error f =>
      have result := (h.registry k).register_of_refused accepted
      rw [RegistryOperation.expected, accepted]
      refine ⟨congrArg (ofRegistration .contract) result, ?_⟩
      -- the registry is put back as it was
      show (s.put k (Registry.register v replacing (s.registry k)).1).Records b
      rw [Registry.register_of_error result, Store.put_registry]
      exact h
  | extend k supply replacing =>
    rw [RegistryOperation.expected, ← h.items supply]
    obtain ⟨result, after⟩ : _ ∧ _ := (h.registry k).extend replacing (supply.items s)
    exact ⟨congrArg (ofRegistration fun _ => .done) result, h.put k after⟩
  | get k name =>
    rw [RegistryOperation.expected, ← (h.registry k).get]
    exact ⟨rfl, h⟩
  | require k name =>
    rw [RegistryOperation.expected, RegistryOperation.perform, Registry.require,
      ← (h.registry k).get]
    cases (s.registry k).get name with
    | error f => exact ⟨rfl, h⟩
    | ok found => cases found <;> exact ⟨rfl, h⟩
  | contains k name =>
    rw [RegistryOperation.expected, RegistryOperation.perform, Registry.contains,
      ← (h.registry k).get]
    cases (s.registry k).get name <;> exact ⟨rfl, h⟩
  | names k =>
    rw [RegistryOperation.expected, ← (h.registry k).names]
    exact ⟨rfl, h⟩
  | iterate k =>
    rw [RegistryOperation.expected, ← (h.registry k).contracts]
    exact ⟨rfl, h⟩
  | drain k =>
    rw [RegistryOperation.expected, ← (h.registry k).contracts, RegistryOperation.perform,
      Registry.drain_eq]
    exact ⟨rfl, h.put k .empty⟩
  | clear k => exact ⟨rfl, h.put k .empty⟩

/-! ### What operations leave alone -/

/-- The registry that an operation may change. -/
def RegistryOperation.target? : RegistryOperation → Option RegistryKey
  | register k _ _ | extend k _ _ | drain k | clear k => some k
  | _ => none

/-- There is a registry under a key. -/
def Store.Holds (s : Store) (k : RegistryKey) : Prop :=
  k.index < s.registries.length

variable {s : Store} {k : RegistryKey} {v : Value} {supply : Supply} {replacing : Bool}
  {f : RegistryFault}

theorem Store.registry_put {j : RegistryKey} {r : Registry} (other : j ≠ k) :
    (s.put j r).registry k = s.registry k := by
  have apart : j.index ≠ k.index := fun same => other (by cases j; cases k; cases same; rfl)
  rw [registry, put, List.getElem?_set_ne apart]
  rfl

theorem Store.registry_put_self {r : Registry} (there : s.Holds k) :
    (s.put k r).registry k = r := by
  rw [registry, put, List.getElem?_set_self there, Option.getD_some]

theorem Store.registry_append {r : Registry} {shared : Option RegistryKey} (there : s.Holds k) :
    Store.registry ⟨s.registries ++ [r], shared, s.holders⟩ k = s.registry k := by
  rw [registry, List.getElem?_append_left there]
  rfl

/-- An operation leaves every registry alone but the one it is about. -/
theorem registry_perform (op : RegistryOperation) (there : s.Holds k)
    (other : op.target? ≠ some k) : (op.perform s).1.registry k = s.registry k := by
  have apart {j : RegistryKey} (about : op.target? = some j) : j ≠ k := by
    rintro rfl
    exact other about
  cases op with
  | shared =>
    rw [RegistryOperation.perform]
    cases shared : s.shared with
    | some j => rw [Store.sharedKey_of_some shared]
    | none =>
      rw [Store.sharedKey_of_none shared]
      exact Store.registry_append there
  | make supply =>
    show (Store.create (supply.items s) s).1.registry k = _
    cases made : (Registry.extend (supply.items s) false .empty).2.result with
    | ok done =>
      rw [(Store.create_of_ok made).1]
      exact Store.registry_append there
    | error f => rw [(Store.create_of_error made).1]
  | register j v replacing => exact Store.registry_put (apart rfl)
  | extend j supply replacing => exact Store.registry_put (apart rfl)
  | drain j => exact Store.registry_put (apart rfl)
  | clear j => exact Store.registry_put (apart rfl)
  | _ => rfl

theorem ofRegistration_eq_error_iff {α : Type} {answer : α → RegistryAnswer}
    {x : Except RegistrationFault α} :
    ofRegistration answer x = .error f ↔ ∃ e, x = .error e ∧ f = .registration e := by
  cases x with
  | ok a => simp [ofRegistration, Except.map, Except.mapError]
  | error e => simp [ofRegistration, Except.map, Except.mapError, eq_comm]

/-- If a registry cannot be made, none is. -/
theorem perform_make_of_error (failed : ((RegistryOperation.make supply).perform s).2 = .error f) :
    ((RegistryOperation.make supply).perform s).1 = s := by
  show (Store.create (supply.items s) s).1 = s
  cases made : (Registry.extend (supply.items s) false .empty).2.result with
  | ok done =>
    obtain ⟨e, failed, -⟩ := ofRegistration_eq_error_iff.mp failed
    cases failed.symm.trans (Store.create_of_ok made).2
  | error e => exact (Store.create_of_error made).1

/-- A registration that is refused changes nothing. -/
theorem perform_register_of_error
    (failed : ((RegistryOperation.register k v replacing).perform s).2 = .error f) :
    ((RegistryOperation.register k v replacing).perform s).1 = s := by
  obtain ⟨e, failed, -⟩ := ofRegistration_eq_error_iff.mp failed
  show s.put k (Registry.register v replacing (s.registry k)).1 = s
  rw [Registry.register_of_error failed, Store.put_registry]

/-- Registering values that stops at one of them has registered those in front of it. -/
theorem perform_extend_of_error (there : s.Holds k)
    (failed : ((RegistryOperation.extend k supply replacing).perform s).2 = .error f) :
    ∃ before v behind t, supply.items s = before ++ v :: behind ∧
      (RegistryOperation.extend k (.values before) replacing).perform s = (t, .ok .done) ∧
      ((RegistryOperation.extend k supply replacing).perform s).1 = t ∧
      ((RegistryOperation.register k v replacing).perform t).2 = .error f := by
  obtain ⟨e, stopped, rfl⟩ := ofRegistration_eq_error_iff.mp failed
  obtain ⟨before, v, behind, items, done, same, refused⟩ := Registry.extend_of_error stopped
  refine ⟨before, v, behind, _, items, Prod.ext (congrArg (s.put k) same) ?_, rfl, ?_⟩
  · exact congrArg (ofRegistration fun _ => .done) done
  · refine ofRegistration_eq_error_iff.mpr ⟨e, ?_, rfl⟩
    show (Registry.register v replacing ((s.put k _).registry k)).2.result = _
    rw [Store.registry_put_self there]
    exact refused

/-- A registry made from another is the same. -/
theorem perform_make_of_registry {l : Ledger} (recorded : (s.registry k).Records l) :
    (RegistryOperation.make (.registry k)).perform s =
      ({ s with registries := s.registries ++ [s.registry k] },
        .ok (.key ⟨s.registries.length⟩)) := by
  obtain ⟨made, same⟩ := Registry.extend_contracts recorded.keyed recorded.distinct
  obtain ⟨state, result⟩ := @Store.create_of_ok s _ made
  rw [same] at state
  exact Prod.ext state (congrArg (ofRegistration .key) result)

/-! ### Runs -/

theorem run_records {b : Ledgers} (h : s.Records b) (ops : List RegistryOperation) :
    (Store.run ops s).2 = (Ledgers.run ops b).2 ∧
      (Store.run ops s).1.Records (Ledgers.run ops b).1 := by
  induction ops generalizing s b with
  | nil => exact ⟨rfl, h⟩
  | cons op rest ih =>
    obtain ⟨answer, after⟩ := perform_records h op
    obtain ⟨answers, recorded⟩ := ih after
    exact ⟨congrArg₂ List.cons answer answers, recorded⟩

/-- Every run of operations comes to what the ledgers say, and then every registry holds what its
ledger says. After it, an operation leaves every registry alone but the one it is about; a registry
that cannot be made and a registration that is refused change nothing; registering values that stops
at one of them has registered those in front of it; and a copy is the same as the registry. -/
theorem runs_record_ledgers (ops : List RegistryOperation) :
    let s := (Store.run ops .empty).1
    (Store.run ops .empty).2 = (Ledgers.run ops .empty).2 ∧
      s.Records (Ledgers.run ops .empty).1 ∧
      (∀ (op : RegistryOperation) k, s.Holds k → op.target? ≠ some k →
        (op.perform s).1.registry k = s.registry k) ∧
      (∀ supply f, ((RegistryOperation.make supply).perform s).2 = .error f →
        ((RegistryOperation.make supply).perform s).1 = s) ∧
      (∀ k v replacing f, ((RegistryOperation.register k v replacing).perform s).2 = .error f →
        ((RegistryOperation.register k v replacing).perform s).1 = s) ∧
      (∀ k supply replacing f, s.Holds k →
        ((RegistryOperation.extend k supply replacing).perform s).2 = .error f →
          ∃ before v behind t, supply.items s = before ++ v :: behind ∧
            (RegistryOperation.extend k (.values before) replacing).perform s = (t, .ok .done) ∧
            ((RegistryOperation.extend k supply replacing).perform s).1 = t ∧
            ((RegistryOperation.register k v replacing).perform t).2 = .error f) ∧
      ∀ k, (RegistryOperation.make (.registry k)).perform s =
        ({ s with registries := s.registries ++ [s.registry k] },
          .ok (.key ⟨s.registries.length⟩)) := by
  intro s
  obtain ⟨answers, recorded⟩ := run_records .empty ops
  refine ⟨answers, recorded, ?_, ?_, ?_, ?_, ?_⟩
  · exact fun op k => registry_perform op
  · exact fun supply f => perform_make_of_error
  · exact fun k v replacing f => perform_register_of_error
  · exact fun k supply replacing f => perform_extend_of_error
  · exact fun k => perform_make_of_registry (recorded.registry k)

/-- A registry of one contract is made and copied. Then another contract is to be registered in it,
and a number, at which this stops. -/
def pingRun : List RegistryOperation :=
  [.make (.values [Contract.toValue ⟨"ping", []⟩]), .make (.registry ⟨0⟩),
    .extend ⟨0⟩ (.values [Contract.toValue ⟨"pong", []⟩, .int 1]) true]

theorem pingRun_recorded :
    ((Store.run pingRun .empty).1.registry ⟨0⟩).names = ["ping", "pong"] ∧
      ((Store.run pingRun .empty).1.registry ⟨1⟩).names = ["ping"] := by
  obtain ⟨-, recorded, -⟩ := runs_record_ledgers pingRun
  have extended : ((Ledgers.run pingRun .empty).1.ledger ⟨0⟩).names = ["ping", "pong"] := by cbv
  have copied : ((Ledgers.run pingRun .empty).1.ledger ⟨1⟩).names = ["ping"] := by cbv
  exact ⟨(recorded.registry ⟨0⟩).names.trans extended, (recorded.registry ⟨1⟩).names.trans copied⟩

end DataContract
