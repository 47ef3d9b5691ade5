/-
Holders that inherit from each other, where contracts come to them by being attached alone.

Then no two holders have a registry in common (`Store.Separate`), so attaching contracts to one
changes no registry but its own. This registry is what the holder inherited when contracts were
first attached to it, followed by the contracts that were added to it since (`Store.addedTo`); what
is attached later to one it inherits from does not reach it (`decorations_stay_apart`).
-/
import DataContract.Proofs.Registry.Attachment

namespace DataContract

/-- A holder is made with nothing attached to it, or values are attached to one. -/
def StoreOperation.IsDecoration : StoreOperation → Prop
  | registry _ => False
  | declare _ _ own => own = none
  | attach _ _ => True

namespace Store

/-- The registry attached to a holder itself. -/
def attachedTo? (s : Store) (h : HolderKey) : Option Registry :=
  s.registryOf? (s.holder h).own

/-- The nearest registry that a holder inherits; an empty one if it inherits none. -/
def inheritedRegistry (s : Store) (h : HolderKey) : Registry :=
  ((s.holder h).line.findSome? s.attachedTo?).getD .empty

/-- Only registries are attached to holders, and none to two of them. -/
structure Separate (s : Store) : Prop where
  sound : s.Sound
  registries : ∀ h v, (s.holder h).own ≠ some (.value v)
  apart : ∀ h j k, (s.holder h).own = some (.registry k) → (s.holder j).own = some (.registry k) →
    h = j

variable {s : Store} {h j : HolderKey} {k : RegistryKey} {values : List Value} {r : Registry}

theorem attachedTo?_of_own (own : (s.holder h).own = some (.registry k)) :
    s.attachedTo? h = some (s.registry k) := by
  rw [attachedTo?, own]
  rfl

theorem exists_own_of_attachedTo (own : s.attachedTo? h = some r) :
    ∃ k, (s.holder h).own = some (.registry k) ∧ s.registry k = r := by
  rw [attachedTo?] at own
  cases is : (s.holder h).own with
  | none => simp [is, registryOf?] at own
  | some a =>
    cases a with
    | value v => simp [is, registryOf?] at own
    | registry k =>
      rw [is] at own
      exact ⟨k, rfl, Option.some.inj own⟩

/-- The registry of the first holder that has something attached is that of the first with a
registry. -/
theorem Separate.registryOf?_findSome? (separate : s.Separate) (l : List HolderKey) :
    s.registryOf? (l.findSome? fun j => (s.holder j).own) = l.findSome? s.attachedTo? := by
  induction l with
  | nil => rfl
  | cons j rest ih =>
    rw [List.findSome?_cons, List.findSome?_cons, attachedTo?]
    cases own : (s.holder j).own with
    | none => exact ih
    | some a =>
      cases a with
      | registry k => rfl
      | value v => exact absurd own (separate.registries j v)

/-- A holder holds its own registry, or else the nearest that it inherits. -/
theorem Separate.heldRegistry_eq (separate : s.Separate) (h : HolderKey) :
    s.heldRegistry h = (s.attachedTo? h).getD (s.inheritedRegistry h) := by
  rw [heldRegistry, held?, separate.registryOf?_findSome?, line, List.findSome?_cons,
    inheritedRegistry]
  cases s.attachedTo? h <;> rfl

/-! ### One decoration -/

/-- Attaching values to a holder leaves every registry alone but the holder's own. -/
theorem registry_attach (sound : s.Sound) (holds : s.Holds k)
    (other : (s.holder h).own ≠ some (.registry k)) (values : List Value) :
    (attach h values s).1.registry k = s.registry k := by
  obtain ⟨i, attaches⟩ := attach_attaches sound h values
  refine attaches.others k holds ?_
  rintro rfl
  obtain own | new := attaches.key
  · exact other own
  · exact new holds

/-- The registries of other holders stay as they are. -/
theorem Separate.attachedTo?_attach (separate : s.Separate) (other : j ≠ h)
    (values : List Value) : (attach h values s).1.attachedTo? j = s.attachedTo? j := by
  obtain ⟨i, attaches⟩ := attach_attaches separate.sound h values
  rw [attachedTo?, attachedTo?, attaches.holders j other]
  cases own : (s.holder j).own with
  | none => rfl
  | some a =>
    cases a with
    | value v => rfl
    | registry k =>
      have apart : (s.holder h).own ≠ some (.registry k) := fun same =>
        other (separate.apart j h k own same)
      exact congrArg some (registry_attach separate.sound (separate.sound.attached j k own) apart
        values)

/-- The holder's own registry comes to be the one it held, with the contracts that are admitted. -/
theorem attachedTo?_attach_self (sound : s.Sound) (there : s.Knows h) (values : List Value) :
    (attach h values s).1.attachedTo? h = some (s.extended h values) := by
  obtain ⟨k, attaches⟩ := attach_attaches sound h values
  rw [attachedTo?_of_own (attaches.own there), attaches.registry]

/-! ### Runs of decorations -/

theorem Separate.attach (separate : s.Separate) (h : HolderKey) (values : List Value) :
    (attach h values s).1.Separate := by
  have sound := separate.sound
  obtain ⟨k, attaches⟩ := attach_attaches sound h values
  -- no other holder has the registry under the key
  have alone {j : HolderKey} (other : j ≠ h) : (s.holder j).own ≠ some (.registry k) := by
    intro own
    obtain same | new := attaches.key
    · exact other (separate.apart j h k own same)
    · exact new (sound.attached j k own)
  refine ⟨sound.attach h values, fun j v own => ?_, fun i j l first second => ?_⟩
  · by_cases same : j = h
    · subst same
      cases attaches.only _ own
    · exact separate.registries j v (attaches.holders j same ▸ own)
  · by_cases left : i = h <;> by_cases right : j = h
    · rw [left, right]
    · subst left
      cases attaches.only _ first
      exact absurd (attaches.holders j right ▸ second) (alone right)
    · subst right
      cases attaches.only _ second
      exact absurd (attaches.holders i left ▸ first) (alone left)
    · rw [attaches.holders i left] at first
      rw [attaches.holders j right] at second
      exact separate.apart i j l first second

theorem Separate.perform (separate : s.Separate) {op : StoreOperation} (only : op.IsDecoration) :
    (op.perform s).Separate := by
  cases op with
  | registry op => exact absurd only id
  | attach h values => exact separate.attach h values
  | declare name parents own =>
    cases only
    obtain same | ⟨keys, made⟩ := declare_cases name parents none s
    · show (declare name parents none s).1.Separate
      rwa [same]
    · have refers : (StoreOperation.declare name parents none).Refers s := trivial
      have sound : (declare name parents none s).1.Sound := separate.sound.perform _ refers
      show (declare name parents none s).1.Separate
      rw [made] at sound ⊢
      -- nothing is attached to the holder that is made
      have old {j : HolderKey} {a : Holding}
          (own : (holder { s with holders := s.holders ++ [⟨name, keys, none⟩] } j).own = some a) :
          (s.holder j).own = some a := (own_concat own).resolve_right nofun
      exact ⟨sound, fun j v own => separate.registries j v (old own),
        fun i j k first second => separate.apart i j k (old first) (old second)⟩

theorem Separate.after (separate : s.Separate) {ops : List StoreOperation}
    (only : ∀ op ∈ ops, op.IsDecoration) : (s.after ops).Separate := by
  induction ops generalizing s with
  | nil => exact separate
  | cons op rest ih =>
    obtain ⟨first, later⟩ := List.forall_mem_cons.mp only
    exact ih (separate.perform first) later

end Store

/-- The contracts that an operation adds to what a holder holds. -/
def StoreOperation.added (h : HolderKey) (s : Store) : StoreOperation → List Contract
  | attach j values => if j = h then (s.heldRegistry h).admitted values else []
  | _ => []

namespace Store

/-- The contracts that operations add to what a holder holds, in order. -/
def addedTo (h : HolderKey) : Store → List StoreOperation → List Contract
  | _, [] => []
  | s, op :: rest => op.added h s ++ addedTo h (op.perform s) rest

variable {s : Store} {h : HolderKey} {r : Registry}

theorem knows_of_own {a : Holding} (own : (s.holder h).own = some a) : s.Knows h := by
  by_contra unknown
  rw [holder, List.getElem?_eq_none (Nat.not_lt.mp unknown)] at own
  cases own

theorem attachedTo?_declare (there : s.Knows h) (name : String) (parents : List HolderKey)
    (own : Option Holding) : (declare name parents own s).1.attachedTo? h = s.attachedTo? h := by
  obtain same | ⟨keys, made⟩ := declare_cases name parents own s
  · rw [same]
  · rw [made, attachedTo?, attachedTo?, holder, List.getElem?_append_left there]
    rfl

/-- What is attached to a holder comes behind what it holds, in its own registry. -/
theorem attachedTo?_perform_attach (sound : s.Sound) (there : s.Knows h) (values : List Value) :
    ((StoreOperation.attach h values).perform s).attachedTo? h =
      some ((s.heldRegistry h).followedBy ((StoreOperation.attach h values).added h s)) := by
  simp only [StoreOperation.added, if_true]
  exact attachedTo?_attach_self sound there values

/-- A holder's own registry stays, with the contracts behind it that are added to it. -/
theorem Separate.attachedTo?_perform (separate : s.Separate) {op : StoreOperation}
    (only : op.IsDecoration) (own : s.attachedTo? h = some r) :
    (op.perform s).attachedTo? h = some (r.followedBy (op.added h s)) := by
  obtain ⟨k, is, -⟩ := exists_own_of_attachedTo own
  have there : s.Knows h := knows_of_own is
  cases op with
  | registry op => exact absurd only id
  | declare name parents a =>
    show _ = some (r.followedBy [])
    rw [Registry.followedBy_nil]
    exact (attachedTo?_declare there name parents a).trans own
  | attach j values =>
    by_cases same : j = h
    · subst same
      have held : s.heldRegistry j = r := by rw [separate.heldRegistry_eq, own, Option.getD_some]
      rw [attachedTo?_perform_attach separate.sound there, held]
    · simp only [StoreOperation.added, if_neg same, Registry.followedBy_nil]
      exact (separate.attachedTo?_attach (Ne.symm same) values).trans own

theorem Separate.attachedTo?_after (separate : s.Separate) {ops : List StoreOperation}
    (only : ∀ op ∈ ops, op.IsDecoration) (own : s.attachedTo? h = some r) :
    (s.after ops).attachedTo? h = some (r.followedBy (s.addedTo h ops)) := by
  induction ops generalizing s r with
  | nil => exact own.trans (congrArg some Registry.followedBy_nil.symm)
  | cons op rest ih =>
    obtain ⟨first, later⟩ := List.forall_mem_cons.mp only
    rw [addedTo, Registry.followedBy_append]
    exact ih (separate.perform first) later (separate.attachedTo?_perform first own)

/-- Registries may be made before there are holders. -/
theorem holders_after (base : List RegistryOperation) (s : Store) :
    (s.after (base.map .registry)).holders = s.holders := by
  induction base generalizing s with
  | nil => rfl
  | cons op rest ih => exact (ih _).trans (holders_perform op)

theorem separate_after (base : List RegistryOperation) :
    (Store.empty.after (base.map .registry)).Separate := by
  have refers (s : Store) : s.Refers (base.map .registry) := by
    induction base generalizing s with
    | nil => trivial
    | cons op rest ih => exact ⟨trivial, ih _⟩
  have bare (h : HolderKey) : ((Store.empty.after (base.map .registry)).holder h).own = none := by
    rw [holder, holders_after]
    rfl
  refine ⟨Sound.empty.after _ (refers _), ?_, ?_⟩
  · intro h v own
    cases (bare h).symm.trans own
  · intro h j k own
    cases (bare h).symm.trans own

/-- However holders are made, and contracts attached to them, in a program with whatever other
registries: attaching values to a holder changes no registry that is not the holder's own, neither
those of other holders nor any other, and it succeeds if all values are admitted. A holder's own
registry is the nearest that it inherited when values were first attached to it, followed by what
has been added to it since. -/
theorem decorations_stay_apart (base : List RegistryOperation) (ops : List StoreOperation)
    (only : ∀ op ∈ ops, op.IsDecoration) :
    let start := Store.empty.after (base.map .registry)
    let s := start.after ops
    (∀ h values,
      (∀ j, j ≠ h → (attach h values s).1.attachedTo? j = s.attachedTo? j) ∧
      (∀ k, s.Holds k → (s.holder h).own ≠ some (.registry k) →
        (attach h values s).1.registry k = s.registry k) ∧
      ((attach h values s).2.result = .ok () ↔
        values.map Contract.ofValue? = ((s.heldRegistry h).admitted values).map some)) ∧
    ∀ before h values behind, ops = before ++ .attach h values :: behind →
      let first := start.after before
      first.Knows h → first.attachedTo? h = none →
        s.attachedTo? h = some ((first.inheritedRegistry h).followedBy
          (first.addedTo h (.attach h values :: behind))) := by
  intro start s
  have separate : s.Separate := (separate_after base).after only
  refine ⟨fun h values => ⟨fun j other => ?_, fun k holds other => ?_, ?_⟩, ?_⟩
  · exact separate.attachedTo?_attach other values
  · exact registry_attach separate.sound holds other values
  · exact attach_eq_ok_iff separate.sound h values
  · intro before h values behind split first there none
    subst split
    obtain ⟨earlier, later⟩ := List.forall_mem_append.mp only
    obtain ⟨decoration, later⟩ := List.forall_mem_cons.mp later
    have apart : first.Separate := (separate_after base).after earlier
    have held : first.heldRegistry h = first.inheritedRegistry h := by
      rw [apart.heldRegistry_eq, none, Option.getD_none]
    -- the registry is made by the first decoration, and grows from then on
    have made := attachedTo?_perform_attach apart.sound there values
    have grown := (apart.perform decoration).attachedTo?_after later made
    rw [held, ← Registry.followedBy_append] at grown
    rw [addedTo, ← grown]
    show (start.after _).attachedTo? h = _
    rw [after, List.foldl_append]
    rfl

/-- A program in which a holder and its heir are decorated in turns, the heir a last time with a
contract that it has inherited. -/
def turns : List StoreOperation :=
  [.declare "Base" [] none, .attach ⟨0⟩ [(bareContract "ping").toValue],
    .declare "Child" [⟨0⟩] none, .attach ⟨1⟩ [(bareContract "pong").toValue],
    .attach ⟨0⟩ [(bareContract "pang").toValue], .attach ⟨1⟩ [(bareContract "ping").toValue]]

theorem turns_stay_apart : (∀ op ∈ turns, op.IsDecoration) ∧
    (Store.empty.after turns).attachedTo? ⟨0⟩ =
      some (Registry.empty.followedBy [bareContract "ping", bareContract "pang"]) ∧
    (Store.empty.after turns).attachedTo? ⟨1⟩ =
      some (Registry.empty.followedBy [bareContract "ping", bareContract "pong"]) := by
  have only : ∀ op ∈ turns, op.IsDecoration := by
    simp [turns, StoreOperation.IsDecoration]
  obtain ⟨-, grown⟩ := decorations_stay_apart [] turns only
  refine ⟨only, ?_, ?_⟩
  · have base := grown (turns.take 1) ⟨0⟩ [(bareContract "ping").toValue] (turns.drop 2) rfl
      Nat.one_pos (by cbv)
    exact base.trans (by cbv)
  · have child := grown (turns.take 3) ⟨1⟩ [(bareContract "pong").toValue] (turns.drop 4) rfl
      (by cbv) (by cbv)
    exact child.trans (by cbv)

end Store

end DataContract
