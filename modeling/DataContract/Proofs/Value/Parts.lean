/-
Equal values, part by part.

Equality goes by the parts: the items of lists and the fields of records one by one, the members of
sets and the entries of maps by looking for an equal one (`beq_sequence_iff`, `beq_set_iff`,
`beq_mapping_iff`, `beq_record_iff`). What stands in a value one level down is its `Child`, and what
holds of a value as soon as it holds of these holds of every value (`childInduction`): so does that
a value equals itself, but for NaN (`Sound.beq_self`).
-/
import DataContract.Proofs.Number.Exact
import DataContract.Proofs.Value.Keys

namespace DataContract

namespace Value

/-! ### Equality, by the parts -/

variable {x y : Value} {xs ys : List Value} {es fs : List (Value × Value)}
  {gs hs : List (String × Value)}

theorem beqItems_iff : beqItems xs ys = true ↔ List.Forall₂ (fun x y => (x == y) = true) xs ys := by
  induction xs generalizing ys with
  | nil => cases ys <;> simp [beqItems]
  | cons x xs ih =>
    cases ys with
    | nil => simp [beqItems]
    | cons y ys =>
      rw [beqItems, Bool.and_eq_true, List.forall₂_cons, ih]
      rfl

theorem beqOrdered_iff : beqOrdered es fs = true ↔
    List.Forall₂ (fun e f => (e.1 == f.1) = true ∧ (e.2 == f.2) = true) es fs := by
  induction es generalizing fs with
  | nil => cases fs <;> simp [beqOrdered]
  | cons e es ih =>
    cases fs with
    | nil => simp [beqOrdered]
    | cons f fs =>
      obtain ⟨k, v⟩ := e
      obtain ⟨l, w⟩ := f
      rw [beqOrdered, Bool.and_eq_true, Bool.and_eq_true, List.forall₂_cons, ih]
      rfl

theorem beqFields_iff : beqFields gs hs = true ↔
    List.Forall₂ (fun e f => e.1 = f.1 ∧ (e.2 == f.2) = true) gs hs := by
  induction gs generalizing hs with
  | nil => cases hs <;> simp [beqFields]
  | cons e gs ih =>
    cases hs with
    | nil => simp [beqFields]
    | cons f hs =>
      obtain ⟨k, v⟩ := e
      obtain ⟨l, w⟩ := f
      rw [beqFields, Bool.and_eq_true, Bool.and_eq_true, List.forall₂_cons, ih, beq_iff_eq]
      rfl

theorem withinEntries_iff : withinEntries es fs = true ↔
    ∀ e ∈ es, ∃ f ∈ fs, (e.1 == f.1) = true ∧ (e.2 == f.2) = true := by
  induction es with
  | nil => simp [withinEntries]
  | cons e es ih =>
    obtain ⟨k, v⟩ := e
    rw [withinEntries, Bool.and_eq_true, List.any_eq_true, List.forall_mem_cons, ih]
    simp only [Bool.and_eq_true]
    rfl

theorem withinItems_iff : withinItems xs ys = true ↔ ∀ x ∈ xs, ∃ y ∈ ys, (x == y) = true := by
  induction xs with
  | nil => simp [withinItems]
  | cons x xs ih =>
    rw [withinItems, Bool.and_eq_true, List.any_eq_true, List.forall_mem_cons, ih]
    rfl

theorem beq_sequence_iff {k l : SequenceKind} : (sequence k xs == sequence l ys) = true ↔
    k.grows = l.grows ∧ List.Forall₂ (fun x y => (x == y) = true) xs ys := by
  show beq _ _ = true ↔ _
  rw [beq, Bool.and_eq_true, beq_iff_eq, beqItems_iff]

theorem beq_set_iff : (set xs == set ys) = true ↔
    xs.length = ys.length ∧ ∀ x ∈ xs, ∃ y ∈ ys, (x == y) = true := by
  show beq _ _ = true ↔ _
  rw [beq, Bool.and_eq_true, beq_iff_eq, withinItems_iff]

theorem beq_record_iff {m n : String} : (record m gs == record n hs) = true ↔
    m = n ∧ List.Forall₂ (fun e f => e.1 = f.1 ∧ (e.2 == f.2) = true) gs hs := by
  show beq _ _ = true ↔ _
  rw [beq, Bool.and_eq_true, beq_iff_eq, beqFields_iff]

theorem beq_ordered_iff : (mapping .ordered es == mapping .ordered fs) = true ↔
    List.Forall₂ (fun e f => (e.1 == f.1) = true ∧ (e.2 == f.2) = true) es fs := by
  show beq _ _ = true ↔ _
  rw [beq, beqOrdered_iff]

theorem beq_mapping_iff {k l : MappingKind} (order : ¬(k = .ordered ∧ l = .ordered)) :
    (mapping k es == mapping l fs) = true ↔ es.length = fs.length ∧
      ∀ e ∈ es, ∃ f ∈ fs, (e.1 == f.1) = true ∧ (e.2 == f.2) = true := by
  show beq _ _ = true ↔ _
  rw [beq, Bool.and_eq_true, beq_iff_eq, withinEntries_iff]
  rintro rfl rfl
  exact order ⟨rfl, rfl⟩

/-- The sorts of parts that a value can have. -/
inductive Shape where
  | atomic
  | items
  | entries
  | members
  | fields

/-- The sort of a value's parts; a value without parts is atomic. -/
def shape : Value → Shape
  | .sequence _ _ => .items
  | .mapping _ _ => .entries
  | .set _ => .members
  | .record _ _ => .fields
  | _ => .atomic

theorem beq_of_atomic (h : x.shape = .atomic) (y : Value) : (x == y) = beqAtomic x y := by
  show beq x y = _
  cases x with
  | sequence k xs => cases h
  | mapping k es => cases h
  | set xs => cases h
  | record m gs => cases h
  | _ => rw [beq]

/-- What is neither a number nor a text equals, of values without parts, those of its type. -/
theorem beqAtomic_of_plain (same : beqAtomic x y = true) (number : y.comparable? = none)
    (text : y.asText? = none) : y.shape = .atomic ∧ x.typeName = y.typeName := by
  cases y with
  | bool b => cases number
  | int n => cases number
  | float d => cases number
  | text s => cases text
  | _ => cases x <;> simp_all [beqAtomic, shape, typeName]

/-- What has parts equals only what has parts of the same sort. -/
theorem shape_eq_of_beq (same : (x == y) = true) : x.shape = y.shape := by
  cases x with
  | sequence k xs => cases y <;> simp [BEq.beq, beq, shape] at same ⊢
  | mapping k es => cases y <;> simp [BEq.beq, beq, shape] at same ⊢
  | set xs => cases y <;> simp [BEq.beq, beq, shape] at same ⊢
  | record m gs => cases y <;> simp [BEq.beq, beq, shape] at same ⊢
  | _ =>
    rw [beq_of_atomic rfl] at same
    cases y with
    | sequence l ys => exact (beqAtomic_of_plain same rfl rfl).1.symm
    | mapping l fs => exact (beqAtomic_of_plain same rfl rfl).1.symm
    | set ys => exact (beqAtomic_of_plain same rfl rfl).1.symm
    | record n hs => exact (beqAtomic_of_plain same rfl rfl).1.symm
    | _ => rfl

/-! ### Parts -/

/-- What stands in a value, one level down. -/
inductive Child : Value → Value → Prop where
  | item {k : SequenceKind} {xs : List Value} {y : Value} (mem : y ∈ xs) : Child (.sequence k xs) y
  | key {k : MappingKind} {es : List (Value × Value)} {e : Value × Value} (mem : e ∈ es) :
    Child (.mapping k es) e.1
  | held {k : MappingKind} {es : List (Value × Value)} {e : Value × Value} (mem : e ∈ es) :
    Child (.mapping k es) e.2
  | member {xs : List Value} {y : Value} (mem : y ∈ xs) : Child (.set xs) y
  | field {m : String} {gs : List (String × Value)} {g : String × Value} (mem : g ∈ gs) :
    Child (.record m gs) g.2

theorem Child.sizeOf_lt (h : Child x y) : sizeOf y < sizeOf x := by
  cases h with
  | item mem =>
    have smaller := List.sizeOf_lt_of_mem mem
    simp only [sequence.sizeOf_spec]
    omega
  | @key k es e mem =>
    have smaller := List.sizeOf_lt_of_mem mem
    obtain ⟨l, w⟩ := e
    simp only [mapping.sizeOf_spec, Prod.mk.sizeOf_spec] at smaller ⊢
    omega
  | @held k es e mem =>
    have smaller := List.sizeOf_lt_of_mem mem
    obtain ⟨l, w⟩ := e
    simp only [mapping.sizeOf_spec, Prod.mk.sizeOf_spec] at smaller ⊢
    omega
  | member mem =>
    have smaller := List.sizeOf_lt_of_mem mem
    simp only [set.sizeOf_spec]
    omega
  | @field m gs g mem =>
    have smaller := List.sizeOf_lt_of_mem mem
    obtain ⟨l, w⟩ := g
    simp only [record.sizeOf_spec, Prod.mk.sizeOf_spec] at smaller ⊢
    omega

/-- Induction over values: from all that stands in a value to the value. -/
theorem childInduction {P : Value → Prop} (step : ∀ x, (∀ y, Child x y → P y) → P x) (x : Value) :
    P x :=
  step x fun y _ => childInduction step y
termination_by sizeOf x
decreasing_by exact Child.sizeOf_lt ‹_›

/-- No part of a value, nor the value itself, is NaN, which equals nothing. -/
def Sound (x : Value) : Prop :=
  ∀ y, Relation.ReflTransGen Child x y → y.asNumber? ≠ some (.double .nan)

theorem Sound.child (sound : x.Sound) (h : Child x y) : y.Sound :=
  fun z part => sound z (.head h part)

theorem beqAtomic_self (atomic : x.shape = .atomic) (number : x.asNumber? ≠ some (.double .nan)) :
    beqAtomic x x = true := by
  have integer : ∀ n, (Number.int n).beq (.int n) = true := fun n => Number.beq_self nofun
  have double : ∀ d, d ≠ .nan → (Number.double d).beq (.double d) = true := fun d other =>
    Number.beq_self fun nan => other (by cases nan; rfl)
  cases x with
  | sequence k xs => cases atomic
  | mapping k es => cases atomic
  | set xs => cases atomic
  | record m gs => cases atomic
  | float d =>
    have self := double d fun nan => number (nan ▸ rfl)
    simpa [beqAtomic, comparable?, asNumber?] using self
  | bool b => simp [beqAtomic, comparable?, integer]
  | int n => simp [beqAtomic, comparable?, asNumber?, integer]
  | atom a =>
    obtain ⟨family, name, value, isValue⟩ := a
    cases value with
    | text s => cases isValue <;> simp [beqAtomic, comparable?, asNumber?, asText?]
    | number n =>
      cases isValue with
      | false => simp [beqAtomic, comparable?, asNumber?, asText?]
      | true => simp [beqAtomic, comparable?, asNumber?, integer]
    | double d =>
      cases isValue with
      | false => simp [beqAtomic, comparable?, asNumber?, asText?]
      | true =>
        have self := double d fun nan => number (nan ▸ rfl)
        simpa [beqAtomic, comparable?, asNumber?] using self
  | dateTime t =>
    cases offset : t.offset <;>
      simp [beqAtomic, comparable?, asNumber?, asText?, DateTime.sameMoment, offset]
  | _ => simp [beqAtomic, comparable?, asNumber?, asText?]

/-- A value without NaN equals itself. -/
theorem Sound.beq_self (sound : x.Sound) : (x == x) = true := by
  induction x using childInduction with
  | step x ih =>
    have inside : ∀ y, Child x y → (y == y) = true := fun y child => ih y child (sound.child child)
    cases x with
    | sequence k xs =>
      exact beq_sequence_iff.mpr ⟨rfl, List.forall₂_same.mpr fun y mem => inside y (.item mem)⟩
    | mapping k es =>
      have each : ∀ e ∈ es, (e.1 == e.1) = true ∧ (e.2 == e.2) = true :=
        fun e mem => ⟨inside e.1 (.key mem), inside e.2 (.held mem)⟩
      by_cases order : k = .ordered
      · subst order
        exact beq_ordered_iff.mpr (List.forall₂_same.mpr each)
      · exact (beq_mapping_iff fun both => order both.1).mpr
          ⟨rfl, fun e mem => ⟨e, mem, each e mem⟩⟩
    | set xs => exact beq_set_iff.mpr ⟨rfl, fun y mem => ⟨y, mem, inside y (.member mem)⟩⟩
    | record m gs =>
      exact beq_record_iff.mpr
        ⟨rfl, List.forall₂_same.mpr fun g mem => ⟨rfl, inside g.2 (.field mem)⟩⟩
    | _ => rw [beq_of_atomic rfl, beqAtomic_self rfl (sound _ .refl)]

theorem Sound.entry {k : MappingKind} (sound : (mapping k es).Sound) :
    ∀ e ∈ es, (e.1 == e.1) = true ∧ (e.2 == e.2) = true :=
  fun _ mem => ⟨(sound.child (.key mem)).beq_self, (sound.child (.held mem)).beq_self⟩

end Value

end DataContract
