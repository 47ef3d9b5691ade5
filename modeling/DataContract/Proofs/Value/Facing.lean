/-
Equal values of different types.

In two equal values equal parts stand opposite each other (`Opposite`, and `Facing` through all
depths). Equality does not ask for types, so two parts that face each other may be of different
ones: a truth value and an integer, a text and a member that is the text, two kinds of map, a list
and a member that is a list. A value that equals none but values of its own type is distinctive
(`isDistinctive`).

* `typeName_eq_of_beq`, `exists_beq_of_not_distinctive` — the distinctive values are these and no
  others;
* `typeName_eq_of_singular` — fractions, lists and tuples are mistaken for members alone;
* `strictlyEquals_of_alike` — equal values of one type have the same types at every place if equal
  values inside them have the same type;
* `exists_not_strictlyEquals` — where something stands inside that is not distinctive, there is an
  equal value with another type inside.
-/
import DataContract.Proofs.Lists
import DataContract.Proofs.Value.Parts

namespace DataContract

namespace Value

variable {x y : Value} {p q : Value × Value}

/-! ### Types -/

/-- Whether a value equals none but values of its own type. Truth values, integers, doubles other than
NaN and members that are numbers equal each other; so do texts and members that are texts, lists and
members that are lists, tuples and members that are tuples, and maps of all kinds. -/
def isDistinctive : Value → Bool
  | .bool _ => false
  | .int _ => false
  | .float x => x = .nan
  | .text _ => false
  | .atom a => !a.isValue
  | .sequence _ _ => false
  | .mapping _ _ => false
  | _ => true

/-- Whether a value equals none but values of its own type and members that are such values: fractions,
lists and tuples do besides the distinctive values. -/
def isSingular : Value → Bool
  | .bool _ => false
  | .int _ => false
  | .float x => x.toInt?.isNone
  | .text _ => false
  | .atom a => !a.isValue
  | .sequence k _ => k.member?.isNone
  | .mapping _ _ => false
  | _ => true

/-- Whether a value is a member that is a double, a list or a tuple at the same time. -/
def isMimic : Value → Bool
  | .atom ⟨_, _, .double _, isValue⟩ => isValue
  | .sequence k _ => k.member?.isSome
  | _ => false

/-- What equals a distinctive value is of its type. -/
theorem typeName_eq_of_beq (distinctive : y.isDistinctive = true) (same : (x == y) = true) :
    x.typeName = y.typeName := by
  have parts := shape_eq_of_beq same
  cases y with
  | bool b => cases distinctive
  | int n => cases distinctive
  | text s => cases distinctive
  | sequence l ys => cases distinctive
  | mapping l fs => cases distinctive
  | set ys =>
    cases x with
    | set xs => rfl
    | _ => cases parts
  | record n hs =>
    cases x with
    | record m gs => exact (beq_record_iff.mp same).1
    | _ => cases parts
  | float d =>
    obtain rfl : d = .nan := of_decide_eq_true distinctive
    rw [beq_of_atomic parts] at same
    -- NaN equals nothing at all
    cases number : x.comparable? with
    | some m =>
      have unequal : m.beq (.double .nan) = false := by
        rw [Number.beq]
        cases m.point? <;> rfl
      have nan : (Value.float .nan).comparable? = some (.double .nan) := rfl
      simp only [beqAtomic, number, nan, unequal] at same
      cases same
    | none => cases x <;> simp_all [beqAtomic, comparable?, asNumber?, asText?]
  | atom a =>
    rw [beq_of_atomic parts] at same
    obtain ⟨family, name, value, isValue⟩ := a
    cases isValue with
    | true => cases distinctive
    | false => cases value <;> exact (beqAtomic_of_plain same rfl rfl).2
  | _ =>
    rw [beq_of_atomic parts] at same
    exact (beqAtomic_of_plain same rfl rfl).2

/-- What equals a singular value and is no member is of its type. -/
theorem typeName_eq_of_singular (singular : y.isSingular = true) (other : x.isMimic = false)
    (same : (x == y) = true) : x.typeName = y.typeName := by
  have parts := shape_eq_of_beq same
  cases y with
  | bool b => cases singular
  | int n => cases singular
  | text s => cases singular
  | mapping l fs => cases singular
  | sequence l ys =>
    cases x with
    | sequence k xs =>
      obtain ⟨grows, -⟩ := beq_sequence_iff.mp same
      cases k <;> cases l <;>
        simp_all [SequenceKind.grows, SequenceKind.member?, isMimic, isSingular, typeName]
    | _ => cases parts
  | float d =>
    -- only an integer could be of another type, and it would be the value of the double
    have whole : ∀ n, (Number.int n).beq (.double d) = false := by
      intro n
      refine Bool.eq_false_iff.mpr fun equal => ?_
      rw [Number.beq_int_double_iff] at equal
      simp [isSingular, equal] at singular
    rw [beq_of_atomic parts] at same
    cases x with
    | float e => rfl
    | bool b => simp [beqAtomic, comparable?, asNumber?, whole] at same
    | int n => simp [beqAtomic, comparable?, asNumber?, whole] at same
    | atom a =>
      obtain ⟨family, name, value, isValue⟩ := a
      cases value <;> cases isValue <;>
        simp [isMimic, beqAtomic, comparable?, asNumber?, asText?, whole] at same other
    | _ => simp [beqAtomic, comparable?, asNumber?, asText?] at same
  | _ => exact typeName_eq_of_beq singular same

/-- What equals itself and is not distinctive equals a value of another type. -/
theorem exists_beq_of_not_distinctive (mistakable : y.isDistinctive = false)
    (self : (y == y) = true) : ∃ x, (x == y) = true ∧ x.typeName ≠ y.typeName := by
  have integer : ∀ n, (Number.int n).beq (.int n) = true := fun n => Number.beq_self nofun
  -- a type with a longer name is another one
  have longer : ∀ type : String, type ++ "+" ≠ type := by simp
  cases y with
  | bool b =>
    refine ⟨.int (if b then 1 else 0), ?_, by simp [typeName]⟩
    rw [beq_of_atomic rfl]
    simp [beqAtomic, comparable?, asNumber?, integer]
  | int n =>
    refine ⟨.atom ⟨"", "", .number n, true⟩, ?_, by simp [typeName]⟩
    rw [beq_of_atomic rfl]
    simp [beqAtomic, comparable?, asNumber?, integer]
  | text s =>
    refine ⟨.atom ⟨"", "", .text s, true⟩, ?_, by simp [typeName]⟩
    rw [beq_of_atomic rfl]
    simp [beqAtomic, comparable?, asNumber?, asText?]
  | float d =>
    refine ⟨.atom ⟨"", "", .double d, true⟩, ?_, by simp [typeName]⟩
    rw [beq_of_atomic rfl] at self ⊢
    exact self
  | atom a =>
    obtain ⟨family, name, value, isValue⟩ := a
    cases isValue with
    | false => cases mistakable
    | true =>
      -- a member of another enumeration with the same assigned to it
      refine ⟨.atom ⟨family ++ "+", name, value, true⟩, ?_, longer family⟩
      rw [beq_of_atomic rfl] at self ⊢
      cases value with
      | text s => simp [beqAtomic, comparable?, asNumber?, asText?]
      | number n => simp [beqAtomic, comparable?, asNumber?, integer]
      | double d => exact self
  | sequence k ys =>
    have each := (beq_sequence_iff.mp self).2
    cases grows : k.grows with
    | true =>
      refine ⟨.sequence (.listMember ⟨k.typeName ++ "+", ""⟩) ys, ?_, longer k.typeName⟩
      exact beq_sequence_iff.mpr ⟨grows.symm, each⟩
    | false =>
      refine ⟨.sequence (.tupleMember ⟨k.typeName ++ "+", ""⟩) ys, ?_, longer k.typeName⟩
      exact beq_sequence_iff.mpr ⟨grows.symm, each⟩
  | mapping k es =>
    refine ⟨.mapping (.member ⟨k.typeName ++ "+", ""⟩) es, ?_, longer k.typeName⟩
    have each : ∀ e ∈ es, ∃ f ∈ es, (e.1 == f.1) = true ∧ (e.2 == f.2) = true := by
      by_cases order : k = .ordered
      · subst order
        exact fun e mem => ⟨e, mem, List.forall₂_same.mp (beq_ordered_iff.mp self) e mem⟩
      · exact ((beq_mapping_iff fun both => order both.1).mp self).2
    exact (beq_mapping_iff (fun both => by cases both.1)).mpr ⟨rfl, each⟩
  | _ => cases mistakable

/-! ### Values that face each other -/

/-- Two parts of two values stand opposite each other, one level down. -/
inductive Opposite : Value × Value → Value × Value → Prop where
  | item {k l : SequenceKind} {xs ys : List Value} {a b : Value} (mem : (a, b) ∈ xs.zip ys) :
    Opposite (.sequence k xs, .sequence l ys) (a, b)
  | key {k l : MappingKind} {es fs : List (Value × Value)} {e f : Value × Value} (first : e ∈ es)
    (second : f ∈ fs) (keys : (e.1 == f.1) = true) (values : (e.2 == f.2) = true) :
    Opposite (.mapping k es, .mapping l fs) (e.1, f.1)
  | held {k l : MappingKind} {es fs : List (Value × Value)} {e f : Value × Value} (first : e ∈ es)
    (second : f ∈ fs) (keys : (e.1 == f.1) = true) (values : (e.2 == f.2) = true) :
    Opposite (.mapping k es, .mapping l fs) (e.2, f.2)
  | member {xs ys : List Value} {a b : Value} (first : a ∈ xs) (second : b ∈ ys)
    (members : (a == b) = true) : Opposite (.set xs, .set ys) (a, b)
  | field {m n : String} {gs hs : List (String × Value)} {g h : String × Value}
    (mem : (g, h) ∈ gs.zip hs) : Opposite (.record m gs, .record n hs) (g.2, h.2)

/-- Two parts of two values, or the values themselves, face each other. -/
abbrev Facing : Value × Value → Value × Value → Prop :=
  Relation.ReflTransGen Opposite

theorem Opposite.child (h : Opposite p q) : Child p.2 q.2 := by
  cases h with
  | item mem => exact .item (List.of_mem_zip mem).2
  | @key k l es fs e f first second => exact Child.key (e := f) second
  | @held k l es fs e f first second => exact Child.held (e := f) second
  | member first second => exact .member second
  | field mem => exact .field (List.of_mem_zip mem).2

theorem Opposite.left (h : Opposite p q) : Child p.1 q.1 := by
  cases h with
  | item mem => exact .item (List.of_mem_zip mem).1
  | @key k l es fs e f first => exact Child.key (e := e) first
  | @held k l es fs e f first => exact Child.held (e := e) first
  | member first => exact .member first
  | field mem => exact .field (List.of_mem_zip mem).1

/-- In equal values, what stands opposite each other is equal. -/
theorem Opposite.beq (h : Opposite p q) (same : (p.1 == p.2) = true) : (q.1 == q.2) = true := by
  cases h with
  | item mem => exact List.forall₂_zip (beq_sequence_iff.mp same).2 mem
  | key first second keys values => exact keys
  | held first second keys values => exact values
  | member first second members => exact members
  | field mem => exact (List.forall₂_zip (beq_record_iff.mp same).2 mem).2

theorem Facing.beq (h : Facing p q) (same : (p.1 == p.2) = true) : (q.1 == q.2) = true := by
  induction h with
  | refl => exact same
  | tail _ step ih => exact step.beq ih

/-- Entries with one replaced by an equal one make equal maps. -/
theorem beq_mapping_replace {k : MappingKind} {before after : List (Value × Value)}
    {e f : Value × Value} (each : ∀ g ∈ before ++ f :: after, (g.1 == g.1) = true ∧
      (g.2 == g.2) = true) (keys : (e.1 == f.1) = true) (values : (e.2 == f.2) = true) :
    (mapping k (before ++ e :: after) == mapping k (before ++ f :: after)) = true := by
  have inStep : List.Forall₂ (fun e f => (e.1 == f.1) = true ∧ (e.2 == f.2) = true)
      (before ++ e :: after) (before ++ f :: after) := forall₂_replace each ⟨keys, values⟩
  by_cases order : k = .ordered
  · subst order
    exact beq_ordered_iff.mpr inStep
  · exact (beq_mapping_iff fun both => order both.1).mpr
      ⟨inStep.length_eq, exists_of_forall₂ inStep⟩

/-- A part can be put in the place of an equal one: the value stays of its type and equal. -/
theorem exists_opposite {a b : Value} (child : Child y b) (sound : y.Sound)
    (same : (a == b) = true) :
    ∃ x, x.typeName = y.typeName ∧ (x == y) = true ∧ Opposite (x, y) (a, b) := by
  have inside : ∀ z, Child y z → (z == z) = true := fun z part => (sound.child part).beq_self
  cases child with
  | @item k ys _ mem =>
    obtain ⟨before, after, rfl⟩ := List.append_of_mem mem
    have inStep : List.Forall₂ (fun x y => (x == y) = true) (before ++ a :: after)
        (before ++ b :: after) := forall₂_replace (fun z there => inside z (.item there)) same
    exact ⟨.sequence k (before ++ a :: after), by cases k <;> rfl, beq_sequence_iff.mpr ⟨rfl, inStep⟩,
      .item (mem_zip_middle rfl)⟩
  | @key k es e mem =>
    obtain ⟨before, after, rfl⟩ := List.append_of_mem mem
    have value := (sound.entry e mem).2
    refine ⟨.mapping k (before ++ (a, e.2) :: after), by cases k <;> rfl,
      beq_mapping_replace sound.entry same value, ?_⟩
    exact Opposite.key (e := (a, e.2)) (List.mem_append_right _ List.mem_cons_self) mem same value
  | @held k es e mem =>
    obtain ⟨before, after, rfl⟩ := List.append_of_mem mem
    have key := (sound.entry e mem).1
    refine ⟨.mapping k (before ++ (e.1, a) :: after), by cases k <;> rfl,
      beq_mapping_replace sound.entry key same, ?_⟩
    exact Opposite.held (e := (e.1, a)) (List.mem_append_right _ List.mem_cons_self) mem key same
  | @member ys _ mem =>
    obtain ⟨before, after, rfl⟩ := List.append_of_mem mem
    have inStep : List.Forall₂ (fun x y => (x == y) = true) (before ++ a :: after)
        (before ++ b :: after) := forall₂_replace (fun z there => inside z (.member there)) same
    exact ⟨.set (before ++ a :: after), rfl,
      beq_set_iff.mpr ⟨inStep.length_eq, exists_of_forall₂ inStep⟩,
      .member (List.mem_append_right _ List.mem_cons_self) mem same⟩
  | @field m gs g mem =>
    obtain ⟨before, after, rfl⟩ := List.append_of_mem mem
    have each : ∀ h ∈ before ++ g :: after, h.1 = h.1 ∧ (h.2 == h.2) = true :=
      fun h there => ⟨rfl, inside h.2 (.field there)⟩
    have inStep : List.Forall₂ (fun g h => g.1 = h.1 ∧ (g.2 == h.2) = true)
        (before ++ (g.1, a) :: after) (before ++ g :: after) := forall₂_replace each ⟨rfl, same⟩
    exact ⟨.record m (before ++ (g.1, a) :: after), rfl, beq_record_iff.mpr ⟨rfl, inStep⟩,
      Opposite.field (g := (g.1, a)) (h := g) (mem_zip_middle rfl)⟩

/-! ### One type at every place -/

/-- Two values are equal and have the same type, and so have the parts that face each other. -/
def StrictlyEquals (x y : Value) : Prop :=
  (x == y) = true ∧ ∀ a b, Facing (x, y) (a, b) → a.typeName = b.typeName

/-- A value stands somewhere inside another. -/
abbrev Within (x y : Value) : Prop :=
  Relation.TransGen Child y x

/-- Equal values of one type have the same types inside too if equal values inside them have. -/
theorem strictlyEquals_of_alike (inside : ∀ a b, Within a x → Within b y → (a == b) = true →
      a.typeName = b.typeName) (type : x.typeName = y.typeName) (same : (x == y) = true) :
    StrictlyEquals x y := by
  refine ⟨same, fun a b facing => ?_⟩
  obtain top | ⟨q, front, last⟩ := Relation.ReflTransGen.cases_tail facing
  · cases top
    exact type
  · have first : Relation.ReflTransGen Child x q.1 := front.lift Prod.fst fun p q step => step.left
    have second : Relation.ReflTransGen Child y q.2 := front.lift Prod.snd fun p q step => step.child
    exact inside a b (.tail' first last.left) (.tail' second last.child) (Facing.beq facing same)

/-- Where something stands inside that is not distinctive, there is an equal value of the same type
with a part of another type. -/
theorem exists_not_strictlyEquals (sound : y.Sound) {z : Value} (within : Within z y)
    (mistakable : z.isDistinctive = false) :
    ∃ x, x.typeName = y.typeName ∧ (x == y) = true ∧ ¬StrictlyEquals x y := by
  induction within using Relation.TransGen.head_induction_on with
  | single child =>
    obtain ⟨a, same, other⟩ := exists_beq_of_not_distinctive mistakable (sound.child child).beq_self
    obtain ⟨x, type, equal, opposite⟩ := exists_opposite child sound same
    exact ⟨x, type, equal, fun strict => other (strict.2 _ _ (.single opposite))⟩
  | head child _ ih =>
    obtain ⟨w, -, same, loose⟩ := ih (sound.child child)
    obtain ⟨x, type, equal, opposite⟩ := exists_opposite child sound same
    refine ⟨x, type, equal, fun strict => loose ⟨same, fun a b facing => ?_⟩⟩
    exact strict.2 a b (facing.head opposite)

end Value

end DataContract
