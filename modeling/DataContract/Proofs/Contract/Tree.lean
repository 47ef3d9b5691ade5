/-
Induction over contracts.

A contract is a tree: a field may have fields of its own. What holds of every list of fields is
proved from the empty list and from a field in front of a list, for the fields inside it and for
those behind it (`fieldsInduction`). Well-formedness passes to both (`allWellFormed_iff`,
`Field.WellFormed.inside`, `Field.wellFormed_iff`), and follows from any property that does so and
implies the rules for one field (`Field.wellFormed_of_closed`).
-/
import DataContract.Contract.Basic

namespace DataContract

mutual

/-- Induction over lists of fields, the fields inside a field included. -/
theorem fieldsInduction {P : List Field → Prop} (nil : P [])
    (cons : ∀ (f : Field) (rest : List Field),
      (∀ nested, f.nested = some nested → P nested) → P rest → P (f :: rest)) :
    ∀ fields : List Field, P fields
  | [] => nil
  | f :: rest => cons f rest (insideInduction nil cons f) (fieldsInduction nil cons rest)

theorem insideInduction {P : List Field → Prop} (nil : P [])
    (cons : ∀ (f : Field) (rest : List Field),
      (∀ nested, f.nested = some nested → P nested) → P rest → P (f :: rest)) :
    ∀ (f : Field) (nested : List Field), f.nested = some nested → P nested
  | ⟨_, _, _, _, some fields⟩, _, rfl => fieldsInduction nil cons fields

end

theorem allWellFormed_iff {fields : List Field} :
    allWellFormed fields ↔ ∀ f ∈ fields, f.WellFormed := by
  induction fields with
  | nil => simp [allWellFormed]
  | cons f rest ih => simp [allWellFormed, ih]

/-- The fields inside a well-formed field have distinct names and are well-formed. -/
theorem Field.WellFormed.inside {f : Field} {nested : List Field} (h : f.WellFormed)
    (hn : f.nested = some nested) :
    (nested.map (·.name)).Nodup ∧ allWellFormed nested := by
  obtain ⟨name, type, required, constraints, inner⟩ := f
  subst hn
  exact h.2.2

/-- A field is well-formed exactly if it has a name and, where it has fields, is a map and these are
well-formed and have distinct names. -/
theorem Field.wellFormed_iff {f : Field} : f.WellFormed ↔
    f.name ≠ "" ∧ (f.nested.isSome → f.type = .kind .map) ∧
      ∀ fields, f.nested = some fields →
        (fields.map (·.name)).Nodup ∧ ∀ g ∈ fields, g.WellFormed := by
  obtain ⟨name, type, required, constraints, nested⟩ := f
  cases nested with
  | none => simp [WellFormed, nestedWellFormed]
  | some fields => simp [WellFormed, nestedWellFormed, allWellFormed_iff]

/-- A field is well-formed if it has a property that implies the rules of contracts for it and passes
to those of the fields inside it that are not known to be well-formed. -/
theorem Field.wellFormed_of_closed {P : Field → Prop} (closed : ∀ f, P f →
      f.name ≠ "" ∧ (f.nested.isSome → f.type = .kind .map) ∧ ∀ fields, f.nested = some fields →
        (fields.map (·.name)).Nodup ∧ ∀ g ∈ fields, g.WellFormed ∨ P g)
    (f : Field) (h : P f) : f.WellFormed := by
  have keeps : ∀ (f : Field), (∀ fields, f.nested = some fields →
      (∀ g ∈ fields, g.WellFormed ∨ P g) → ∀ g ∈ fields, g.WellFormed) → P f → f.WellFormed := by
    intro f inside h
    obtain ⟨named, map, nested⟩ := closed f h
    refine wellFormed_iff.mpr ⟨named, map, fun fields held => ?_⟩
    obtain ⟨distinct, each⟩ := nested fields held
    exact ⟨distinct, inside fields held each⟩
  refine keeps f (insideInduction (fun _ => List.forall_mem_nil _) ?_ f) h
  intro f rest inside behind each
  obtain ⟨first, others⟩ := List.forall_mem_cons.mp each
  exact List.forall_mem_cons.mpr ⟨first.elim id (keeps f inside), behind others⟩

theorem duplicateName?_eq_none_iff {seen : List String} {fields : List Field} :
    duplicateName? seen fields = none ↔
      (∀ f ∈ fields, f.name ∉ seen) ∧ (fields.map (·.name)).Nodup := by
  induction fields generalizing seen with
  | nil => simp [duplicateName?]
  | cons f rest ih =>
    rw [duplicateName?, List.forall_mem_cons, List.map_cons, List.nodup_cons]
    split
    · next known =>
      have old : f.name ∈ seen := List.contains_iff_mem.mp known
      simp [old]
    · next fresh =>
      have new : f.name ∉ seen := fun old => fresh (List.contains_iff_mem.mpr old)
      -- a name is among those seen, or it is the one in front
      simp only [ih, List.mem_cons, not_or, List.mem_map, not_exists, not_and]
      constructor
      · rintro ⟨apart, distinct⟩
        exact ⟨⟨new, fun g mem => (apart g mem).2⟩, fun g mem => (apart g mem).1, distinct⟩
      · rintro ⟨⟨-, unseen⟩, apart, distinct⟩
        exact ⟨fun g mem => ⟨apart g mem, unseen g mem⟩, distinct⟩

end DataContract
