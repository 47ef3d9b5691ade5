/-
The places of a contract that a validation reaches.

A place is a declared field together with the way to it: its position in the tree of fields, the
names of the fields it stands in, and the entries it is looked up in. `Reached` says which places a
validation comes to. Where names are distinct a place is known by its names alone
(`Reached.unique`, `Reached.position_eq`), and only a field that the validation goes into has
places below it (`Reached.inside_of_prefix`).
-/
import DataContract.Proofs.Validation.Report

namespace DataContract

/-- A declared field, with the way to it. -/
structure Place where
  position : List Nat
  names : List String
  field : Field
  entries : List (Value × Value)

namespace Place

/-- The place seen from what stands around the field number `i` with a name. -/
def under (i : Nat) (name : String) (x : Place) : Place :=
  ⟨i :: x.position, name :: x.names, x.field, x.entries⟩

/-- The place in a list of fields with one more in front. -/
def next (x : Place) : Place :=
  { x with position := x.position.modifyHead (· + 1) }

end Place

/-- A validation of fields against entries comes to a place: down a chain of map fields with fields
of their own, for each of which the entries hold a map that passes its constraints. -/
inductive Reached : List Field → List (Value × Value) → Place → Prop where
  | here {fields : List Field} {entries : List (Value × Value)} {i : Nat} {f : Field}
    (declared : fields[i]? = some f) : Reached fields entries ⟨[i], [], f, entries⟩
  | within {fields nested : List Field} {entries inner : List (Value × Value)} {i : Nat} {f : Field}
    {x : Place} (declared : fields[i]? = some f) (inside : f.Inside entries nested inner)
    (reached : Reached nested inner x) : Reached fields entries (x.under i f.name)

theorem Reached.position_ne_nil {fields : List Field} {entries : List (Value × Value)} {x : Place}
    (h : Reached fields entries x) : x.position ≠ [] := by
  cases h with
  | here => exact nofun
  | within => exact nofun

theorem Reached.next {f : Field} {rest : List Field} {entries : List (Value × Value)} {x : Place}
    (h : Reached rest entries x) : Reached (f :: rest) entries x.next := by
  cases h with
  | here declared => exact .here (i := _ + 1) declared
  | within declared inside reached => exact .within (i := _ + 1) declared inside reached

/-- The places of a list of fields: its first field, those inside it, and those of the others. -/
theorem reached_cons_iff {f : Field} {rest : List Field} {entries : List (Value × Value)}
    {x : Place} :
    Reached (f :: rest) entries x ↔
      x = ⟨[0], [], f, entries⟩ ∨
      (∃ nested inner y, f.Inside entries nested inner ∧ Reached nested inner y ∧
        x = y.under 0 f.name) ∨
      ∃ y, Reached rest entries y ∧ x = y.next := by
  constructor
  · intro h
    cases h with
    | @here _ _ i g declared =>
      cases i with
      | zero =>
        cases declared
        exact .inl rfl
      | succ i => exact .inr (.inr ⟨_, .here declared, rfl⟩)
    | @within _ nested _ inner i g y declared inside reached =>
      cases i with
      | zero =>
        cases declared
        exact .inr (.inl ⟨nested, inner, y, inside, reached, rfl⟩)
      | succ i => exact .inr (.inr ⟨_, .within declared inside reached, rfl⟩)
  · rintro (rfl | ⟨nested, inner, y, inside, reached, rfl⟩ | ⟨y, reached, rfl⟩)
    · exact .here rfl
    · exact .within rfl inside reached
    · exact reached.next

/-! ### Distinct names -/

section Distinct

variable {fields nested : List Field} {entries inner : List (Value × Value)} {i j : Nat}
  {f g : Field}

theorem index_unique (distinct : (fields.map (·.name)).Nodup) (hf : fields[i]? = some f)
    (hg : fields[j]? = some g) (hn : f.name = g.name) : i = j ∧ f = g := by
  have hi : i < (fields.map (·.name)).length := by
    rw [List.length_map]
    exact (List.getElem?_eq_some_iff.mp hf).1
  have hij : i = j := (List.getElem?_inj hi distinct).mp (by simp [hf, hg, hn])
  subst hij
  exact ⟨rfl, Option.some.inj (hf.symm.trans hg)⟩

/-- The fields that a validation goes into are as well-formed as those around them. -/
theorem Field.Inside.wellFormed (h : f.Inside entries nested inner) (wf : allWellFormed fields)
    (hf : fields[i]? = some f) : (nested.map (·.name)).Nodup ∧ allWellFormed nested :=
  (allWellFormed_iff.mp wf f (List.mem_of_getElem? hf)).inside h.fields

theorem Reached.unique {x y : Place} (distinct : (fields.map (·.name)).Nodup)
    (wf : allWellFormed fields) (hx : Reached fields entries x) (hy : Reached fields entries y)
    (names : x.names = y.names) (name : x.field.name = y.field.name) : x = y := by
  -- along both ways at once: the next name settles the field and, with it, the map inside
  induction hx generalizing y with
  | here hf =>
    cases hy with
    | here hg =>
      obtain ⟨rfl, rfl⟩ := index_unique distinct hf hg name
      rfl
    | within => exact absurd names nofun
  | within hf go reached ih =>
    cases hy with
    | here => exact absurd names nofun
    | within hg go' reached' =>
      simp only [Place.under, List.cons.injEq] at names
      obtain ⟨hn, names⟩ := names
      obtain ⟨rfl, rfl⟩ := index_unique distinct hf hg hn
      obtain ⟨rfl, rfl⟩ := go.unique go'
      obtain ⟨distinct, wf⟩ := go.wellFormed wf hf
      rw [ih distinct wf reached' names name]

/-- Only a field that the validation goes into has places below it. -/
theorem Reached.inside_of_prefix {x y : Place} (distinct : (fields.map (·.name)).Nodup)
    (wf : allWellFormed fields) (hx : Reached fields entries x) (hy : Reached fields entries y)
    (below : x.names ++ [x.field.name] <+: y.names) :
    ∃ nested inner, x.field.Inside x.entries nested inner := by
  induction hx generalizing y with
  | here hf =>
    cases hy with
    | here => simp at below
    | within hg go reached =>
      obtain ⟨hn, -⟩ := List.cons_prefix_cons.mp below
      obtain ⟨rfl, rfl⟩ := index_unique distinct hf hg hn
      exact ⟨_, _, go⟩
  | within hf go reached ih =>
    cases hy with
    | here => simp [Place.under] at below
    | within hg go' reached' =>
      simp only [Place.under, List.cons_append, List.cons_prefix_cons] at below
      obtain ⟨hn, below⟩ := below
      obtain ⟨rfl, rfl⟩ := index_unique distinct hf hg hn
      obtain ⟨rfl, rfl⟩ := go.unique go'
      obtain ⟨distinct, wf⟩ := go.wellFormed wf hf
      exact ih distinct wf reached' below

end Distinct

/-! ### Positions by name -/

/-- The position of the field declared under a name inside the fields with the names given. -/
def positionOf? : List String → String → List Field → Option (List Nat)
  | [], name, fields => (fields.findIdx? (·.name = name)).map ([·])
  | outer :: names, name, fields => do
    let i ← fields.findIdx? (·.name = outer)
    let f ← fields[i]?
    let nested ← f.nested
    (positionOf? names name nested).map (i :: ·)

theorem findIdx_eq_some {fields : List Field} {i : Nat} {f : Field}
    (distinct : (fields.map (·.name)).Nodup) (hf : fields[i]? = some f) :
    fields.findIdx? (·.name = f.name) = some i := by
  obtain ⟨hi, rfl⟩ := List.getElem?_eq_some_iff.mp hf
  rw [List.findIdx?_eq_some_iff_getElem]
  refine ⟨hi, by simp, fun j hj same => ?_⟩
  have hg : fields[j]? = some fields[j] := List.getElem?_eq_getElem (by omega)
  have hij := (index_unique distinct hg hf (by simpa using same)).1
  omega

theorem Reached.position_eq {fields : List Field} {entries : List (Value × Value)} {x : Place}
    (distinct : (fields.map (·.name)).Nodup) (wf : allWellFormed fields)
    (hx : Reached fields entries x) :
    positionOf? x.names x.field.name fields = some x.position := by
  induction hx with
  | here hf => rw [positionOf?, findIdx_eq_some distinct hf, Option.map_some]
  | within hf go reached ih =>
    obtain ⟨distinct', wf'⟩ := go.wellFormed wf hf
    simp only [Place.under, positionOf?, findIdx_eq_some distinct hf, hf, go.fields,
      ih distinct' wf', Option.bind_eq_bind, Option.bind_some, Option.map_some]

end DataContract
