/-
A validation looks at nothing but the declared part of the data.

Two maps agree on fields (`Agree`) if under each name they hold nothing, or the same value, or two
maps that agree on the fields of a map field. A map field leaves it open what its map holds besides
its fields, unless it lists the values that the map may be: no other constraint looks at a map
(`Constraint.check_mapping`). So maps that agree are validated alike, field by field and from the
inside of the fields outwards (`Field.Agree.validate_eq`).

Adding an entry that no field declares, putting the entries in another order, and doing either
inside a map field (`Edit`) leave maps that agree. Whatever is edited, one thing after the other,
the outcome stays (`validate_determined_by_declared_part`).
-/
import DataContract.Proofs.Validation.Conformance
import DataContract.Proofs.Value.Keys

namespace DataContract

open Constraint

variable {f : Field} {fields : List Field} {es es' : List (Value × Value)}

/-! ### Agreement -/

/-- No constraint of a field lists the values that are allowed. -/
def Field.Unlisted (f : Field) : Prop :=
  ∀ values, .oneOf values ∉ f.constraints

/-- Two maps agree on a field. -/
inductive Field.Agree : Field → List (Value × Value) → List (Value × Value) → Prop where
  | absent {f : Field} {es es' : List (Value × Value)} (left : f.held? es = none)
    (right : f.held? es' = none) : Agree f es es'
  | same {f : Field} {es es' : List (Value × Value)} {v : Value} (left : f.held? es = some v)
    (right : f.held? es' = some v) : Agree f es es'
  | inside {f : Field} {es es' inner inner' : List (Value × Value)} {k k' : MappingKind}
    {nested : List Field} (type : f.type = .kind .map) (fields : f.nested = some nested)
    (unlisted : f.Unlisted) (left : f.held? es = some (.mapping k inner))
    (right : f.held? es' = some (.mapping k' inner')) (all : ∀ g ∈ nested, Agree g inner inner') :
    Agree f es es'

/-- Two maps agree on fields. -/
def Agree (fields : List Field) (es es' : List (Value × Value)) : Prop :=
  ∀ f ∈ fields, f.Agree es es'

/-- Maps that hold the same under the name of a field agree on it. -/
theorem Field.Agree.of_held_eq (h : f.held? es = f.held? es') : f.Agree es es' := by
  cases held : f.held? es with
  | none => exact .absent held (h ▸ held)
  | some v => exact .same held (h ▸ held)

/-! ### Maps that agree are validated alike -/

/-- A map passes every constraint but a list of allowed values. -/
theorem Constraint.check_mapping {c : Constraint} (other : ∀ values, c ≠ .oneOf values)
    (k : MappingKind) (inner : List (Value × Value)) : c.check (.mapping k inner) = .ok none := by
  cases c with
  | oneOf values => exact absurd rfl (other values)
  | _ => rfl

theorem Field.Unlisted.allPass (h : f.Unlisted) (k : MappingKind) (inner : List (Value × Value)) :
    AllPass f.constraints (.mapping k inner) :=
  fun _ mem => check_mapping (fun values listed => h values (listed ▸ mem)) k inner

/-- The validation of a field looks at what is held under its name alone. -/
theorem Field.validate_congr (h : f.held? es = f.held? es') (path : List String) :
    f.validate es path = f.validate es' path := by
  obtain ⟨name, type, required, constraints, nested⟩ := f
  simp only [Field.held?] at h
  simp only [Field.validate, h]

theorem validateFields_congr
    (h : ∀ f ∈ fields, ∀ path, f.validate es path = f.validate es' path) (path : List String) :
    validateFields es path fields = validateFields es' path fields := by
  induction fields with
  | nil => rfl
  | cons f rest ih =>
    obtain ⟨first, others⟩ := List.forall_mem_cons.mp h
    simp only [validateFields, first path, ih others]

/-- Maps that agree on a field are validated alike, at every path. -/
theorem Field.Agree.validate_eq (h : f.Agree es es') (path : List String) :
    f.validate es path = f.validate es' path := by
  induction h generalizing path with
  | absent left right => exact validate_congr (left.trans right.symm) path
  | same left right => exact validate_congr (left.trans right.symm) path
  | inside type fields unlisted left right _ ih =>
    -- both maps are in order themselves, so that the fields inside decide
    have go := Field.Inside.mk type fields ⟨_, left, unlisted.allPass _ _⟩
    have go' := Field.Inside.mk type fields ⟨_, right, unlisted.allPass _ _⟩
    rw [validate_of_inside go, validate_of_inside go']
    exact validateFields_congr ih _

theorem Agree.validateFields_eq (h : Agree fields es es') (path : List String) :
    validateFields es path fields = validateFields es' path fields :=
  validateFields_congr (fun f mem => (h f mem).validate_eq) path

/-! ### Edits beside the declared part -/

/-- An edit of a map beside what fields declare. -/
inductive Edit : List Field → List (Value × Value) → List (Value × Value) → Prop where
  /-- An entry is added whose key is the name of no field. -/
  | added {fields : List Field} (before after : List (Value × Value)) {key : Value} (v : Value)
    (undeclared : ∀ f ∈ fields, key.asText? ≠ some f.name) :
    Edit fields (before ++ after) (before ++ (key, v) :: after)
  /-- The entries of a map, whose keys are pairwise unequal, are put in another order. -/
  | reordered {fields : List Field} {es es' : List (Value × Value)}
    (distinct : es.Pairwise fun a b => (a.1 == b.1) = false) (perm : es.Perm es') :
    Edit fields es es'
  /-- A map is edited beside the fields of the map fields that the key names. -/
  | inside {fields : List Field} (before after : List (Value × Value)) {key : Value}
    {inner inner' : List (Value × Value)} (k : MappingKind)
    (goesInto : ∀ f ∈ fields, key.asText? = some f.name →
      f.type = .kind .map ∧ f.Unlisted ∧ f.nested ≠ none)
    (edit : ∀ f ∈ fields, key.asText? = some f.name → ∀ nested, f.nested = some nested →
      Edit nested inner inner') :
    Edit fields (before ++ (key, .mapping k inner) :: after)
      (before ++ (key, .mapping k inner') :: after)

namespace Field

variable {before after : List (Value × Value)} {key v : Value}

theorem held?_append :
    f.held? (before ++ after) = (f.held? before).or (f.held? after) := by
  simp only [held?, Value.lookup?, List.find?_append, Option.map_or]

theorem held?_cons_of_ne (other : key.asText? ≠ some f.name) :
    f.held? ((key, v) :: after) = f.held? after := by
  rw [held?, Value.lookup?_cons, if_neg fun same => other (Value.text_beq_iff.mp same)]
  rfl

theorem held?_cons_of_eq (text : key.asText? = some f.name) :
    f.held? ((key, v) :: after) = some v := by
  rw [held?, Value.lookup?_cons, if_pos (Value.text_beq_iff.mpr text)]

/-- Where keys are pairwise unequal their order does not matter. -/
theorem held?_of_perm (distinct : es.Pairwise fun a b => (a.1 == b.1) = false)
    (perm : es.Perm es') : f.held? es = f.held? es' := by
  let named (e : Value × Value) : Bool := Value.text f.name == e.1
  -- two keys of one text would be equal
  have apart : es.Pairwise fun a b => ¬(named a = true ∧ named b = true) := by
    refine distinct.imp fun {a b} unequal both => ?_
    have text := Value.text_beq_iff.mp both.1
    exact Bool.false_ne_true (unequal.symm.trans
      ((Value.beq_iff_of_text text).mpr (Value.text_beq_iff.mp both.2)))
  have symmetric : Std.Symm fun a b => ¬(named a = true ∧ named b = true) :=
    ⟨fun _ _ h both => h both.symm⟩
  have one : {e | e ∈ es ∧ named e = true}.Subsingleton := by
    rintro a ⟨first, hfirst⟩ b ⟨second, hsecond⟩
    by_contra differ
    exact apart.forall first second differ ⟨hfirst, hsecond⟩
  rw [held?, held?, Value.lookup?, Value.lookup?, List.find?_eq_find?_of_perm perm one]

end Field

/-- An edited map agrees with the map before on the fields that the edit stays beside. -/
theorem Edit.agree (h : Edit fields es es') : Agree fields es es' := by
  induction h with
  | added before after v undeclared =>
    intro f mem
    refine .of_held_eq ?_
    rw [Field.held?_append, Field.held?_append, Field.held?_cons_of_ne (undeclared f mem)]
  | reordered distinct perm => exact fun f _ => .of_held_eq (Field.held?_of_perm distinct perm)
  | @inside fields before after key inner inner' k goesInto _ ih =>
    intro f mem
    cases earlier : f.held? before with
    | some v =>
      -- an earlier entry is found, whatever comes behind it
      have found : ∀ es, f.held? (before ++ es) = some v := fun es => by
        rw [Field.held?_append, earlier, Option.some_or]
      exact .same (found _) (found _)
    | none =>
      have passed : ∀ es, f.held? (before ++ es) = f.held? es := fun es => by
        rw [Field.held?_append, earlier, Option.none_or]
      by_cases text : key.asText? = some f.name
      · obtain ⟨type, unlisted, given⟩ := goesInto f mem text
        obtain ⟨nested, hn⟩ := Option.ne_none_iff_exists'.mp given
        exact .inside type hn unlisted ((passed _).trans (Field.held?_cons_of_eq text))
          ((passed _).trans (Field.held?_cons_of_eq text)) (ih f mem text nested hn)
      · refine .of_held_eq ?_
        rw [passed, passed, Field.held?_cons_of_ne text, Field.held?_cons_of_ne text]

/-- Maps that edits lead to from each other are validated alike. -/
theorem validateFields_of_edits (h : Relation.EqvGen (Edit fields) es es') (path : List String) :
    validateFields es path fields = validateFields es' path fields := by
  induction h with
  | rel _ _ edit => exact edit.agree.validateFields_eq path
  | refl _ => rfl
  | symm _ _ _ ih => exact ih.symm
  | trans _ _ _ _ _ ih ih' => exact ih.trans ih'

/-! ### Outcomes -/

/-- What a validation says of the data: whether it is valid and its violations, or why there is no
answer, and the log entries. -/
def judged (x : Noted CheckFault ValidationResult) :
    Except CheckFault (Bool × List Violation) × List LogEntry :=
  (x.result.map fun r => (r.valid, r.violations), x.notes)

variable {o : Owner} {name : Value}

theorem judged_of_validateFields_eq (k k' : MappingKind)
    (h : ∀ c, o.find? name = some c →
      validateFields es [] c.fields = validateFields es' [] c.fields) :
    judged (validate o name (.mapping k es)) = judged (validate o name (.mapping k' es')) := by
  rw [validate, validate]
  cases hc : o.find? name with
  | none => rfl
  | some c =>
    have left : c.validate (.mapping k es) = _ := c.validate_of_map rfl
    have right : c.validate (.mapping k' es') = _ := c.validate_of_map rfl
    rw [← h c hc] at right
    simp only [Value.asEntries?, left, right]
    cases validateFields es [] c.fields with
    | error e => rfl
    | ok vs =>
      cases vs with
      | nil => rfl
      -- what is said of a rejection names the violations, not the data
      | cons w ws => rfl

/-- Validating two maps of any kinds says the same of both if they agree on the fields of the
contract, or if edits beside these fields lead from one to the other: entries added or taken away
that no field declares, and entries put in another order, at the top or inside map fields. -/
theorem validate_determined_by_declared_part (k k' : MappingKind)
    (h : ∀ c, o.find? name = some c →
      Agree c.fields es es' ∨ Relation.EqvGen (Edit c.fields) es es') :
    judged (validate o name (.mapping k es)) = judged (validate o name (.mapping k' es')) := by
  refine judged_of_validateFields_eq k k' fun c hc => ?_
  rcases h c hc with agree | edits
  · exact agree.validateFields_eq []
  · exact validateFields_of_edits edits []

/-- The customer of `numberedZip` with entries that no field declares, in another order. -/
def strewnZip : List (Value × Value) :=
  [(.int 7, .null), (.text "tags", .list [.text "new"]),
    (.text "address", .map [(.text "zip", .int 1010), (.null, .bool true)]),
    (.text "name", .text "Ada")]

theorem strewnZip_edits : Relation.EqvGen (Edit customer.fields) numberedZip strewnZip := by
  have above : Edit customer.fields numberedZip (numberedZip ++ [(.int 7, .null)]) :=
    .added numberedZip [] .null fun _ _ text => by cases text
  have inside : Edit customer.fields (numberedZip ++ [(.int 7, .null)]) strewnZip.reverse := by
    refine .inside [(.text "name", .text "Ada")] _ .plain ?_ fun _ _ _ nested _ => ?_
    · simp [customer, Field.Unlisted, Value.asText?]
    · exact .added [(.text "zip", .int 1010)] [] (.bool true) fun _ _ text => by cases text
  have order : Edit customer.fields strewnZip.reverse strewnZip := by
    refine .reordered ?_ (List.reverse_perm strewnZip)
    simp only [strewnZip, List.reverse_cons, List.reverse_nil, List.nil_append, List.cons_append,
      List.pairwise_cons, List.forall_mem_cons, List.not_mem_nil, false_implies, implies_true,
      List.Pairwise.nil, and_true]
    cbv
  exact (Relation.EqvGen.rel _ _ above).trans _ _ _
    ((Relation.EqvGen.rel _ _ inside).trans _ _ _ (.rel _ _ order))

theorem judged_strewnZip :
    Relation.EqvGen (Edit customer.fields) numberedZip strewnZip ∧
      (judged (validate (.registry ⟨[("customer", customer)]⟩) (.text "customer")
        (.mapping .view strewnZip))).1 =
          .ok (false, [⟨"zip", "expected string, got integer", ["address"]⟩]) := by
  let o : Owner := .registry ⟨[("customer", customer)]⟩
  have edits : ∀ c, o.find? (.text "customer") = some c →
      Relation.EqvGen (Edit c.fields) strewnZip numberedZip := by
    intro c hc
    have found : c = customer := Option.some.inj (hc.symm.trans (by cbv))
    exact found ▸ strewnZip_edits.symm _ _
  have same : judged (validate o (.text "customer") (.mapping .view strewnZip)) =
      judged (validate o (.text "customer") (.mapping .plain numberedZip)) :=
    validate_determined_by_declared_part .view .plain fun c hc => .inr (edits c hc)
  refine ⟨strewnZip_edits, ?_⟩
  rw [same, judged, numberedZip_validate]
  rfl

end DataContract
