/-
A validation is put together from parts.

The violations of two lists of fields, one behind the other, are those of the first and then those of
the second (`validateFields_append`). At a path with more names in front the violations are the same,
with these names in front of their paths (`validateFields_under`). And the order of fields decides
about the order of violations alone: wherever fields are put in another order, at the top or inside
other fields (`Reordered`), the same violations are found (`Reordered.sameUpToOrder`).

The last two go through fields by `Field.validate_related`: a field says messages of its own, or fails,
or does what the fields inside it do. `validation_composes` puts all three together; so whether data is
valid does not depend on the order in which fields are declared.
-/
import DataContract.Proofs.Validation.Outcome

namespace DataContract

open Constraint

variable {f : Field} {fields fields' nested nested' : List Field} {entries : List (Value × Value)}
  {path path' front : List String} {x x' y y' z : Except CheckFault (List Violation)}

/-! ### One list behind the other -/

/-- The violations of one validation, and then those of another. -/
def joined (x y : Except CheckFault (List Violation)) : Except CheckFault (List Violation) := do
  let first ← x
  let others ← y
  return first ++ others

theorem ok_nil_joined : joined (.ok []) x = x := by
  cases x <;> rfl

theorem joined_assoc : joined (joined x y) z = joined x (joined y z) := by
  rcases x with e | vs
  · rfl
  · rcases y with e | ws
    · rfl
    · rcases z with e | us
      · rfl
      · exact congrArg Except.ok (List.append_assoc vs ws us)

theorem validateFields_cons (f : Field) (rest : List Field) :
    validateFields entries path (f :: rest) =
      joined (f.validate entries path) (validateFields entries path rest) := by
  rw [validateFields, joined]

/-- The violations of two lists of fields, one behind the other. -/
theorem validateFields_append (before after : List Field) :
    validateFields entries path (before ++ after) =
      joined (validateFields entries path before) (validateFields entries path after) := by
  induction before with
  | nil => rw [List.nil_append, validateFields, ok_nil_joined]
  | cons f rest ih =>
    rw [List.cons_append, validateFields_cons, validateFields_cons, ih, joined_assoc]

/-! ### One field in two validations -/

theorem itemViolations_eq_saying (item : FieldType) (items : List Value) :
    itemViolations f.name item path items = f.saying path ((items.filter fun v => !item.accepts v).map
      fun v => "invalid list item: expected " ++ item.name ++ ", got " ++ v.kindName) := by
  simp only [itemViolations, Field.saying, List.map_map, Function.comp_def]

/-- Two validations of a field, at two paths and with other fields inside it, are related if the same
messages at both paths are, and equal failures, and what the validations of the fields inside come
to. -/
theorem Field.validate_related
    {R : Except CheckFault (List Violation) → Except CheckFault (List Violation) → Prop}
    {inside' : Option (List Field)}
    (said : ∀ messages, R (.ok (f.saying path messages)) (.ok (f.saying path' messages)))
    (failed : ∀ e, R (.error e) (.error e))
    (inside : ∀ inner, R (validateNested inner (path ++ [f.name]) f.nested)
      (validateNested inner (path' ++ [f.name]) inside')) :
    R (f.validate entries path) ({ f with nested := inside' }.validate entries path') := by
  obtain ⟨name, type, required, constraints, fields⟩ := f
  simp only [Field.validate]
  split
  · split
    · exact said ["is required"]
    · exact said []
  · next v _ =>
    split
    · exact said ["expected " ++ type.name ++ ", got " ++ v.kindName]
    · rcases checkAll constraints v with e | messages
      · exact failed e
      · rcases messages with _ | ⟨m, ms⟩
        · simp only [bind, Except.bind, List.isEmpty_nil, if_true]
          -- without messages it depends on the type: a map, a list, or neither
          split
          · exact inside _
          · next item _ items _ _ =>
            have both := said ((items.filter fun v => !item.accepts v).map
              fun v => "invalid list item: expected " ++ item.name ++ ", got " ++ v.kindName)
            simp only [← itemViolations_eq_saying] at both
            exact both
          · exact said []
        · exact said (m :: ms)

/-! ### Paths -/

/-- The same violation further inside, with names in front of its path. -/
def Violation.under (front : List String) (w : Violation) : Violation :=
  { w with path := front ++ w.path }

/-- The same violations further inside. -/
def allUnder (front : List String) (x : Except CheckFault (List Violation)) :
    Except CheckFault (List Violation) :=
  x.map fun vs => vs.map (·.under front)

theorem allUnder_joined : allUnder front (joined x y) = joined (allUnder front x) (allUnder front y) := by
  rcases x with e | vs
  · rfl
  · rcases y with e | ws
    · rfl
    · exact congrArg Except.ok List.map_append

theorem allUnder_saying (messages : List String) :
    allUnder front (.ok (f.saying path messages)) = .ok (f.saying (front ++ path) messages) := by
  simp only [allUnder, Except.map, Field.saying, Violation.under, List.map_map, Function.comp_def]

/-- Names in front of the path come in front of the path of each violation. -/
theorem validateFields_under (front : List String) (fields : List Field) :
    ∀ (entries : List (Value × Value)) (path : List String),
      validateFields entries (front ++ path) fields =
        allUnder front (validateFields entries path fields) := by
  induction fields using fieldsInduction with
  | nil =>
    intro entries path
    rfl
  | cons f rest inside ih =>
    intro entries path
    have first : allUnder front (f.validate entries path) = f.validate entries (front ++ path) := by
      obtain ⟨name, type, required, constraints, given⟩ := f
      refine Field.validate_related (R := fun x y => allUnder front x = y)
        (fun messages => allUnder_saying messages) (fun _ => rfl) fun inner => ?_
      rcases given with _ | nested
      · rfl
      · -- the path of the fields inside is longer by a name, and has the same names in front
        rw [validateNested, validateNested, List.append_assoc]
        exact (inside nested rfl inner _).symm
    rw [validateFields_cons, validateFields_cons, allUnder_joined, first, ih]

/-! ### Order -/

/-- Two validations come to the same violations, in whatever order, or both fail. -/
inductive SameUpToOrder :
    Except CheckFault (List Violation) → Except CheckFault (List Violation) → Prop where
  | found {vs ws : List Violation} (perm : vs.Perm ws) : SameUpToOrder (.ok vs) (.ok ws)
  | failed (e e' : CheckFault) : SameUpToOrder (.error e) (.error e')

namespace SameUpToOrder

theorem refl (x : Except CheckFault (List Violation)) : SameUpToOrder x x := by
  rcases x with e | vs
  · exact .failed e e
  · exact .found (.refl vs)

theorem trans (h : SameUpToOrder x y) (h' : SameUpToOrder y z) : SameUpToOrder x z := by
  rcases h with ⟨perm⟩ | ⟨e, e'⟩
  · rcases h' with ⟨perm'⟩ | _
    exact .found (perm.trans perm')
  · rcases h' with _ | ⟨_, e''⟩
    exact .failed e e''

theorem joined (h : SameUpToOrder x x') (h' : SameUpToOrder y y') :
    SameUpToOrder (joined x y) (joined x' y') := by
  rcases h with ⟨perm⟩ | ⟨e, e'⟩
  · rcases h' with ⟨perm'⟩ | ⟨e, e'⟩
    · exact .found (perm.append perm')
    · exact .failed e e'
  · exact .failed e e'

theorem joined_comm : SameUpToOrder (DataContract.joined x y) (DataContract.joined y x) := by
  rcases x with e | vs
  · rcases y with e' | ws
    · exact .failed e e'
    · exact .failed e e
  · rcases y with e' | ws
    · exact .failed e' e'
    · exact .found List.perm_append_comm

theorem ok_nil_iff (h : SameUpToOrder x y) : x = .ok [] ↔ y = .ok [] := by
  rcases h with ⟨perm⟩ | ⟨e, e'⟩
  · simp only [Except.ok.injEq]
    exact ⟨fun none => (none ▸ perm).nil_eq.symm, fun none => (none ▸ perm).eq_nil⟩
  · simp

end SameUpToOrder

/-- Fields are put in another order, or those inside one of them are. -/
inductive Reordered : List Field → List Field → Prop where
  | here {fields fields' : List Field} (perm : fields.Perm fields') : Reordered fields fields'
  | inside (before after : List Field) {f : Field} {nested nested' : List Field}
    (fields : f.nested = some nested) (deeper : Reordered nested nested') :
    Reordered (before ++ f :: after) (before ++ { f with nested := some nested' } :: after)

theorem sameUpToOrder_of_perm (h : fields.Perm fields') :
    SameUpToOrder (validateFields entries path fields) (validateFields entries path fields') := by
  induction h with
  | nil => exact .refl _
  | cons f _ ih =>
    rw [validateFields_cons, validateFields_cons]
    exact (SameUpToOrder.refl _).joined ih
  | swap f g rest =>
    -- a failure of either field fails both ways, though perhaps with another fault
    simp only [validateFields_cons, ← joined_assoc]
    exact SameUpToOrder.joined_comm.joined (.refl _)
  | trans _ _ ih ih' => exact ih.trans ih'

/-- In another order, at whatever depth, the same violations are found. -/
theorem Reordered.sameUpToOrder (h : Reordered fields fields') :
    ∀ (entries : List (Value × Value)) (path : List String),
      SameUpToOrder (validateFields entries path fields) (validateFields entries path fields') := by
  induction h with
  | here perm => exact fun _ _ => sameUpToOrder_of_perm perm
  | @inside before after f nested nested' fields _ ih =>
    intro entries path
    have first : SameUpToOrder (f.validate entries path)
        ({ f with nested := some nested' }.validate entries path) := by
      -- but for the fields inside both fields do the same
      refine Field.validate_related (fun _ => .refl _) (fun _ => .refl _) fun inner => ?_
      rw [fields, validateNested, validateNested]
      exact ih inner _
    rw [validateFields_append, validateFields_append, validateFields_cons, validateFields_cons]
    exact (SameUpToOrder.refl _).joined (first.joined (.refl _))

theorem sameUpToOrder_of_reordered (h : Relation.ReflTransGen Reordered fields fields')
    (entries : List (Value × Value)) (path : List String) :
    SameUpToOrder (validateFields entries path fields) (validateFields entries path fields') := by
  induction h with
  | refl => exact .refl _
  | tail _ step ih => exact ih.trans (step.sameUpToOrder entries path)

/-! ### All together -/

/-- The violations of two lists of fields, one behind the other, are those of the first and then those
of the second. Names in front of the path come in front of the path of each violation, and change
nothing else. Fields in another order, at whatever depth, are found to have the same violations, in
some order, or their validation fails too; so data is valid in the one order if it is in the other. -/
theorem validation_composes :
    (∀ entries path before after, validateFields entries path (before ++ after) =
      joined (validateFields entries path before) (validateFields entries path after)) ∧
    (∀ entries path front fields, validateFields entries (front ++ path) fields =
      allUnder front (validateFields entries path fields)) ∧
    (∀ fields fields', Relation.ReflTransGen Reordered fields fields' → ∀ entries path,
      SameUpToOrder (validateFields entries path fields) (validateFields entries path fields')) ∧
    ∀ c c' : Contract, Relation.ReflTransGen Reordered c.fields c'.fields → ∀ data,
      (∃ r, c.validate data = .ok r ∧ r.valid = true) ↔
        ∃ r, c'.validate data = .ok r ∧ r.valid = true := by
  refine ⟨fun _ _ => validateFields_append, fun entries path front fields =>
    validateFields_under front fields entries path, fun _ _ => sameUpToOrder_of_reordered, ?_⟩
  intro c c' reordered data
  have same (entries : List (Value × Value)) :
      validateFields entries [] c.fields = .ok [] ↔ validateFields entries [] c'.fields = .ok [] :=
    (sameUpToOrder_of_reordered reordered entries []).ok_nil_iff
  simp only [Contract.valid_iff, same]

/-- A route: where it begins, and a place with a zip code and a city where it ends. -/
def routeFields : List Field :=
  [⟨"from", .kind .string, true, [], none⟩,
    ⟨"to", .kind .map, true, [],
      some [⟨"zip", .kind .string, true, [], none⟩, ⟨"city", .kind .string, true, [], none⟩]⟩]

/-- The same fields the other way round, those of the place too. -/
def turnedRouteFields : List Field :=
  [⟨"to", .kind .map, true, [],
      some [⟨"city", .kind .string, true, [], none⟩, ⟨"zip", .kind .string, true, [], none⟩]⟩,
    ⟨"from", .kind .string, true, [], none⟩]

/-- A route from nowhere to no city. -/
def strayRoute : List (Value × Value) :=
  [(.text "to", .map [(.text "zip", .int 1010)])]

theorem routeFields_reordered : Relation.ReflTransGen Reordered routeFields turnedRouteFields := by
  have inside : Reordered routeFields _ :=
    .inside [⟨"from", .kind .string, true, [], none⟩] [] rfl (.here (.swap _ _ []))
  have top : Reordered _ turnedRouteFields := .here (.swap _ _ [])
  exact (Relation.ReflTransGen.single inside).tail top

theorem strayRoute_turned :
    Relation.ReflTransGen Reordered routeFields turnedRouteFields ∧
      validateFields strayRoute [] turnedRouteFields = .ok [⟨"city", "is required", ["to"]⟩,
        ⟨"zip", "expected string, got integer", ["to"]⟩, ⟨"from", "is required", []⟩] ∧
      SameUpToOrder (.ok [⟨"from", "is required", []⟩, ⟨"zip", "expected string, got integer", ["to"]⟩,
        ⟨"city", "is required", ["to"]⟩]) (validateFields strayRoute [] turnedRouteFields) := by
  have straight : validateFields strayRoute [] routeFields = .ok [⟨"from", "is required", []⟩,
      ⟨"zip", "expected string, got integer", ["to"]⟩, ⟨"city", "is required", ["to"]⟩] := by
    cbv
  refine ⟨routeFields_reordered, by cbv, ?_⟩
  rw [← straight]
  exact validation_composes.2.2.1 _ _ routeFields_reordered strayRoute []

end DataContract
