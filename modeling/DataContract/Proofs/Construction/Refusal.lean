/-
Descriptions that break the rules of contracts, and their refusal.

There are several forms in which fields are described: values that are read, entries that are
converted, and declarations. What a form says of a field is collected in `Form`, and `Form.Breaks`
lists the ways in which a list of descriptions breaks a rule, at any depth: a field without a name, a
name that comes twice, fields inside a field that is no map, and a length that is negative. If what a
form gives is what it says (`Form.Faithful`), then nothing is given for descriptions that break a
rule (`Form.Faithful.refuses`).

All three forms are faithful. Together with the rules that everything built keeps this says which
contracts there can be (`made_wellFormed_and_broken_refused`).
-/
import DataContract.Proofs.Construction.Made
import DataContract.Proofs.Declaration.Description
import DataContract.Proofs.Definition.Meaning

namespace DataContract

/-! ### Forms of description -/

/-- A constraint of the kind bounds the length of texts. -/
def ConstraintKind.IsLength (k : ConstraintKind) : Prop :=
  k = .minLength ∨ k = .maxLength

/-- A form in which fields are described: what a description gives, and what it says. -/
structure Form (δ : Type) where
  /-- A field is given for a description. -/
  Gives : δ → Field → Prop
  /-- What the name is. -/
  Names : δ → String → Prop
  /-- There is no name, or it is empty. -/
  Nameless : δ → Prop
  /-- What the type is. -/
  Types : δ → FieldType → Prop
  /-- What the length of texts is at least or at most. -/
  Bounds : δ → Value → Prop
  /-- There is something to stand for the fields inside. -/
  Nests : δ → Prop
  /-- What the descriptions of the fields inside are. -/
  Encloses : δ → List δ → Prop

namespace Form

variable {δ : Type} {F : Form δ} {ds : List δ}

/-- Among the fields that are described, or inside one of them at any depth, a rule is broken. -/
inductive Breaks (F : Form δ) : List δ → Prop where
  | unnamed {ds : List δ} {d : δ} (mem : d ∈ ds) (h : F.Nameless d) : Breaks F ds
  | repeated {ds : List δ} {d e : δ} {s : String} (two : [d, e].Sublist ds) (first : F.Names d s)
    (second : F.Names e s) : Breaks F ds
  | outside {ds : List δ} {d : δ} (mem : d ∈ ds) (nests : F.Nests d)
    (h : ¬F.Types d (.kind .map)) : Breaks F ds
  | negative {ds : List δ} {d : δ} {v : Value} {n : Int} {fit : Reading.Fit} (mem : d ∈ ds)
    (bounds : F.Bounds d v) (read : Reading.integerLike v = .ok (.number (.int n), fit)) (h : n < 0) :
    Breaks F ds
  | inside {ds es : List δ} {d : δ} (mem : d ∈ ds) (encloses : F.Encloses d es)
    (h : Breaks F es) : Breaks F ds

/-- What a description says of the field that is given for it. -/
structure Says (F : Form δ) (d : δ) (f : Field) : Prop where
  name : ∀ s, F.Names d s → s = f.name
  named : ¬F.Nameless d
  type : F.Nests d → F.Types d (.kind .map)
  length : ∀ v, F.Bounds d v → ∃ n, Reading.length v = .ok n
  inside : ∀ es, F.Encloses d es → ∃ fs : List Field, List.Forall₂ F.Gives es fs ∧
    (fs.map (·.name)).Nodup

/-- Fields are what their descriptions say. -/
def Faithful (F : Form δ) : Prop :=
  ∀ d f, F.Gives d f → F.Says d f

theorem length_fails_of_negative {v : Value} {n : Int} {fit : Reading.Fit}
    (read : Reading.integerLike v = .ok (.number (.int n), fit)) (h : n < 0) {m : Nat} :
    Reading.length v ≠ .ok m := by
  simp [Reading.length, read, h, Reading.fault]

/-- For descriptions that break a rule no fields with distinct names are given: the induction is on
how deep the rule is broken. -/
theorem Faithful.refuses (faithful : F.Faithful) (h : F.Breaks ds) {fs : List Field}
    (gives : List.Forall₂ F.Gives ds fs) : ¬(fs.map (·.name)).Nodup := by
  induction h generalizing fs with
  | unnamed mem nameless =>
    obtain ⟨f, -, given⟩ := exists_of_forall₂ gives _ mem
    exact absurd nameless (faithful _ f given).named
  | repeated two first second =>
    obtain ⟨gs, within, both⟩ := exists_sublist_of_forall₂ gives two
    obtain _ | ⟨given, _ | ⟨given', ⟨⟩⟩⟩ := both
    intro distinct
    have apart := distinct.sublist (within.map (·.name))
    obtain rfl := (faithful _ _ given).name _ first
    exact (List.nodup_cons.mp apart).1
      (List.mem_singleton.mpr ((faithful _ _ given').name _ second))
  | outside mem nests notMap =>
    obtain ⟨f, -, given⟩ := exists_of_forall₂ gives _ mem
    exact absurd ((faithful _ f given).type nests) notMap
  | negative mem bounds read negative =>
    obtain ⟨f, -, given⟩ := exists_of_forall₂ gives _ mem
    obtain ⟨m, length⟩ := (faithful _ f given).length _ bounds
    exact absurd length (length_fails_of_negative read negative)
  | inside mem encloses _ ih =>
    obtain ⟨f, -, given⟩ := exists_of_forall₂ gives _ mem
    obtain ⟨gs, given', distinct⟩ := (faithful _ f given).inside _ encloses
    exact absurd distinct (ih given')

/-- A single description that breaks a rule gives no field. -/
theorem Faithful.refuses_one (faithful : F.Faithful) {d : δ} (h : F.Breaks [d]) (f : Field) :
    ¬F.Gives d f := by
  intro given
  exact faithful.refuses h (.cons given .nil) (List.nodup_singleton _)

end Form

/-! ### Lengths -/

section Lengths

variable {k : ConstraintKind} {v : Value} {c : Constraint} {es : List (Value × Value)}

theorem Reading.length_of_parameter (length : k.IsLength) (h : Reading.parameter k es = .ok c) :
    ∃ w n, Value.lookup? (.text "value") es = some w ∧ Reading.length w = .ok n := by
  obtain rfl | rfl := length
  all_goals
    obtain ⟨n, needed, -⟩ := map_eq_ok_iff.mp h
    obtain ⟨w, held, read⟩ := Reading.needed_eq_ok_iff.mp needed
    exact ⟨w, n, held, read⟩

theorem Constraint.length_of_declared {keyword : Value} (length : k.IsLength)
    (text : keyword.asText? = some k.keyword) (h : Constraint.declared keyword v = .ok c) :
    ∃ n, Reading.length v = .ok n := by
  rw [Constraint.declared_of_keyword text] at h
  have read : Reading.parameter k [(.text "value", v)] = .ok c := by
    obtain rfl | rfl := length
    · exact DeclarationFault.ofReading_eq_ok_iff.mp h
    · exact DeclarationFault.ofReading_eq_ok_iff.mp h
  obtain ⟨w, n, held, read⟩ := Reading.length_of_parameter length read
  cases (Value.lookup?_singleton rfl).symm.trans held
  exact ⟨n, read⟩

theorem Constraint.exists_of_declaredAll {cs : List Constraint}
    (h : Constraint.declaredAll es = .ok cs) : ∀ e ∈ es, ∃ c, Constraint.declared e.1 e.2 = .ok c := by
  induction es generalizing cs with
  | nil => exact List.forall_mem_nil _
  | cons e rest ih =>
    obtain ⟨keyword, w⟩ := e
    simp only [Constraint.declaredAll, bind_eq_ok_iff, pure_eq_ok_iff] at h
    obtain ⟨c, first, others, later, -⟩ := h
    exact List.forall_mem_cons.mpr ⟨⟨c, first⟩, ih later⟩

end Lengths

/-! ### Values that are read -/

namespace Reading

variable {v w x : Value} {f : Field} {xs : List Value}

/-- Values that are read as fields: maps, and fields that are built. -/
def form : Form Value where
  Gives := ReadsAs
  Names v s := (∃ w, v.under? "name" = some w ∧ text w = .ok s) ∨
    ∃ f, Field.ofValue? v = some f ∧ f.name = s
  Nameless v := Field.ofValue? v = none ∧ ∀ w s, v.under? "name" = some w → text w = .ok s → s = ""
  Types v t := ∃ w, v.under? "type" = some w ∧ fieldType w = .ok t
  Bounds v w := ∃ u xs x k, v.under? "constraints" = some u ∧ items u = .ok xs ∧ x ∈ xs ∧
    ConstraintKind.IsLength k ∧ x.under? "kind" = some (.text k.keyword) ∧
    x.under? "value" = some w
  Nests v := ∃ w, v.under? "nested_fields" = some w ∧ w ≠ .null
  Encloses v xs := ∃ w, v.under? "nested_fields" = some w ∧ items w = .ok xs

theorem length_of_constraint {k : ConstraintKind} {c : Constraint} (length : k.IsLength)
    (kind : x.under? "kind" = some (.text k.keyword)) (value : x.under? "value" = some w)
    (h : constraint x = .ok c) : ∃ n, Reading.length w = .ok n := by
  cases maps : x.asEntries? with
  | none =>
    rw [Value.under?, maps] at kind
    cases kind
  | some es =>
    -- the tag selects the kind, and with it the reader of the parameter
    obtain ⟨m, rfl⟩ := Value.exists_mapping_of_asEntries? maps
    have tag : constraintTag (.mapping m es) = .ok (some (.text k.keyword)) :=
      congrArg Except.ok kind
    have known : (ConstraintKind.all.find? fun j => isString j.keyword (.text k.keyword)) = some k := by
      cases k <;> decide
    simp only [constraint, tag, known, under_eq_ok_iff] at h
    have parts : constraintOf k (.mapping m es) =
        (both (optional "kind" () es (literal k.keyword)) (parameter k es)).map (·.2) := rfl
    rw [parts, map_eq_ok_iff] at h
    obtain ⟨p, both, rfl⟩ := h
    obtain ⟨u, n, held, read⟩ := length_of_parameter length (both_eq_ok_iff.mp both).2
    cases value.symm.trans held
    exact ⟨n, read⟩

theorem form_faithful : form.Faithful := by
  intro v f h
  cases maps : v.asEntries? with
  | none =>
    -- no map: the value is the field, built before, and nothing stands in it under a key
    have built : Field.ofValue? v = some f := (field_of_no_mapping maps).mp h
    have empty : ∀ key w, v.under? key ≠ some w := by
      intro key w held
      rw [Value.under?, maps] at held
      cases held
    constructor
    · rintro s (⟨w, held, -⟩ | ⟨g, same, rfl⟩)
      · exact absurd held (empty _ w)
      · cases built.symm.trans same
        rfl
    · rintro ⟨none, -⟩
      cases built.symm.trans none
    · rintro ⟨w, held, -⟩
      exact absurd held (empty _ w)
    · rintro w ⟨u, xs, x, k, held, -⟩
      exact absurd held (empty _ u)
    · rintro xs ⟨w, held, -⟩
      exact absurd held (empty _ w)
  | some es =>
    obtain ⟨m, rfl⟩ := Value.exists_mapping_of_asEntries? maps
    obtain ⟨⟨n, held, named⟩, ⟨t, typeHeld, typed⟩, -, constrained, inside, map⟩ :=
      field_mapping_eq_ok_iff.mp h
    obtain ⟨text, some⟩ := nonEmptyText_eq_ok_iff.mp named
    have given : ∀ w, Value.lookup? (.text "nested_fields") es = .some w →
        nestedFields w = .ok f.nested := by
      intro w there
      obtain ⟨absent, -⟩ | ⟨w', there', given⟩ := inside
      · cases absent.symm.trans there
      · cases there.symm.trans there'
        exact given
    constructor
    · rintro s (⟨w, held', text'⟩ | ⟨g, same, -⟩)
      · cases held.symm.trans held'
        exact Except.ok.inj (text'.symm.trans text)
      · cases same
    · rintro ⟨-, nameless⟩
      exact some (nameless n f.name held text)
    · rintro ⟨w, there, notNull⟩
      obtain ⟨null, -⟩ | ⟨-, _, _, -, nested, -⟩ := nestedFields_eq_ok_iff.mp (given w there)
      · exact absurd null notNull
      · exact ⟨t, typeHeld, map (by rw [nested, Option.isSome_some]) ▸ typed⟩
    · rintro w ⟨u, xs, x, k, held', items, mem, length, kind, value⟩
      obtain ⟨absent, -⟩ | ⟨u', there, read⟩ := optional_eq_ok_iff.mp constrained
      · cases absent.symm.trans held'
      · cases held'.symm.trans there
        obtain ⟨ys, same, each⟩ := tupleOf_eq_ok_iff.mp read
        cases items.symm.trans same
        obtain ⟨c, -, reads⟩ := exists_of_forall₂ each x mem
        exact length_of_constraint length kind value reads
    · rintro xs ⟨w, there, items⟩
      obtain ⟨rfl, -⟩ | ⟨-, ys, fs, same, -, each, distinct⟩ :=
        nestedFields_eq_ok_iff.mp (given w there)
      · cases items
      · cases items.symm.trans same
        exact ⟨fs, each, distinct⟩

/-- A value is not read as a field if it, or what it holds for fields inside it, breaks a rule. -/
theorem field_refuses (h : form.Breaks [v]) : field v ≠ .ok f :=
  form_faithful.refuses_one h f

/-- A value is not read as a contract if the fields that it describes break a rule. -/
theorem contract_refuses {c : Contract} (held : v.under? "fields" = some w)
    (given : items w = .ok xs) (h : form.Breaks xs) : contract v ≠ .ok c := by
  intro read
  cases maps : v.asEntries? with
  | none =>
    rw [Value.under?, maps] at held
    cases held
  | some es =>
    obtain ⟨m, rfl⟩ := Value.exists_mapping_of_asEntries? maps
    obtain ⟨-, ⟨absent, -⟩ | ⟨u, ys, there, given', each⟩, distinct⟩ :=
      contract_mapping_eq_ok_iff.mp read
    · cases absent.symm.trans held
    · cases held.symm.trans there
      cases given.symm.trans given'
      exact form_faithful.refuses h each distinct

end Reading

/-! ### Entries that are converted -/

namespace Definition

variable {v : Value} {f : Field} {c : Contract}

/-- Entries that are converted into fields. -/
def form : Form Value where
  Gives := ConvertsTo
  Names v s := ∃ w, v.under? "name" = some w ∧ Reading.text w = .ok s
  Nameless v := ∀ w s, v.under? "name" = some w → Reading.text w = .ok s → s = ""
  Types v t := ∃ w, v.under? "type" = some w ∧ typeOf w = .ok t
  Bounds v w := ∃ u xs x es keyword k, v.under? "constraints" = some u ∧ u.iterate? = some xs ∧
    x ∈ xs ∧ x.asEntries? = some es ∧ (keyword, w) ∈ es ∧
    ConstraintKind.IsLength k ∧ keyword.asText? = some k.keyword
  Nests v := ∃ w, v.under? "fields" = some w ∧ w ≠ .null
  Encloses v xs := ∃ w, v.under? "fields" = some w ∧ w.iterate? = some xs

theorem declaredAll_of_constraintsOfItems {xs : List Value} {cs : List Constraint}
    (h : constraintsOfItems xs = .ok cs) : ∀ x ∈ xs, ∀ es, x.asEntries? = some es →
      ∃ ds, Constraint.declaredAll es = .ok ds := by
  induction xs generalizing cs with
  | nil => exact List.forall_mem_nil _
  | cons x rest ih =>
    simp only [constraintsOfItems, bind_eq_ok_iff] at h
    obtain ⟨ds, first, others, later, -⟩ := h
    refine List.forall_mem_cons.mpr ⟨fun es maps => ?_, ih later⟩
    simp only [constraintsOfItem, maps, mapError_eq_ok_iff] at first
    exact ⟨ds, first⟩

theorem form_faithful : form.Faithful := by
  intro v f h
  obtain ⟨m, es, rfl⟩ := exists_mapping_of_convertsTo h
  obtain ⟨constrained, ⟨n, held, named⟩, ⟨t, typeHeld, typed⟩, -, inside, distinct, map⟩ :=
    convertsTo_mapping_iff.mp h
  obtain ⟨text, some⟩ := Reading.nonEmptyText_eq_ok_iff.mp named
  have given : ∀ w, Value.lookup? (.text "fields") es = .some w →
      (nestedOf w).result = .ok f.nested := by
    intro w there
    obtain ⟨absent, -⟩ | ⟨w', there', given⟩ := convertedInside_result_eq_ok_iff.mp inside
    · cases absent.symm.trans there
    · cases there.symm.trans there'
      exact given
  constructor
  · rintro s ⟨w, held', text'⟩
    cases held.symm.trans held'
    exact Except.ok.inj (text'.symm.trans text)
  · intro nameless
    exact some (nameless n f.name held text)
  · rintro ⟨w, there, notNull⟩
    obtain ⟨null, -⟩ | ⟨-, _, _, -, nested, -⟩ := nestedOf_result_eq_ok_iff.mp (given w there)
    · exact absurd null notNull
    · exact ⟨t, typeHeld, map (by rw [nested, Option.isSome_some]) ▸ typed⟩
  · rintro w ⟨u, xs, x, parameters, keyword, k, held', iterates, mem, maps, there, length, text'⟩
    have all : constraintsOfItems xs = .ok f.constraints := by
      have stands : Value.lookup? (.text "constraints") es = .some u := held'
      simpa only [constraintsOf, stands, iterates] using constrained
    obtain ⟨ds, declared⟩ := declaredAll_of_constraintsOfItems all x mem parameters maps
    obtain ⟨c, declared⟩ := Constraint.exists_of_declaredAll declared _ there
    exact Constraint.length_of_declared length text' declared
  · rintro xs ⟨w, there, iterates⟩
    obtain ⟨rfl, -⟩ | ⟨-, ys, fs, same, nested, each⟩ := nestedOf_result_eq_ok_iff.mp (given w there)
    · cases iterates
    · cases iterates.symm.trans same
      exact ⟨fs, each, distinct fs nested⟩

/-- An entry that breaks a rule, or has one inside that does, is not converted. -/
theorem fieldOf_refuses (h : form.Breaks [v]) : (fieldOf v).result ≠ .ok f :=
  form_faithful.refuses_one h f

/-- Entries that break a rule are not converted into a contract. -/
theorem contractOf_refuses {name fields : Value} {xs : List Value}
    (given : fields.iterate? = some xs) (h : form.Breaks xs) :
    (contractOf name fields).result ≠ .ok c := by
  intro converted
  obtain ⟨-, distinct, ys, given', each⟩ := contractOf_goneThrough_eq_ok_iff.mp converted
  cases given.symm.trans given'
  exact form_faithful.refuses h each distinct

/-- The entries of a contract in a document break a rule. -/
def BreaksIn (e : Value × Value) : Prop :=
  ∃ xs, e.2.iterate? = some xs ∧ form.Breaks xs

/-- A document with entries that break a rule is not loaded, and what is added to the registry is
converted from others. -/
theorem load_refuses {document : Value} {source : String} {r : Registry} {e : Value × Value}
    (mem : e ∈ contractEntries document) (h : BreaksIn e) :
    (load document source r).2.result ≠ .ok () ∧
      ∀ c ∈ (load document source r).1.contracts, c ∈ r.contracts ∨
        ∃ e' ∈ contractEntries document, ConvertsToContract e' c ∧ ¬BreaksIn e' := by
  have refuses : ∀ e c, BreaksIn e → ¬ConvertsToContract e c := by
    rintro e c ⟨xs, given, broken⟩
    exact contractOf_refuses given broken
  constructor
  · intro loaded
    obtain ⟨cs, result, loads⟩ := exists_loads document source r
    cases (load_of_loads loads).2.symm.trans loaded
    cases loads with
    | accepted sound contracts =>
      generalize contractEntries document = es at contracts mem
      cases contracts with
      | loaded all =>
        obtain ⟨c, -, converted⟩ := exists_of_forall₂ all.converted e mem
        exact refuses e c h converted
  · intro c there
    refine (mem_load_contracts there).imp_right ?_
    rintro ⟨e', mem', converted⟩
    exact ⟨e', mem', converted, fun broken => refuses e' c broken converted⟩

end Definition

/-! ### Declarations -/

theorem declaredInOrder_result_eq_ok_iff {ds : List FieldDescription} {fs : List Field} :
    (declaredInOrder ds).result = .ok fs ↔
      List.Forall₂ (fun d f => d.declared.result = .ok f) ds fs := by
  induction ds generalizing fs with
  | nil =>
    rw [List.forall₂_nil_left_iff]
    exact ⟨fun h => (Except.ok.inj h).symm, fun h => h ▸ rfl⟩
  | cons d rest ih =>
    simp only [List.forall₂_cons_left_iff, ← ih]
    simp only [Noted.result_eq_ok_iff, declaredInOrder, Noted.bind_cons_eq_ok_iff]
    constructor
    · rintro ⟨_, f, others, first, after, rfl, rfl, hf, ho⟩
      exact ⟨f, others, ⟨first, hf⟩, ⟨after, ho⟩, rfl⟩
    · rintro ⟨f, others, ⟨first, hf⟩, ⟨after, ho⟩, rfl⟩
      exact ⟨_, f, others, first, after, rfl, rfl, hf, ho⟩

namespace FieldDescription

/-- Declarations of fields. -/
def form : Form FieldDescription where
  Gives d f := d.declared.result = .ok f
  Names d s := Reading.text d.name = .ok s
  Nameless d := ∀ s, Reading.text d.name = .ok s → s = ""
  Types d t := d.type.type = t
  Bounds d v := ∃ k, ConstraintKind.IsLength k ∧ (k.keyword, v) ∈ d.constraints
  Nests d := d.fields.isSome
  Encloses d ds := d.fields = some ds

theorem form_faithful : form.Faithful := by
  intro d f h
  obtain ⟨notes, h⟩ := Noted.result_eq_ok_iff.mp h
  obtain ⟨⟨before, inside, -⟩, named, typed, -, constrained, distinct, map⟩ :=
    FieldDescription.declared_eq_ok_iff.mp h
  obtain ⟨text, some⟩ := Reading.nonEmptyText_eq_ok_iff.mp named
  have declares : ∀ ds, d.fields = .some ds →
      ∃ fs, f.nested = .some fs ∧ (declaredInOrder ds).result = .ok fs := by
    intro ds given
    rw [given, declaredInside, Noted.bind_pure_eq_ok_iff] at inside
    obtain ⟨fs, nested, inOrder⟩ := inside
    exact ⟨fs, nested.symm, by rw [inOrder]⟩
  constructor
  · intro s text'
    exact Except.ok.inj (text'.symm.trans text)
  · intro nameless
    exact some (nameless f.name text)
  · intro nests
    obtain ⟨ds, given⟩ := Option.isSome_iff_exists.mp nests
    obtain ⟨fs, nested, -⟩ := declares ds given
    exact typed.symm.trans (map (by rw [nested, Option.isSome_some]))
  · rintro v ⟨k, length, mem⟩
    obtain ⟨c, -, declared⟩ := exists_of_forall₂ constrained _ mem
    exact Constraint.length_of_declared length rfl declared
  · intro ds given
    obtain ⟨fs, nested, inOrder⟩ := declares ds given
    exact ⟨fs, declaredInOrder_result_eq_ok_iff.mp inOrder, distinct fs nested⟩

/-- A field is not declared if it, or one inside it, breaks a rule. -/
theorem declared_refuses {d : FieldDescription} {f : Field} (h : form.Breaks [d]) :
    d.declared.result ≠ .ok f :=
  form_faithful.refuses_one h f

end FieldDescription

/-- A contract is not declared if its fields break a rule. -/
theorem ContractDescription.declared_refuses {d : ContractDescription} {c : Contract}
    (h : FieldDescription.form.Breaks d.fields) : d.declared.result ≠ .ok c := by
  intro declared
  obtain ⟨notes, declared⟩ := Noted.result_eq_ok_iff.mp declared
  obtain ⟨-, distinct, fields⟩ := ContractDescription.declared_eq_ok_iff.mp declared
  have inOrder : (declaredInOrder d.fields).result = .ok c.fields := by rw [fields]
  exact FieldDescription.form_faithful.refuses h (declaredInOrder_result_eq_ok_iff.mp inOrder)
    distinct

/-! ### All ways of building -/

/-- A field that is declared with fields that are built has a name, is a map if it is given any,
and these have distinct names; the lengths in its constraints are none but natural numbers. -/
theorem Field.declared_keeps {name type : Value} {required : Bool} {fields : Option (List Field)}
    {constraints : List (Value × Value)} {f : Field}
    (h : (Field.declared name type required fields constraints).result = .ok f) :
    (∃ s, Reading.text name = .ok s ∧ s ≠ "") ∧
      (fields.isSome → FieldType.declared type = .ok (.kind .map)) ∧ DistinctNames fields ∧
      ∀ e ∈ constraints, ∀ k : ConstraintKind, k.IsLength → e.1.asText? = some k.keyword →
        ∃ n, Reading.length e.2 = .ok n := by
  obtain ⟨notes, h⟩ := Noted.result_eq_ok_iff.mp h
  obtain ⟨typed, map, constrained, named, -, -, distinct, -⟩ := Field.declared_eq_ok_iff.mp h
  refine ⟨⟨f.name, Reading.nonEmptyText_eq_ok_iff.mp named⟩, fun nests => map nests ▸ typed,
    distinct, fun e mem k length text => ?_⟩
  obtain ⟨c, declared⟩ := Constraint.exists_of_declaredAll constrained e mem
  exact Constraint.length_of_declared length text declared

/-- Nothing is built from what breaks a rule, at any depth. -/
structure BrokenRefused : Prop where
  /-- A value is not read as a field. -/
  field_read : ∀ v f, Reading.form.Breaks [v] → Reading.field v ≠ .ok f
  /-- A value with fields is not read as a contract. -/
  contract_read : ∀ v w xs c, v.under? "fields" = some w → Reading.items w = .ok xs →
    Reading.form.Breaks xs → Reading.contract v ≠ .ok c
  /-- An entry is not converted into a field. -/
  field_converted : ∀ v f, Definition.form.Breaks [v] → (Definition.fieldOf v).result ≠ .ok f
  /-- Entries are not converted into a contract. -/
  contract_converted : ∀ e c, Definition.BreaksIn e → ¬Definition.ConvertsToContract e c
  /-- A document with such entries is not loaded, and leaves no contract that is made of them. -/
  loaded : ∀ document source r, ∀ e ∈ Definition.contractEntries document, Definition.BreaksIn e →
    (Definition.load document source r).2.result ≠ .ok () ∧
      ∀ c ∈ (Definition.load document source r).1.contracts, c ∈ r.contracts ∨
        ∃ e' ∈ Definition.contractEntries document,
          Definition.ConvertsToContract e' c ∧ ¬Definition.BreaksIn e'
  /-- A field with all that is inside it is not declared. -/
  field_described : ∀ d f, FieldDescription.form.Breaks [d] → d.declared.result ≠ .ok f
  /-- A contract with all its fields is not declared. -/
  contract_described : ∀ (d : ContractDescription) c, FieldDescription.form.Breaks d.fields →
    d.declared.result ≠ .ok c
  /-- A field is declared with built fields only if the rules are kept. -/
  field_declared : ∀ name type required fields constraints f,
    (Field.declared name type required fields constraints).result = .ok f →
      (∃ s, Reading.text name = .ok s ∧ s ≠ "") ∧
        (fields.isSome → FieldType.declared type = .ok (.kind .map)) ∧ DistinctNames fields ∧
        ∀ e ∈ constraints, ∀ k : ConstraintKind, k.IsLength → e.1.asText? = some k.keyword →
          ∃ n, Reading.length e.2 = .ok n
  /-- A contract is not declared with built fields of which two have the same name. -/
  contract_declared : ∀ name fields c, ¬(fields.map Field.name).Nodup →
    Contract.declared name fields ≠ .ok c

/-- Every contract that is built is well-formed at every depth, and the lengths in constraints are
not negative. Nothing is built from what breaks one of these rules. -/
theorem made_wellFormed_and_broken_refused :
    (∀ c : Contract, c.Made → c.WellFormed) ∧
      (∀ (k : Constraint) (n : Int), k.kind.IsLength → k.parameter.2 = .int n → 0 ≤ n) ∧
      BrokenRefused := by
  refine ⟨fun c => Contract.Made.wellFormed, ?_, ?_⟩
  · rintro k n length configured
    cases k with
    | minLength m | maxLength m =>
      cases configured
      exact Int.natCast_nonneg m
    | _ => exact absurd length (by simp [Constraint.kind, ConstraintKind.IsLength])
  · constructor
    case field_read => exact fun v f => Reading.field_refuses
    case contract_read => exact fun v w xs c => Reading.contract_refuses
    case field_converted => exact fun v f => Definition.fieldOf_refuses
    case contract_converted =>
      rintro e c ⟨xs, given, broken⟩
      exact Definition.contractOf_refuses given broken
    case loaded => exact fun document source r e => Definition.load_refuses
    case field_described => exact fun d f => FieldDescription.declared_refuses
    case contract_described => exact fun d c => ContractDescription.declared_refuses
    case field_declared => exact fun name type required fields constraints f => Field.declared_keeps
    case contract_declared =>
      intro name fields c repeats declared
      exact repeats (Contract.declared_eq_ok_iff.mp declared).2.2

/-- An entry for a text of at least five characters. -/
def zipEntry : Value :=
  .map [(.text "name", .text "zip"), (.text "type", .text "string"),
    (.text "constraints", .list [.map [(.text "min_length", .int 5)]])]

/-- An entry for a map with fields of its own. -/
def addressEntry (inside : List Value) : Value :=
  .map [(.text "name", .text "address"), (.text "type", .text "map"),
    (.text "fields", .list inside)]

/-- A contract with a field inside another is built; with the inner one twice it is not. -/
theorem addressEntry_converted :
    (∃ c, Definition.ConvertsToContract (.text "user", .list [addressEntry [zipEntry]]) c ∧
        c.fieldNames = ["address"] ∧ c.WellFormed) ∧
      ∀ c, ¬Definition.ConvertsToContract
        (.text "user", .list [addressEntry [zipEntry, zipEntry]]) c := by
  obtain ⟨wellFormed, -, refused⟩ := made_wellFormed_and_broken_refused
  constructor
  · have converted : Definition.ConvertsToContract
        (.text "user", .list [addressEntry [zipEntry]])
        ⟨"user", [⟨"address", .kind .map, false, [],
          some [⟨"zip", .kind .string, false, [.minLength 5], none⟩]⟩]⟩ := by
      unfold Definition.ConvertsToContract
      cbv
    exact ⟨_, converted, rfl, wellFormed _ (.converted converted)⟩
  · have named : Definition.form.Names zipEntry "zip" := ⟨.text "zip", by cbv, rfl⟩
    have twice : Definition.form.Breaks [zipEntry, zipEntry] :=
      .repeated (List.Sublist.refl _) named named
    have encloses : Definition.form.Encloses (addressEntry [zipEntry, zipEntry])
        [zipEntry, zipEntry] := ⟨.list [zipEntry, zipEntry], by cbv, rfl⟩
    have broken : Definition.form.Breaks [addressEntry [zipEntry, zipEntry]] :=
      .inside List.mem_cons_self encloses twice
    exact fun c => refused.contract_converted _ c ⟨_, rfl, broken⟩

end DataContract
