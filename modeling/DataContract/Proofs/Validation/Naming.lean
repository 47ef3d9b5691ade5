/-
What the qualified names of violations tell.

A violation is called by the names on its path and of its field, with dots between them, and its line
in a report is this name and what is wrong (`Violation.line_eq`). Every violation comes from a place
of the contract that the validation reaches (`exists_yields`), and the names of a place are names of
declared fields (`Reached.names_occur`). Names without dots can be told apart in the joined text
(`Violation.qualifiedName_inj`); so, where no declared name has a dot, two violations have the same
qualified name exactly if they come from the same declared field (`qualified_names_identify`).
-/
import DataContract.Proofs.Text.Splitting
import DataContract.Proofs.Validation.Attribution
import DataContract.Proofs.Validation.Outcome

namespace DataContract

/-! ### Qualified names -/

namespace Violation

variable {v u : Violation}

/-- The line of a violation is its qualified name, a colon and what is wrong, whatever its path. -/
theorem line_eq (v : Violation) : v.line = v.qualifiedName ++ ": " ++ v.error := by
  rw [line, qualifiedName]
  by_cases top : v.path = []
  · rw [if_pos (by simp [top]), top, List.nil_append, String.intercalate_singleton]
  · rw [if_neg (by simpa using top), String.intercalate_append_of_ne_nil top (List.cons_ne_nil _ _),
      String.intercalate_singleton]

/-- Without dots in them, the names that make a qualified name can be read back from it. -/
theorem qualifiedName_inj (first : ∀ n ∈ v.path ++ [v.field], '.' ∉ n.toList)
    (second : ∀ n ∈ u.path ++ [u.field], '.' ∉ n.toList) (same : v.qualifiedName = u.qualifiedName) :
    v.path = u.path ∧ v.field = u.field := by
  have dot : String.singleton '.' = "." := rfl
  have split := congrArg (fun s : String => s.splitOn (String.singleton '.')) same
  simp only [qualifiedName, ← dot] at split
  have names : v.path ++ [v.field] = u.path ++ [u.field] := by
    rwa [splitOn_intercalate first (by simp), splitOn_intercalate second (by simp)] at split
  obtain ⟨paths, fields⟩ := List.append_inj' names rfl
  exact ⟨paths, by simpa using fields⟩

end Violation

/-! ### Where violations come from -/

/-- A field is one of a list of fields, or of the fields inside one. -/
inductive Field.Occurs (f : Field) : List Field → Prop where
  | here {fields : List Field} (mem : f ∈ fields) : Occurs f fields
  | inside {fields nested : List Field} {g : Field} (mem : g ∈ fields)
    (deeper : g.nested = some nested) (occurs : Occurs f nested) : Occurs f fields

/-- The field at a place reports a violation. -/
def Place.Yields (x : Place) (path : List String) (w : Violation) : Prop :=
  ∃ own, x.Report path own ∧ w ∈ own

variable {fields : List Field} {entries : List (Value × Value)} {path : List String}
  {vs : List Violation} {w : Violation} {x y : Place}

theorem Place.Yields.attributed (h : x.Yields path w) :
    w.path = path ++ x.names ∧ w.field = x.field.name := by
  obtain ⟨own, report, mem⟩ := h
  exact Field.Report.attributed report w mem

/-- Every violation that is found comes from a place that the validation reaches. -/
theorem exists_yields (h : validateFields entries path fields = .ok vs) (mem : w ∈ vs) :
    ∃ x, Reached fields entries x ∧ x.Yields path w := by
  obtain ⟨records, trace⟩ := exists_trace fields h
  obtain ⟨r, hr, own, reached, -⟩ := trace.exists_of_mem mem
  exact ⟨r.1, reached, r.2, trace.reported r hr, own⟩

/-- The violations of a map are those found in its entries. -/
theorem validateFields_of_validate {o : Owner} {name data : Value} {c : Contract}
    {r : ValidationResult} (found : o.find? name = some c) (map : data.asEntries? = some entries)
    (ok : (validate o name data).result = .ok r) :
    validateFields entries [] c.fields = .ok r.violations := by
  rw [validate_of_known found, Contract.validate_of_map map] at ok
  cases hv : validateFields entries [] c.fields with
  | error e =>
    rw [hv] at ok
    cases ok
  | ok vs =>
    rw [hv] at ok
    cases ok
    cases vs with
    | nil => rfl
    | cons w ws => rfl

theorem Reached.occurs (h : Reached fields entries x) : x.field.Occurs fields := by
  induction h with
  | here declared => exact .here (List.mem_of_getElem? declared)
  | within declared go _ ih => exact .inside (List.mem_of_getElem? declared) go.fields ih

/-- The names on the way to a place are names of declared fields. -/
theorem Reached.names_occur (h : Reached fields entries x) :
    ∀ n ∈ x.names, ∃ f : Field, f.Occurs fields ∧ f.name = n := by
  induction h with
  | here => exact fun n mem => absurd mem List.not_mem_nil
  | within declared go _ ih =>
    have around := List.mem_of_getElem? declared
    intro n mem
    rcases List.mem_cons.mp mem with rfl | mem
    · exact ⟨_, .here around, rfl⟩
    · obtain ⟨f, occurs, named⟩ := ih n mem
      exact ⟨f, .inside around go.fields occurs, named⟩

/-- A place is known by its position in the contract. -/
theorem Reached.eq_of_position (hx : Reached fields entries x) (hy : Reached fields entries y)
    (same : x.position = y.position) : x = y := by
  induction hx generalizing y with
  | here hf =>
    cases hy with
    | here hg =>
      obtain rfl := (List.cons.inj same).1
      obtain rfl := Option.some.inj (hf.symm.trans hg)
      rfl
    | within _ _ reached => exact absurd (List.cons.inj same).2.symm reached.position_ne_nil
  | within hf go reached ih =>
    cases hy with
    | here => exact absurd (List.cons.inj same).2 reached.position_ne_nil
    | within hg go' reached' =>
      obtain ⟨rfl, deeper⟩ := List.cons.inj same
      obtain rfl := Option.some.inj (hf.symm.trans hg)
      obtain ⟨rfl, rfl⟩ := go.unique go'
      rw [ih reached' deeper]

/-! ### One name for one field -/

/-- What holds of all declared names holds of the names of a violation. -/
theorem Place.Yields.forall_names {P : String → Prop} (each : ∀ f : Field, f.Occurs fields → P f.name)
    (reached : Reached fields entries x) (yields : x.Yields [] w) :
    ∀ n ∈ w.path ++ [w.field], P n := by
  obtain ⟨way, field⟩ := yields.attributed
  intro n mem
  rw [way, field, List.nil_append] at mem
  rcases List.mem_append.mp mem with mem | mem
  · obtain ⟨f, occurs, rfl⟩ := reached.names_occur n mem
    exact each f occurs
  · obtain rfl := List.mem_singleton.mp mem
    exact each x.field reached.occurs

/-- Violations with the same names come from the same place, and those from one place have them. -/
theorem Place.Yields.same_names_iff (distinct : (fields.map (·.name)).Nodup)
    (wf : allWellFormed fields) {u : Violation} (hx : Reached fields entries x)
    (first : x.Yields path w) (hy : Reached fields entries y) (second : y.Yields path u) :
    w.path = u.path ∧ w.field = u.field ↔ x.position = y.position := by
  obtain ⟨way, field⟩ := first.attributed
  obtain ⟨way', field'⟩ := second.attributed
  rw [way, field, way', field', List.append_cancel_left_eq]
  constructor
  · rintro ⟨names, name⟩
    rw [Reached.unique distinct wf hx hy names name]
  · intro same
    rw [hx.eq_of_position hy same]
    exact ⟨rfl, rfl⟩

/-- Qualified names identify fields.

* The line of a violation is its qualified name, a colon and what is wrong.
* Every violation of a map comes from a field that is declared in the contract, and, if no declared
  name has a dot, two of them have the same qualified name exactly if they have the same path and
  field, and exactly if they come from the same position in the contract. -/
theorem qualified_names_identify :
    (∀ v : Violation, v.line = v.qualifiedName ++ ": " ++ v.error) ∧
    ∀ (o : Owner) (name data : Value) (c : Contract) (entries : List (Value × Value))
      (r : ValidationResult), o.find? name = some c → c.WellFormed →
      (∀ f : Field, f.Occurs c.fields → '.' ∉ f.name.toList) → data.asEntries? = some entries →
      (validate o name data).result = .ok r →
        (∀ w ∈ r.violations, ∃ x, Reached c.fields entries x ∧ x.Yields [] w) ∧
        ∀ w ∈ r.violations, ∀ u ∈ r.violations,
          (w.qualifiedName = u.qualifiedName ↔ w.path = u.path ∧ w.field = u.field) ∧
          ∀ x y, Reached c.fields entries x → x.Yields [] w →
            Reached c.fields entries y → y.Yields [] u →
              (w.qualifiedName = u.qualifiedName ↔ x.position = y.position) := by
  refine ⟨Violation.line_eq, fun o name data c entries r found wf dotless map ok => ?_⟩
  obtain ⟨-, distinct, all⟩ := wf
  have hv := validateFields_of_validate found map ok
  refine ⟨fun w mem => exists_yields hv mem, fun w hw u hu => ?_⟩
  have names : w.qualifiedName = u.qualifiedName ↔ w.path = u.path ∧ w.field = u.field := by
    obtain ⟨x, reached, yields⟩ := exists_yields hv hw
    obtain ⟨y, reached', yields'⟩ := exists_yields hv hu
    constructor
    · exact Violation.qualifiedName_inj (yields.forall_names dotless reached)
        (yields'.forall_names dotless reached')
    · rintro ⟨path, field⟩
      rw [Violation.qualifiedName, Violation.qualifiedName, path, field]
  exact ⟨names, fun x y hx first hy second =>
    names.trans (first.same_names_iff distinct all hx hy second)⟩

/-- A route with a stop of the same name on its way and at its end. -/
def route : Contract :=
  ⟨"route", [⟨"stop", .kind .string, true, [], none⟩,
    ⟨"via", .kind .map, true, [], some [⟨"stop", .kind .string, true, [], none⟩]⟩]⟩

/-- Both stops of a route are missing: the two violations are of fields of one name, which their
qualified names tell apart. -/
theorem route_named :
    (validate (.registry ⟨[("route", route)]⟩) (.text "route")
        (.map [(.text "via", .map [])])).result =
      .ok (.error [⟨"stop", "is required", []⟩, ⟨"stop", "is required", ["via"]⟩]) ∧
    route.WellFormed ∧ (∀ f : Field, f.Occurs route.fields → '.' ∉ f.name.toList) ∧
    Violation.line ⟨"stop", "is required", ["via"]⟩ =
      Violation.qualifiedName ⟨"stop", "is required", ["via"]⟩ ++ ": " ++ "is required" ∧
    Violation.qualifiedName ⟨"stop", "is required", []⟩ ≠
      Violation.qualifiedName ⟨"stop", "is required", ["via"]⟩ := by
  have run : (validate (.registry ⟨[("route", route)]⟩) (.text "route")
        (.map [(.text "via", .map [])])).result =
      .ok (.error [⟨"stop", "is required", []⟩, ⟨"stop", "is required", ["via"]⟩]) := by
    cbv
  have wf : route.WellFormed := by
    simp [route, Contract.WellFormed, allWellFormed, Field.WellFormed, nestedWellFormed]
  have dotless : ∀ f : Field, f.Occurs route.fields → '.' ∉ f.name.toList := by
    intro f occurs
    cases occurs with
    | here mem => fin_cases mem <;> decide
    | inside mem deeper occurs =>
      fin_cases mem
      · cases deeper
      · cases deeper
        cases occurs with
        | here mem => fin_cases mem; decide
        | inside mem deeper => fin_cases mem; cases deeper
  obtain ⟨line, identify⟩ := qualified_names_identify
  have found : (Owner.registry ⟨[("route", route)]⟩).find? (.text "route") = some route := by
    cbv
  have named := (identify _ _ _ _ _ _ found wf dotless rfl run).2
  refine ⟨run, wf, dotless, line _, fun same => ?_⟩
  have paths := ((named _ List.mem_cons_self _ (List.mem_cons_of_mem _ List.mem_cons_self)).1.mp same).1
  cases paths

end DataContract
