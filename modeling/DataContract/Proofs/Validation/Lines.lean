/-
Reports are read line by line.

What is wrong is said on one line whatever the data is, and whatever a contract is configured with but
for names: texts, bytes and patterns are written between quotes, and types, numbers and moments of time
have no line break in them (`Constraint.Says.oneLine`, `Field.Report.oneLine`). The name of a member of
an enumeration is written as it is, so a line break in it is one in the message (`brokenMember_breaks`).
Where names are on one line, a report splits at its line breaks into its headline and the lines of its
violations (`report_splits_into_lines`). The data is never written, only the name of its kind.
-/
import DataContract.Proofs.Validation.Naming
import DataContract.Proofs.Validation.Totality
import DataContract.Proofs.Value.Line

namespace DataContract

open Constraint

variable {s : String} {values : List Value}

/-! ### What is said of one value -/

theorem FieldType.oneLine_name (t : FieldType) : OneLine t.name := by
  induction t with
  | kind k => cases k <;> decide
  | listOf item ih => exact oneLine_append_iff.mpr ⟨by decide, ih⟩

theorem Value.oneLine_kindName (v : Value) : OneLine v.kindName := by
  rw [kindName]
  split
  · decide
  · cases v <;> simp [plainKindName, OneLine]

theorem configuredTexts_eq_mapM (values : List Value) :
    configuredTexts values = values.mapM Value.configured := by
  induction values with
  | nil => rfl
  | cons v rest ih => rw [configuredTexts, ih, List.mapM_cons]

theorem exists_of_configuredTexts {texts : List String} (h : configuredTexts values = .ok texts) :
    ∀ t ∈ texts, ∃ v ∈ values, v.configured = .ok t := by
  rw [configuredTexts_eq_mapM] at h
  exact exists_of_mapM_ok h

/-- A constraint says on one line what is wrong. -/
theorem Constraint.Says.oneLine {c : Constraint} {v : Value} (h : c.Says v s)
    (tidy : ∀ values, c = .oneOf values → ∀ u ∈ values, u.Tidy) : OneLine s := by
  cases h with
  | format => decide +kernel
  | minLength _ _ written =>
    exact (oneLine_of_decimalText written).between (by decide +kernel) (by decide +kernel)
  | maxLength _ _ written =>
    exact (oneLine_of_decimalText written).between (by decide +kernel) (by decide +kernel)
  | min _ _ written =>
    exact (oneLine_of_number written).between (by decide +kernel) (by decide +kernel)
  | max _ _ written =>
    exact (oneLine_of_number written).between (by decide +kernel) (by decide +kernel)
  | @oneOf _ _ texts _ written =>
    have each : ∀ t ∈ texts, OneLine t := by
      intro t mem
      obtain ⟨u, there, hu⟩ := exists_of_configuredTexts written t mem
      exact (tidy _ rfl u there).oneLine_of_configured hu
    exact oneLine_append_iff.mpr ⟨by decide +kernel, OneLine.intercalate (by decide) each⟩

/-! ### What is said of fields -/

variable {fields : List Field} {entries : List (Value × Value)} {path : List String}
  {vs own : List Violation}

theorem oneLine_expected_got {front : String} (h : OneLine front) (t : FieldType) (v : Value) :
    OneLine (front ++ t.name ++ ", got " ++ v.kindName) := by
  simp only [oneLine_append_iff]
  exact ⟨⟨⟨h, t.oneLine_name⟩, by decide⟩, v.oneLine_kindName⟩

/-- A field reports on one line each what is wrong with it. -/
theorem Field.Report.oneLine {f : Field} (report : f.Report entries path own)
    (tidy : ∀ values, .oneOf values ∈ f.constraints → ∀ v ∈ values, v.Tidy) :
    ∀ w ∈ own, OneLine w.error := by
  intro w mem
  cases report with
  | optional => cases mem
  | missing =>
    obtain rfl := List.mem_singleton.mp mem
    show OneLine "is required"
    decide +kernel
  | mistyped =>
    obtain rfl := List.mem_singleton.mp mem
    exact oneLine_expected_got (by decide) _ _
  | failing held typed answered fails =>
    obtain ⟨m, said, rfl⟩ := List.mem_map.mp mem
    obtain ⟨c, hc, said⟩ := List.mem_filterMap.mp said
    obtain ⟨a, ha⟩ := answered c hc
    simp only [message?, ha] at said
    exact (says_of_check_eq_some (said ▸ ha)).oneLine fun values same => tidy values (same ▸ hc)
  | items =>
    obtain ⟨x, -, rfl⟩ := List.mem_map.mp mem
    exact oneLine_expected_got (by decide +kernel) _ _
  | sound => cases mem

/-- Constraints of a field that a validation reaches occur in the contract. -/
theorem Field.Occurs.constraint {f : Field} (h : f.Occurs fields) {c : Constraint}
    (mem : c ∈ f.constraints) : c.Occurs fields := by
  induction h with
  | here there => exact .here there mem
  | inside there deeper _ ih => exact .inside there deeper ih

/-- Every violation of fields is said on one line. -/
theorem oneLine_of_validateFields (h : validateFields entries path fields = .ok vs)
    (tidy : ∀ values, (Constraint.oneOf values).Occurs fields → ∀ v ∈ values, v.Tidy) :
    ∀ w ∈ vs, OneLine w.error := by
  intro w mem
  obtain ⟨x, reached, own, report, there⟩ := exists_yields h mem
  exact Field.Report.oneLine report
    (fun values constraint => tidy values (reached.occurs.constraint constraint)) w there

/-! ### Reports -/

/-- The line of a violation is on one line if its names and what is wrong are. -/
theorem Violation.oneLine_line {w : Violation} (names : ∀ n ∈ w.path ++ [w.field], OneLine n)
    (error : OneLine w.error) : OneLine w.line := by
  have qualified : OneLine w.qualifiedName := OneLine.intercalate (by decide) names
  rw [w.line_eq, oneLine_append_iff, oneLine_append_iff]
  exact ⟨⟨qualified, by decide⟩, error⟩

/-- A report splits into its headline and the lines of its violations. -/
theorem splitOn_report (lines : ∀ w ∈ vs, OneLine w.line) :
    (report vs).splitOn "\n" =
      ("Validation failed at perimeter with " ++ toString vs.length ++ " violation(s):") ::
        vs.map fun w => "  - " ++ w.line := by
  have headline : OneLine
      ("Validation failed at perimeter with " ++ toString vs.length ++ " violation(s):") :=
    (oneLine_nat vs.length).between (by decide +kernel) (by decide +kernel)
  refine splitOn_intercalate (List.forall_mem_cons.mpr ⟨headline, fun p mem => ?_⟩)
    (List.cons_ne_nil _ _)
  obtain ⟨w, there, rfl⟩ := List.mem_map.mp mem
  exact oneLine_append_iff.mpr ⟨by decide, lines w there⟩

variable {o : Owner} {name data : Value} {r : ValidationResult}

/-- The violations of a validation are said on one line each, and named so. -/
theorem oneLine_of_validate (ok : (validate o name data).result = .ok r)
    (called : ∀ text, name.display = .ok text → OneLine text)
    (names : ∀ c, o.find? name = some c → ∀ f : Field, f.Occurs c.fields → OneLine f.name)
    (tidy : ∀ c, o.find? name = some c → ∀ values, (Constraint.oneOf values).Occurs c.fields →
      ∀ v ∈ values, v.Tidy) :
    ∀ w ∈ r.violations, OneLine w.error ∧ ∀ n ∈ w.path ++ [w.field], OneLine n := by
  obtain ⟨-, text, shown, rfl⟩ | ⟨c, -, -, rfl⟩ | ⟨c, entries, -, found, map, -⟩ := validate_eq_ok ok
  · have field : OneLine contractField := by decide +kernel
    refine List.forall_mem_singleton.mpr ⟨?_, List.forall_mem_singleton.mpr field⟩
    exact (called text shown).between (by decide +kernel) (by decide +kernel)
  · have field : OneLine rootField := by decide
    refine List.forall_mem_singleton.mpr ⟨?_, List.forall_mem_singleton.mpr field⟩
    exact oneLine_append_iff.mpr ⟨by decide +kernel, data.oneLine_kindName⟩
  · have hv := validateFields_of_validate found map ok
    intro w mem
    obtain ⟨x, reached, yields⟩ := exists_yields hv mem
    exact ⟨oneLine_of_validateFields hv (tidy c found) w mem,
      yields.forall_names (names c found) reached⟩

/-- Reports are read line by line.

Let a name, the names of the declared fields and what the configured values of `oneOf` constraints
show without quotes be on one line. Then every violation of any data says on one line what is wrong;
the report splits into a headline with the number of violations and a line for each, in their order;
and a refusal reads so and lists the qualified names in the same order. -/
theorem report_splits_into_lines (ok : (validate o name data).result = .ok r)
    (called : ∀ text, name.display = .ok text → OneLine text)
    (names : ∀ c, o.find? name = some c → ∀ f : Field, f.Occurs c.fields → OneLine f.name)
    (tidy : ∀ c, o.find? name = some c → ∀ values, (Constraint.oneOf values).Occurs c.fields →
      ∀ v ∈ values, v.Tidy) (contract : Option Value) :
    (∀ w ∈ r.violations, OneLine w.error) ∧
    (report r.violations).splitOn "\n" =
      ("Validation failed at perimeter with " ++ toString r.violations.length ++ " violation(s):") ::
        r.violations.map (fun w => "  - " ++ w.line) ∧
    ((report r.violations).splitOn "\n").length = r.violations.length + 1 ∧
    (Refusal.mk r.violations contract).message = report r.violations ∧
    (Refusal.mk r.violations contract).fields = r.violations.map (·.qualifiedName) := by
  have each := oneLine_of_validate ok called names tidy
  have split := splitOn_report fun w mem => Violation.oneLine_line (each w mem).2 (each w mem).1
  refine ⟨fun w mem => (each w mem).1, split, ?_, rfl, rfl⟩
  rw [split, List.length_cons, List.length_map]

/-- A member of an enumeration with a line break in its name. -/
def brokenMember : Atom := ⟨"E", "a\nb", .number 1, false⟩

/-- A rhyme on that member alone. -/
def rhyme : Contract :=
  ⟨"rhyme", [⟨"word", .kind .string, true, [.oneOf [.atom brokenMember]], none⟩]⟩

/-- A member's name stands in the message as it is: where it has a line break, the one violation takes
two lines of the report. -/
theorem brokenMember_breaks :
    OneLine rhyme.name ∧ (∀ f : Field, f.Occurs rhyme.fields → OneLine f.name) ∧
    (validate (.registry ⟨[("rhyme", rhyme)]⟩) (.text "rhyme")
        (.map [(.text "word", .text "q")])).result =
      .ok (.error [⟨"word", "must be one of: E.a\nb", []⟩]) ∧
    ¬OneLine "must be one of: E.a\nb" ∧
    (report [⟨"word", "must be one of: E.a\nb", []⟩]).splitOn "\n" =
      ["Validation failed at perimeter with 1 violation(s):", "  - word: must be one of: E.a", "b"] := by
  refine ⟨by decide, ?_, by cbv, by decide +kernel, ?_⟩
  · intro f occurs
    cases occurs with
    | here mem =>
      fin_cases mem
      decide
    | inside mem deeper =>
      fin_cases mem
      cases deeper
  · generalize parts : ["Validation failed at perimeter with 1 violation(s):",
      "  - word: must be one of: E.a", "b"] = lines
    have told : report [⟨"word", "must be one of: E.a\nb", []⟩] = "\n".intercalate lines := by
      subst parts
      decide +kernel
    have apart : ∀ p ∈ lines, OneLine p := by
      subst parts
      decide +kernel
    rw [told]
    exact splitOn_intercalate apart (parts ▸ List.cons_ne_nil _ _)

/-- A verse that is one of those configured: a list with nothing but a line break. -/
def verse : Contract :=
  ⟨"verse", [⟨"text", .kind .list, true, [.oneOf [.list [.text "\n"]]], none⟩]⟩

/-- A verse of two line breaks is refused in a report of two lines. -/
theorem verse_refused :
    (validate (.registry ⟨[("verse", verse)]⟩) (.text "verse")
        (.map [(.text "text", .list [.text "\n\n"])])).result =
      .ok (.error [⟨"text", "must be one of: ['\\n']", []⟩]) ∧
    (∀ f : Field, f.Occurs verse.fields → OneLine f.name) ∧
    (∀ values, (Constraint.oneOf values).Occurs verse.fields → ∀ v ∈ values, v.Tidy) ∧
    (report [⟨"text", "must be one of: ['\\n']", []⟩]).splitOn "\n" =
      ["Validation failed at perimeter with " ++ toString 1 ++ " violation(s):",
        "  - " ++ Violation.line ⟨"text", "must be one of: ['\\n']", []⟩] := by
  have run : (validate (.registry ⟨[("verse", verse)]⟩) (.text "verse")
        (.map [(.text "text", .list [.text "\n\n"])])).result =
      .ok (.error [⟨"text", "must be one of: ['\\n']", []⟩]) := by
    cbv
  have found : (Owner.registry ⟨[("verse", verse)]⟩).find? (.text "verse") = some verse := by
    cbv
  have called : ∀ text, (Value.text "verse").display = .ok text → OneLine text := by
    intro text shown
    cases shown
    decide
  have names : ∀ f : Field, f.Occurs verse.fields → OneLine f.name := by
    intro f occurs
    cases occurs with
    | here mem =>
      fin_cases mem
      decide
    | inside mem deeper =>
      fin_cases mem
      cases deeper
  have lineBreak : (Value.list [.text "\n"]).Tidy := by
    refine Value.tidy_of_children (fun text bare => by cases bare) fun x child => ?_
    cases child with
    | item mem =>
      fin_cases mem
      exact Value.tidy_of_children (fun text bare => by cases bare) fun x child => by cases child
  have tidy : ∀ values, (Constraint.oneOf values).Occurs verse.fields → ∀ v ∈ values, v.Tidy := by
    intro values occurs
    cases occurs with
    | here mem constraint =>
      fin_cases mem
      fin_cases constraint
      exact List.forall_mem_singleton.mpr lineBreak
    | inside mem deeper =>
      fin_cases mem
      cases deeper
  have split := (report_splits_into_lines run called
    (fun c h => Option.some.inj (found.symm.trans h) ▸ names)
    (fun c h => Option.some.inj (found.symm.trans h) ▸ tidy) none).2.1
  exact ⟨run, names, tidy, split⟩

end DataContract
