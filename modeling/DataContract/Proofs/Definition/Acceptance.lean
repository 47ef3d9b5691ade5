/-
What the check accepts, and how it refuses.

The check finds nothing wrong exactly with the documents of the grammar. Any other is refused with a
report (`IsReport`) that has a line for each fault, in the order of the ways to them. For this the
faults must be writable: those of a part of a value show only that part, and the keys on the way to
it (`FormatFault.About`). So if the names of the contracts are texts, only an integer with too many
digits can keep the report from being written (`check_decides_grammar`), as it does in
`overlongContracts`.
-/
import DataContract.Proofs.Definition.Grammar
import DataContract.Proofs.Definition.Report

namespace DataContract

/-! ### What a fault is about -/

namespace DocumentStep

theorem not_unwritable_index {n : Nat} : ¬(index n).Unwritable := by
  intro h
  cases h

theorem not_unwritable_of_text {k : Value} {s : String} (text : k.asText? = some s) :
    ¬(key k).Unwritable := by
  intro h
  cases h with
  | type _ noText => cases text.symm.trans noText
  | integer noText => cases text.symm.trans noText

end DocumentStep

namespace FormatFault

/-- A fault is about a part of a value: each step on the way to it can be shown, and an integer with
too many digits in what it reads stands in the value. -/
structure About (v : Value) (f : FormatFault) : Prop where
  way : ∀ s ∈ f.path, ¬s.Unwritable
  held : ∀ w ∈ f.rule.values, w.Overlong → v.Overlong

variable {v part : Value} {f : FormatFault} {rule : FormatRule} {step : DocumentStep}

theorem about_here (held : ∀ w ∈ rule.values, w.Overlong → v.Overlong) : (here rule).About v :=
  ⟨nofun, held⟩

theorem About.under (h : f.About part) (writable : ¬step.Unwritable)
    (held : part.Overlong → v.Overlong) : (f.under step).About v := by
  refine ⟨?_, ?_⟩
  · intro s mem
    cases mem with
    | head => exact writable
    | tail _ mem => exact h.way s mem
  · intro w mem long
    exact held (h.held w mem long)

end FormatFault

namespace Definition

variable {v document : Value} {es : List (Value × Value)} {m : MappingKind} {source : String}
  {fs : List FormatFault} {rule : FormatRule}

/-- Every fault of a list is about a part of the value. -/
def AllAbout (v : Value) (fs : List FormatFault) : Prop :=
  ∀ f ∈ fs, f.About v

namespace AllAbout

theorem append {fs fs' : List FormatFault} (h : AllAbout v fs) (h' : AllAbout v fs') :
    AllAbout v (fs ++ fs') :=
  List.forall_mem_append.mpr ⟨h, h'⟩

theorem expect {holds : Bool} (held : ∀ w ∈ rule.values, w.Overlong → v.Overlong) :
    AllAbout v (expect holds rule) := by
  cases holds with
  | true => exact nofun
  | false => exact List.forall_mem_singleton.mpr (FormatFault.about_here held)

/-- A rule about the value itself. -/
theorem expect_self {holds : Bool} (self : rule.values = [v]) :
    AllAbout v (Definition.expect holds rule) := by
  refine expect ?_
  rw [self]
  exact List.forall_mem_singleton.mpr id

theorem fault_self (self : rule.values = [v]) : AllAbout v [.here rule] :=
  @expect_self v rule false self

theorem atKey {key : String} {faults : Value → List FormatFault}
    (each : ∀ w, Value.lookup? (.text key) es = some w → AllAbout w (faults w)) :
    AllAbout (.mapping m es) (atKeyFaults key es faults) := by
  unfold atKeyFaults
  split
  · next w hw =>
    obtain ⟨k, mem, -⟩ := Value.exists_mem_of_lookup? hw
    refine List.forall_mem_map.mpr fun f mem' => ?_
    exact (each w hw f mem').under (DocumentStep.not_unwritable_of_text rfl) (.entry mem)
  · exact nofun

theorem ofEach {faults : Value → List FormatFault} {kind : SequenceKind} {items : List Value}
    (each : ∀ w ∈ items, AllAbout w (faults w)) :
    AllAbout (.sequence kind items) (eachFaults faults items) := by
  intro f mem
  obtain ⟨⟨w, i⟩, at', mem⟩ := List.mem_flatMap.mp mem
  obtain ⟨f', mem', rfl⟩ := List.mem_map.mp mem
  have item : w ∈ items := List.fst_mem_of_mem_zipIdx at'
  exact (each w item f' mem').under DocumentStep.not_unwritable_index (.item item)

theorem missingKeys {keys : List String} : AllAbout v (missingKeys keys es) := by
  intro f mem
  obtain ⟨key, -, mem⟩ := List.mem_flatMap.mp mem
  exact expect (List.forall_mem_nil _) f mem

theorem strayKeys {known : List String} : AllAbout (.mapping m es) (strayKeys known es) := by
  refine expect ?_
  intro w mem long
  obtain ⟨e, mem', rfl⟩ := List.mem_map.mp (List.mem_of_mem_filter mem)
  exact .key mem' long

end AllAbout

/-! ### The faults of each part are about it -/

theorem about_parameterFaults (k : ConstraintKind) (v : Value) :
    AllAbout v (parameterFaults k v) := by
  cases k with
  | format => exact .expect_self rfl
  | minLength | maxLength => exact (AllAbout.expect_self rfl).append (.expect_self rfl)
  | min | max => exact .expect_self rfl
  | oneOf =>
    rw [parameterFaults, choiceFaults]
    split
    · exact .fault_self rfl
    · exact .expect_self rfl

theorem about_constraintFaults (v : Value) : AllAbout v (constraintFaults v) := by
  unfold constraintFaults
  split
  · exact .fault_self rfl
  · next es entries =>
    obtain ⟨m, -, rfl⟩ := objectEntries?_eq_some_iff.mp entries
    refine .append (.append (.append (.expect_self rfl) (.expect_self rfl)) ?_) .strayKeys
    intro f mem
    obtain ⟨k, -, mem⟩ := List.mem_flatMap.mp mem
    exact AllAbout.atKey (fun w _ => about_parameterFaults k w) f mem

theorem about_constraintListFaults (v : Value) : AllAbout v (constraintListFaults v) := by
  unfold constraintListFaults
  split
  · exact .fault_self rfl
  · next items list =>
    obtain ⟨k, -, rfl⟩ := arrayItems?_eq_some_iff.mp list
    exact .ofEach fun w _ => about_constraintFaults w

theorem about_nameFaults (v : Value) : AllAbout v (nameFaults v) := by
  unfold nameFaults
  split
  · exact .expect_self rfl
  · exact .expect_self rfl

theorem about_fieldEntryFaults {inside : List FormatFault} (h : AllAbout (.mapping m es) inside) :
    AllAbout (.mapping m es) (fieldEntryFaults es inside) := by
  refine .append (.append (.append (.append (.append (.append .missingKeys ?_) ?_) ?_) ?_) h)
    .strayKeys
  · exact .atKey fun w _ => about_nameFaults w
  · exact .atKey fun w _ => .expect_self rfl
  · exact .atKey fun w _ => .expect_self rfl
  · exact .atKey fun w _ => about_constraintListFaults w

theorem fieldFaults_of_no_object (none : objectEntries? v = none) :
    fieldFaults v = [.here (.ofType v "object")] := by
  unfold fieldFaults
  split
  · next m es => exact if_neg fun own => by simp [objectEntries?, own] at none
  · rfl

theorem about_fieldListFaults (each : ∀ items, arrayItems? v = some items → ∀ w ∈ items,
    AllAbout w (fieldFaults w)) : AllAbout v (fieldListFaults v) := by
  cases list : arrayItems? v with
  | none =>
    rw [fieldListFaults_of_no_items list]
    exact .fault_self rfl
  | some items =>
    rw [fieldListFaults_of_items list]
    have about := each items list
    obtain ⟨k, -, rfl⟩ := arrayItems?_eq_some_iff.mp list
    exact .ofEach about

/-- The faults of a field are about it, whatever it is. -/
theorem about_fieldFaults (v : Value) : AllAbout v (fieldFaults v) := by
  induction v using fieldInduction with
  | field v ih =>
  cases entries : objectEntries? v with
  | none =>
    rw [fieldFaults_of_no_object entries]
    exact .fault_self rfl
  | some es =>
    obtain ⟨m, object, rfl⟩ := objectEntries?_eq_some_iff.mp entries
    rw [fieldFaults_mapping object]
    refine about_fieldEntryFaults (.atKey fun w held => about_fieldListFaults ?_)
    intro items list
    exact ih m es w items rfl held list

/-- So are those of the contracts, if their names are texts. -/
theorem about_contractsFaults (v : Value)
    (named : ∀ es, v.asEntries? = some es → ∀ e ∈ es, ∃ s, e.1.asText? = some s) :
    AllAbout v (contractsFaults v) := by
  unfold contractsFaults
  split
  · exact .fault_self rfl
  · next es entries =>
    obtain ⟨m, -, rfl⟩ := objectEntries?_eq_some_iff.mp entries
    intro f mem
    obtain ⟨⟨name, fields⟩, there, mem⟩ := List.mem_flatMap.mp mem
    obtain ⟨f', mem', rfl⟩ := List.mem_map.mp mem
    obtain ⟨s, text⟩ := named es rfl _ there
    have about : f'.About fields :=
      about_fieldListFaults (fun _ _ w _ => about_fieldFaults w) f' mem'
    exact about.under (DocumentStep.not_unwritable_of_text text) (.entry there)

theorem about_faults (named : ∀ e ∈ contractEntries document, ∃ s, e.1.asText? = some s) :
    AllAbout document (faults document) := by
  unfold faults
  split
  · exact .fault_self rfl
  · next es entries =>
    obtain ⟨m, -, rfl⟩ := objectEntries?_eq_some_iff.mp entries
    refine .append (.append .missingKeys (.atKey fun v held => about_contractsFaults v ?_))
      .strayKeys
    intro contracts hv
    rw [contractEntries_mapping held, hv] at named
    exact named

/-! ### Reports -/

/-- A row of a report shows a fault: the way to it, and what it reads. -/
def ShowsFault (f : FormatFault) (row : String × String) : Prop :=
  ∃ way, FormatFault.pathText f.path = .ok way ∧ row.1 = "$" ++ way ∧ f.rule.message = .ok row.2

/-- Lines are a report on faults: there is a row for each fault, and the lines are the rows in the
order of the ways they show. -/
def IsReport (fs : List FormatFault) (errors : List String) : Prop :=
  ∃ rows sorted : List (String × String), List.Forall₂ ShowsFault fs rows ∧ sorted.Perm rows ∧
    sorted.Pairwise (fun a b => a.1 ≤ b.1) ∧ errors = sorted.map fun row => row.1 ++ ": " ++ row.2

/-- The check refuses a document with a report on its faults. -/
def Refused (document : Value) (source : String) : Prop :=
  ∃ errors, check document source = .ok (some ⟨source, errors, none⟩) ∧ errors ≠ [] ∧
    IsReport (faults document) errors

theorem shows_zip {texts paths : List String} (ht : faultTexts fs = .ok texts)
    (hp : faultPaths fs = .ok paths) : List.Forall₂ ShowsFault fs (paths.zip texts) := by
  induction fs generalizing texts paths with
  | nil =>
    cases hp
    exact .nil
  | cons f rest ih =>
    rw [faultTexts] at ht
    split at ht
    · cases ht
    · next first message =>
      simp only [bind_eq_ok_iff, pure_eq_ok_iff] at ht
      simp only [faultPaths, bind_eq_ok_iff, pure_eq_ok_iff] at hp
      obtain ⟨texts, ht, rfl⟩ := ht
      obtain ⟨way, hw, paths, hp, rfl⟩ := hp
      exact .cons ⟨way, hw, rfl, message⟩ (ih ht hp)

theorem pairwise_mergeSort_fst (rows : List (String × String)) :
    (rows.mergeSort fun a b => !decide (b.1 < a.1)).Pairwise fun a b => a.1 ≤ b.1 := by
  refine List.Pairwise.imp ?_ (List.pairwise_mergeSort ?_ ?_ rows)
  · intro a b
    simp only [Bool.not_eq_true', decide_eq_false_iff_not, String.not_lt, imp_self]
  · intro a b c
    simp only [Bool.not_eq_true', decide_eq_false_iff_not, String.not_lt]
    exact String.le_trans
  · intro a b
    simp only [Bool.or_eq_true, Bool.not_eq_true', decide_eq_false_iff_not, String.not_lt]
    exact String.le_total a.1 b.1

theorem isReport_of_lines {errors : List String} (h : lines fs = .ok errors) :
    IsReport fs errors := by
  simp only [lines, bind_eq_ok_iff, pure_eq_ok_iff] at h
  obtain ⟨texts, ht, paths, hp, rfl⟩ := h
  exact ⟨paths.zip texts, _, shows_zip ht hp, List.mergeSort_perm _ _, pairwise_mergeSort_fst _,
    rfl⟩

theorem refused_of_writable (unsound : faults document ≠ [])
    (writable : ¬∃ f ∈ faults document, f.Unwritable) : Refused document source := by
  cases hl : lines (faults document) with
  | error u => exact absurd (lines_fail_iff.mp ⟨u, hl⟩) writable
  | ok errors =>
    have some : errors ≠ [] := by
      rintro rfl
      exact unsound (List.length_eq_zero_iff.mp (length_lines hl).symm)
    refine ⟨errors, ?_, some, isReport_of_lines hl⟩
    rw [check_of_lines hl, if_neg]
    rwa [List.isEmpty_iff]

/-! ### The check -/

/-- What a fault reads can fail to be written for one reason only. -/
theorem faultTexts_eq_error {u : UnwritableReport} (h : faultTexts fs = .error u) :
    u = .tooManyDigits := by
  induction fs with
  | nil => cases h
  | cons f rest ih =>
    rw [faultTexts] at h
    split at h
    · cases h
      rfl
    · simp only [bind_eq_error_iff, pure_ne_error, and_false, exists_false, or_false] at h
      exact ih h

theorem check_of_overlong (long : ∃ f ∈ faults document, ∃ v ∈ f.rule.values, v.Overlong) :
    check document source = .error .tooManyDigits := by
  obtain ⟨u, h⟩ := faultTexts_fail_iff.mpr long
  obtain rfl := faultTexts_eq_error h
  rw [check, lines, h]
  rfl

theorem check_eq_none_iff : check document source = .ok none ↔ IsDocument document := by
  rw [← faults_eq_nil_iff]
  refine ⟨fun accepted => ?_, check_of_sound⟩
  by_contra unsound
  by_cases unwritable : ∃ f ∈ faults document, f.Unwritable
  · obtain ⟨u, hu⟩ : ∃ u, check document source = .error u := check_of_unwritable unwritable
    cases accepted.symm.trans hu
  · obtain ⟨errors, refused, -⟩ : Refused document source := refused_of_writable unsound unwritable
    cases accepted.symm.trans refused

/-- The check accepts exactly the documents of the grammar. Any other whose contracts have texts for
names is refused with a report on all its faults, unless an integer with too many digits stands in a
value that is to be reported; then it stands in the document. -/
theorem check_decides_grammar (document : Value) (source : String) :
    (check document source = .ok none ↔ IsDocument document) ∧
      (¬IsDocument document → (∀ e ∈ contractEntries document, ∃ s, e.1.asText? = some s) →
        ((¬∃ f ∈ faults document, ∃ v ∈ f.rule.values, v.Overlong) → Refused document source) ∧
        ((∃ f ∈ faults document, ∃ v ∈ f.rule.values, v.Overlong) →
          document.Overlong ∧ check document source = .error .tooManyDigits)) := by
  refine ⟨check_eq_none_iff, ?_⟩
  intro malformed named
  have about := about_faults named
  constructor
  · intro short
    refine refused_of_writable (mt faults_eq_nil_iff.mp malformed) ?_
    rintro ⟨f, mem, ⟨s, step, unwritable⟩ | long⟩
    · exact (about f mem).way s step unwritable
    · exact short ⟨f, mem, long⟩
  · intro long
    refine ⟨?_, check_of_overlong long⟩
    obtain ⟨f, mem, v, held, long⟩ := long
    exact (about f mem).held v held long

/-- A document with a field that has an empty name and no type. -/
def emptyName : Value :=
  .map [(.text "contracts", .map [(.text "parcel", .list [.map [(.text "name", .text "")]])])]

theorem emptyName_refused : ¬IsDocument emptyName ∧ Refused emptyName noSource := by
  have found : faults emptyName =
      [⟨[.key (.text "contracts"), .key (.text "parcel"), .index 0], .needs "type"⟩,
        ⟨[.key (.text "contracts"), .key (.text "parcel"), .index 0, .key (.text "name")],
          .notEmpty (.text "")⟩] := by
    cbv
  have malformed : ¬IsDocument emptyName := by
    rw [← faults_eq_nil_iff, found]
    exact List.cons_ne_nil _ _
  have named : ∀ e ∈ contractEntries emptyName, ∃ s, e.1.asText? = some s := by
    obtain ⟨fields, entries⟩ : ∃ fields, contractEntries emptyName = [(.text "parcel", fields)] :=
      ⟨_, by cbv⟩
    rw [entries]
    exact List.forall_mem_singleton.mpr ⟨"parcel", rfl⟩
  obtain ⟨reported, -⟩ := (check_decides_grammar emptyName noSource).2 malformed named
  refine ⟨malformed, reported ?_⟩
  -- what is reported is an empty text
  rw [found]
  rintro ⟨f, mem, v, held, long⟩
  simp only [List.mem_cons, List.not_mem_nil, or_false] at mem
  obtain rfl | rfl := mem
  · cases held
  · obtain rfl := List.mem_singleton.mp held
    cases long

theorem check_of_overlong_contracts {n : Int} (long : IsOverlong n) :
    check (.map [(.text "contracts", .int n)]) source = .error .tooManyDigits := by
  have found : faults (.map [(.text "contracts", .int n)]) =
      [⟨[.key (.text "contracts")], .ofType (.int n) "object"⟩] := by
    cbv
  refine check_of_overlong ?_
  rw [found]
  exact ⟨_, List.mem_singleton_self _, .int n, List.mem_singleton_self _, .int long⟩

/-- A document that has an integer with one digit too many in the place of its contracts. -/
def overlongContracts : Value :=
  .map [(.text "contracts", .int (Nat.pow 10 digitLimit : Nat))]

theorem overlongContracts_fails :
    ¬IsDocument overlongContracts ∧
      (∀ e ∈ contractEntries overlongContracts, ∃ s, e.1.asText? = some s) ∧
      check overlongContracts noSource = .error .tooManyDigits ∧
      ¬Refused overlongContracts noSource := by
  have fails : check overlongContracts noSource = .error .tooManyDigits :=
    check_of_overlong_contracts (by rw [IsOverlong, Int.natAbs_natCast])
  have entries : contractEntries overlongContracts = [] :=
    contractEntries_mapping (Value.lookup?_singleton rfl)
  refine ⟨?_, ?_, fails, ?_⟩
  · intro document
    have accepted : check overlongContracts noSource = .ok none := check_eq_none_iff.mpr document
    cases fails.symm.trans accepted
  · rw [entries]
    exact List.forall_mem_nil _
  · rintro ⟨errors, refused, -⟩
    cases fails.symm.trans refused

end Definition

end DataContract
