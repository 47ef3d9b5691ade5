/-
Which documents are loaded, and what they leave in the registry.

The check leaves four rules to the conversion: the names of contracts are not empty, not registered
and distinct, and in each list of entries, at any depth (`ListWithin`), the names are distinct, only
maps have fields, and what stands under `format` is a pattern (`ListRules`). A document that the
check accepts is loaded exactly if it keeps them (`Loadable`); then each of its contracts, as it is
written, stands in the registry behind those that were there (`load_iff_loadable`).

The name of a contract need not be a string: bytes serve as one too (`bytesName_loaded`).
-/
import DataContract.Proofs.Definition.Acceptance
import DataContract.Proofs.Definition.Loading
import DataContract.Proofs.Definition.Meaning
import DataContract.Proofs.Registry.Basic

namespace DataContract

open Definition (arrayItems? arrayItems?_eq_some_iff)

/-! ### The rules -/

/-- The name in an entry. -/
def entryName? (entry : Value) : Option String :=
  (entry.under? "name").bind Value.asText?

/-- What the check leaves open of an entry: only a map has fields, and what stands under `format` is
a pattern. -/
structure EntryRules (entry : Value) : Prop where
  fieldsOfMap : (entry.under? "fields").isSome →
    ∃ v, entry.under? "type" = some v ∧ v.asText? = some "map"
  pattern : ∀ w items, entry.under? "constraints" = some w → arrayItems? w = some items →
    ∀ item ∈ items, ∀ v, Gives item .format v →
      ∃ s p, v.asText? = some s ∧ Pattern.read? (.text s) .off = .ok p

/-- What it leaves open of a list of entries: their names are distinct. -/
structure ListRules (l : List Value) : Prop where
  distinct : (l.map entryName?).Nodup
  entries : ∀ entry ∈ l, EntryRules entry

/-- Every list of entries keeps the rules, at any depth. -/
def RulesWithin (fields : Value) : Prop :=
  ∀ l, ListWithin l fields → ListRules l

theorem rulesWithin_iff {v : Value} {items : List Value} (list : arrayItems? v = some items) :
    RulesWithin v ↔
      ListRules items ∧ ∀ entry ∈ items, ∀ w, entry.under? "fields" = some w → RulesWithin w := by
  constructor
  · intro h
    exact ⟨h items (.here list), fun entry mem w held l within => h l (.inside list mem held within)⟩
  · rintro ⟨here, inside⟩ l within
    cases within with
    | here list' =>
      cases list.symm.trans list'
      exact here
    | inside list' mem held within =>
      cases list.symm.trans list'
      exact inside _ mem _ held l within

namespace Definition

variable {v : Value} {f : Field} {items : List Value}

theorem map_entryName {fields : List Field} (h : List.Forall₂ WritesField items fields) :
    items.map entryName? = (fields.map (·.name)).map some := by
  induction h with
  | nil => rfl
  | cons first _ ih =>
    obtain ⟨v, held, text⟩ := first.parts.name
    rw [List.map_cons, List.map_cons, List.map_cons, ih, entryName?, held, Option.bind_some, text]

theorem nodup_entryName_iff {fields : List Field} (h : List.Forall₂ WritesField items fields) :
    (items.map entryName?).Nodup ↔ (fields.map (·.name)).Nodup := by
  rw [map_entryName h]
  exact List.nodup_map_iff (Option.some_injective _)

/-- A constraint that follows the format is written, unless it is a pattern that is none. -/
theorem exists_writesConstraint {item : Value} (constraint : IsConstraint item)
    (integral : IntegralLength item)
    (pattern : ∀ v, Gives item .format v →
      ∃ s p, v.asText? = some s ∧ Pattern.read? (.text s) .off = .ok p) :
    ∃ c, WritesConstraint item c := by
  obtain ⟨k, v, gives, admitted⟩ := constraint.gives
  cases k with
  | format =>
    obtain ⟨s, p, text, read⟩ := pattern v gives
    exact ⟨.format p, v, gives, s, text, read⟩
  | minLength =>
    obtain ⟨n, number⟩ := Constraint.length_given admitted (integral _ v (.inl rfl) gives)
    exact ⟨.minLength n, v, gives, number⟩
  | maxLength =>
    obtain ⟨n, number⟩ := Constraint.length_given admitted (integral _ v (.inr rfl) gives)
    exact ⟨.maxLength n, v, gives, number⟩
  | min =>
    obtain ⟨x, number⟩ := admitted
    exact ⟨.min (.number x), v, gives, x, number, rfl⟩
  | max =>
    obtain ⟨x, number⟩ := admitted
    exact ⟨.max (.number x), v, gives, x, number, rfl⟩
  | oneOf =>
    obtain ⟨first, rest, list⟩ := admitted
    exact ⟨.oneOf (first :: rest), v, gives, list⟩

theorem pattern_of_writesConstraint {item : Value} {c : Constraint} (h : WritesConstraint item c)
    (gives : Gives item .format v) :
    ∃ s p, v.asText? = some s ∧ Pattern.read? (.text s) .off = .ok p := by
  obtain ⟨w, gives', configured⟩ := h
  obtain ⟨kind, rfl⟩ := gives_unique gives' gives
  cases c with
  | format p =>
    obtain ⟨s, text, read⟩ := configured
    exact ⟨s, p, text, read⟩
  | _ => cases kind

/-- An entry that writes a field which keeps the rules of contracts keeps its own rules. -/
theorem entryRules_of_writes (writes : WritesField v f) (kept : f.WellFormed) : EntryRules v := by
  have parts := writes.parts
  constructor
  · intro held
    obtain ⟨w, type, t⟩ := parts.type
    have map : f.type = .kind .map := by
      refine (Field.wellFormed_iff.mp kept).2.1 ?_
      cases writes with
      | plain parts absent =>
        rw [absent] at held
        cases held
      | nesting parts held' list nested => rw [nested, Option.isSome_some]
    rw [map] at t
    cases t with
    | kind name => exact ⟨w, type, name⟩
  · intro v items held list item mem w gives
    obtain ⟨items', list', constraints⟩ := parts.constraints
    rw [held, Option.getD_some] at list'
    cases list.symm.trans list'
    obtain ⟨c, -, written⟩ := exists_of_forall₂ constraints item mem
    exact pattern_of_writesConstraint written gives

/-- The parts of an entry that follows the format are written, if it keeps its rules. -/
theorem exists_writesParts (field : IsField v) (own : IntegralEntry v) (rules : EntryRules v)
    (nested : Option (List Field)) :
    ∃ f, WritesParts v f ∧ f.name ≠ "" ∧ f.nested = nested ∧
      ((v.under? "fields").isSome → f.type = .kind .map) := by
  cases field with
  | @intro m es object named typed flagged constrained listed inside only =>
    obtain ⟨name, s, hn, text, some⟩ := named
    obtain ⟨w, t, hw, writes⟩ := typed
    obtain ⟨b, hb⟩ := flag_given flagged
    obtain ⟨items, hc, each⟩ := constraints_given constrained
    obtain ⟨cs, constraints⟩ : ∃ cs, List.Forall₂ WritesConstraint items cs := by
      refine exists_forall₂ fun item mem => ?_
      obtain ⟨constraint, v, held, list⟩ := each item mem
      exact exists_writesConstraint constraint (own v items held list item mem)
        (rules.pattern v items held list item mem)
    refine ⟨⟨s, t, b, cs, nested⟩, ⟨⟨name, hn, text⟩, ⟨w, hw, writes⟩, hb, items, hc, constraints⟩,
      some, rfl, ?_⟩
    intro held
    obtain ⟨w', hw', map⟩ := rules.fieldsOfMap held
    cases hw.symm.trans hw'
    exact writesType_unique writes (.kind map)

/-- Entries write fields that keep the rules of contracts exactly if all lists of entries in them
keep their rules, if this is so for each. -/
theorem exists_writesFields_iff (list : arrayItems? v = some items)
    (each : ∀ entry ∈ items, (∃ f, WritesField entry f ∧ f.WellFormed) ↔
      EntryRules entry ∧ ∀ w, entry.under? "fields" = some w → RulesWithin w) :
    (∃ fields, List.Forall₂ WritesField items fields ∧ (fields.map (·.name)).Nodup ∧
      ∀ g ∈ fields, g.WellFormed) ↔ RulesWithin v := by
  rw [rulesWithin_iff list]
  constructor
  · rintro ⟨fields, writes, distinct, kept⟩
    have rules : ∀ entry ∈ items, EntryRules entry ∧
        ∀ w, entry.under? "fields" = some w → RulesWithin w := by
      intro entry mem
      obtain ⟨g, there, written⟩ := exists_of_forall₂ writes entry mem
      exact (each entry mem).mp ⟨g, written, kept g there⟩
    exact ⟨⟨(nodup_entryName_iff writes).mpr distinct, fun entry mem => (rules entry mem).1⟩,
      fun entry mem => (rules entry mem).2⟩
  · rintro ⟨⟨distinct, rules⟩, inside⟩
    obtain ⟨fields, all⟩ := exists_forall₂ fun entry mem =>
      (each entry mem).mpr ⟨rules entry mem, inside entry mem⟩
    obtain ⟨writes, kept⟩ := forall₂_and_right.mp all
    exact ⟨fields, writes, (nodup_entryName_iff writes).mp distinct, kept⟩

/-- An entry that follows the format writes a field which keeps the rules of contracts exactly if
the entry and all lists of entries in it keep their rules. -/
theorem exists_writesField_iff (v : Value) (field : IsField v) (own : IntegralEntry v)
    (within : ∀ w, v.under? "fields" = some w → IntegralWithin w) :
    (∃ f, WritesField v f ∧ f.WellFormed) ↔
      EntryRules v ∧ ∀ w, v.under? "fields" = some w → RulesWithin w := by
  induction v using fieldInduction with
  | field v ih =>
  have inside : ∀ w items, v.under? "fields" = some w → arrayItems? w = some items →
      ((∃ fields, List.Forall₂ WritesField items fields ∧ (fields.map (·.name)).Nodup ∧
        ∀ g ∈ fields, g.WellFormed) ↔ RulesWithin w) := by
    intro w items held list
    refine exists_writesFields_iff list fun entry mem => ?_
    have integral : IntegralWithin w := within w held
    cases field with
    | @intro m es object named typed flagged constrained listed inside only =>
      exact ih m es w items rfl held list entry mem (inside w items held list entry mem)
        (integral.entry list mem) fun w => integral.inside list mem
  constructor
  · rintro ⟨f, writes, kept⟩
    refine ⟨entryRules_of_writes writes kept, ?_⟩
    intro w held
    cases writes with
    | plain parts absent => cases held.symm.trans absent
    | @nesting _ _ _ items fields parts held' list nested writes =>
      cases held.symm.trans held'
      obtain ⟨distinct, kept⟩ := (Field.wellFormed_iff.mp kept).2.2 fields nested
      exact (inside w items held list).mp ⟨fields, writes, distinct, kept⟩
  · rintro ⟨rules, lists⟩
    cases held : v.under? "fields" with
    | none =>
      obtain ⟨f, parts, some, none, -⟩ := exists_writesParts field own rules none
      have kept : f.WellFormed := Field.wellFormed_iff.mpr ⟨some, by simp [none], by simp [none]⟩
      exact ⟨f, .plain parts held none, kept⟩
    | some w =>
      obtain ⟨items, list⟩ : ∃ items, arrayItems? w = some items := by
        cases field with
        | intro object named typed flagged constrained listed => exact listed w held
      obtain ⟨fields, writes, distinct, kept⟩ := (inside w items held list).mpr (lists w held)
      obtain ⟨f, parts, some, nested, map⟩ := exists_writesParts field own rules (some fields)
      refine ⟨f, .nesting parts held list nested writes, Field.wellFormed_iff.mpr ⟨some, ?_, ?_⟩⟩
      · intro _
        exact map (by rw [held, Option.isSome_some])
      · intro fields' nested'
        cases nested.symm.trans nested'
        exact ⟨distinct, kept⟩

/-- A list of entries that follows the format is converted into a contract, under a name, exactly if
the name is a text that is not empty and all lists of entries in it keep their rules. -/
theorem exists_contractOf_iff {name fields : Value} (listed : IsFieldList fields)
    (integral : IntegralWithin fields) :
    (∃ c, (contractOf name fields).result = .ok c) ↔
      (∃ n, Reading.text name = .ok n ∧ n ≠ "") ∧ RulesWithin fields := by
  simp only [contractOf_eq_ok_iff_writes listed integral]
  obtain ⟨items, list, each⟩ := listed
  rw [← exists_writesFields_iff list fun entry mem =>
    exists_writesField_iff entry (each entry mem) (integral.entry list mem) fun w =>
      integral.inside list mem]
  constructor
  · rintro ⟨c, ⟨named, items', list', writes⟩, some, distinct, kept⟩
    cases list.symm.trans list'
    exact ⟨⟨c.name, named, some⟩, c.fields, writes, distinct, allWellFormed_iff.mp kept⟩
  · rintro ⟨⟨n, named, some⟩, fs, writes, distinct, kept⟩
    exact ⟨⟨n, fs⟩, ⟨named, items, list, writes⟩, some, distinct, allWellFormed_iff.mpr kept⟩

/-! ### Registering in order -/

variable {source : String} {name fields document : Value} {r : Registry} {c : Contract}
  {es : List (Value × Value)} {cs : List Contract}

theorem loadContract_of_fresh (converted : (contractOf name fields).result = .ok c)
    (fresh : c.name ∉ r.names) : (loadContract source name fields r).2.result = .ok () ∧
      (loadContract source name fields r).1 = r.put c := by
  have first : (Action.noted ((contractOf name fields).mapError (refusedConversion source name))
      r).2.result = .ok c := by
    show Except.mapError _ _ = _
    rw [converted]
    rfl
  have registered := @Registry.registerContract_eq r c false
  rw [if_neg fun h => fresh h.1] at registered
  obtain ⟨state, result⟩ := Action.bind_of_ok first
  refine ⟨result.trans ?_, state.trans ?_⟩
  · show Except.mapError _ (Registry.registerContract c false r).2.result = _
    rw [registered]
    rfl
  · show (Registry.registerContract c false r).1 = _
    rw [registered]

theorem fresh_of_loadContract (loaded : (loadContract source name fields r).2.result = .ok ()) :
    ∃ c, (contractOf name fields).result = .ok c ∧ c.name ∉ r.names := by
  cases converted : (contractOf name fields).result with
  | error f =>
    rw [loadContract_of_error converted] at loaded
    cases loaded
  | ok c =>
    rw [loadContract_of_ok converted] at loaded
    split at loaded
    · cases loaded
    · next fresh => exact ⟨c, rfl, fun known => fresh (Registry.find?_isSome_iff.mpr known)⟩

/-- A name with a list of entries is converted into a contract. -/
def ConvertsToContract (e : Value × Value) (c : Contract) : Prop :=
  (contractOf e.1 e.2).result = .ok c

theorem loadContracts_cons_of_ok {e : Value × Value} (rest : List (Value × Value))
    (first : (loadContract source e.1 e.2 r).2.result = .ok ()) :
    (loadContracts source (e :: rest) r).1 =
        (loadContracts source rest (loadContract source e.1 e.2 r).1).1 ∧
      (loadContracts source (e :: rest) r).2.result =
        (loadContracts source rest (loadContract source e.1 e.2 r).1).2.result :=
  Action.bind_of_ok first

/-- Loading contracts stops at the first that fails. -/
theorem loadContracts_cons_of_error {e : Value × Value} {fault : LoadFault}
    (rest : List (Value × Value))
    (first : (loadContract source e.1 e.2 r).2.result = .error fault) :
    (loadContracts source (e :: rest) r).1 = (loadContract source e.1 e.2 r).1 ∧
      (loadContracts source (e :: rest) r).2.result = .error fault :=
  Action.bind_of_error first

/-- Contracts of new and distinct names are registered behind those that are there. -/
theorem loadContracts_of_fresh (converted : List.Forall₂ ConvertsToContract es cs)
    (distinct : (cs.map (·.name)).Nodup) (fresh : ∀ c ∈ cs, c.name ∉ r.names) :
    (loadContracts source es r).2.result = .ok () ∧
      (loadContracts source es r).1.entries = r.entries ++ cs.map fun c => (c.name, c) := by
  induction converted generalizing r with
  | nil => exact ⟨rfl, (List.append_nil _).symm⟩
  | @cons e c rest cs first _ ih =>
    -- the names behind the first are still new once it is registered
    obtain ⟨new, later⟩ := Registry.admits_cons_iff.mp ⟨distinct, fresh⟩
    obtain ⟨loaded, state⟩ : _ ∧ (loadContract source e.1 e.2 r).1 = _ :=
      loadContract_of_fresh first new
    obtain ⟨result, entries⟩ := ih later.distinct later.fresh
    obtain ⟨rest_state, rest_result⟩ := loadContracts_cons_of_ok rest loaded
    rw [state, Registry.put_eq_followedBy new] at rest_state rest_result
    refine ⟨rest_result.trans result, (congrArg Registry.entries rest_state).trans ?_⟩
    rw [entries, Registry.followedBy, List.append_assoc]
    rfl

/-- If contracts are registered, they were converted, and their names are new and distinct. -/
theorem fresh_of_loadContracts (loaded : (loadContracts source es r).2.result = .ok ()) :
    ∃ cs, List.Forall₂ ConvertsToContract es cs ∧ (cs.map (·.name)).Nodup ∧
      ∀ c ∈ cs, c.name ∉ r.names := by
  induction es generalizing r with
  | nil => exact ⟨[], .nil, List.nodup_nil, List.forall_mem_nil _⟩
  | cons e rest ih =>
    have first : (loadContract source e.1 e.2 r).2.result = .ok () := by
      cases h : (loadContract source e.1 e.2 r).2.result with
      | ok done => rfl
      | error f => cases (loadContracts_cons_of_error rest h).2.symm.trans loaded
    obtain ⟨c, converted, new⟩ := fresh_of_loadContract first
    -- the others are loaded into the registry that holds the first
    have state : (loadContract source e.1 e.2 r).1 = r.followedBy [c] :=
      (loadContract_of_fresh converted new).2.trans (Registry.put_eq_followedBy new)
    have later : (loadContracts source rest (r.followedBy [c])).2.result = .ok () :=
      state ▸ (loadContracts_cons_of_ok rest first).2.symm.trans loaded
    obtain ⟨cs, others, distinct, fresh⟩ := ih later
    have admits : r.Admits (c :: cs) := Registry.admits_cons_iff.mpr ⟨new, distinct, fresh⟩
    exact ⟨c :: cs, .cons converted others, admits.distinct, admits.fresh⟩

theorem loadContracts_eq_ok_iff : (loadContracts source es r).2.result = .ok () ↔
    ∃ cs, List.Forall₂ ConvertsToContract es cs ∧ (cs.map (·.name)).Nodup ∧
      ∀ c ∈ cs, c.name ∉ r.names := by
  refine ⟨fresh_of_loadContracts, ?_⟩
  rintro ⟨cs, converted, distinct, fresh⟩
  exact (loadContracts_of_fresh converted distinct fresh).1

/-! ### Documents -/

/-- A document keeps the rules that the check leaves open, if it is loaded into a registry. -/
structure Loadable (document : Value) (r : Registry) : Prop where
  named : ∀ e ∈ contractEntries document, ∃ n, Reading.text e.1 = .ok n ∧ n ≠ "" ∧ n ∉ r.names
  distinct : ((contractEntries document).map fun e => Reading.text e.1).Nodup
  lists : ∀ e ∈ contractEntries document, RulesWithin e.2

/-- Contracts have the names that are read of what writes them. -/
theorem map_text (writes : List.Forall₂ WritesContract es cs) :
    es.map (fun e => Reading.text e.1) = (cs.map (·.name)).map .ok := by
  induction writes with
  | nil => rfl
  | cons first _ ih => rw [List.map_cons, List.map_cons, List.map_cons, first.1, ih]

theorem nodup_text_iff (writes : List.Forall₂ WritesContract es cs) :
    (es.map fun e => Reading.text e.1).Nodup ↔ (cs.map (·.name)).Nodup := by
  rw [map_text writes]
  exact List.nodup_map_iff fun _ _ => Except.ok.inj

/-- A document that the check accepts is loaded exactly if it keeps the rules that the check leaves
open. Then its contracts, as they are written, stand behind those that were there. If a contract is
not converted, a part does not fit its model or a repetition in a pattern is too large. -/
theorem load_iff_loadable (document : Value) (source : String) (r : Registry)
    (accepted : check document source = .ok none)
    (integral : ∀ e ∈ contractEntries document, IntegralWithin e.2) :
    ((load document source r).2.result = .ok () ↔ Loadable document r) ∧
      ((load document source r).2.result = .ok () →
        ∃ cs, List.Forall₂ WritesContract (contractEntries document) cs ∧
          (load document source r).1.entries = r.entries ++ cs.map fun c => (c.name, c)) ∧
      ∀ e ∈ contractEntries document, ∀ f, (contractOf e.1 e.2).result = .error f →
        (∃ m, f = .declaration (.model m)) ∨ f = .declaration .repetitionTooLarge := by
  have listed := isFieldList_of_document (check_eq_none_iff.mp accepted)
  have written : ∀ e ∈ contractEntries document, ∀ c, ConvertsToContract e c ↔
      WritesContract e c ∧ c.WellFormed := fun e mem c =>
    contractOf_eq_ok_iff_writes (listed e mem) (integral e mem)
  have writes : ∀ cs, List.Forall₂ ConvertsToContract (contractEntries document) cs →
      List.Forall₂ WritesContract (contractEntries document) cs := fun cs converted =>
    (forall₂_and_right.mp ((forall₂_congr_mem written).mp converted)).1
  have converts : ∀ e ∈ contractEntries document, (∃ c, ConvertsToContract e c) ↔
      (∃ n, Reading.text e.1 = .ok n ∧ n ≠ "") ∧ RulesWithin e.2 := fun e mem =>
    exists_contractOf_iff (listed e mem) (integral e mem)
  have load_eq : load document source r = loadContracts source (contractEntries document) r := by
    rw [load, accepted]
  rw [load_eq, loadContracts_eq_ok_iff]
  refine ⟨⟨?_, ?_⟩, ?_, ?_⟩
  · rintro ⟨cs, converted, distinct, fresh⟩
    refine ⟨?_, (nodup_text_iff (writes cs converted)).mpr distinct, ?_⟩
    · intro e mem
      obtain ⟨c, there, converted⟩ := exists_of_forall₂ converted e mem
      obtain ⟨⟨named, -⟩, some, -⟩ := (written e mem c).mp converted
      exact ⟨c.name, named, some, fresh c there⟩
    · intro e mem
      obtain ⟨c, -, converted⟩ := exists_of_forall₂ converted e mem
      exact ((converts e mem).mp ⟨c, converted⟩).2
  · rintro ⟨named, distinct, lists⟩
    have each : ∀ e ∈ contractEntries document, ∃ c, ConvertsToContract e c ∧ c.name ∉ r.names := by
      intro e mem
      obtain ⟨n, text, some, fresh⟩ := named e mem
      obtain ⟨c, converted⟩ := (converts e mem).mpr ⟨⟨n, text, some⟩, lists e mem⟩
      obtain ⟨⟨text', -⟩, -⟩ := (written e mem c).mp converted
      cases text.symm.trans text'
      exact ⟨c, converted, fresh⟩
    obtain ⟨cs, all⟩ := exists_forall₂ each
    obtain ⟨converted, fresh⟩ := forall₂_and_right.mp all
    exact ⟨cs, converted, (nodup_text_iff (writes cs converted)).mp distinct, fresh⟩
  · rintro ⟨cs, converted, distinct, fresh⟩
    exact ⟨cs, writes cs converted, (loadContracts_of_fresh converted distinct fresh).2⟩
  · intro e mem f failed
    exact (contractOf_failsAtPart (listed e mem) failed).imp_right And.left

/-- An entry for a text of at least one character. -/
def emailEntry : Value :=
  .map [(.text "name", .text "email"), (.text "type", .text "string"),
    (.text "constraints", .list [.map [(.text "min_length", .int 1)]])]

theorem emailEntry_constraints : emailEntry.under? "constraints" =
    some (.list [.map [(.text "min_length", .int 1)]]) := by
  cbv

theorem emailEntry_fields : emailEntry.under? "fields" = none := by
  cbv

theorem emailEntry_isField : IsField emailEntry := by
  have required : emailEntry.under? "required" = none := by cbv
  have constraint : IsConstraint (.map [(.text "min_length", .int 1)]) :=
    .intro .minLength (by decide) rfl ⟨.int 1, 1, rfl, rfl, by decide⟩
  refine .intro (by decide) ⟨.text "email", "email", by cbv, rfl, by decide⟩
    ⟨.text "string", .kind .string, by cbv, .kind rfl⟩ ?_ ?_ ?_ ?_ ?_
  · intro v held
    cases required.symm.trans held
  · intro v held
    cases emailEntry_constraints.symm.trans held
    exact ⟨_, rfl, List.forall_mem_singleton.mpr constraint⟩
  · intro v held
    cases emailEntry_fields.symm.trans held
  · intro v items held
    cases emailEntry_fields.symm.trans held
  · rw [OnlyKeys, List.forall_mem_cons, List.forall_mem_cons, List.forall_mem_singleton]
    exact ⟨⟨"name", by decide, rfl⟩, ⟨"type", by decide, rfl⟩, ⟨"constraints", by decide, rfl⟩⟩

theorem emailEntry_integral : IntegralWithin (.list [emailEntry]) := by
  intro l within entry mem
  cases within with
  | here list =>
    cases list
    obtain rfl := List.mem_singleton.mp mem
    intro v items held list item mem k w _ gives
    cases emailEntry_constraints.symm.trans held
    cases list
    obtain rfl := List.mem_singleton.mp mem
    obtain ⟨_, _, ⟨⟩, -⟩ := gives
    exact ⟨1, rfl⟩
  | inside list mem held =>
    cases list
    obtain rfl := List.mem_singleton.mp mem
    cases emailEntry_fields.symm.trans held

/-- A document with one contract, of the one entry. -/
def userDocument : Value :=
  .map [(.text "contracts", .map [(.text "user", .list [emailEntry])])]

theorem userDocument_loaded : (load userDocument noSource .empty).2.result = .ok () ∧
    Loadable userDocument .empty := by
  have contracts : contractEntries userDocument = [(.text "user", .list [emailEntry])] :=
    contractEntries_mapping (Value.lookup?_singleton rfl)
  have document : IsDocument userDocument := by
    refine .intro (by decide) (Value.lookup?_singleton rfl) (by decide) ?_ ?_
    · exact List.forall_mem_singleton.mpr
        ⟨_, rfl, List.forall_mem_singleton.mpr emailEntry_isField⟩
    · exact List.forall_mem_singleton.mpr ⟨"contracts", by decide, rfl⟩
  have accepted : check userDocument noSource = .ok none := check_eq_none_iff.mpr document
  have integral : ∀ e ∈ contractEntries userDocument, IntegralWithin e.2 := by
    rw [contracts]
    exact List.forall_mem_singleton.mpr emailEntry_integral
  have loaded : (load userDocument noSource .empty).2.result = .ok () := by
    rw [load, accepted]
    show (loadContracts _ (contractEntries userDocument) _).2.result = _
    cbv
  exact ⟨loaded, (load_iff_loadable userDocument noSource .empty accepted integral).1.mp loaded⟩

/-- A document in which bytes stand for the name of a contract, which has no fields. -/
def bytesName : Value :=
  .map [(.text "contracts", .map [(.bytes [97, 98], .list [])])]

theorem bytesName_loaded : check bytesName noSource = .ok none ∧
    (∀ e ∈ contractEntries bytesName, IntegralWithin e.2) ∧
      (load bytesName noSource .empty).2.result = .ok () ∧
        ¬∀ e ∈ contractEntries bytesName, ∃ s, e.1.asText? = some s := by
  have contracts : contractEntries bytesName = [(.bytes [97, 98], .list [])] :=
    contractEntries_mapping (Value.lookup?_singleton rfl)
  refine ⟨by cbv, ?_, by cbv, ?_⟩
  · rw [contracts]
    refine List.forall_mem_singleton.mpr fun l within entry mem => ?_
    cases within with
    | here list =>
      cases list
      cases mem
    | inside list mem held =>
      cases list
      cases mem
  · intro strings
    rw [contracts] at strings
    obtain ⟨s, text⟩ := List.forall_mem_singleton.mp strings
    cases text

end Definition

end DataContract
