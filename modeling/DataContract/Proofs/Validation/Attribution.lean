/-
Every violation belongs to one declared field.

The violations of a list of fields are the reports of the places that the validation reaches, one
after the other in the order of the contract (`exists_trace`). Where names are distinct each
violation tells its place, and so the list can be read back (`violations_attributed`):

* a violation's path leads down a chain of maps that are in order to the field it names;
* the positions of these fields never go back;
* the violations of one field are the one report that the field makes;
* nothing is reported below a field that has violations of its own, and what a field reports does
  not depend on the fields beside it.
-/
import DataContract.Proofs.Validation.Place

namespace DataContract

/-- One position comes before another: at the first difference it has the lesser index. -/
def Before (a b : List Nat) : Prop :=
  List.Lex (· < ·) a b

theorem not_before_self (a : List Nat) : ¬Before a a :=
  List.lex_irrefl (fun n => Nat.lt_irrefl n) a

/-- The report that a field makes at a place. -/
def Place.Report (x : Place) (path : List String) (own : List Violation) : Prop :=
  x.field.Report x.entries (path ++ x.names) own

/-- Violations as the reports of the places reached, in the order of the contract. -/
structure Trace (fields : List Field) (entries : List (Value × Value)) (path : List String)
    (vs : List Violation) (records : List (Place × List Violation)) : Prop where
  mem_iff : ∀ x, x ∈ records.map (·.1) ↔ Reached fields entries x
  ordered : records.Pairwise fun r s => Before r.1.position s.1.position
  reported : ∀ r ∈ records, r.1.Report path r.2
  joined : vs = records.flatMap (·.2)

theorem not_reached_nil {entries : List (Value × Value)} {x : Place} : ¬Reached [] entries x := by
  intro h
  cases h with
  | here declared => simp at declared
  | within declared => simp at declared

theorem Trace.nil (entries : List (Value × Value)) (path : List String) :
    Trace [] entries path [] [] :=
  ⟨fun _ => ⟨nofun, fun h => absurd h not_reached_nil⟩, .nil, nofun, rfl⟩

namespace Field

variable {f : Field} {entries inner : List (Value × Value)} {nested : List Field}
  {path : List String} {own : List Violation}

/-- A field that the validation goes into reports nothing itself. -/
theorem Inside.report (h : f.Inside entries nested inner) : f.Report entries path [] := by
  obtain ⟨k, held, pass⟩ := h.held
  exact .sound held (h.pass held).1 pass fun item => by rw [h.type]; exact nofun

theorem Inside.report_eq_nil (h : f.Inside entries nested inner)
    (report : f.Report entries path own) : own = [] := by
  obtain ⟨k, held, pass⟩ := h.held
  cases report with
  | optional => rfl
  | missing absent => exact absurd (absent.symm.trans held) nofun
  | mistyped held' other => exact absurd ((h.pass held').1.symm.trans other) nofun
  | failing held' _ _ fails => exact absurd (h.pass held').2 fails
  | items _ type => exact absurd (h.type.symm.trans type) nofun
  | sound => rfl

/-- All violations of a report have the path given and name the field. -/
theorem Report.attributed (h : f.Report entries path own) :
    ∀ w ∈ own, w.path = path ∧ w.field = f.name := by
  cases h with
  | optional => exact nofun
  | missing => simp [saying]
  | mistyped => simp [saying]
  | failing => simp only [saying, List.mem_map, forall_exists_index, and_imp,
      forall_apply_eq_imp_iff₂, and_self, implies_true]
  | items => simp only [itemViolations, List.mem_map, forall_exists_index, and_imp,
      forall_apply_eq_imp_iff₂, and_self, implies_true]
  | sound => exact nofun

end Field

/-! ### Violations as reports -/

theorem before_next {x y : Place} (hx : x.position ≠ []) (hy : y.position ≠ [])
    (h : Before x.position y.position) : Before x.next.position y.next.position := by
  obtain ⟨i, is, hi⟩ := List.exists_cons_of_ne_nil hx
  obtain ⟨j, js, hj⟩ := List.exists_cons_of_ne_nil hy
  simp only [Place.next, hi, hj, Before, List.modifyHead_cons] at h ⊢
  rcases List.cons_lex_cons_iff.mp h with less | ⟨rfl, rest⟩
  · exact .rel (by omega)
  · exact .cons rest

/-- What stands in the first field comes before all that stands in the others. -/
theorem before_of_zero {is : List Nat} {y : Place} (hy : y.position ≠ []) :
    Before (0 :: is) y.next.position := by
  obtain ⟨j, js, hj⟩ := List.exists_cons_of_ne_nil hy
  simp only [Place.next, hj, Before, List.modifyHead_cons]
  exact .rel (by omega)

section Cons

variable {f : Field} {rest nested : List Field} {entries inner : List (Value × Value)}
  {path : List String} {own vs others : List Violation} {rs ss : List (Place × List Violation)}

/-- The places inside the first field of a list, with their reports. -/
structure TraceInside (f : Field) (entries : List (Value × Value)) (path : List String)
    (vs : List Violation) (records : List (Place × List Violation)) : Prop where
  mem_iff : ∀ x, x ∈ records.map (·.1) ↔ ∃ nested inner y, f.Inside entries nested inner ∧
    Reached nested inner y ∧ x = y.under 0 f.name
  ordered : records.Pairwise fun r s => Before r.1.position s.1.position
  reported : ∀ r ∈ records, r.1.Report path r.2
  joined : vs = records.flatMap (·.2)

theorem TraceInside.leaf (leaf : ∀ nested inner, ¬f.Inside entries nested inner) :
    TraceInside f entries path [] [] := by
  refine ⟨fun x => ⟨nofun, ?_⟩, .nil, nofun, rfl⟩
  rintro ⟨nested, inner, y, go, -⟩
  exact absurd go (leaf nested inner)

theorem Trace.inside (go : f.Inside entries nested inner)
    (ht : Trace nested inner (path ++ [f.name]) vs rs) :
    TraceInside f entries path vs (rs.map fun r => (r.1.under 0 f.name, r.2)) := by
  refine ⟨fun x => ?_, ?_, ?_, ?_⟩
  · simp only [List.map_map, List.mem_map, Function.comp_apply]
    constructor
    · rintro ⟨r, mem, rfl⟩
      exact ⟨nested, inner, r.1, go, (ht.mem_iff r.1).mp (List.mem_map_of_mem mem), rfl⟩
    · rintro ⟨nested', inner', y, go', reached, rfl⟩
      obtain ⟨rfl, rfl⟩ := go.unique go'
      obtain ⟨r, mem, rfl⟩ := List.mem_map.mp ((ht.mem_iff y).mpr reached)
      exact ⟨r, mem, rfl⟩
  · exact List.pairwise_map.mpr (ht.ordered.imp fun before => .cons before)
  · intro s hs
    obtain ⟨r, mem, rfl⟩ := List.mem_map.mp hs
    have report := ht.reported r mem
    rw [Place.Report, List.append_assoc] at report
    exact report
  · rw [ht.joined, List.flatMap_map]

theorem Trace.cons (report : f.Report entries path own) (hi : TraceInside f entries path vs rs)
    (ht : Trace rest entries path others ss) :
    Trace (f :: rest) entries path (own ++ (vs ++ others))
      ((⟨[0], [], f, entries⟩, own) :: (rs ++ ss.map fun s => (s.1.next, s.2))) := by
  have inner : ∀ r ∈ rs, ∃ i is, r.1.position = 0 :: i :: is := by
    intro r mem
    obtain ⟨_, _, y, _, reached, hy⟩ := (hi.mem_iff r.1).mp (List.mem_map_of_mem mem)
    obtain ⟨i, is, hp⟩ := List.exists_cons_of_ne_nil reached.position_ne_nil
    exact ⟨i, is, by rw [hy, Place.under, hp]⟩
  -- positions: `[0]` for the field, `0 :: i :: is` inside it, and from `1` on behind it
  have later : ∀ s ∈ ss, s.1.position ≠ [] := fun s mem =>
    ((ht.mem_iff s.1).mp (List.mem_map_of_mem mem)).position_ne_nil
  refine ⟨fun x => ?_, ?_, ?_, ?_⟩
  · have shifted : (ss.map fun s => (s.1.next, s.2)).map (·.1) = (ss.map (·.1)).map Place.next := by
      rw [List.map_map, List.map_map]
      rfl
    rw [reached_cons_iff, ← hi.mem_iff, List.map_cons, List.map_append, shifted, List.mem_cons,
      List.mem_append, List.mem_map (f := Place.next)]
    simp only [ht.mem_iff, eq_comm (a := x)]
  · rw [List.pairwise_cons, List.pairwise_append, List.pairwise_map]
    refine ⟨fun r hr => ?_, hi.ordered, ?_, fun r mem s' hs => ?_⟩
    · rcases List.mem_append.mp hr with mem | mem
      · obtain ⟨i, is, hp⟩ := inner r mem
        rw [hp]
        exact .cons .nil
      · obtain ⟨s, hs, rfl⟩ := List.mem_map.mp mem
        exact before_of_zero (later s hs)
    · exact ht.ordered.imp_of_mem fun ha hb before => before_next (later _ ha) (later _ hb) before
    · obtain ⟨s, late, rfl⟩ := List.mem_map.mp hs
      obtain ⟨i, is, hp⟩ := inner r mem
      rw [hp]
      exact before_of_zero (later s late)
  · simp only [List.mem_cons, List.mem_append, List.mem_map]
    rintro r (rfl | mem | ⟨s, mem, rfl⟩)
    · rw [Place.Report, List.append_nil]
      exact report
    · exact hi.reported r mem
    · exact ht.reported s mem
  · rw [List.flatMap_cons, List.flatMap_append, List.flatMap_map, ← hi.joined, ← ht.joined]

end Cons

/-- The violations of a list of fields are the reports of the places reached. -/
theorem exists_trace (fields : List Field) :
    ∀ {entries : List (Value × Value)} {path : List String} {vs : List Violation},
      validateFields entries path fields = .ok vs →
        ∃ records, Trace fields entries path vs records := by
  induction fields using fieldsInduction with
  | nil =>
    intro entries path vs h
    rw [validateFields] at h
    cases h
    exact ⟨[], .nil entries path⟩
  | cons f rest inside ih =>
    intro entries path vs h
    obtain ⟨first, others, hf, hr, rfl⟩ := validateFields_cons_eq_ok_iff.mp h
    obtain ⟨ss, ht⟩ := ih hr
    obtain ⟨report, leaf⟩ | ⟨nested, inner, go, hn⟩ := Field.validate_eq_ok hf
    · exact ⟨_, .cons report (.leaf leaf) ht⟩
    -- the violations found inside come with no report of the field itself
    · obtain ⟨rs, hi⟩ := inside nested go.fields hn
      exact ⟨_, .cons go.report (hi.inside go) ht⟩

/-! ### Reading a list of violations back -/

/-- The position of the field that a violation of fields at a path names. -/
def Violation.position? (fields : List Field) (path : List String) (w : Violation) :
    Option (List Nat) :=
  positionOf? (w.path.drop path.length) w.field fields

/-- Whether a violation names the field at a place. -/
def Place.named (x : Place) (path : List String) (w : Violation) : Bool :=
  w.path = path ++ x.names && w.field = x.field.name

section Distinct

variable {fields : List Field} {entries : List (Value × Value)} {path : List String}
  {vs : List Violation} {records : List (Place × List Violation)}

theorem Trace.exists_of_mem (ht : Trace fields entries path vs records) {w : Violation}
    (mem : w ∈ vs) : ∃ r ∈ records, w ∈ r.2 ∧ Reached fields entries r.1 ∧
      w.path = path ++ r.1.names ∧ w.field = r.1.field.name := by
  rw [ht.joined] at mem
  obtain ⟨r, hr, hw⟩ := List.mem_flatMap.mp mem
  have reached := (ht.mem_iff r.1).mp (List.mem_map_of_mem hr)
  exact ⟨r, hr, hw, reached, (ht.reported r hr).attributed w hw⟩

theorem Trace.position_eq (distinct : (fields.map (·.name)).Nodup) (wf : allWellFormed fields)
    (ht : Trace fields entries path vs records) :
    vs.map (·.position? fields path) =
      (records.flatMap fun r => r.2.map fun _ => r.1.position).map some := by
  rw [ht.joined, List.map_flatMap, List.map_flatMap]
  refine List.flatMap_congr fun r hr => ?_
  rw [List.map_map]
  refine List.map_congr_left fun w hw => ?_
  obtain ⟨hp, hf⟩ := (ht.reported r hr).attributed w hw
  have reached := (ht.mem_iff r.1).mp (List.mem_map_of_mem hr)
  rw [Violation.position?, hp, hf, List.drop_left, reached.position_eq distinct wf]
  rfl

theorem Trace.positions_ordered (ht : Trace fields entries path vs records) :
    (records.flatMap fun r => r.2.map fun _ => r.1.position).Pairwise
      fun a b => a = b ∨ Before a b := by
  rw [List.pairwise_flatMap]
  refine ⟨fun r _ => ?_, ht.ordered.imp fun before a ha b hb => ?_⟩
  · exact List.pairwise_map.mpr (List.pairwise_of_forall fun _ _ => .inl rfl)
  · obtain ⟨_, _, rfl⟩ := List.mem_map.mp ha
    obtain ⟨_, _, rfl⟩ := List.mem_map.mp hb
    exact .inr before

/-- What names a reached field is its report, no more and no less. -/
theorem Trace.filter_named (distinct : (fields.map (·.name)).Nodup) (wf : allWellFormed fields)
    (ht : Trace fields entries path vs records) {r : Place × List Violation} (mem : r ∈ records) :
    vs.filter (r.1.named path) = r.2 := by
  have reached : ∀ s ∈ records, Reached fields entries s.1 := fun s hs =>
    (ht.mem_iff s.1).mp (List.mem_map_of_mem hs)
  have own : r.2.filter (r.1.named path) = r.2 := by
    rw [List.filter_eq_self]
    intro w hw
    have attributed := (ht.reported r mem).attributed w hw
    simpa [Place.named] using attributed
  have others : ∀ s ∈ records, s.1.position ≠ r.1.position →
      s.2.filter (r.1.named path) = [] := by
    intro s hs apart
    rw [List.filter_eq_nil_iff]
    intro w hw named
    obtain ⟨hp, hf⟩ := (ht.reported s hs).attributed w hw
    simp only [Place.named, Bool.and_eq_true, decide_eq_true_eq] at named
    have same := Reached.unique distinct wf (reached s hs) (reached r mem)
      (List.append_cancel_left (hp.symm.trans named.1)) (hf.symm.trans named.2)
    exact apart (by rw [same])
  -- positions only grow along the records, so no other record has the position of this one
  obtain ⟨before, after, rfl⟩ := List.append_of_mem mem
  have ordered := List.pairwise_append.mp ht.ordered
  have left : before.flatMap (fun s => s.2.filter (r.1.named path)) = [] := by
    rw [List.flatMap_eq_nil_iff]
    intro s hs
    refine others s (List.mem_append_left _ hs) fun same => ?_
    have earlier := ordered.2.2 s hs r List.mem_cons_self
    exact not_before_self _ (same ▸ earlier)
  have right : after.flatMap (fun s => s.2.filter (r.1.named path)) = [] := by
    rw [List.flatMap_eq_nil_iff]
    intro s hs
    refine others s (List.mem_append_right _ (List.mem_cons_of_mem _ hs)) fun same => ?_
    have later := (List.pairwise_cons.mp ordered.2.1).1 s hs
    exact not_before_self _ (same ▸ later)
  rw [ht.joined, List.filter_flatMap, List.flatMap_append, List.flatMap_cons, left, right, own,
    List.nil_append, List.append_nil]

/-- Nothing is reported below a field that has violations of its own. -/
theorem Trace.not_below (distinct : (fields.map (·.name)).Nodup) (wf : allWellFormed fields)
    (ht : Trace fields entries path vs records) {w u : Violation} (hw : w ∈ vs) (hu : u ∈ vs) :
    ¬w.path ++ [w.field] <+: u.path := by
  intro below
  obtain ⟨r, hr, mem, reached, hp, hf⟩ := ht.exists_of_mem hw
  obtain ⟨s, -, -, reached', hp', -⟩ := ht.exists_of_mem hu
  rw [hp, hf, hp', List.append_assoc, List.prefix_append_right_inj] at below
  obtain ⟨nested, inner, go⟩ := reached.inside_of_prefix distinct wf reached' below
  rw [go.report_eq_nil (ht.reported r hr)] at mem
  exact absurd mem List.not_mem_nil

/-- For fields with distinct names at each level, the violations found in entries can be read back:
each names a field declared down a chain of maps that are in order, under whose position it stands;
the positions never go back; for each field that is reached the violations that name it are the
report it makes; and no violation is below a field that a violation names. -/
theorem violations_attributed (distinct : (fields.map (·.name)).Nodup) (wf : allWellFormed fields)
    (h : validateFields entries path fields = .ok vs) :
    (∀ w ∈ vs, ∃ x, Reached fields entries x ∧ w.path = path ++ x.names ∧
      w.field = x.field.name ∧ w.position? fields path = some x.position) ∧
    (∃ positions : List (List Nat), vs.map (·.position? fields path) = positions.map some ∧
      positions.Pairwise fun a b => a = b ∨ Before a b) ∧
    (∀ x, Reached fields entries x → x.Report path (vs.filter (x.named path))) ∧
    ∀ w ∈ vs, ∀ u ∈ vs, ¬w.path ++ [w.field] <+: u.path := by
  obtain ⟨records, ht⟩ := exists_trace fields h
  refine ⟨fun w hw => ?_, ⟨_, ht.position_eq distinct wf, ht.positions_ordered⟩, fun x hx => ?_,
    fun w hw u hu => ht.not_below distinct wf hw hu⟩
  · obtain ⟨r, -, -, reached, hp, hf⟩ := ht.exists_of_mem hw
    refine ⟨r.1, reached, hp, hf, ?_⟩
    rw [Violation.position?, hp, hf, List.drop_left, reached.position_eq distinct wf]
  · obtain ⟨r, hr, rfl⟩ := List.mem_map.mp ((ht.mem_iff x).mpr hx)
    rw [ht.filter_named distinct wf hr]
    exact ht.reported r hr

end Distinct

/-- A parcel: where it comes from, where it goes, and its labels. -/
def parcelFields : List Field :=
  [⟨"from", .kind .string, true, [], none⟩,
    ⟨"to", .kind .map, true, [], some [⟨"zip", .kind .string, true, [], none⟩]⟩,
    ⟨"labels", .listOf (.kind .string), false, [], none⟩]

/-- A parcel from nowhere, with a number for a zip code and numbers among the labels. -/
def strayParcel : List (Value × Value) :=
  [(.text "labels", .list [.int 1, .text "fragile", .int 2]),
    (.text "to", .map [(.text "zip", .int 1010)])]

/-- What is wrong with it. -/
def strayViolations : List Violation :=
  [⟨"from", "is required", []⟩, ⟨"zip", "expected string, got integer", ["to"]⟩,
    ⟨"labels", "invalid list item: expected string, got integer", []⟩,
    ⟨"labels", "invalid list item: expected string, got integer", []⟩]

theorem strayViolations_attributed :
    (parcelFields.map (·.name)).Nodup ∧ allWellFormed parcelFields ∧
      validateFields strayParcel [] parcelFields = .ok strayViolations ∧
      (∀ w ∈ strayViolations, ∃ x, Reached parcelFields strayParcel x ∧ w.path = [] ++ x.names ∧
        w.field = x.field.name ∧ w.position? parcelFields [] = some x.position) ∧
      ∀ w ∈ strayViolations, ∀ u ∈ strayViolations, ¬w.path ++ [w.field] <+: u.path := by
  have distinct : (parcelFields.map (·.name)).Nodup := by decide
  have wf : allWellFormed parcelFields := by
    simp [parcelFields, allWellFormed, Field.WellFormed, nestedWellFormed]
  have h : validateFields strayParcel [] parcelFields = .ok strayViolations := by cbv
  have attributed := violations_attributed distinct wf h
  exact ⟨distinct, wf, h, attributed.1, attributed.2.2.2⟩

end DataContract
