/-
Values written on one line.

Texts in a value are written between quotes and so never break a line. Without quotes stand only the
names of enumerations, members, models and fields, and the text that an object gives of itself
(`Value.bareTexts`); where none of these breaks a line in a value or in what stands in it
(`Value.Tidy`), the whole value is written on one line (`Value.Tidy.oneLine_of_quoted`), however deep
it is and whatever texts, bytes, numbers, moments of time and patterns it holds.
-/
import DataContract.Proofs.Lists
import DataContract.Proofs.Text.Line
import DataContract.Proofs.Value.Parts

namespace DataContract

/-! ### What has no parts -/

theorem Brackets.oneLine_around {b : Brackets} (opening : OneLine b.opening)
    (closing : OneLine b.closing) {items : List String} (each : ∀ p ∈ items, OneLine p) :
    OneLine (b.around items) := by
  have between : OneLine (", ".intercalate items) := OneLine.intercalate (by decide) each
  simp [Brackets.around, opening, closing, between]

theorem Member.oneLine_around {m : Member} {value : String} (named : OneLine m.named)
    (assigned : OneLine value) : OneLine (m.around value) := by
  simp only [Member.around, oneLine_append_iff]
  exact ⟨⟨⟨⟨by decide, named⟩, by decide⟩, assigned⟩, by decide⟩

theorem SequenceKind.oneLine_tupleText {items : List String} (each : ∀ p ∈ items, OneLine p) :
    OneLine (tupleText items) := by
  have around := Brackets.oneLine_around (b := ⟨"(", ")"⟩) (by decide) (by decide) each
  unfold tupleText
  split
  · next p =>
    have single : OneLine p := each p List.mem_cons_self
    exact single.between (by decide) (by decide)
  · exact around

theorem SequenceKind.oneLine_written {k : SequenceKind} {items : List String}
    (member : ∀ m, k.member? = some m → OneLine m.named) (each : ∀ p ∈ items, OneLine p) :
    OneLine (k.written items) := by
  have plain : OneLine (if k.grows then Brackets.around ⟨"[", "]"⟩ items else tupleText items) :=
    oneLine_ite (Brackets.oneLine_around (by decide) (by decide) each) (oneLine_tupleText each)
  simp only [written]
  split
  · next m is => exact Member.oneLine_around (member m is) plain
  · exact plain

theorem MappingKind.oneLine_written {k : MappingKind} {entries : List (String × String)}
    (member : ∀ m, k.member? = some m → OneLine m.named)
    (each : ∀ e ∈ entries, OneLine e.1 ∧ OneLine e.2) : OneLine (k.written entries) := by
  have plain : OneLine (Brackets.around ⟨"\x7b", "\x7d"⟩
      (entries.map fun e => e.1 ++ ": " ++ e.2)) := by
    refine Brackets.oneLine_around (by decide) (by decide) fun p mem => ?_
    obtain ⟨e, there, rfl⟩ := List.mem_map.mp mem
    obtain ⟨key, value⟩ := each e there
    simp only [oneLine_append_iff]
    exact ⟨⟨key, by decide⟩, value⟩
  have pairs : OneLine (Brackets.around ⟨"[", "]"⟩
      (entries.map fun e => "(" ++ e.1 ++ ", " ++ e.2 ++ ")")) := by
    refine Brackets.oneLine_around (by decide) (by decide) fun p mem => ?_
    obtain ⟨e, there, rfl⟩ := List.mem_map.mp mem
    obtain ⟨key, value⟩ := each e there
    simp only [oneLine_append_iff]
    exact ⟨⟨⟨⟨by decide, key⟩, by decide⟩, value⟩, by decide⟩
  cases k with
  | plain => exact plain
  | view =>
    rw [MappingKind.written]
    exact plain.between (by decide) (by decide)
  | ordered =>
    simp only [MappingKind.written]
    split
    · decide
    · exact pairs.between (by decide) (by decide)
  | member m => exact Member.oneLine_around (member m rfl) plain

theorem PatternOptions.oneLine_of_mem_names {o : PatternOptions} {name : String}
    (mem : name ∈ o.names) : OneLine name := by
  obtain ⟨e, known, named⟩ := List.mem_filterMap.mp mem
  have same : e.1 = name := by
    obtain ⟨own, on⟩ := e
    cases on with
    | true => exact Option.some.inj named
    | false => cases named
  rw [← same]
  fin_cases known <;> simp [OneLine]

theorem Pattern.oneLine_written (p : Pattern) : OneLine p.written := by
  have whole : OneLine p.source.quoted := by
    cases p.source with
    | text s => exact oneLine_quoted s
    | bytes b => exact oneLine_quotedBytes b
  have source : OneLine (String.ofList (p.source.quoted.toList.take 200)) :=
    oneLine_ofList_iff.mpr fun mem => whole (List.mem_of_mem_take mem)
  have options : ∀ o : PatternOptions, OneLine ("|".intercalate o.names) := fun o =>
    OneLine.intercalate (by decide) fun _ => PatternOptions.oneLine_of_mem_names
  simp only [Pattern.written, oneLine_append_iff]
  have switches := fun o => oneLine_append_iff.mpr ⟨(by decide : OneLine ", "), options o⟩
  exact ⟨⟨⟨by decide +kernel, source⟩, oneLine_ite (by decide) (switches _)⟩, by decide⟩

theorem CalendarDate.oneLine_written (d : CalendarDate) : OneLine d.written := by
  have opening : OneLine "datetime.date(" := by decide +kernel
  have comma : OneLine ", " := by decide
  have closing : OneLine ")" := by decide
  unfold CalendarDate.written
  simp only [oneLine_append_iff, oneLine_nat, opening, comma, closing, and_self]

theorem oneLine_durationText (seconds : Int) : OneLine (Calendar.durationText seconds) := by
  have parts : ∀ p ∈ (if seconds / 86400 = 0 then [] else ["days=" ++ toString (seconds / 86400)]) ++
      (if seconds % 86400 = 0 then [] else ["seconds=" ++ toString (seconds % 86400)]), OneLine p := by
    intro p mem
    rcases List.mem_append.mp mem with mem | mem
    all_goals
      split at mem
      · cases mem
      · obtain rfl := List.mem_singleton.mp mem
        exact oneLine_append_iff.mpr ⟨by decide +kernel, oneLine_int _⟩
  have opening : OneLine "datetime.timedelta(" := by decide +kernel
  unfold Calendar.durationText
  refine OneLine.between ?_ opening (by decide)
  exact oneLine_ite (by decide) (OneLine.intercalate (by decide) parts)

theorem DateTime.oneLine_offsetWritten (seconds : Int) :
    OneLine (DateTime.offsetWritten seconds) := by
  have opening : OneLine "datetime.timezone(" := by decide +kernel
  have zone : OneLine ("datetime.timezone(" ++ Calendar.durationText seconds ++ ")") :=
    (oneLine_durationText seconds).between opening (by decide)
  unfold DateTime.offsetWritten
  exact oneLine_ite (by decide +kernel) zone

theorem DateTime.oneLine_written (t : DateTime) : OneLine t.written := by
  have opening : OneLine "datetime.datetime(" := by decide +kernel
  have zone : OneLine ((t.offset.map fun s => ", tzinfo=" ++ offsetWritten s).getD "") := by
    cases t.offset with
    | none => decide
    | some s => exact oneLine_append_iff.mpr ⟨by decide +kernel, oneLine_offsetWritten s⟩
  have numbers : ∀ ns : List Nat, OneLine (", ".intercalate (ns.map toString)) := by
    intro ns
    refine OneLine.intercalate (by decide) fun p mem => ?_
    obtain ⟨n, -, rfl⟩ := List.mem_map.mp mem
    exact oneLine_nat n
  unfold DateTime.written
  simp only [oneLine_append_iff]
  exact ⟨⟨⟨opening, numbers _⟩, zone⟩, by decide⟩

theorem AtomValue.oneLine_of_quoted {a : AtomValue} {s : String} (h : a.quoted = .ok s) :
    OneLine s := by
  cases a with
  | text t =>
    cases h
    exact oneLine_quoted t
  | number n => exact oneLine_of_decimalText h
  | double x =>
    cases h
    exact oneLine_double x

/-! ### Values -/

namespace Value

variable {v : Value} {s : String}

/-- What a value shows without quotes: what enumerations, members, models and fields are called, and
the text that an object gives of itself. -/
def bareTexts : Value → List String
  | .handle h => [h.text]
  | .record model fields => model :: fields.map (·.1)
  | v => (v.asMember?.map fun m => [m.family, m.name]).getD []

/-- Nothing that a value shows without quotes, itself or in a part, breaks a line. -/
def Tidy (v : Value) : Prop :=
  ∀ part, Relation.ReflTransGen Child v part → ∀ s ∈ part.bareTexts, OneLine s

theorem Tidy.child {part : Value} (tidy : v.Tidy) (h : Child v part) : part.Tidy :=
  fun deeper within => tidy deeper (.head h within)

theorem Tidy.bare (tidy : v.Tidy) : ∀ s ∈ v.bareTexts, OneLine s :=
  tidy v .refl

/-- A value is tidy if what it shows itself is on one line and all that stands in it is tidy. -/
theorem tidy_of_children (own : ∀ s ∈ v.bareTexts, OneLine s) (each : ∀ x, Child v x → x.Tidy) :
    v.Tidy := by
  intro part within
  rcases Relation.ReflTransGen.cases_head within with rfl | ⟨x, child, deeper⟩
  · exact own
  · exact each x child part deeper

theorem quotedItems_eq_mapM (items : List Value) : quotedItems items = items.mapM quoted := by
  induction items with
  | nil => rfl
  | cons x rest ih => rw [quotedItems, ih, List.mapM_cons]

theorem quotedEntries_eq_mapM (entries : List (Value × Value)) :
    quotedEntries entries = entries.mapM fun e => do
      let key ← e.1.quoted
      let value ← e.2.quoted
      return (key, value) := by
  induction entries with
  | nil => rfl
  | cons e rest ih => simp only [quotedEntries, ih, List.mapM_cons, bind_assoc, pure_bind]

theorem quotedFields_eq_mapM (fields : List (String × Value)) :
    quotedFields fields = fields.mapM fun f => do
      let value ← f.2.quoted
      return f.1 ++ "=" ++ value := by
  induction fields with
  | nil => rfl
  | cons f rest ih => simp only [quotedFields, ih, List.mapM_cons, bind_assoc, pure_bind]

theorem exists_of_quotedItems {items : List Value} {parts : List String}
    (h : quotedItems items = .ok parts) : ∀ p ∈ parts, ∃ x ∈ items, x.quoted = .ok p := by
  rw [quotedItems_eq_mapM] at h
  exact exists_of_mapM_ok h

theorem exists_of_quotedEntries {entries : List (Value × Value)} {parts : List (String × String)}
    (h : quotedEntries entries = .ok parts) :
    ∀ p ∈ parts, ∃ e ∈ entries, e.1.quoted = .ok p.1 ∧ e.2.quoted = .ok p.2 := by
  intro p mem
  rw [quotedEntries_eq_mapM] at h
  obtain ⟨e, there, written⟩ := exists_of_mapM_ok h p mem
  simp only [bind_eq_ok_iff, pure_eq_ok_iff] at written
  obtain ⟨key, hk, value, hw, rfl⟩ := written
  exact ⟨e, there, hk, hw⟩

theorem exists_of_quotedFields {fields : List (String × Value)} {parts : List String}
    (h : quotedFields fields = .ok parts) :
    ∀ p ∈ parts, ∃ f ∈ fields, ∃ value, f.2.quoted = .ok value ∧ p = f.1 ++ "=" ++ value := by
  intro p mem
  rw [quotedFields_eq_mapM] at h
  obtain ⟨f, there, written⟩ := exists_of_mapM_ok h p mem
  obtain ⟨value, hw, shown⟩ := bind_eq_ok_iff.mp written
  exact ⟨f, there, value, hw, (pure_eq_ok_iff.mp shown).symm⟩

theorem bareTexts_of_member {m : Member} (h : v.asMember? = some m) :
    v.bareTexts = [m.family, m.name] := by
  cases v with
  | atom _ | sequence _ _ | mapping _ _ =>
    simp only [bareTexts, h, Option.map_some, Option.getD_some]
  | _ => cases h

theorem Tidy.oneLine_named {m : Member} (tidy : v.Tidy) (h : v.asMember? = some m) :
    OneLine m.named := by
  have family : OneLine m.family := tidy.bare _ (by simp [bareTexts_of_member h])
  have name : OneLine m.name := tidy.bare _ (by simp [bareTexts_of_member h])
  simp only [Member.named, oneLine_append_iff]
  exact ⟨⟨family, by decide⟩, name⟩

/-- A tidy value is written on one line. -/
theorem Tidy.oneLine_of_quoted (tidy : v.Tidy) (h : v.quoted = .ok s) : OneLine s := by
  induction v using childInduction generalizing s with
  | step v ih =>
    have inside : ∀ part, Child v part → ∀ p, part.quoted = .ok p → OneLine p :=
      fun part child p hp => ih part child (tidy.child child) hp
    cases v with
    | sequence k items =>
      rw [quoted, bind_eq_ok_iff] at h
      obtain ⟨parts, hp, written⟩ := h
      cases written
      refine SequenceKind.oneLine_written (fun m is => tidy.oneLine_named is) fun p mem => ?_
      obtain ⟨x, there, hx⟩ := exists_of_quotedItems hp p mem
      exact inside x (.item there) p hx
    | mapping k entries =>
      rw [quoted, bind_eq_ok_iff] at h
      obtain ⟨parts, hp, written⟩ := h
      cases written
      refine MappingKind.oneLine_written (fun m is => tidy.oneLine_named is) fun p mem => ?_
      obtain ⟨e, there, key, value⟩ := exists_of_quotedEntries hp p mem
      exact ⟨inside e.1 (.key there) _ key, inside e.2 (.held there) _ value⟩
    | set items =>
      rw [quoted, bind_eq_ok_iff] at h
      obtain ⟨parts, hp, written⟩ := h
      have each : ∀ p ∈ parts, OneLine p := by
        intro p mem
        obtain ⟨x, there, hx⟩ := exists_of_quotedItems hp p mem
        exact inside x (.member there) p hx
      split at written
      · cases written
        decide
      · cases written
        exact Brackets.oneLine_around (by decide) (by decide) each
    | record model fields =>
      rw [quoted, bind_eq_ok_iff] at h
      obtain ⟨parts, hp, written⟩ := h
      cases written
      have called : OneLine model := tidy.bare _ List.mem_cons_self
      have opening : OneLine (model ++ "(") := oneLine_append_iff.mpr ⟨called, by decide⟩
      have closing : OneLine ")" := by decide
      refine Brackets.oneLine_around opening closing fun p mem => ?_
      obtain ⟨f, there, value, hf, rfl⟩ := exists_of_quotedFields hp p mem
      have name : OneLine f.1 :=
        tidy.bare _ (List.mem_cons_of_mem _ (List.mem_map_of_mem there))
      simp only [oneLine_append_iff]
      exact ⟨⟨name, by decide⟩, inside f.2 (.field there) _ hf⟩
    | null =>
      cases h
      decide
    | bool b =>
      cases h
      cases b <;> decide
    | int n =>
      rw [quoted, quotedAtomic] at h
      exact oneLine_of_decimalText h
    | float x =>
      cases h
      exact oneLine_double x
    | text t =>
      cases h
      exact oneLine_quoted t
    | atom a =>
      rw [quoted, quotedAtomic, Atom.quoted, bind_eq_ok_iff] at h
      obtain ⟨value, hv, written⟩ := h
      cases written
      exact Member.oneLine_around (tidy.oneLine_named rfl) (AtomValue.oneLine_of_quoted hv)
    | bytes b =>
      cases h
      exact oneLine_quotedBytes b
    | date d =>
      cases h
      exact d.oneLine_written
    | dateTime t =>
      cases h
      exact t.oneLine_written
    | pattern p =>
      cases h
      exact p.oneLine_written
    | handle o =>
      cases h
      exact tidy.bare _ List.mem_cons_self

theorem Tidy.oneLine_of_configured (tidy : v.Tidy) (h : v.configured = .ok s) : OneLine s := by
  unfold configured at h
  split at h
  · next m is =>
    cases h
    exact tidy.oneLine_named is
  · exact tidy.oneLine_of_quoted h

end Value

end DataContract
