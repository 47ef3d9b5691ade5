/-
A value that is written as JSON is read back.

JSON has a form for null, truth values, integers and texts, and for lists and maps of these
(`JsonText.Jsonable`). Such a value is written in any layout as characters that write it again, but
for its kinds of list and map (`Value.decoded`), unless an integer in it has too many digits:
`JsonText.written_of_short`, `JsonText.written_of_overlong`. Where all kinds are the common ones the
value comes back as it is (`JsonText.read_block`).
-/
import DataContract.Proofs.JsonText.Writes

namespace DataContract

namespace Value

open JsonText (keyed)

mutual

/-- A value as it comes back from its text: every list and map is of the common kind. -/
def decoded : Value → Value
  | .sequence _ items => .list (decodedItems items)
  | .mapping _ entries => .map (decodedEntries entries)
  | v => v

/-- Items as they come back. -/
def decodedItems : List Value → List Value
  | [] => []
  | v :: rest => decoded v :: decodedItems rest

/-- Entries as they come back. -/
def decodedEntries : List (Value × Value) → List (Value × Value)
  | [] => []
  | (k, v) :: rest => (k, decoded v) :: decodedEntries rest

end

/-- Fields as they come back. -/
def decodedFields (fields : List (String × Value)) : List (String × Value) :=
  fields.map fun f => (f.1, f.2.decoded)

theorem decodedItems_eq_map (items : List Value) : decodedItems items = items.map decoded := by
  induction items with
  | nil => rfl
  | cons v rest ih => rw [decodedItems, ih, List.map_cons]

theorem decodedEntries_keyed (fields : List (String × Value)) :
    decodedEntries (fields.map keyed) = (decodedFields fields).map keyed := by
  induction fields with
  | nil => rfl
  | cons f rest ih =>
    rw [List.map_cons, keyed, decodedEntries, ih]
    rfl

theorem decodedFields_eq_self {fields : List (String × Value)}
    (same : ∀ f ∈ fields, f.2.decoded = f.2) : decodedFields fields = fields := by
  rw [decodedFields]
  conv_rhs => rw [← List.map_id fields]
  exact List.map_congr_left fun f mem => Prod.ext rfl (same f mem)

theorem keys_decodedFields (fields : List (String × Value)) :
    (decodedFields fields).map (·.1) = fields.map (·.1) := by
  rw [decodedFields, List.map_map]
  rfl

end Value

namespace JsonText

/-- A value that JSON has a form for, with no number but integers and no members of enumerations. -/
inductive Jsonable : Value → Prop
  | null : Jsonable .null
  | bool (b : Bool) : Jsonable (.bool b)
  | int (n : Int) : Jsonable (.int n)
  | text (s : String) : Jsonable (.text s)
  | sequence {kind : SequenceKind} (plain : kind.member? = none) {vs : List Value}
    (items : ∀ v ∈ vs, Jsonable v) : Jsonable (.sequence kind vs)
  | mapping {kind : MappingKind} (shown : kind ≠ .view) (plain : kind.member? = none)
    {es : List (String × Value)} (distinct : (es.map (·.1)).Nodup) (values : ∀ e ∈ es, Jsonable e.2) :
    Jsonable (.mapping kind (es.map keyed))

section

variable {l : Layout} {depth : Nat} {vs : List Value} {es : List (String × Value)} {v : Value}
  {kind : MappingKind}

theorem written_int (n : Int) : written l depth (.int n) = digits n := by
  unfold written atomic
  dsimp only [Value.asText?, Value.asNumber?]

theorem written_mapping (shown : kind ≠ .view) (entries : List (Value × Value)) :
    written l depth (.mapping kind entries) = (do
      let parts ← writtenEntries l (depth + 1) entries
      return l.around depth '\x7b' '\x7d' parts) := by
  rw [written, if_pos (MappingKind.isOwn_iff.mpr shown)]

theorem writtenItems_eq_mapM (items : List Value) :
    writtenItems l depth items = items.mapM (written l depth) := by
  induction items with
  | nil => rfl
  | cons v rest ih => rw [writtenItems, ih, List.mapM_cons]

/-- An entry: its key, a colon and its value. -/
def writtenEntry (l : Layout) (depth : Nat) (e : Value × Value) :
    Except JsonWriteFault (List Char) := do
  let name ← key e.1
  let value ← written l depth e.2
  return name ++ ':' :: ' ' :: value

theorem writtenEntries_eq_mapM (entries : List (Value × Value)) :
    writtenEntries l depth entries = entries.mapM (writtenEntry l depth) := by
  induction entries with
  | nil => rfl
  | cons e rest ih =>
    simp only [writtenEntries, ih, List.mapM_cons, writtenEntry, bind_assoc, pure_bind]

theorem writtenEntry_keyed (e : String × Value) : writtenEntry l depth (keyed e) =
    (written l depth e.2).map fun value => string e.1 ++ ':' :: ' ' :: value := by
  rw [writtenEntry, keyed]
  cases written l depth e.2 <;> rfl

/-! ### Values that are written -/

theorem writtenItems_of_all
    (h : ∀ v ∈ vs, ∃ cs, written l depth v = .ok cs ∧ Writes cs v.decoded) :
    ∃ parts, writtenItems l depth vs = .ok parts ∧
      List.Forall₂ Writes parts (Value.decodedItems vs) := by
  obtain ⟨parts, all⟩ := exists_forall₂ h
  refine ⟨parts, ?_, ?_⟩
  · rw [writtenItems_eq_mapM, mapM_eq_ok_iff]
    exact all.imp fun _ _ => And.left
  · rw [Value.decodedItems_eq_map, List.forall₂_map_right_iff]
    exact all.flip.imp fun _ _ => And.right

theorem writtenEntries_of_all
    (h : ∀ e ∈ es, ∃ cs, written l depth e.2 = .ok cs ∧ Writes cs e.2.decoded) :
    ∃ parts, writtenEntries l depth (es.map keyed) = .ok parts ∧
      List.Forall₂ WritesEntry parts (Value.decodedFields es) := by
  have each : ∀ e ∈ es, ∃ part, writtenEntry l depth (keyed e) = .ok part ∧
      WritesEntry part (e.1, e.2.decoded) := by
    intro e mem
    obtain ⟨cs, done, writes⟩ := h e mem
    exact ⟨_, by rw [writtenEntry_keyed, done]; rfl, cs, rfl, writes⟩
  obtain ⟨parts, all⟩ := exists_forall₂ each
  refine ⟨parts, ?_, ?_⟩
  · rw [writtenEntries_eq_mapM, mapM_eq_ok_iff, List.forall₂_map_left_iff]
    exact all.imp fun _ _ => And.left
  · rw [Value.decodedFields, List.forall₂_map_right_iff]
    exact all.flip.imp fun _ _ => And.right

/-- A value is written in any layout, and reads as itself, unless an integer in it is too long. -/
theorem written_of_short (h : Jsonable v) (short : ¬v.Overlong) (l : Layout) (depth : Nat) :
    ∃ cs, written l depth v = .ok cs ∧ Writes cs v.decoded := by
  induction h generalizing depth with
  | null => exact ⟨_, rfl, writes_null⟩
  | bool b => exact ⟨_, rfl, writes_truth b⟩
  | int n =>
    have few : ¬IsOverlong n := fun long => short (.int long)
    refine ⟨numeral n, ?_, writes_int few⟩
    rw [written_int, digits_eq_ok few]
  | text s => exact ⟨_, rfl, writes_string s⟩
  | sequence plain items ih =>
    obtain ⟨parts, done, writes⟩ := writtenItems_of_all fun v mem =>
      ih v mem (fun long => short (.item mem long)) (depth + 1)
    refine ⟨l.around depth '[' ']' parts, ?_, .list l depth writes⟩
    rw [written, done]
    rfl
  | @mapping kind shown plain es distinct values ih =>
    obtain ⟨parts, done, writes⟩ := writtenEntries_of_all fun e mem =>
      ih e mem (fun long => short (.entry (List.mem_map_of_mem mem) long)) (depth + 1)
    have whole := Writes.map l depth writes (by rwa [Value.keys_decodedFields])
    rw [← Value.decodedEntries_keyed] at whole
    refine ⟨l.around depth '\x7b' '\x7d' parts, ?_, whole⟩
    rw [written_mapping shown, done]
    rfl

/-! ### Values that are not -/

theorem writtenEntries_of_error {fault : JsonWriteFault}
    (each : ∀ e ∈ es, (∃ cs, written l depth e.2 = .ok cs) ∨ written l depth e.2 = .error fault)
    (some : ∃ e ∈ es, written l depth e.2 = .error fault) :
    writtenEntries l depth (es.map keyed) = .error fault := by
  rw [writtenEntries_eq_mapM]
  refine mapM_eq_error (List.forall_mem_map.mpr fun e mem => ?_) ?_
  · rw [writtenEntry_keyed]
    rcases each e mem with ⟨cs, done⟩ | fails
    · exact .inl ⟨_, by rw [done]; rfl⟩
    · exact .inr (by rw [fails]; rfl)
  · obtain ⟨e, mem, fails⟩ := some
    exact ⟨keyed e, List.mem_map_of_mem mem, by rw [writtenEntry_keyed, fails]; rfl⟩

/-- A value with an integer that is too long is not written. -/
theorem written_of_overlong (h : Jsonable v) (long : v.Overlong) (l : Layout) (depth : Nat) :
    written l depth v = .error .tooManyDigits := by
  have either : ∀ {w : Value} (depth : Nat), Jsonable w →
      (w.Overlong → written l depth w = .error .tooManyDigits) →
      (∃ cs, written l depth w = .ok cs) ∨ written l depth w = .error .tooManyDigits := by
    intro w depth jsonable fails
    by_cases long : w.Overlong
    · exact .inr (fails long)
    · obtain ⟨cs, done, -⟩ := written_of_short jsonable long l depth
      exact .inl ⟨cs, done⟩
  induction h generalizing depth with
  | null => cases long
  | bool b => cases long
  | int n =>
    cases long with
    | int long => rw [written_int, digits_of_overlong long]
  | text s => cases long
  | sequence plain items ih =>
    cases long with
    | @item _ _ v mem long =>
      have none := mapM_eq_error
        (fun v mem => either (depth + 1) (items v mem) fun long => ih v mem long (depth + 1))
        ⟨v, mem, ih v mem long (depth + 1)⟩
      rw [written, writtenItems_eq_mapM, none]
      rfl
  | mapping shown plain distinct values ih =>
    have each := fun e mem => either (depth + 1) (values e mem) fun long => ih e mem long (depth + 1)
    rw [written_mapping shown]
    cases long with
    | @key _ _ e mem long =>
      obtain ⟨e, -, rfl⟩ := List.mem_map.mp mem
      cases long
    | @entry _ _ _ mem long =>
      obtain ⟨e, there, rfl⟩ := List.mem_map.mp mem
      rw [writtenEntries_of_error each ⟨e, there, ih e there long (depth + 1)⟩]
      rfl

end

/-! ### Whole texts -/

/-- A text that writes a value, with blanks behind it, is read as the value. -/
theorem valueOf_of_writes {cs trail : List Char} {v : Value} (h : Writes cs v)
    (blank : ∀ c ∈ trail, isBlank c = true) : valueOf (cs ++ trail) = .ok v := by
  have inside : skipBlanks (cs ++ trail) = cs ++ trail := (h.starts.append _).skipBlanks
  have behind : skipBlanks trail = [] := List.dropWhile_eq_nil_iff.mpr blank
  have ends : EndsNumber trail := .of_skipBlanks (behind ▸ endsNumber_nil)
  have reads := h.reads trail (2 * (cs ++ trail).length + 1) ends
    (by rw [List.length_append]; omega)
  obtain ⟨c, tail, rfl, opening⟩ := h.starts
  unfold valueOf
  split
  case h_1 same =>
    cases (List.cons.inj same).1
    exact absurd opening (by decide)
  case h_2 =>
    rw [inside, reads]
    simp only [bind, Except.bind, behind]
    rfl

theorem read_of_writes {cs : List Char} {v : Value} (h : Writes cs v) :
    read (String.ofList cs) = .ok v := by
  rw [read, String.toList_ofList, ← List.append_nil cs]
  exact valueOf_of_writes h (List.forall_mem_nil _)

/-! ### Values that come back as they are -/

/-- A value that is written and comes back as it is. -/
structure Lasting (v : Value) : Prop where
  jsonable : Jsonable v
  short : ¬v.Overlong
  same : v.decoded = v

namespace Lasting

variable {vs : List Value} {es : List (String × Value)}

theorem text (s : String) : Lasting (.text s) where
  jsonable := .text s
  short long := by cases long
  same := rfl

theorem list (items : ∀ v ∈ vs, Lasting v) : Lasting (.list vs) where
  jsonable := .sequence rfl fun v mem => (items v mem).jsonable
  short long := by
    cases long with
    | item mem long => exact (items _ mem).short long
  same := by
    rw [Value.decoded, Value.decodedItems_eq_map]
    have unchanged : vs.map Value.decoded = vs.map id :=
      List.map_congr_left fun v mem => (items v mem).same
    rw [unchanged, List.map_id]

theorem map (distinct : (es.map (·.1)).Nodup) (values : ∀ e ∈ es, Lasting e.2) :
    Lasting (.map (es.map keyed)) where
  jsonable := .mapping (by decide) rfl distinct fun e mem => (values e mem).jsonable
  short := by
    intro long
    cases long with
    | key mem long =>
      obtain ⟨e, -, rfl⟩ := List.mem_map.mp mem
      cases long
    | entry mem long =>
      obtain ⟨e, there, rfl⟩ := List.mem_map.mp mem
      exact (values e there).short long
  same := by
    rw [Value.decoded, Value.decodedEntries_keyed,
      Value.decodedFields_eq_self fun e mem => (values e mem).same]

end Lasting

/-- A value that comes back as it is does so from its text on lines of its own. -/
theorem read_block {v : Value} (h : Lasting v) (blanks : Nat) :
    ∃ s, block blanks v = .ok s ∧ read s = .ok v := by
  obtain ⟨cs, done, writes⟩ := written_of_short h.jsonable h.short (.block blanks) 0
  rw [h.same] at writes
  exact ⟨String.ofList cs, by rw [block, done]; rfl, read_of_writes writes⟩

end JsonText

end DataContract
