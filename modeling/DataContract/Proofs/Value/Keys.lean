/-
Looking up text keys.

A text equals a value exactly if the value is that text, as a string or as a member
(`beq_iff_of_text`). So what a map holds under a text key is what stands beside the first key of
that text: `lookup?_cons`, `exists_mem_of_lookup?`. Putting a value under a text key changes what is
held under that key alone (`lookup?_insert`). What a map holds is smaller than the map
(`sizeOf_lt_of_lookup?`), which is what recursion through maps rests on.
-/
import DataContract.Value.Equality
import DataContract.Proofs.Result

namespace DataContract

@[simp]
theorem MappingKind.isOwn_iff {k : MappingKind} : k.isOwn = true ↔ k ≠ .view := by
  cases k <;> simp [isOwn]

namespace Value

variable {key k v : Value} {s : String} {es : List (Value × Value)}

/-- What is a text is a string or a member that is the text. -/
theorem eq_of_asText (text : key.asText? = some s) :
    key = .text s ∨ ∃ family name, key = .atom ⟨family, name, .text s, true⟩ := by
  cases key with
  | text t =>
    cases text
    exact .inl rfl
  | atom a =>
    obtain ⟨family, name, value, isValue⟩ := a
    cases value with
    | number n => cases text
    | double x => cases text
    | text t =>
      cases isValue <;> cases text
      exact .inr ⟨family, name, rfl⟩
  | _ => cases text

theorem unhashable?_of_text (text : key.asText? = some s) : key.unhashable? = none := by
  obtain rfl | ⟨family, name, rfl⟩ := eq_of_asText text <;> rfl

theorem beq_iff_of_text (text : key.asText? = some s) : (key == v) = true ↔ v.asText? = some s := by
  have number : key.comparable? = none := by
    obtain rfl | ⟨family, name, rfl⟩ := eq_of_asText text <;> rfl
  have atomic : beq key v = beqAtomic key v := by
    obtain rfl | ⟨family, name, rfl⟩ := eq_of_asText text <;> rw [beq]
  show beq key v = true ↔ _
  rw [atomic]
  cases other : v.asText? with
  | some t =>
    simp only [beqAtomic, number, text, other, beq_iff_eq, Option.some.injEq]
    exact eq_comm
  | none =>
    -- a text equals no member that is not its text, and nothing of another kind
    have apart : beqAtomic key v = false := by
      simp only [beqAtomic, number, text, other]
      obtain rfl | ⟨family, name, rfl⟩ := eq_of_asText text
      · cases v <;> rfl
      · cases v with
        | atom b =>
          refine beq_eq_false_iff_ne.mpr fun same => ?_
          cases same
          cases text.symm.trans other
        | _ => rfl
    rw [apart]
    exact iff_of_false Bool.false_ne_true (Option.some_ne_none s).symm

theorem text_beq_iff : (Value.text s == v) = true ↔ v.asText? = some s :=
  beq_iff_of_text rfl

theorem beq_text_iff : (v == Value.text s) = true ↔ v.asText? = some s := by
  cases text : v.asText? with
  | some t =>
    rw [beq_iff_of_text text, asText?, Option.some.injEq, Option.some.injEq]
    exact eq_comm
  | none =>
    have apart : beqAtomic v (.text s) = false := by
      unfold beqAtomic
      rw [text]
      cases v <;> split <;> first | rfl | contradiction
    have unequal : beq v (.text s) = false := by
      cases v <;> simp only [beq, apart]
    exact iff_of_false (ne_true_of_eq_false unequal) (Option.some_ne_none s).symm

theorem lookup?_cons (key k v : Value) (rest : List (Value × Value)) :
    lookup? key ((k, v) :: rest) = if key == k then some v else lookup? key rest := by
  cases h : key == k with
  | true => simp only [lookup?, List.find?, h, Option.map_some, if_true]
  | false => simp only [lookup?, List.find?, h, Bool.false_eq_true, if_false]

/-- A text is looked up alike as a string and as a member that is the text. -/
theorem lookup?_of_text (text : key.asText? = some s) (es : List (Value × Value)) :
    lookup? key es = lookup? (.text s) es := by
  have same : (fun e : Value × Value => key == e.1) = fun e => Value.text s == e.1 := by
    funext e
    rw [Bool.eq_iff_iff, beq_iff_of_text text, text_beq_iff]
  rw [lookup?, lookup?, same]

theorem lookup?_eq_none_iff : lookup? (.text s) es = none ↔ ∀ e ∈ es, e.1.asText? ≠ some s := by
  rw [lookup?, Option.map_eq_none_iff, List.find?_eq_none]
  exact forall₂_congr fun e _ => not_congr text_beq_iff

/-- What is held under a text key stands beside a key of that text. -/
theorem exists_mem_of_lookup? (h : lookup? (.text s) es = some v) :
    ∃ k, (k, v) ∈ es ∧ k.asText? = some s := by
  induction es with
  | nil => cases h
  | cons e rest ih =>
    obtain ⟨k, w⟩ := e
    rw [lookup?_cons] at h
    split at h
    · next same =>
      cases h
      exact ⟨k, List.mem_cons_self, text_beq_iff.mp same⟩
    · obtain ⟨l, mem, text⟩ := ih h
      exact ⟨l, List.mem_cons_of_mem _ mem, text⟩

theorem exists_mapping_of_asEntries? (h : v.asEntries? = some es) : ∃ m, v = .mapping m es := by
  cases v with
  | mapping m entries =>
    cases h
    exact ⟨m, rfl⟩
  | _ => cases h

theorem lookup?_singleton (text : k.asText? = some s) : lookup? (.text s) [(k, v)] = some v := by
  rw [lookup?_cons, if_pos (text_beq_iff.mpr text)]

/-! ### Putting a value under a text key -/

theorem lookup?_map (s t : String) (v : Value) (es : List (Value × Value)) :
    lookup? (.text t) (es.map fun e => if Value.text s == e.1 then (e.1, v) else e) =
      if t = s then (lookup? (.text t) es).map fun _ => v else lookup? (.text t) es := by
  induction es with
  | nil => split <;> rfl
  | cons e rest ih =>
    obtain ⟨k, w⟩ := e
    rw [List.map_cons, lookup?_cons _ k w]
    by_cases replaced : (Value.text s == k) = true
    · rw [if_pos replaced, lookup?_cons, ih]
      by_cases same : t = s
      · subst same
        simp only [replaced, if_true, Option.map_some]
      · -- a key is one text only, so the entry that is replaced is not the one looked for
        have other : ¬(Value.text t == k) = true := by
          intro found
          have texts := (text_beq_iff.mp found).symm.trans (text_beq_iff.mp replaced)
          exact same (Option.some.inj texts)
        rw [if_neg other, if_neg other, if_neg same]
    · rw [if_neg replaced, lookup?_cons, ih]
      by_cases same : t = s
      · subst same
        rw [if_neg replaced, if_neg replaced, if_pos rfl]
      · rw [if_neg same, if_neg same]

/-- What is put under a text key is held under it, and under other texts is what was there. -/
theorem lookup?_insert {t : String} : lookup? (.text t) (insert es (.text s) v) =
    if t = s then some v else lookup? (.text t) es := by
  unfold insert
  by_cases there : (es.any fun e => Value.text s == e.1) = true
  · rw [if_pos there, lookup?_map]
    by_cases same : t = s
    · subst same
      have held : lookup? (.text t) es ≠ none := by
        rw [ne_eq, lookup?_eq_none_iff]
        intro absent
        obtain ⟨e, mem, found⟩ := List.any_eq_true.mp there
        exact absent e mem (text_beq_iff.mp found)
      obtain ⟨w, held⟩ := Option.ne_none_iff_exists'.mp held
      rw [if_pos rfl, if_pos rfl, held, Option.map_some]
    · rw [if_neg same, if_neg same]
  · have absent : lookup? (.text s) es = none := by
      rw [lookup?_eq_none_iff]
      intro e mem text
      exact there (List.any_eq_true.mpr ⟨e, mem, text_beq_iff.mpr text⟩)
    have appended : lookup? (.text t) (es ++ [(.text s, v)]) =
        (lookup? (.text t) es).or (lookup? (.text t) [(.text s, v)]) := by
      rw [lookup?, List.find?_append, Option.map_or]
      rfl
    rw [if_neg there, appended, lookup?_cons]
    by_cases same : t = s
    · subst same
      rw [absent, Option.none_or, if_pos (text_beq_iff.mpr rfl), if_pos rfl]
    · have other : ¬(Value.text t == Value.text s) = true := by
        intro found
        exact same (Option.some.inj (text_beq_iff.mp found)).symm
      rw [if_neg other, if_neg same]
      exact Option.or_none

/-- The keys of entries with a value put under a key are theirs and that key. -/
theorem mem_insert {e : Value × Value} (mem : e ∈ insert es key v) :
    e.1 = key ∨ ∃ f ∈ es, f.1 = e.1 := by
  unfold insert at mem
  split at mem
  · obtain ⟨f, there, rfl⟩ := List.mem_map.mp mem
    refine .inr ⟨f, there, ?_⟩
    split <;> rfl
  · rcases List.mem_append.mp mem with mem | mem
    · exact .inr ⟨e, mem, rfl⟩
    · rw [List.mem_singleton.mp mem]
      exact .inl rfl

/-- What a map holds under a key is smaller than the map. -/
theorem sizeOf_lt_of_lookup? {m : MappingKind} (held : lookup? (.text s) es = some v) :
    sizeOf v < sizeOf (Value.mapping m es) := by
  obtain ⟨k, there, -⟩ := exists_mem_of_lookup? held
  have entry : sizeOf (k, v) < sizeOf es := List.sizeOf_lt_of_mem there
  simp only [Prod.mk.sizeOf_spec] at entry
  simp only [Value.mapping.sizeOf_spec]
  omega

/-- An item of a list that a map holds under a key is smaller than the map. -/
theorem sizeOf_lt_of_mem_lookup? {m : MappingKind} {kind : SequenceKind} {items : List Value}
    (held : lookup? (.text s) es = some (.sequence kind items)) (mem : v ∈ items) :
    sizeOf v < sizeOf (Value.mapping m es) := by
  have item : sizeOf v < sizeOf items := List.sizeOf_lt_of_mem mem
  have list : sizeOf (Value.sequence kind items) < sizeOf (Value.mapping m es) :=
    sizeOf_lt_of_lookup? held
  simp only [Value.sequence.sizeOf_spec] at list
  omega

end Value

end DataContract
