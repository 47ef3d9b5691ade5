/-
Fields put over others.

A name that is there keeps its place and takes the new value, and new names come behind
(`overlaidFields`): so it is with the entries of maps whose keys are texts (`overlaid_keyed`), and it
does not matter whether fields come back from JSON before or after (`decodedFields_overlaidFields`).
-/
import DataContract.Proofs.JsonText.RoundTrip
import DataContract.Value.Entries

namespace DataContract

open JsonText (keyed)
open Value (decodedFields)

/-- Fields with others put over them: a name that is there keeps its place, and new ones come
behind. -/
def overlaidFields (own extra : List (String × Value)) : List (String × Value) :=
  own.map (fun f => (f.1, (extra.lookup f.1).getD f.2)) ++
    extra.filter fun f => f.1 ∉ own.map (·.1)

/-- Fields with one put over them. -/
def putField (own : List (String × Value)) (e : String × Value) : List (String × Value) :=
  if e.1 ∈ own.map (·.1) then own.map fun f => if f.1 = e.1 then e else f else own ++ [e]

section

variable {own extra : List (String × Value)} {e f : String × Value} {name : String}

theorem insert_keyed_eq_putField :
    Value.insert (own.map keyed) (.text e.1) e.2 = (putField own e).map keyed := by
  have key : ∀ f : String × Value, (Value.text e.1 == (keyed f).1) = true ↔ f.1 = e.1 := by
    intro f
    rw [Value.text_beq_iff, keyed, Value.asText?, Option.some.injEq]
  by_cases there : e.1 ∈ own.map (·.1)
  · have found : (own.map keyed).any (fun d => Value.text e.1 == d.1) = true := by
      obtain ⟨f, mem, same⟩ := List.mem_map.mp there
      exact List.any_eq_true.mpr ⟨keyed f, List.mem_map_of_mem mem, (key f).mpr same⟩
    rw [Value.insert, if_pos found, putField, if_pos there, List.map_map, List.map_map]
    refine List.map_congr_left fun f _ => ?_
    simp only [Function.comp_apply]
    by_cases same : f.1 = e.1
    · rw [if_pos ((key f).mpr same), if_pos same, keyed, keyed, same]
    · rw [if_neg (mt (key f).mp same), if_neg same]
  · rw [putField, if_neg there]
    exact JsonText.insert_keyed there

theorem lookup_eq_none_of_not_mem (fresh : name ∉ extra.map (·.1)) : extra.lookup name = none := by
  refine List.lookup_eq_none_iff.mpr fun f mem => bne_iff_ne.mpr ?_
  rintro rfl
  exact fresh (List.mem_map_of_mem mem)

theorem lookup_cons_eq_ite (name : String) (e : String × Value) (extra : List (String × Value)) :
    (e :: extra).lookup name = if name = e.1 then some e.2 else extra.lookup name := by
  obtain ⟨k, v⟩ := e
  by_cases same : name = k
  · rw [if_pos same, same, List.lookup_cons_self]
  · rw [if_neg same, List.lookup_cons, beq_false_of_ne same]

theorem lookup_of_mem (distinct : (extra.map (·.1)).Nodup) (mem : f ∈ extra) :
    extra.lookup f.1 = some f.2 := by
  induction extra with
  | nil => cases mem
  | cons e rest ih =>
    obtain ⟨fresh, later⟩ := List.nodup_cons.mp distinct
    rw [lookup_cons_eq_ite]
    rcases List.mem_cons.mp mem with rfl | mem
    · exact if_pos rfl
    · have other : f.1 ≠ e.1 := fun same => fresh (List.mem_map.mpr ⟨f, mem, same⟩)
      rw [if_neg other, ih later mem]

/-- Of fields that are put over others the first may be put there before. -/
theorem overlaidFields_putField (fresh : e.1 ∉ extra.map (·.1)) :
    overlaidFields (putField own e) extra = overlaidFields own (e :: extra) := by
  have last : extra.lookup e.1 = none := lookup_eq_none_of_not_mem fresh
  by_cases there : e.1 ∈ own.map (·.1)
  · have names : (own.map fun f => if f.1 = e.1 then e else f).map (·.1) = own.map (·.1) := by
      rw [List.map_map]
      refine List.map_congr_left fun f _ => ?_
      by_cases same : f.1 = e.1
      · exact (congrArg Prod.fst (if_pos same)).trans same.symm
      · exact congrArg Prod.fst (if_neg same)
    have behind : (e :: extra).filter (fun f => f.1 ∉ own.map (·.1)) =
        extra.filter fun f => f.1 ∉ own.map (·.1) :=
      List.filter_cons_of_neg (by simpa using there)
    rw [putField, if_pos there, overlaidFields, overlaidFields, names, behind, List.map_map]
    refine congrArg (· ++ _) (List.map_congr_left fun f _ => ?_)
    simp only [Function.comp_apply, lookup_cons_eq_ite]
    by_cases same : f.1 = e.1
    · rw [if_pos same, if_pos same, last, same]
      rfl
    · rw [if_neg same, if_neg same]
  · have front : own.map (fun f => (f.1, ((e :: extra).lookup f.1).getD f.2)) =
        own.map fun f => (f.1, (extra.lookup f.1).getD f.2) := by
      refine List.map_congr_left fun f mem => ?_
      have other : f.1 ≠ e.1 := fun same => there (same ▸ List.mem_map_of_mem mem)
      rw [lookup_cons_eq_ite, if_neg other]
    have behind : (e :: extra).filter (fun f => f.1 ∉ own.map (·.1)) =
        e :: extra.filter fun f => f.1 ∉ own.map (·.1) :=
      List.filter_cons_of_pos (by simpa using there)
    have later : extra.filter (fun f => f.1 ∉ (own ++ [e]).map (·.1)) =
        extra.filter fun f => f.1 ∉ own.map (·.1) := by
      refine List.filter_congr fun f mem => decide_eq_decide.mpr (not_congr ?_)
      have other : f.1 ≠ e.1 := fun same => fresh (same ▸ List.mem_map_of_mem mem)
      simp [other]
    rw [putField, if_neg there, overlaidFields, overlaidFields, front, behind, later,
      List.map_append, List.map_singleton, last, List.append_assoc]
    rfl

/-- Fields put one by one over others. -/
theorem overlaid_keyed (distinct : (extra.map (·.1)).Nodup) :
    Value.overlaid (own.map keyed) (extra.map keyed) = (overlaidFields own extra).map keyed := by
  induction extra generalizing own with
  | nil => simp [Value.overlaid, overlaidFields]
  | cons e rest ih =>
    obtain ⟨fresh, later⟩ := List.nodup_cons.mp distinct
    rw [← overlaidFields_putField fresh, ← ih later, ← insert_keyed_eq_putField]
    rfl

theorem names_overlaidFields : (overlaidFields own extra).map (·.1) =
    own.map (·.1) ++ (extra.map (·.1)).filter (· ∉ own.map (·.1)) := by
  rw [overlaidFields, List.map_append, List.map_map, List.filter_map]
  rfl

theorem nodup_overlaidFields (first : (own.map (·.1)).Nodup) (second : (extra.map (·.1)).Nodup) :
    ((overlaidFields own extra).map (·.1)).Nodup := by
  rw [names_overlaidFields, List.nodup_append]
  refine ⟨first, second.filter _, ?_⟩
  rintro name mem _ other rfl
  exact of_decide_eq_true (List.mem_filter.mp other).2 mem

/-- What is put over others is all there. -/
theorem mem_overlaidFields (distinct : (extra.map (·.1)).Nodup) (mem : f ∈ extra) :
    f ∈ overlaidFields own extra := by
  by_cases there : f.1 ∈ own.map (·.1)
  · obtain ⟨g, own, same⟩ := List.mem_map.mp there
    refine List.mem_append_left _ (List.mem_map.mpr ⟨g, own, ?_⟩)
    simp only [same, lookup_of_mem distinct mem, Option.getD_some]
  · exact List.mem_append_right _ (List.mem_filter.mpr ⟨mem, decide_eq_true there⟩)

/-- What is there after fields are put over others is of either. -/
theorem exists_of_mem_overlaidFields (mem : f ∈ overlaidFields own extra) :
    ∃ g, (g ∈ own ∨ g ∈ extra) ∧ g.2 = f.2 := by
  rcases List.mem_append.mp mem with mem | mem
  · obtain ⟨g, there, rfl⟩ := List.mem_map.mp mem
    cases held : extra.lookup g.1 with
    | none => exact ⟨g, .inl there, rfl⟩
    | some v =>
      obtain ⟨_, _, rfl, -⟩ := List.lookup_eq_some_iff.mp held
      exact ⟨(g.1, v), .inr (by simp), rfl⟩
  · exact ⟨f, .inr (List.mem_filter.mp mem).1, rfl⟩

theorem lookup_decodedFields (name : String) (extra : List (String × Value)) :
    (decodedFields extra).lookup name = (extra.lookup name).map Value.decoded := by
  induction extra with
  | nil => rfl
  | cons e rest ih =>
    have step : decodedFields (e :: rest) = (e.1, e.2.decoded) :: decodedFields rest := rfl
    rw [step, lookup_cons_eq_ite, lookup_cons_eq_ite, ih]
    split <;> rfl

/-- Fields come back put over others as they were. -/
theorem decodedFields_overlaidFields (same : ∀ f ∈ own, f.2.decoded = f.2) :
    decodedFields (overlaidFields own extra) = overlaidFields own (decodedFields extra) := by
  have behind : decodedFields (extra.filter fun f => f.1 ∉ own.map (·.1)) =
      (decodedFields extra).filter fun f => f.1 ∉ own.map (·.1) := by
    rw [decodedFields, decodedFields, List.filter_map]
    rfl
  have front : decodedFields (own.map fun f => (f.1, (extra.lookup f.1).getD f.2)) =
      own.map fun f => (f.1, ((decodedFields extra).lookup f.1).getD f.2) := by
    rw [decodedFields, List.map_map]
    refine List.map_congr_left fun f mem => ?_
    simp only [Function.comp_apply, lookup_decodedFields]
    cases held : extra.lookup f.1 with
    | none => exact congrArg (f.1, ·) (same f mem)
    | some v => rfl
  rw [overlaidFields, overlaidFields, ← front, ← behind]
  exact List.map_append

end

end DataContract
