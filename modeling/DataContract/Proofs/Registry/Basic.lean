/-
What registries hold after a contract is put into them.

Under its name stands the contract that was put last (`find?_put`), and the names are as they were,
with a new one behind them (`names_put`). A registration puts the contract or is refused and changes
nothing (`registerContract_eq`).
-/
import DataContract.Registry.Basic
import DataContract.Proofs.Contract.Value
import DataContract.Proofs.Result

namespace DataContract.Registry

variable {r : Registry} {c : Contract} {n : String} {v : Value}

theorem find?_isSome_iff : (r.find? n).isSome ↔ n ∈ r.names := by
  simp [find?, names]

theorem find?_eq_none_iff : r.find? n = none ↔ n ∉ r.names := by
  rw [← find?_isSome_iff, Option.not_isSome_iff_eq_none]

theorem find?_of_mem {e : String × Contract} (distinct : r.names.Nodup) (mem : e ∈ r.entries) :
    r.find? e.1 = some e.2 := by
  obtain ⟨entries⟩ := r
  rw [find?, Option.map_eq_some_iff]
  refine ⟨e, ?_, rfl⟩
  induction entries with
  | nil => cases mem
  | cons first rest ih =>
    obtain ⟨apart, distinct⟩ := List.nodup_cons.mp distinct
    obtain rfl | mem := List.mem_cons.mp mem
    · rw [List.find?_cons, decide_eq_true rfl]
    · have other : first.1 ≠ e.1 := fun same => apart (List.mem_map.mpr ⟨e, mem, same.symm⟩)
      rw [List.find?_cons, decide_eq_false other]
      exact ih distinct mem

/-- The contracts stand under the names, in order. -/
theorem contracts_eq (distinct : r.names.Nodup) : r.contracts = r.names.filterMap r.find? := by
  have under : ∀ e ∈ r.entries, (r.find? ∘ Prod.fst) e = (some ∘ Prod.snd) e := fun e mem =>
    find?_of_mem distinct mem
  rw [names, List.filterMap_map, List.filterMap_congr under, List.filterMap_eq_map]
  rfl

/-- A contract in the place of the one under its name; the name is kept. -/
def inPlace (c : Contract) (e : String × Contract) : String × Contract :=
  if e.1 = c.name then (e.1, c) else e

theorem fst_inPlace (e : String × Contract) : (inPlace c e).1 = e.1 := by
  unfold inPlace
  split <;> rfl

theorem put_of_mem (known : c.name ∈ r.names) : r.put c = ⟨r.entries.map (inPlace c)⟩ := by
  rw [put, if_pos (find?_isSome_iff.mpr known)]
  rfl

theorem put_of_not_mem (fresh : c.name ∉ r.names) :
    r.put c = ⟨r.entries ++ [(c.name, c)]⟩ := by
  rw [put, if_neg (mt find?_isSome_iff.mp fresh)]

/-- A new name comes last, and an old one keeps its place. -/
theorem names_put :
    (r.put c).names = if c.name ∈ r.names then r.names else r.names ++ [c.name] := by
  split
  · next known =>
    rw [put_of_mem known, names, List.map_map, names]
    exact List.map_congr_left fun e _ => fst_inPlace e
  · next fresh =>
    rw [put_of_not_mem fresh, names, names, List.map_append, List.map_singleton]

/-- A registry with contracts behind those that it holds, under their names. -/
def followedBy (r : Registry) (cs : List Contract) : Registry :=
  ⟨r.entries ++ cs.map fun c => (c.name, c)⟩

theorem followedBy_nil : r.followedBy [] = r :=
  congrArg Registry.mk (List.append_nil _)

theorem followedBy_append (cs ds : List Contract) :
    r.followedBy (cs ++ ds) = (r.followedBy cs).followedBy ds := by
  rw [followedBy, followedBy, followedBy, List.map_append, List.append_assoc]

theorem put_eq_followedBy (fresh : c.name ∉ r.names) : r.put c = r.followedBy [c] :=
  put_of_not_mem fresh

theorem names_followedBy (cs : List Contract) :
    (r.followedBy cs).names = r.names ++ cs.map (·.name) := by
  rw [names, followedBy, List.map_append, List.map_map]
  rfl

theorem size_followedBy (cs : List Contract) : (r.followedBy cs).size = r.size + cs.length := by
  rw [size, followedBy, List.length_append, List.length_map, size]

/-- What is found in a registry comes before what stands behind it. -/
theorem find?_followedBy (cs : List Contract) :
    (r.followedBy cs).find? n = (r.find? n).or (cs.find? (·.name = n)) := by
  have behind : ((cs.map fun c => (c.name, c)).find? (·.1 = n)).map (·.2) =
      cs.find? (·.name = n) := by
    rw [List.find?_map, Option.map_map]
    exact Option.map_id'
  rw [find?, followedBy, List.find?_append, Option.map_or, behind]
  rfl

/-- Contracts have new and distinct names, so that they can be registered in order. -/
structure Admits (r : Registry) (cs : List Contract) : Prop where
  distinct : (cs.map (·.name)).Nodup
  fresh : ∀ d ∈ cs, d.name ∉ r.names

theorem Admits.nil : r.Admits [] :=
  ⟨List.nodup_nil, List.forall_mem_nil _⟩

/-- Contracts can be registered in order if the first is new and the registry with it admits the
others. -/
theorem admits_cons_iff {cs : List Contract} :
    r.Admits (c :: cs) ↔ c.name ∉ r.names ∧ (r.followedBy [c]).Admits cs := by
  have new (d : Contract) :
      d.name ∉ (r.followedBy [c]).names ↔ d.name ∉ r.names ∧ d.name ≠ c.name := by
    rw [names_followedBy, List.map_singleton, List.mem_append, List.mem_singleton, not_or]
  constructor
  · rintro ⟨distinct, fresh⟩
    obtain ⟨apart, distinct⟩ := List.nodup_cons.mp distinct
    obtain ⟨first, fresh⟩ := List.forall_mem_cons.mp fresh
    refine ⟨first, distinct, fun d mem => (new d).mpr ⟨fresh d mem, fun same => apart ?_⟩⟩
    exact List.mem_map.mpr ⟨d, mem, same⟩
  · rintro ⟨first, distinct, fresh⟩
    refine ⟨List.nodup_cons.mpr ⟨fun mem => ?_, distinct⟩,
      List.forall_mem_cons.mpr ⟨first, fun d mem => ((new d).mp (fresh d mem)).1⟩⟩
    obtain ⟨d, mem, same⟩ := List.mem_map.mp mem
    exact ((new d).mp (fresh d mem)).2 same

/-- Behind a registry that admits them contracts are found as well as in front of it. -/
theorem Admits.find?_followedBy {cs : List Contract} (h : r.Admits cs) :
    (r.followedBy cs).find? n = (cs.find? (·.name = n)).or (r.find? n) := by
  rw [Registry.find?_followedBy]
  cases found : cs.find? (·.name = n) with
  | none => rw [Option.or_none, Option.none_or]
  | some c =>
    have name : c.name = n := by simpa using List.find?_some found
    have absent : r.find? n = none :=
      find?_eq_none_iff.mpr (name ▸ h.fresh c (List.mem_of_find?_eq_some found))
    rw [absent, Option.none_or, Option.some_or]

/-- Under its name stands the contract that was put, and under others what stood there. -/
theorem find?_put : (r.put c).find? n = if n = c.name then some c else r.find? n := by
  by_cases known : c.name ∈ r.names
  · -- the search looks at names alone, and these are kept
    have same : (fun e : String × Contract => decide (e.1 = n)) ∘ inPlace c =
        fun e => decide (e.1 = n) := by
      funext e
      rw [Function.comp_apply, fst_inPlace]
    rw [put_of_mem known, find?, find?, List.find?_map, same]
    cases found : r.entries.find? (fun e => decide (e.1 = n)) with
    | none =>
      have absent : n ∉ r.names := by rw [← find?_eq_none_iff, find?, found, Option.map_none]
      have other : n ≠ c.name := fun same => absent (same.symm ▸ known)
      rw [if_neg other]
      rfl
    | some e =>
      obtain rfl : e.1 = n := by simpa using List.find?_some found
      simp only [Option.map_some, inPlace]
      split <;> rfl
  · rw [put_of_not_mem known, find?, find?, List.find?_append, Option.map_or]
    split
    · next same =>
      subst same
      have absent : r.entries.find? (fun e => decide (e.1 = c.name)) = none := by
        simpa [find?] using find?_eq_none_iff.mpr known
      simp [absent]
    · next other => simp [Ne.symm other]

theorem registerContract_eq {replacing : Bool} : registerContract c replacing r =
    if c.name ∈ r.names ∧ replacing = false then (r, .fail (.alreadyRegistered c.name))
    else (r.put c, ⟨.ok (), [registered c]⟩) := by
  have refused : ((r.find? c.name).isSome && !replacing) = true ↔
      c.name ∈ r.names ∧ replacing = false := by
    rw [Bool.and_eq_true, find?_isSome_iff, Bool.not_eq_true']
  unfold registerContract
  simp only [bind, Action.andThen, Action.state, Noted.ok, refused, List.nil_append]
  split <;> rfl

/-- Going through a registry and emptying it at each turn yields all contracts that were there. -/
theorem drain_eq : r.drain = (r.contracts, empty) := by
  obtain ⟨entries⟩ := r
  cases entries with
  | nil => rfl
  | cons e rest => rfl

/-! ### Registering values -/

theorem register_of_none {replacing : Bool} (none : Contract.ofValue? v = none) :
    register v replacing r = (r, .fail (.notContract v.typeName)) := by
  rw [register, none]
  rfl

theorem register_of_contract {replacing : Bool} (contract : Contract.ofValue? v = some c) :
    register v replacing r =
      if c.name ∈ r.names ∧ replacing = false then (r, .fail (.alreadyRegistered c.name))
      else (r.put c, ⟨.ok c, [registered c]⟩) := by
  have registered := @registerContract_eq r c replacing
  rw [register, contract]
  show Action.andThen (registerContract c replacing) (fun _ => Action.ok c) r = _
  split at registered
  · next refused =>
    rw [if_pos refused, Action.andThen, registered]
    rfl
  · next free =>
    rw [if_neg free, Action.andThen, registered]
    rfl

/-- A registration that is refused changes nothing. -/
theorem register_of_error {replacing : Bool} {f : RegistrationFault}
    (failed : (register v replacing r).2.result = .error f) : (register v replacing r).1 = r := by
  cases is : Contract.ofValue? v with
  | none => rw [register_of_none is]
  | some c =>
    rw [register_of_contract is] at failed ⊢
    split at failed
    · next refused => rw [if_pos refused]
    · cases failed

theorem extend_cons_of_ok {replacing : Bool} (rest : List Value)
    (first : (register v replacing r).2.result = .ok c) :
    (extend (v :: rest) replacing r).1 = (extend rest replacing (register v replacing r).1).1 ∧
      (extend (v :: rest) replacing r).2.result =
        (extend rest replacing (register v replacing r).1).2.result :=
  Action.bind_of_ok first

/-- Registering values stops at the first that is refused. -/
theorem extend_cons_of_error {replacing : Bool} {f : RegistrationFault} (rest : List Value)
    (first : (register v replacing r).2.result = .error f) :
    (extend (v :: rest) replacing r).1 = r ∧
      (extend (v :: rest) replacing r).2.result = .error f := by
  obtain ⟨state, result⟩ : (extend (v :: rest) replacing r).1 = _ ∧ _ := Action.bind_of_error first
  exact ⟨state.trans (register_of_error first), result⟩

/-- Registering values in order that fails does what registering those in front of one of them does,
and this one is refused then. -/
theorem extend_of_error {replacing : Bool} {f : RegistrationFault} {values : List Value}
    (failed : (extend values replacing r).2.result = .error f) :
    ∃ before v behind, values = before ++ v :: behind ∧
      (extend before replacing r).2.result = .ok () ∧
      (extend before replacing r).1 = (extend values replacing r).1 ∧
      (register v replacing (extend values replacing r).1).2.result = .error f := by
  induction values generalizing r with
  | nil => cases failed
  | cons v rest ih =>
    cases first : (register v replacing r).2.result with
    | error f' =>
      -- nothing stands in front of the first value
      obtain ⟨state, result⟩ := extend_cons_of_error rest first
      cases result.symm.trans failed
      exact ⟨[], v, rest, rfl, rfl, state.symm, state.symm ▸ first⟩
    | ok c =>
      -- the first value is one of those in front of the one that is refused
      obtain ⟨state, result⟩ := extend_cons_of_ok rest first
      obtain ⟨before, w, behind, rfl, done, same, refused⟩ := ih (result.symm.trans failed)
      obtain ⟨state', result'⟩ := extend_cons_of_ok before first
      refine ⟨v :: before, w, behind, rfl, result'.trans done, ?_, ?_⟩
      · rw [state', same, state]
      · rw [state, refused]

/-- The contracts that are registered when values are, in order and in no one's place: those in
front of the first value that is refused. -/
def admitted (r : Registry) : List Value → List Contract
  | [] => []
  | v :: rest =>
    match Contract.ofValue? v with
    | none => []
    | some c => if c.name ∈ r.names then [] else c :: (r.followedBy [c]).admitted rest

theorem admits_admitted (r : Registry) (values : List Value) : r.Admits (r.admitted values) := by
  induction values generalizing r with
  | nil => exact .nil
  | cons v rest ih =>
    rw [admitted]
    split
    · exact .nil
    · next c contract =>
      split
      · exact .nil
      · next fresh => exact admits_cons_iff.mpr ⟨fresh, ih _⟩

/-- Contracts that a registry admits are admitted. -/
theorem Admits.admitted_eq {cs : List Contract} (h : r.Admits cs) :
    r.admitted (cs.map Contract.toValue) = cs := by
  induction cs generalizing r with
  | nil => rfl
  | cons c rest ih =>
    obtain ⟨fresh, later⟩ := admits_cons_iff.mp h
    rw [List.map_cons, admitted, Contract.ofValue?_toValue]
    simp only [if_neg fresh, ih later]

/-- Registering values puts those that are admitted behind what is there, and succeeds if these are
all. -/
theorem extend_eq_followedBy (r : Registry) (values : List Value) :
    (extend values false r).1 = r.followedBy (r.admitted values) ∧
      ((extend values false r).2.result = .ok () ↔
        values.map Contract.ofValue? = (r.admitted values).map some) := by
  induction values generalizing r with
  | nil => exact ⟨followedBy_nil.symm, iff_of_true rfl rfl⟩
  | cons v rest ih =>
    -- what is refused leaves nothing, and then not all values are registered
    have stops {f : RegistrationFault} (first : (register v false r).2.result = .error f) :
        (extend (v :: rest) false r).1 = r.followedBy [] ∧
          ((extend (v :: rest) false r).2.result = .ok () ↔
            (v :: rest).map Contract.ofValue? = ([] : List Contract).map some) := by
      obtain ⟨state, failed⟩ := extend_cons_of_error rest first
      rw [state, failed, followedBy_nil]
      exact ⟨rfl, iff_of_false nofun nofun⟩
    rw [admitted]
    split
    · next none => exact stops (congrArg (·.2.result) (register_of_none none))
    · next c contract =>
      have registered := @register_of_contract r c v false contract
      split
      · next taken =>
        rw [if_pos ⟨taken, rfl⟩] at registered
        exact stops (congrArg (·.2.result) registered)
      · next fresh =>
        rw [if_neg fun h => fresh h.1, put_eq_followedBy fresh] at registered
        obtain ⟨state, result⟩ := extend_cons_of_ok rest (congrArg (·.2.result) registered)
        obtain ⟨same, all⟩ := ih (r.followedBy [c])
        rw [registered] at state result
        refine ⟨state.trans (same.trans (followedBy_append [c] _).symm), ?_⟩
        rw [result, all, List.map_cons, List.map_cons, contract, List.cons.injEq]
        exact (and_iff_right rfl).symm

/-- Contracts that a registry admits are registered. -/
theorem Admits.extend {cs : List Contract} (h : r.Admits cs) :
    (extend (cs.map Contract.toValue) false r).2.result = .ok () ∧
      (extend (cs.map Contract.toValue) false r).1 = r.followedBy cs := by
  obtain ⟨state, result⟩ := extend_eq_followedBy r (cs.map Contract.toValue)
  rw [h.admitted_eq] at state result
  refine ⟨result.mpr ?_, state⟩
  rw [List.map_map]
  exact List.map_congr_left fun c _ => Contract.ofValue?_toValue c

/-- An empty registry admits contracts of distinct names. -/
theorem admits_empty {cs : List Contract} (distinct : (cs.map (·.name)).Nodup) : empty.Admits cs :=
  ⟨distinct, fun _ _ => List.not_mem_nil⟩

/-- Registering the contracts of a registry in an empty one makes the same registry. -/
theorem extend_contracts (keyed : ∀ e ∈ r.entries, e.1 = e.2.name) (distinct : r.names.Nodup) :
    (extend (r.contracts.map Contract.toValue) false empty).2.result = .ok () ∧
      (extend (r.contracts.map Contract.toValue) false empty).1 = r := by
  obtain ⟨entries⟩ := r
  have named : (contracts ⟨entries⟩).map (·.name) = names ⟨entries⟩ := by
    rw [contracts, names, List.map_map]
    exact List.map_congr_left fun e mem => (keyed e mem).symm
  have same : (contracts ⟨entries⟩).map (fun c => (c.name, c)) = entries := by
    have each : ∀ e ∈ entries, ((fun c : Contract => (c.name, c)) ∘ Prod.snd) e = id e :=
      fun e mem => Prod.ext (keyed e mem).symm rfl
    rw [contracts, List.map_map, List.map_congr_left each, List.map_id]
  obtain ⟨result, state⟩ := (admits_empty (named ▸ distinct)).extend
  exact ⟨result, state.trans (congrArg Registry.mk same)⟩

end DataContract.Registry
