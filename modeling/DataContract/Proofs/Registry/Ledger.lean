/-
Ledgers: what was registered in a registry since it was last emptied, in order.

Under a name stands the contract that was registered last (`Ledger.latest?`), and the names stand in
the order in which they were first registered (`Ledger.names`). A registry records a ledger
(`Registry.Records`) if it has these names, in this order, and these contracts under them.
Registrations keep this (`Records.put`, `Records.extend`), and what is read of a registry is what
its ledger says (`Records.contracts`, `Records.get`).
-/
import DataContract.Proofs.Registry.Basic

namespace DataContract

/-- What was registered in a registry since it was last emptied, in order. -/
structure Ledger where
  registrations : List Contract

namespace Ledger

def empty : Ledger := ⟨[]⟩

/-- The names, each once, in the order in which they were first registered. -/
def names (l : Ledger) : List String :=
  (l.registrations.map (·.name)).eraseDups

/-- The contract that was registered last under a name. -/
def latest? (l : Ledger) (name : String) : Option Contract :=
  l.registrations.reverse.find? (·.name = name)

/-- The contracts registered last under the names, in order. -/
def contracts (l : Ledger) : List Contract :=
  l.names.filterMap l.latest?

/-- The ledger after one more registration. -/
def record (l : Ledger) (c : Contract) : Ledger :=
  ⟨l.registrations ++ [c]⟩

/-- The contract that a value is, if it can be registered: a name that is there can only be
registered in its place. -/
def accept (l : Ledger) (v : Value) (replacing : Bool) : Except RegistrationFault Contract :=
  match Contract.ofValue? v with
  | none => .error (.notContract v.typeName)
  | some c =>
    if c.name ∈ l.names ∧ replacing = false then .error (.alreadyRegistered c.name) else .ok c

/-- The ledger after values are registered in order, up to the first that cannot be. -/
def extend (l : Ledger) (replacing : Bool) : List Value → Ledger × Except RegistrationFault Unit
  | [] => (l, .ok ())
  | v :: rest =>
    match l.accept v replacing with
    | .ok c => (l.record c).extend replacing rest
    | .error f => (l, .error f)

/-- The contract under a value that serves as a name. -/
def look (l : Ledger) (name : Value) : Except LookupFault (Option Contract) :=
  match name.unhashable? with
  | some type => .error (.unhashable type)
  | none => .ok (name.asText?.bind l.latest?)

variable {l : Ledger} {c : Contract} {n : String} {v : Value} {replacing : Bool}
  {f : RegistrationFault}

theorem accept_eq_ok_iff : l.accept v replacing = .ok c ↔
    Contract.ofValue? v = some c ∧ ¬(c.name ∈ l.names ∧ replacing = false) := by
  unfold accept
  split
  · next none => simp [none]
  · next d contract =>
    rw [contract]
    split
    · next known =>
      constructor
      · rintro ⟨⟩
      · rintro ⟨⟨⟩, free⟩
        exact absurd known free
    · next free =>
      constructor
      · rintro ⟨⟩
        exact ⟨rfl, free⟩
      · rintro ⟨⟨⟩, -⟩
        rfl

theorem accept_eq_error_iff : l.accept v replacing = .error f ↔
    (Contract.ofValue? v = none ∧ f = .notContract v.typeName) ∨
      ∃ c, Contract.ofValue? v = some c ∧ (c.name ∈ l.names ∧ replacing = false) ∧
        f = .alreadyRegistered c.name := by
  unfold accept
  split
  · next none => simp [none, eq_comm]
  · next d contract =>
    rw [contract]
    split
    · next known => simp [known, eq_comm]
    · next free => simp [free]

theorem eraseDups_concat (ns : List String) (n : String) :
    (ns ++ [n]).eraseDups = if n ∈ ns then ns.eraseDups else ns.eraseDups ++ [n] := by
  rw [List.eraseDups_append, List.removeAll, List.filter_singleton]
  split
  · next known => simp [known]
  · next fresh =>
    have single : [n].eraseDups = [n] := by rw [List.eraseDups_cons]; rfl
    simp [fresh, single]

theorem names_record :
    (l.record c).names = if c.name ∈ l.names then l.names else l.names ++ [c.name] := by
  simp only [names, record, List.map_append, List.map_singleton, eraseDups_concat,
    List.mem_eraseDups]

theorem latest?_record : (l.record c).latest? n = if n = c.name then some c else l.latest? n := by
  rw [latest?, record, List.reverse_append, List.reverse_singleton, List.singleton_append,
    List.find?_cons]
  by_cases same : c.name = n
  · rw [if_pos same.symm, decide_eq_true same]
  · rw [if_neg (Ne.symm same), decide_eq_false same]
    rfl

end Ledger

namespace Registry

/-- A registry holds what its ledger says: under each name the contract that was registered last, in
the order in which the names were first registered. -/
structure Records (r : Registry) (l : Ledger) : Prop where
  keyed : ∀ e ∈ r.entries, e.1 = e.2.name
  distinct : r.names.Nodup
  names : r.names = l.names
  latest : ∀ n, r.find? n = l.latest? n

namespace Records

variable {r : Registry} {l : Ledger} {c : Contract} {v : Value} {replacing : Bool}
  {f : RegistrationFault}

theorem empty : Records .empty .empty :=
  ⟨List.forall_mem_nil _, List.nodup_nil, rfl, fun _ => rfl⟩

theorem put (h : r.Records l) (c : Contract) : (r.put c).Records (l.record c) where
  keyed := by
    by_cases known : c.name ∈ r.names
    · rw [put_of_mem known]
      refine List.forall_mem_map.mpr fun e mem => ?_
      unfold inPlace
      split
      · next same => exact same
      · exact h.keyed e mem
    · rw [put_of_not_mem known]
      exact List.forall_mem_append.mpr ⟨h.keyed, List.forall_mem_singleton.mpr rfl⟩
  distinct := by
    rw [names_put]
    split
    · exact h.distinct
    · next fresh => exact List.nodup_append_comm.mp (List.nodup_cons.mpr ⟨fresh, h.distinct⟩)
  names := by
    rw [names_put, Ledger.names_record, h.names]
  latest n := by
    rw [find?_put, Ledger.latest?_record, h.latest]

/-- A value that can be registered is put under its name. -/
theorem register_of_accepted (h : r.Records l) (accepted : l.accept v replacing = .ok c) :
    (Registry.register v replacing r).2.result = .ok c ∧
      (Registry.register v replacing r).1 = r.put c := by
  obtain ⟨contract, free⟩ := Ledger.accept_eq_ok_iff.mp accepted
  rw [register_of_contract contract, h.names, if_neg free]
  exact ⟨rfl, rfl⟩

/-- A value that cannot be registered is refused. -/
theorem register_of_refused (h : r.Records l) (refused : l.accept v replacing = .error f) :
    (Registry.register v replacing r).2.result = .error f := by
  obtain ⟨none, rfl⟩ | ⟨c, contract, known, rfl⟩ := Ledger.accept_eq_error_iff.mp refused
  · rw [register_of_none none]
    rfl
  · rw [register_of_contract contract, h.names, if_pos known]
    rfl

theorem extend (h : r.Records l) (replacing : Bool) (values : List Value) :
    (Registry.extend values replacing r).2.result = (l.extend replacing values).2 ∧
      (Registry.extend values replacing r).1.Records (l.extend replacing values).1 := by
  induction values generalizing r l with
  | nil => exact ⟨rfl, h⟩
  | cons v rest ih =>
    rw [Ledger.extend]
    cases accepted : l.accept v replacing with
    | error f =>
      obtain ⟨state, failed⟩ := extend_cons_of_error rest (h.register_of_refused accepted)
      rw [state, failed]
      exact ⟨rfl, h⟩
    | ok c =>
      obtain ⟨result, next⟩ := h.register_of_accepted accepted
      obtain ⟨state, after⟩ := extend_cons_of_ok rest result
      rw [state, after, next]
      exact ih (h.put c)

theorem contracts (h : r.Records l) : r.contracts = l.contracts := by
  have same : r.find? = l.latest? := funext h.latest
  rw [Ledger.contracts, ← h.names, ← same, contracts_eq h.distinct]

theorem get (h : r.Records l) (name : Value) : r.get name = l.look name := by
  have same : r.find? = l.latest? := funext h.latest
  cases hashed : name.unhashable? with
  | some type => simp only [Registry.get, Ledger.look, hashed]
  | none => simp only [Registry.get, Ledger.look, hashed, same]

end Records

end Registry

end DataContract
