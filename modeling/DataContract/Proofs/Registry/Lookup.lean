/-
Looking up contracts does not depend on where they are kept.

A registry and a map of any kind keep contracts (`Store.Keeps`; `keeps_create`, `keeps_map`), and
what keeps them is looked up as a source itself, at a module or holder it is attached to, or at an
heir (`Store.Offers`). In all of these the same contract is found under a name, so that validation
comes to the same (`validate_independent_of_source`).

Registries and maps refuse to be asked for what cannot be a key, but owners are asked for texts
alone, and so they always answer (`Owner.get_eq`). They answer none exactly where a contract is
lacking (`Owner.find?_eq_none_iff`).
-/
import DataContract.Proofs.Registry.Attachment
import DataContract.Proofs.Value.Keys
import DataContract.Registry.Source

namespace DataContract

variable {n : String} {name : Value}

/-! ### Owners always answer -/

theorem Registry.get_of_text (r : Registry) (text : name.asText? = some n) :
    r.get name = .ok (r.find? n) := by
  rw [Registry.get, Value.unhashable?_of_text text, text]
  rfl

theorem Attachment.get_of_text (a : Attachment) (text : name.asText? = some n) :
    a.get name = .ok (a.find? n) := by
  cases a with
  | registry r => exact r.get_of_text text
  | value v =>
    rw [get, find?, findIn?]
    cases v.asEntries? with
    | none => rfl
    | some es =>
      simp only [getEntry, Value.unhashable?_of_text text, Value.lookup?_of_text text]
      rfl

/-- Asking an owner never fails. -/
theorem Owner.get_eq (o : Owner) (name : Value) : o.get name = .ok (o.find? name) := by
  unfold get
  rw [find?]
  cases text : name.asText? with
  | none => rfl
  | some n =>
    cases o with
    | registry r => exact r.get_of_text text
    | value v => exact Attachment.get_of_text (.value v) text
    | attached a =>
      cases a with
      | none => rfl
      | some a => exact a.get_of_text text

/-! ### Where there is no contract -/

/-- There is no contract under a text. -/
inductive Attachment.Lacks (n : String) : Attachment → Prop where
  | unregistered {r : Registry} (unknown : n ∉ r.names) : Lacks n (.registry r)
  | noMap {v : Value} (none : v.asEntries? = none) : Lacks n (.value v)
  | noEntry {kind : MappingKind} {es : List (Value × Value)}
      (absent : ∀ e ∈ es, e.1.asText? ≠ some n) : Lacks n (.value (.mapping kind es))
  | noContract {kind : MappingKind} {es : List (Value × Value)} {v : Value}
      (held : Value.lookup? (.text n) es = some v) (other : Contract.ofValue? v = none) :
      Lacks n (.value (.mapping kind es))

/-- What contracts are looked up in at an owner, if it holds anything. -/
def Owner.attachment? : Owner → Option Attachment
  | .registry r => some (.registry r)
  | .attached a => a
  | .value v => some (.value v)

/-- There is no contract under a value: it is no text, the owner holds nothing, or what it holds has
no contract under the text. -/
inductive Owner.Lacks (o : Owner) (name : Value) : Prop where
  | noText (none : name.asText? = none)
  | bare (none : o.attachment? = none)
  | holds {n : String} {a : Attachment} (text : name.asText? = some n)
      (held : o.attachment? = some a) (lacks : a.Lacks n)

theorem Attachment.find?_eq_none_iff (a : Attachment) : a.find? n = none ↔ a.Lacks n := by
  constructor
  · intro none
    cases a with
    | registry r => exact .unregistered (Registry.find?_eq_none_iff.mp none)
    | value v =>
      rw [find?, findIn?] at none
      cases map : v.asEntries? with
      | none => exact .noMap map
      | some es =>
        obtain ⟨kind, rfl⟩ : ∃ kind, v = .mapping kind es := by
          cases v <;> cases map
          exact ⟨_, rfl⟩
        rw [map, Option.bind_some] at none
        cases held : Value.lookup? (.text n) es with
        | none => exact .noEntry (Value.lookup?_eq_none_iff.mp held)
        | some v => exact .noContract held (by rwa [held] at none)
  · intro lacks
    cases lacks with
    | unregistered unknown => exact Registry.find?_eq_none_iff.mpr unknown
    | noMap none => rw [find?, findIn?, none, Option.bind_none]
    | noEntry absent =>
      show (Value.lookup? (.text n) _).bind _ = _
      rw [Value.lookup?_eq_none_iff.mpr absent, Option.bind_none]
    | noContract held other =>
      show (Value.lookup? (.text n) _).bind _ = _
      rw [held, Option.bind_some, other]

theorem Owner.findNamed?_eq (o : Owner) (n : String) :
    o.findNamed? n = o.attachment?.bind (·.find? n) := by
  cases o with
  | attached a => cases a <;> rfl
  | _ => rfl

theorem Owner.find?_eq_none_iff (o : Owner) (name : Value) :
    o.find? name = none ↔ o.Lacks name := by
  rw [find?]
  constructor
  · intro none
    cases text : name.asText? with
    | none => exact .noText text
    | some n =>
      rw [text, Option.bind_some, findNamed?_eq] at none
      cases held : o.attachment? with
      | none => exact .bare held
      | some a =>
        rw [held, Option.bind_some] at none
        exact .holds text held (a.find?_eq_none_iff.mp none)
  · intro lacks
    cases lacks with
    | noText none => rw [none, Option.bind_none]
    | bare none =>
      cases name.asText? with
      | none => rfl
      | some n => rw [Option.bind_some, findNamed?_eq, none, Option.bind_none]
    | holds text held lacks =>
      rw [text, Option.bind_some, findNamed?_eq, held, Option.bind_some]
      exact (Attachment.find?_eq_none_iff _).mpr lacks

/-! ### What keeps contracts -/

/-- What a map says by an entry: the text of the key, and the contract under it. -/
def readEntry (e : Value × Value) : Option String × Option Contract :=
  (e.1.asText?, Contract.ofValue? e.2)

namespace Store

/-- What keeps contracts: a registry of them, or a map of any kind with each under its name; in any
order. -/
inductive Keeps (s : Store) (cs : List Contract) : Holding → Prop where
  | registry {k : RegistryKey}
      (each : (s.registry k).entries.Perm (cs.map fun c => (c.name, c))) : Keeps s cs (.registry k)
  | map {kind : MappingKind} {es : List (Value × Value)}
      (each : (es.map readEntry).Perm (cs.map fun c => (some c.name, some c))) :
      Keeps s cs (.value (.mapping kind es))

/-- The sources at which something is looked up: itself, a module or holder that it is attached to,
and an heir that has nothing nearer. An object is looked up where its holder is. -/
inductive Offers (s : Store) (a : Holding) : Source → Prop where
  | itself : Offers s a (.ofHolding a)
  | module : Offers s a (.module (some a))
  | holder {h : HolderKey} (own : (s.holder h).own = some a) : Offers s a (.holder h)
  | heir {h j : HolderKey} {before behind : List HolderKey}
      (line : s.line j = before ++ h :: behind) (bare : ∀ i ∈ before, (s.holder i).own = none)
      (own : (s.holder h).own = some a) : Offers s a (.holder j)

variable {s : Store} {a : Holding} {source : Source} {cs : List Contract}

/-- A registry that is made of contracts keeps them. -/
theorem keeps_create (distinct : (cs.map (·.name)).Nodup) (s : Store) :
    ∃ k, (create (cs.map Contract.toValue) s).2.result = .ok k ∧
      (create (cs.map Contract.toValue) s).1.Keeps cs (.registry k) := by
  obtain ⟨made, registered⟩ := (Registry.admits_empty distinct).extend
  obtain ⟨state, result⟩ := @create_of_ok s _ made
  refine ⟨_, result, .registry ?_⟩
  rw [state, registered, registry_last]
  exact .refl _

/-- A map of any kind from names to contracts keeps them. -/
theorem keeps_map (s : Store) (kind : MappingKind) (cs : List Contract) :
    s.Keeps cs (.value (.mapping kind (cs.map fun c => (.text c.name, c.toValue)))) := by
  refine .map (.of_eq ?_)
  rw [List.map_map]
  refine List.map_congr_left fun c _ => ?_
  rw [Function.comp_apply, readEntry, Contract.ofValue?_toValue]
  rfl

/-- In a list with something for each of some contracts, in any order, a name of one of them is
found at what stands for it. -/
theorem find?_of_perm {α : Type} {f : Contract → α} {p : α → Bool} {l : List α}
    (distinct : (cs.map (·.name)).Nodup) (each : l.Perm (cs.map f))
    (named : ∀ c, p (f c) = decide (c.name = n)) :
    l.find? p = (cs.find? (·.name = n)).map f := by
  have one : {x ∈ cs.map f | p x}.Subsingleton := by
    rintro x ⟨first, px⟩ y ⟨second, py⟩
    obtain ⟨c, there, rfl⟩ := List.mem_map.mp first
    obtain ⟨d, there', rfl⟩ := List.mem_map.mp second
    rw [named, decide_eq_true_eq] at px py
    exact congrArg f (List.inj_on_of_nodup_map distinct there there' (px.trans py.symm))
  have same : p ∘ f = fun c => decide (c.name = n) := funext named
  rw [← List.find?_eq_find?_of_perm each.symm one, List.find?_map, same]

theorem findIn?_mapping (kind : MappingKind) (es : List (Value × Value)) :
    Attachment.findIn? (.mapping kind es) n =
      ((es.map readEntry).find? (·.1 = some n)).bind (·.2) := by
  have same : (fun e : Option String × Option Contract => decide (e.1 = some n)) ∘ readEntry =
      fun e => Value.text n == e.1 := by
    funext e
    rw [Bool.eq_iff_iff, Value.text_beq_iff, Function.comp_apply, decide_eq_true_eq, readEntry]
  rw [List.find?_map, same]
  show (Value.lookup? (.text n) es).bind _ = _
  rw [Value.lookup?]
  cases es.find? fun e => Value.text n == e.1 <;> rfl

/-- Whatever keeps contracts, the one of a name is found under it. -/
theorem find?_of_keeps (distinct : (cs.map (·.name)).Nodup) (keeps : s.Keeps cs a) :
    (s.attachment a).find? n = cs.find? (·.name = n) := by
  cases keeps with
  | registry each =>
    show ((s.registry _).entries.find? _).map _ = _
    rw [find?_of_perm distinct each fun c => rfl, Option.map_map]
    exact Option.map_id'
  | map each =>
    show Attachment.findIn? _ n = _
    have named (c : Contract) : decide (some c.name = some n) = decide (c.name = n) :=
      decide_eq_decide.mpr Option.some_inj
    rw [findIn?_mapping, find?_of_perm distinct each named]
    cases cs.find? (·.name = n) <;> rfl

theorem attachment?_of_offers (offers : s.Offers a source) :
    (s.ownerOf source).attachment? = some (s.attachment a) := by
  have attached {h : HolderKey} (held : s.held? h = some a) :
      (s.ownerOf (.holder h)).attachment? = some (s.attachment a) := by
    rw [ownerOf, owner, held]
    rfl
  cases offers with
  | itself => cases a <;> rfl
  | module => rfl
  | holder own => exact attached (held?_of_own own)
  | heir line bare own =>
    refine attached ?_
    rw [held?, line, List.findSome?_append, List.findSome?_eq_none_iff.mpr bare, Option.none_or,
      List.findSome?_cons, own]

theorem find?_of_offers (distinct : (cs.map (·.name)).Nodup) (keeps : s.Keeps cs a)
    (offers : s.Offers a source) (name : Value) :
    (s.ownerOf source).find? name = contractNamed? cs name := by
  rw [Owner.find?, contractNamed?]
  congr 1
  funext n
  rw [Owner.findNamed?_eq, attachment?_of_offers offers, Option.bind_some]
  exact find?_of_keeps distinct keeps

end Store

/-- Validation looks at the contract that the owner holds under the name, and at nothing else of the
owner. -/
theorem validate_congr {o p : Owner} (same : o.find? name = p.find? name) (data : Value) :
    validate o name data = validate p name data := by
  rw [validate, validate, same]

/-- Validation comes to the same at all sources of the same contracts, whatever keeps them and
wherever it is attached. An owner always answers, and answers none just where a contract is lacking,
and then validation comes to the same at all owners. -/
theorem validate_independent_of_source :
    (∀ cs : List Contract, (cs.map (·.name)).Nodup →
      ∀ (s t : Store) (a b : Holding) (first second : Source),
        s.Keeps cs a → s.Offers a first → t.Keeps cs b → t.Offers b second →
          ∀ name data,
            (s.ownerOf first).get name = .ok (contractNamed? cs name) ∧
            validate (s.ownerOf first) name data = validate (t.ownerOf second) name data) ∧
    ∀ (o : Owner) (name : Value),
      o.get name = .ok (o.find? name) ∧ (o.find? name = none ↔ o.Lacks name) ∧
      (o.Lacks name → ∀ data, validate o name data = .of (unknownContract name)) := by
  refine ⟨?_, fun o name => ⟨o.get_eq name, o.find?_eq_none_iff name, ?_⟩⟩
  · intro cs distinct s t a b first second keeps offers keeps' offers' name data
    have found := Store.find?_of_offers distinct keeps offers name
    have found' := Store.find?_of_offers distinct keeps' offers' name
    refine ⟨?_, validate_congr (found.trans found'.symm) data⟩
    rw [Owner.get_eq, found]
  · intro lacks data
    rw [validate, (o.find?_eq_none_iff name).mpr lacks]

namespace Store

/-- The heir of a holder with a registry, and a module with a view of a map. -/
theorem validate_heir_eq_module :
    ([bareContract "ping"].map (·.name)).Nodup ∧
      registryFamily.Keeps [bareContract "ping"] (.registry ⟨0⟩) ∧
      registryFamily.Offers (.registry ⟨0⟩) (.holder ⟨1⟩) ∧
      (Owner.value .null).Lacks (.text "ping") ∧
      validate (.value .null) (.text "ping") .null = .of (unknownContract (.text "ping")) ∧
      validate (registryFamily.ownerOf (.holder ⟨1⟩)) (.text "ping") .null =
        validate (empty.ownerOf (.module (some (.value (.mapping .view
          [(.text "ping", (bareContract "ping").toValue)]))))) (.text "ping") .null := by
  have distinct : ([bareContract "ping"].map (·.name)).Nodup := List.nodup_singleton _
  have keeps : registryFamily.Keeps [bareContract "ping"] (.registry ⟨0⟩) :=
    .registry (.of_eq (by cbv))
  have line : registryFamily.line ⟨1⟩ = [⟨1⟩] ++ ⟨0⟩ :: [] := by cbv
  have offers : registryFamily.Offers (.registry ⟨0⟩) (.holder ⟨1⟩) :=
    .heir line (List.forall_mem_singleton.mpr (by cbv)) (by cbv)
  have lacks : (Owner.value .null).Lacks (.text "ping") := .holds rfl rfl (.noMap rfl)
  obtain ⟨same, lacking⟩ := validate_independent_of_source
  have agree := same [bareContract "ping"] distinct registryFamily empty _ _ _ _ keeps offers
    (keeps_map _ .view _) .module (.text "ping") .null
  exact ⟨distinct, keeps, offers, lacks, (lacking _ _).2.2 lacks .null, agree.2⟩

end Store

end DataContract
