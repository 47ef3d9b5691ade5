/-
What loading a document leaves in a registry, whether or not it succeeds.

A document that the check rejects leaves nothing. Otherwise its contracts are put behind those that
were there, in the order of the document, up to the first that cannot be converted or whose name is
taken, and each of them completely. `Loads` lists these cases with the contracts that are left and
the result; there are no others, and what was in the registry stays as it was
(`load_extends_registry`). The number told by the log is that of the contracts in the document.
-/
import DataContract.Definition.File
import DataContract.Proofs.Definition.Loadable
import DataContract.Proofs.Registry.Runs

namespace DataContract

namespace Definition

/-! ### One contract -/

/-- Contracts are converted from entries, and can be registered in order. -/
structure Registrable (r : Registry) (es : List (Value × Value)) (cs : List Contract) : Prop where
  converted : List.Forall₂ ConvertsToContract es cs
  admitted : r.Admits cs

/-- A contract is refused: it cannot be converted, or its name is taken. -/
inductive Refuses (source : String) (r : Registry) (e : Value × Value) : LoadFault → Prop where
  | conversion {f : ConversionFault} (failed : (contractOf e.1 e.2).result = .error f) :
    Refuses source r e (refusedConversion source e.1 f)
  | registration {c : Contract} (converted : ConvertsToContract e c) (taken : c.name ∈ r.names) :
    Refuses source r e
      (refused source e.1 (RegistrationFault.alreadyRegistered c.name).message none)

variable {document : Value} {source : String} {r : Registry} {e : Value × Value}
  {es before : List (Value × Value)} {c : Contract} {cs : List Contract} {fault : LoadFault}

/-- A contract that is refused leaves nothing. -/
theorem loadContract_of_refuses (h : Refuses source r e fault) :
    (loadContract source e.1 e.2 r).1 = r ∧
      (loadContract source e.1 e.2 r).2.result = .error fault := by
  cases h with
  | conversion failed =>
    have first : (Action.noted ((contractOf e.1 e.2).mapError (refusedConversion source e.1))
        r).2.result = .error _ := mapError_eq_error_iff.mpr ⟨_, failed, rfl⟩
    exact Action.bind_of_error first
  | @registration c converted taken =>
    have first : (Action.noted ((contractOf e.1 e.2).mapError (refusedConversion source e.1))
        r).2.result = .ok c := DataContract.mapError_eq_ok_iff.mpr converted
    have registered := @Registry.registerContract_eq r c false
    rw [if_pos ⟨taken, rfl⟩] at registered
    obtain ⟨state, result⟩ := Action.bind_of_ok first
    refine ⟨state.trans ?_, result.trans ?_⟩
    · show (Registry.registerContract c false r).1 = r
      rw [registered]
    · show Except.mapError _ (Registry.registerContract c false r).2.result = _
      rw [registered]
      rfl

/-- A contract that is not refused is converted, and its name is new. -/
theorem refuses_or_fresh (source : String) (r : Registry) (e : Value × Value) :
    (∃ fault, Refuses source r e fault) ∨ ∃ c, ConvertsToContract e c ∧ c.name ∉ r.names := by
  cases converted : (contractOf e.1 e.2).result with
  | error f => exact .inl ⟨_, .conversion converted⟩
  | ok c =>
    by_cases taken : c.name ∈ r.names
    · exact .inl ⟨_, .registration converted taken⟩
    · exact .inr ⟨c, converted, taken⟩

/-! ### All contracts -/

/-- Loading the contracts under their names, up to the first that is refused: the contracts that are
registered, and the result. -/
inductive LoadsContracts (source : String) (r : Registry) :
    List (Value × Value) → List Contract → Except LoadFault Unit → Prop where
  | loaded {es : List (Value × Value)} {cs : List Contract} (all : Registrable r es cs) :
    LoadsContracts source r es cs (.ok ())
  | stopped {before behind : List (Value × Value)} {e : Value × Value} {cs : List Contract}
    {fault : LoadFault} (first : Registrable r before cs)
    (refused : Refuses source (r.followedBy cs) e fault) :
    LoadsContracts source r (before ++ e :: behind) cs (.error fault)

theorem Registrable.nil : Registrable r [] [] :=
  ⟨.nil, .nil⟩

/-- Contracts that can be registered behind a new one can be registered with it in front. -/
theorem Registrable.cons (converted : ConvertsToContract e c) (fresh : c.name ∉ r.names)
    (rest : Registrable (r.followedBy [c]) es cs) : Registrable r (e :: es) (c :: cs) :=
  ⟨.cons converted rest.converted, Registry.admits_cons_iff.mpr ⟨fresh, rest.admitted⟩⟩

theorem LoadsContracts.length_eq (h : LoadsContracts source r es cs (.ok ())) :
    cs.length = es.length := by
  cases h with
  | loaded all => exact all.converted.length_eq.symm

/-- Loading always goes in one of the two ways. -/
theorem exists_loadsContracts (source : String) (r : Registry) (es : List (Value × Value)) :
    ∃ cs result, LoadsContracts source r es cs result := by
  induction es generalizing r with
  | nil => exact ⟨[], _, .loaded .nil⟩
  | cons e rest ih =>
    obtain ⟨fault, refused⟩ | ⟨c, converted, fresh⟩ := refuses_or_fresh source r e
    · have here : Refuses source (r.followedBy []) e fault := by rwa [Registry.followedBy_nil]
      have stops : LoadsContracts source r ([] ++ e :: rest) [] (.error fault) := .stopped .nil here
      exact ⟨[], _, stops⟩
    · -- the others go their way in the registry that holds the first
      obtain ⟨cs, result, later⟩ := ih (r.followedBy [c])
      cases later with
      | loaded all => exact ⟨c :: cs, _, .loaded (.cons converted fresh all)⟩
      | @stopped before behind d _ fault first refused =>
        rw [← Registry.followedBy_append] at refused
        have stops :
            LoadsContracts source r ((e :: before) ++ d :: behind) (c :: cs) (.error fault) :=
          .stopped (.cons converted fresh first) refused
        exact ⟨c :: cs, _, stops⟩

theorem loadContracts_of_registrable (source : String) (h : Registrable r es cs) :
    (loadContracts source es r).1 = r.followedBy cs ∧
      (loadContracts source es r).2.result = .ok () := by
  obtain ⟨result, entries⟩ :=
    @loadContracts_of_fresh source r es cs h.converted h.admitted.distinct h.admitted.fresh
  exact ⟨congrArg Registry.mk entries, result⟩

/-- What comes behind contracts that are loaded is loaded into the registry that holds them. -/
theorem loadContracts_append (behind : List (Value × Value))
    (first : (loadContracts source before r).2.result = .ok ()) :
    (loadContracts source (before ++ behind) r).1 =
        (loadContracts source behind (loadContracts source before r).1).1 ∧
      (loadContracts source (before ++ behind) r).2.result =
        (loadContracts source behind (loadContracts source before r).1).2.result := by
  induction before generalizing r with
  | nil => exact ⟨rfl, rfl⟩
  | cons e rest ih =>
    cases head : (loadContract source e.1 e.2 r).2.result with
    | error f => cases (loadContracts_cons_of_error rest head).2.symm.trans first
    | ok done =>
      obtain ⟨state, result⟩ := loadContracts_cons_of_ok rest head
      obtain ⟨state', result'⟩ := loadContracts_cons_of_ok (rest ++ behind) head
      obtain ⟨same, same'⟩ := ih (result.symm.trans first)
      rw [List.cons_append, state]
      exact ⟨state'.trans same, result'.trans same'⟩

/-- Loading comes to what is listed: the contracts stand behind those that were there. -/
theorem loadContracts_of_loads {result : Except LoadFault Unit}
    (h : LoadsContracts source r es cs result) :
    (loadContracts source es r).1 = r.followedBy cs ∧
      (loadContracts source es r).2.result = result := by
  cases h with
  | loaded all => exact loadContracts_of_registrable source all
  | @stopped before behind e _ fault first refused =>
    obtain ⟨state, done⟩ := loadContracts_of_registrable source first
    obtain ⟨after, ended⟩ := loadContracts_append (e :: behind) done
    obtain ⟨same, failed⟩ := loadContract_of_refuses refused
    -- nothing behind the one that is refused is looked at
    obtain ⟨stay, stop⟩ := loadContracts_cons_of_error behind failed
    rw [state] at after ended
    exact ⟨after.trans (stay.trans same), ended.trans stop⟩

/-! ### Documents -/

/-- Loading a document into a registry: the contracts that are left behind those that were there,
and the result. -/
inductive Loads (document : Value) (source : String) (r : Registry) :
    List Contract → Except LoadFault Unit → Prop where
  /-- The check rejects the document. -/
  | malformed {m : Malformed} (rejected : check document source = .ok (some m)) :
    Loads document source r [] (.error (.malformed m))
  /-- It rejects the document, and what is wrong cannot be reported. -/
  | unwritable {u : UnwritableReport} (rejected : check document source = .error u) :
    Loads document source r [] (.error (.unwritable u))
  | accepted {cs : List Contract} {result : Except LoadFault Unit}
    (sound : check document source = .ok none)
    (contracts : LoadsContracts source r (contractEntries document) cs result) :
    Loads document source r cs result

theorem exists_loads (document : Value) (source : String) (r : Registry) :
    ∃ cs result, Loads document source r cs result := by
  cases checked : check document source with
  | error u => exact ⟨[], _, .unwritable checked⟩
  | ok outcome =>
    cases outcome with
    | some m => exact ⟨[], _, .malformed checked⟩
    | none =>
      obtain ⟨cs, result, contracts⟩ := exists_loadsContracts source r (contractEntries document)
      exact ⟨cs, result, .accepted checked contracts⟩

variable {result : Except LoadFault Unit}

theorem load_of_loads (h : Loads document source r cs result) :
    (load document source r).1 = r.followedBy cs ∧
      (load document source r).2.result = result := by
  cases h with
  | malformed rejected =>
    rw [load, rejected, Registry.followedBy_nil]
    exact ⟨rfl, rfl⟩
  | unwritable rejected =>
    rw [load, rejected, Registry.followedBy_nil]
    exact ⟨rfl, rfl⟩
  | accepted sound contracts =>
    rw [load, sound]
    exact loadContracts_of_loads contracts

/-- All contracts of a document that is loaded are left. -/
theorem length_of_loads (h : Loads document source r cs (.ok ())) :
    cs.length = (contractEntries document).length := by
  cases h with
  | accepted _ contracts => exact contracts.length_eq

/-! ### Files -/

/-- What is told of a file that is loaded. -/
def loadedNote (count : Nat) (source : String) : LogEntry :=
  .plain .loader .info ("Loaded " ++ toString count ++ " contract(s) from " ++ source)

/-- Loading a file leaves what loading its document leaves, and then tells how much there is. -/
theorem loadFile_of_loads {here : Surroundings} {path : String}
    (read : documentAt here (Path.ofText path) = .ok document)
    (from' : source = (Path.ofText path).text) (h : Loads document source r cs result) :
    (loadFile here path r).1 = r.followedBy cs ∧
      (loadFile here path r).2.result = result.mapError .load ∧
      (result = .ok () → (loadFile here path r).2.notes = (load document source r).2.notes ++
        [loadedNote (contractEntries document).length source]) := by
  subst from'
  obtain ⟨state, done⟩ := load_of_loads h
  have grown : (r.followedBy cs).size - r.size = cs.length := by
    rw [Registry.size_followedBy, Nat.add_sub_cancel_left]
  simp only [loadFile, bind, Action.andThen, Action.state, Action.of, Action.mapError, Noted.ok,
    Noted.of, Noted.mapError, read, List.nil_append, state, done, grown]
  cases result with
  | error f =>
    refine ⟨rfl, rfl, fun loaded => ?_⟩
    cases loaded
  | ok _ =>
    rw [← length_of_loads h]
    exact ⟨rfl, rfl, fun _ => rfl⟩

/-! ### Stores -/

end Definition

/-- An action on the registry under a key changes nothing else, and comes to that key. -/
theorem Store.into_some {ε : Type} (k : RegistryKey) (x : Action Registry ε Unit) (s : Store) :
    (Store.into (some k) x s).1 = s.put k (x (s.registry k)).1 ∧
      (Store.into (some k) x s).2.result = (x (s.registry k)).2.result.map (fun _ => k) ∧
      (Store.into (some k) x s).2.notes = (x (s.registry k)).2.notes := by
  simp only [into, bind, Action.andThen, within, Action.zoom, pure, Action.ok, Noted.ok]
  cases (x (s.registry k)).2.result with
  | ok done => simp [Except.map]
  | error f => simp [Except.map]

namespace Definition

/-- What loading leaves, with the contracts that are put behind those that were there. -/
structure Leaves (document : Value) (source : String) (s : Store) (k : RegistryKey)
    (cs : List Contract) (result : Except LoadFault Unit) : Prop where
  /-- On success the key of the same registry is returned. -/
  returned : (Store.into (some k) (load document source) s).2.result = result.map fun _ => k
  registry : (Store.into (some k) (load document source) s).1.registry k =
    (s.registry k).followedBy cs
  /-- Everything but the registry under the key is as it was. -/
  rest : (Store.into (some k) (load document source) s).1 = s.put k ((s.registry k).followedBy cs)
  /-- What was in the registry is found as it was. -/
  kept : ∀ n c, (s.registry k).find? n = some c → ((s.registry k).followedBy cs).find? n = some c
  /-- On success the registry grows by as many contracts as there are in the document. -/
  size : result = .ok () → ((s.registry k).followedBy cs).size =
    (s.registry k).size + (contractEntries document).length
  /-- Loading the document from a file leaves the same, and tells that number. -/
  file : ∀ here path, documentAt here (Path.ofText path) = .ok document →
    source = (Path.ofText path).text →
      (Store.into (some k) (loadFile here path) s).1 =
          s.put k ((s.registry k).followedBy cs) ∧
        (Store.into (some k) (loadFile here path) s).2.result =
          (result.map fun _ => k).mapError .load ∧
        (result = .ok () → (Store.into (some k) (loadFile here path) s).2.notes.getLast? =
          some (loadedNote (contractEntries document).length source))

/-- Loading a document into a registry always goes in one of the ways that are listed, and leaves
the contracts listed there behind those that were in the registry. -/
theorem load_extends_registry (document : Value) (source : String) (s : Store) (k : RegistryKey)
    (there : s.Holds k) :
    (∃ cs result, Loads document source (s.registry k) cs result) ∧
      ∀ cs result, Loads document source (s.registry k) cs result →
        Leaves document source s k cs result := by
  refine ⟨exists_loads document source (s.registry k), fun cs result h => ?_⟩
  obtain ⟨state, done⟩ := load_of_loads h
  obtain ⟨state', result', -⟩ := Store.into_some k (load document source) s
  rw [state] at state'
  rw [done] at result'
  constructor
  case returned => exact result'
  case rest => exact state'
  case registry => rw [state', Store.registry_put_self there]
  case kept =>
    intro n c found
    rw [Registry.find?_followedBy, found, Option.some_or]
  case size =>
    intro loaded
    subst loaded
    rw [Registry.size_followedBy, length_of_loads h]
  case file =>
    intro here path read from'
    obtain ⟨left, ended, told⟩ := loadFile_of_loads read from' h
    obtain ⟨left', ended', notes⟩ := Store.into_some k (loadFile here path) s
    rw [left', ended', notes, left, ended]
    refine ⟨rfl, by cases result <;> rfl, fun loaded => ?_⟩
    rw [told loaded, List.getLast?_concat]

/-- A document with three contracts without fields, the second of the name `ping`. -/
def rivalDocument : Value :=
  .map [(.text "contracts", .map [(.text "pong", .list []), (.text "ping", .list []),
    (.text "pang", .list [])])]

/-- A store with one registry, which holds a contract of that name. -/
def pingStore : Store :=
  ⟨[⟨[("ping", ⟨"ping", []⟩)]⟩], none, []⟩

/-- The refusal of the second contract. -/
def rivalFault : LoadFault :=
  .malformed ⟨noSource, ["contract ping: contract ping is already registered"], none⟩

/-- Loading stops at the second contract, with the first registered. -/
theorem rivalDocument_stops :
    pingStore.Holds ⟨0⟩ ∧
      (Store.into (some ⟨0⟩) (load rivalDocument noSource) pingStore).2.result =
        .error rivalFault ∧
      ((Store.into (some ⟨0⟩) (load rivalDocument noSource) pingStore).1.registry ⟨0⟩).names =
        ["ping", "pong"] := by
  have there : pingStore.Holds ⟨0⟩ := Nat.one_pos
  have contracts : contractEntries rivalDocument =
      [(.text "pong", .list [])] ++ (.text "ping", .list []) :: [(.text "pang", .list [])] :=
    contractEntries_mapping (Value.lookup?_singleton rfl)
  have first : Registrable (pingStore.registry ⟨0⟩) [(.text "pong", .list [])] [⟨"pong", []⟩] :=
    ⟨.cons (by cbv) .nil, by decide, by decide⟩
  have second : Refuses noSource ((pingStore.registry ⟨0⟩).followedBy [⟨"pong", []⟩])
      (.text "ping", .list []) rivalFault :=
    .registration (c := ⟨"ping", []⟩) (by cbv) (by decide)
  have stops : LoadsContracts noSource (pingStore.registry ⟨0⟩) (contractEntries rivalDocument)
      [⟨"pong", []⟩] (.error rivalFault) := by
    rw [contracts]
    exact .stopped first second
  have leaves := (load_extends_registry rivalDocument noSource pingStore ⟨0⟩ there).2 _ _
    (.accepted (by cbv) stops)
  refine ⟨there, leaves.returned, ?_⟩
  rw [leaves.registry]
  rfl

end Definition

end DataContract
