/-
What a guard looks at that takes its contracts from the owner of the function.

The owner of a method is its receiver, that of a plain function its module. What such a guard
decides depends on the contracts of the owner and on the watched argument alone (`decision_alike`):
the other arguments do not count, nor does what other registries hold (`ownerOf_eq_of_found`). An
owner without the contract makes every argument violate it.

The owner may be missing, as the module cannot be found or the receiver is null
(`Function.Ownerless`). Then the contract is looked up in the registry that all share
(`stray_looks_elsewhere`).
-/
import DataContract.Proofs.Guard.Transparency

namespace DataContract

/-! ### Where contracts are looked up -/

/-- Stores that differ at most in the registry that all share. -/
structure Store.AgreeBesideShared (s t : Store) : Prop where
  holders : s.holders = t.holders
  registries : ∀ k, s.shared ≠ some k → t.shared ≠ some k → s.registry k = t.registry k

/-- What is attached to a source is the registry under a key. -/
def Source.HasAttached (s : Store) (k : RegistryKey) : Source → Prop
  | .shared => False
  | .registry key => key = k
  | .holder h => s.held? h = some (.registry k)
  | .module own => own = some (.registry k)
  | .value _ => False

/-- What is attached to a source is the registry that all share. -/
def Source.SharesAll (s : Store) (src : Source) : Prop :=
  ∃ k, s.shared = some k ∧ src.HasAttached s k

namespace Store

variable {s t : Store} {src : Source}

theorem held?_congr (same : s.holders = t.holders) (h : HolderKey) : s.held? h = t.held? h := by
  simp only [held?, line, holder, same]

theorem attachment_congr {held : Holding}
    (same : ∀ k, held = .registry k → s.registry k = t.registry k) :
    s.attachment held = t.attachment held := by
  cases held with
  | registry k => rw [attachment, attachment, same k rfl]
  | value v => rfl

/-- What a source other than the shared registry holds does not depend on that registry, unless it
is attached to the source. -/
theorem ownerOf_eq_of_found (agree : s.AgreeBesideShared t) (found : src ≠ .shared)
    (hs : ¬src.SharesAll s) (ht : ¬src.SharesAll t) : s.ownerOf src = t.ownerOf src := by
  have apart : ∀ k, src.HasAttached s k → src.HasAttached t k → s.registry k = t.registry k :=
    fun k as at' => agree.registries k (fun key => hs ⟨k, key, as⟩) fun key => ht ⟨k, key, at'⟩
  cases src with
  | shared => exact absurd rfl found
  | registry k => rw [ownerOf, ownerOf, apart k rfl rfl]
  | value v => rfl
  | holder h =>
    have same := held?_congr agree.holders h
    rw [ownerOf, ownerOf, owner, owner, ← same]
    refine congrArg Owner.attached ?_
    cases held : s.held? h with
    | none => rfl
    | some a =>
      refine congrArg some (attachment_congr fun k key => ?_)
      subst key
      exact apart k held (same.symm.trans held)
  | module own =>
    cases own with
    | none => rfl
    | some a =>
      refine congrArg (Owner.attached ∘ some) (attachment_congr fun k key => ?_)
      exact apart k (congrArg some key) (congrArg some key)

/-- Whatever is put into the shared registry, the stores agree beside it. -/
theorem agreeBesideShared_put {k : RegistryKey} (shared : s.shared = some k) (r : Registry) :
    s.AgreeBesideShared (s.put k r) := by
  refine ⟨rfl, fun key other _ => ?_⟩
  have apart : k.index ≠ key.index := fun same => by
    obtain ⟨i⟩ := k
    exact other (shared.trans (congrArg some (congrArg RegistryKey.mk same)))
  simp only [registry, put, List.getElem?_set_ne apart]

end Store

/-! ### The owner of a call -/

namespace Function

/-- A call has no owner: the argument that stands for it is null, or there is none, and the module
cannot be found. -/
def Ownerless (f : Function) (bound : NamedArguments) : Prop :=
  match receiverNames.findSome? bound.argument? with
  | some a => a.value = .null
  | none => f.module = none

variable {f : Function} {bound : NamedArguments}

theorem sourceOf_eq_shared_iff {v : Value} : f.sourceOf v = .shared ↔ v = .null := by
  cases v with
  | null => simp [sourceOf, Source.ofValue]
  | handle h =>
    cases hr : f.receiver with
    | none => simp [sourceOf, hr, Source.ofValue]
    | some r =>
      simp only [sourceOf, hr]
      split <;> simp
  | _ => simp [sourceOf, Source.ofValue]

/-- A call without an owner, and no other, looks into the registry that all share. -/
theorem ownerSource_eq_shared_iff : f.ownerSource bound = .shared ↔ f.Ownerless bound := by
  rw [ownerSource, Ownerless]
  cases receiverNames.findSome? bound.argument? with
  | some a => exact sourceOf_eq_shared_iff
  | none =>
    simp only [moduleSource]
    cases f.module <;> simp

/-- The owner of a function without a parameter for a receiver is its module. -/
theorem ownerSource_of_plain (names : bound.map (·.1) = f.signature.map (·.name))
    (plain : ∀ p ∈ f.signature, p.name ∉ receiverNames) :
    f.ownerSource bound = f.moduleSource := by
  have none : receiverNames.findSome? bound.argument? = none := by
    refine List.findSome?_eq_none_iff.mpr fun n mem => ?_
    refine NamedArguments.argument?_eq_none_iff.mpr fun e he same => ?_
    obtain ⟨p, hp, name⟩ := List.mem_map.mp (names ▸ List.mem_map.mpr ⟨e, he, rfl⟩)
    exact plain p hp (name ▸ same ▸ mem)
  rw [ownerSource, none]

/-- The owner of a method is its receiver, which is the first argument. -/
theorem ownerSource_of_method {r : Receiver} {p : Parameter} {rest : Signature}
    (receiver : f.receiver = some r) (signature : f.signature = p :: rest)
    (names : bound.map (·.1) = f.signature.map (·.name))
    (first : bound.argument? p.name = some (.made (.handle r.object)))
    (usual : p.name ∈ receiverNames) (only : ∀ q ∈ rest, q.name ∉ receiverNames) :
    f.ownerSource bound = .holder r.holder := by
  have found : receiverNames.findSome? bound.argument? = some (.made (.handle r.object)) := by
    have none : p.name ≠ "self" → bound.argument? "self" = none := by
      intro other
      refine NamedArguments.argument?_eq_none_iff.mpr fun e he same => ?_
      obtain ⟨q, hq, name⟩ := List.mem_map.mp (names ▸ List.mem_map.mpr ⟨e, he, rfl⟩)
      rw [signature] at hq
      rcases List.mem_cons.mp hq with rfl | hq
      · exact other (name.trans same)
      · exact only q hq (by rw [name, same]; decide)
    simp only [receiverNames, List.mem_cons, List.not_mem_nil, or_false] at usual
    rcases usual with self | cls
    · rw [self] at first
      simp only [receiverNames, List.findSome?_cons, first]
    · rw [cls] at first
      have absent := none (by rw [cls]; decide)
      simp only [receiverNames, List.findSome?_cons, absent, first]
  simp only [ownerSource, found, sourceOf, Argument.made, receiver, if_true]

end Function

namespace Signature

/-- The first argument by position goes to the first parameter. -/
theorem argument?_first {p : Parameter} {rest : Signature} {a : Argument} {others : List Argument}
    {named bound : NamedArguments} (single : p.kind.isSingle = true)
    (hb : assign (p :: rest) (a :: others) named = .ok bound) :
    bound.argument? p.name = some a := by
  rw [assign] at hb
  cases given : bind (p :: rest) (a :: others) named with
  | error e =>
    rw [given] at hb
    cases hb
  | ok g =>
    rw [given] at hb
    cases hb
    obtain ⟨⟨first, remaining⟩, hf, given⟩ := bind_eq_ok_iff.mp given
    obtain ⟨⟨second, leftover⟩, -, given⟩ := bind_eq_ok_iff.mp given
    obtain ⟨last, -, given⟩ := bind_eq_ok_iff.mp given
    cases given
    cases positionsBound_of_eq_ok hf with
    | collected kind =>
      rw [kind] at single
      cases single
    | one kind free next =>
      simp [complete, NamedArguments.argument?]

end Signature

/-! ### Two runs -/

/-- Two programs that a guard cannot tell apart: what the one finds at a source the other finds at
its own, and they have the same settings and counts. -/
structure Host.SameFor (src src' : Source) (h h' : Host) : Prop where
  owner : h.store.ownerOf src = h'.store.ownerOf src'
  settings : h.settings = h'.settings
  tally : h.tally = h'.tally

/-- Two programs that differ at most in what the registry holds that all share. -/
structure Host.AgreeBesideShared (h h' : Host) : Prop where
  store : h.store.AgreeBesideShared h'.store
  settings : h.settings = h'.settings
  tally : h.tally = h'.tally

namespace Policy

variable {src src' : Source}

/-- How strict a policy is by what is said of it. -/
def strictness (s : Surroundings) (strict : Value) : Action Host SettingsFault Value :=
  match strict with
  | .null => do
    let settings ← Host.currentSettings s
    return .bool settings.guardStrict
  | strict => return strict

theorem make_eq (s : Surroundings) (strict : Value) (src : Source) :
    make s strict src = strictness s strict >>= fun v => pure ⟨v, src⟩ := by
  cases strict with
  | null =>
    simp only [make, strictness, bind_assoc, pure_bind]
  | _ => exact (pure_bind _ _).symm

theorem strictness_alike (s : Surroundings) (strict : Value) :
    Action.Alike (Host.SameFor src src') (strictness s strict) (strictness s strict) := by
  have asked : Action.Alike (Host.SameFor src src') (Host.currentSettings s)
      (Host.currentSettings s) :=
    .zoom _ (fun _ _ same => same.settings) fun _ _ _ same => ⟨same.owner, rfl, same.tally⟩
  unfold strictness
  split
  · exact asked.bind fun _ => .pure _
  · exact .pure _

/-- What a policy does with data depends on how strict it is, and on what it finds at its source. -/
theorem enforce_alike (strict name data target : Value) :
    Action.Alike (Host.SameFor src src') (enforce ⟨strict, src⟩ name data target)
      (enforce ⟨strict, src'⟩ name data target) := by
  have counted (label : String) (d : Decision) : Action.Alike (ε := EnforcementFault)
      (Host.SameFor src src') (Host.record label d) (Host.record label d) :=
    .update fun _ _ same => ⟨same.owner, same.settings, by rw [same.tally]⟩
  -- the program is looked at only to find the contract, and what is found is the same
  refine .state fun h h' same => ?_
  have decided (r : ValidationResult) : decide ⟨strict, src'⟩ r = decide ⟨strict, src⟩ r := rfl
  simp only [same.owner, decided]
  refine .bind (.noted _) fun outcome => .bind (.of _) fun label => ?_
  generalize decide ⟨strict, src⟩ outcome = d
  refine .bind (counted label d) fun _ => ?_
  cases entry? d label name target outcome.violations with
  | none => exact .pure _
  | some entry =>
    refine .bind (.of _) fun told => .bind (.note told) fun _ => ?_
    cases d with
    | rejected => exact .fail _
    | passed | warned => exact .pure _

end Policy

namespace GuardedFunction

variable {g : GuardedFunction} {s : Surroundings} {bound bound' : NamedArguments} {a a' : Argument}

theorem decision_eq : g.decision s bound a =
    Action.mapError CallFault.settings (Policy.strictness s g.guard.strict) >>= fun strict =>
      Action.mapError CallFault.enforcement
        (Policy.enforce ⟨strict, g.guard.sourceAt g.function bound⟩ g.contract a.value
          (.text g.function.target)) := by
  simp only [decision, Policy.make_eq, Action.mapError_bind, bind_assoc]
  exact bind_congr fun strict => pure_bind _ _

/-- What a guard decides depends on what it finds at its source, and on the watched argument. -/
theorem decision_alike (same : a.value = a'.value) :
    Action.Alike (Host.SameFor (g.guard.sourceAt g.function bound)
      (g.guard.sourceAt g.function bound')) (g.decision s bound a) (g.decision s bound' a') := by
  rw [decision_eq, decision_eq, same]
  refine .bind (.mapError _ (Policy.strictness_alike s _)) fun strict => ?_
  exact .mapError _ (Policy.enforce_alike strict _ _ _)

/-- What a guard looks at in a call whose arguments are bound, if it takes contracts from the owner
of its function. -/
structure LooksAtOwner (g : GuardedFunction) (s : Surroundings) (arguments : List Value)
    (named : List (String × Value)) (bound : NamedArguments) (a : Argument) : Prop where
  /-- The owner of a method is its receiver. -/
  method : ∀ r p rest, g.function.receiver = some r → g.function.signature = p :: rest →
    p.kind.isSingle = true → p.name ∈ Function.receiverNames →
    (∀ q ∈ rest, q.name ∉ Function.receiverNames) → g.function.ownerSource bound = .holder r.holder
  /-- The owner of a function without a receiver is its module. -/
  plain : (∀ p ∈ g.function.signature, p.name ∉ Function.receiverNames) →
    g.function.ownerSource bound = g.function.moduleSource
  /-- The call comes to what is decided on the watched argument. -/
  decided : ∀ h, g.call s arguments named h = (g.decision s bound a >>= fun _ => pure bound) h
  /-- The decision depends on the owner's contracts and on the watched argument alone: it is that on
  any other call with these two. -/
  determined : ∀ arguments' named' bound' a', g.assigned arguments' named' = .ok bound' →
    bound'.argument? g.watched = some a' → a.value = a'.value →
      ∀ h h', Host.SameFor (g.function.ownerSource bound) (g.function.ownerSource bound') h h' →
        (g.decision s bound a h).2 = (g.decision s bound' a' h').2 ∧
          (g.decision s bound a h).1.tally = (g.decision s bound' a' h').1.tally
  /-- Where there is an owner, it does not count what the registry holds that all share, unless this
  is the very registry attached to the owner. -/
  apart : ¬g.function.Ownerless bound → ∀ h h' : Host, h.AgreeBesideShared h' →
    ¬(g.function.ownerSource bound).SharesAll h.store →
    ¬(g.function.ownerSource bound).SharesAll h'.store →
      (g.call s arguments named h).2 = (g.call s arguments named h').2 ∧
        (g.call s arguments named h).1.tally = (g.call s arguments named h').1.tally
  /-- An owner that does not hold the contract makes the argument violate it. -/
  absent : ∀ h : Host, (h.store.ownerOf (g.function.ownerSource bound)).find? g.contract = none →
    ∃ label, g.contract.display = .ok label ∧
      ∀ p, (Policy.make s g.guard.strict (g.function.ownerSource bound) h).2.result = .ok p →
        p.Decided g.contract bound
          (.ok (.error [⟨contractField, "contract " ++ label ++ " not found", []⟩]))
          (g.call s arguments named h).2.result
  /-- Where there is no owner, the contract is looked up in the registry that all share. -/
  lost : g.function.Ownerless bound → ∀ h : Host,
    h.store.ownerOf (g.function.ownerSource bound) = .registry h.store.sharedRegistry

theorem decided_of_policy {h : Host} {p : Policy} {label : String}
    (hl : g.contract.display = .ok label)
    (hm : (Policy.make s g.guard.strict (g.guard.sourceAt g.function bound) h).2.result = .ok p) :
    p.Decided g.contract bound (validate (h.store.ownerOf p.source) g.contract a.value).result
      ((g.decision s bound a h).2.result.map fun _ => bound) := by
  obtain ⟨-, store, -⟩ := Policy.make_eq_ok hm
  rw [decision_of_policy hm, ← store]
  exact Policy.decided_of_enforce hl

theorem call_alike {arguments : List Value} {named : List (String × Value)}
    (decided : ∀ h, g.call s arguments named h = (g.decision s bound a >>= fun _ => pure bound) h) :
    Action.Alike (Host.SameFor (g.guard.sourceAt g.function bound)
      (g.guard.sourceAt g.function bound)) (g.call s arguments named)
      (g.call s arguments named) := by
  rw [show g.call s arguments named = g.decision s bound a >>= fun _ => pure bound from
    funext decided]
  exact .bind (decision_alike rfl) fun _ => .pure _

end GuardedFunction

/-- A guard that takes contracts from the owner of its function refuses arguments that do not fit
whatever the program, and otherwise looks at the owner. -/
theorem owner_guard_looks_at_owner {g : Guard} {f : Function} {gd : GuardedFunction}
    (lawful : f.signature.Lawful) (set : (g.setOn f).result = .ok gd) (owner : g.source = .owner)
    (s : Surroundings) (arguments : List Value) (named : List (String × Value)) :
    (∀ fault, gd.assigned arguments named = .error fault →
      ∀ h, gd.call s arguments named h = (h, .fail (.binding fault))) ∧
    ∀ bound, gd.assigned arguments named = .ok bound →
      ∃ a, bound.argument? gd.watched = some a ∧ gd.LooksAtOwner s arguments named bound a := by
  obtain ⟨rfl, rfl, ⟨label, hl⟩, watched⟩ := Guard.setOn_eq_ok set
  refine ⟨fun fault hb h => GuardedFunction.call_of_unbound hb, fun bound hb => ?_⟩
  obtain ⟨a, found, -⟩ := GuardedFunction.call_of_bound (h := default) (s := s) lawful ⟨label, hl⟩
    watched hb
  have decided : ∀ h, gd.call s arguments named h =
      (gd.decision s bound a >>= fun _ => pure bound) h := by
    intro h
    obtain ⟨b, again, hc⟩ := GuardedFunction.call_of_bound (h := h) (s := s) lawful ⟨label, hl⟩
      watched hb
    obtain rfl := Option.some.inj (found.symm.trans again)
    exact hc
  have names : bound.map (·.1) = gd.function.signature.map (·.name) :=
    Signature.names_assign lawful hb
  have source (b : NamedArguments) :
      gd.guard.sourceAt gd.function b = gd.function.ownerSource b := by
    rw [Guard.sourceAt, owner]
  refine ⟨a, found, ?_⟩
  constructor
  case decided => exact decided
  case method =>
    intro r p rest receiver signature single usual only
    refine Function.ownerSource_of_method receiver signature names ?_ usual only
    simp only [GuardedFunction.assigned, signature, Function.positions, receiver] at hb
    exact Signature.argument?_first single hb
  case plain => exact Function.ownerSource_of_plain names
  case determined =>
    intro arguments' named' bound' a' _ _ same h h' alike
    rw [← source, ← source] at alike
    obtain ⟨result, after⟩ := GuardedFunction.decision_alike (s := s) same h h' alike
    exact ⟨result, after.tally⟩
  case apart =>
    intro found h h' agree hs ht
    have alike : Host.SameFor (gd.guard.sourceAt gd.function bound)
        (gd.guard.sourceAt gd.function bound) h h' := by
      rw [source]
      refine ⟨?_, agree.settings, agree.tally⟩
      exact Store.ownerOf_eq_of_found agree.store (mt Function.ownerSource_eq_shared_iff.mp found)
        hs ht
    obtain ⟨result, after⟩ := GuardedFunction.call_alike decided h h' alike
    exact ⟨result, after.tally⟩
  case absent =>
    intro h absent
    refine ⟨label, hl, fun p hm => ?_⟩
    obtain ⟨at', -⟩ := Policy.make_eq_ok hm
    have outcome : (validate (h.store.ownerOf p.source) gd.contract a.value).result =
        .ok (.error [⟨contractField, "contract " ++ label ++ " not found", []⟩]) := by
      rw [at', validate_of_unknown absent]
      exact unknownContract_eq_ok_iff.mpr ⟨label, hl, rfl⟩
    rw [decided, GuardedFunction.result_of_bind, ← outcome]
    rw [← source] at hm
    exact GuardedFunction.decided_of_policy hl hm
  case lost =>
    intro ownerless h
    rw [Function.ownerSource_eq_shared_iff.mpr ownerless, Store.ownerOf]

/-- A method that takes a parcel, with a strict guard that asks the owner. -/
def guardedCreate : GuardedFunction :=
  ⟨⟨"create", "Api.create", "app.api", some none, "", [⟨"self", .normal, none⟩,
      ⟨"data", .normal, none⟩], some ⟨⟨"Api", "<Api instance>", 0⟩, ⟨0⟩⟩⟩,
    ⟨.text "parcel", .owner, none, .bool true⟩, "data"⟩

/-- A program with nothing in the registry that all share, and a contract attached to one holder. -/
def parcelHost : Host :=
  ⟨⟨[.empty, ⟨[("parcel", parcel [])]⟩], some ⟨0⟩, [⟨"Api", [], some (.registry ⟨1⟩)⟩]⟩, none,
    .empty⟩

/-- The same program with a contract of that name registered for all, which every map satisfies. -/
def crowdedHost : Host :=
  { parcelHost with store := parcelHost.store.put ⟨0⟩ ⟨[("parcel", ⟨"parcel", []⟩)]⟩ }

theorem parcelHost_agrees : parcelHost.AgreeBesideShared crowdedHost :=
  ⟨Store.agreeBesideShared_put rfl _, rfl, rfl⟩

/-- What is registered for all makes no difference to the method. -/
theorem create_apart :
    (guardedCreate.call default [.map [(.text "code", .int 1)]] [] parcelHost).2 =
      (guardedCreate.call default [.map [(.text "code", .int 1)]] [] crowdedHost).2 := by
  have set : (guardedCreate.guard.setOn guardedCreate.function).result = .ok guardedCreate := by
    cbv
  obtain ⟨a, -, looks⟩ := (owner_guard_looks_at_owner (by decide) set rfl default
    [.map [(.text "code", .int 1)]] []).2
      [("self", .made (.handle ⟨"Api", "<Api instance>", 0⟩)),
        ("data", .passed (.map [(.text "code", .int 1)]))] (by cbv)
  have source := looks.method _ _ _ rfl rfl rfl (by decide) (by decide)
  refine (looks.apart ?_ parcelHost crowdedHost parcelHost_agrees ?_ ?_).1
  · rw [← Function.ownerSource_eq_shared_iff, source]
    intro lost
    cases lost
  -- what is attached to the holder is the other registry
  · rw [source]
    rintro ⟨k, ⟨⟩, attached⟩
    cases attached
  · rw [source]
    rintro ⟨k, ⟨⟩, attached⟩
    cases attached

/-- A function whose module cannot be found, with a strict guard that asks the owner. -/
def guardedStray : GuardedFunction :=
  ⟨⟨"receive", "receive", "app.api", none, "", [⟨"data", .normal, none⟩], none⟩,
    ⟨.text "parcel", .owner, none, .bool true⟩, "data"⟩

/-- Such a function refuses a map, and takes the same map once a contract of the name is registered
for all. -/
theorem stray_looks_elsewhere :
    (guardedStray.guard.setOn guardedStray.function).result = .ok guardedStray ∧
      parcelHost.AgreeBesideShared crowdedHost ∧
      (guardedStray.call default [.map []] [] parcelHost).2.result =
        .error (.enforcement (.refused ⟨[⟨contractField, "contract parcel not found", []⟩],
          some (.text "parcel")⟩)) ∧
      (guardedStray.call default [.map []] [] crowdedHost).2.result =
        .ok [("data", .passed (.map []))] := by
  refine ⟨by cbv, parcelHost_agrees, ?_, by cbv⟩
  have fits : guardedStray.assigned [.map []] [] = .ok [("data", .passed (.map []))] := by cbv
  obtain ⟨a, found, hc⟩ := GuardedFunction.call_of_bound (s := default) (h := parcelHost)
    (by decide) ⟨"parcel", rfl⟩ ⟨_, List.mem_cons_self, rfl⟩ fits
  obtain rfl : Argument.passed (.map []) = a := Option.some.inj (Eq.trans (by cbv) found)
  -- the source that stands for no owner is the registry that all share
  have shared : (Policy.make default guardedStray.guard.strict (guardedStray.guard.sourceAt
      guardedStray.function [("data", .passed (.map []))]) parcelHost).2.result =
      .ok ⟨.bool true, .shared⟩ := rfl
  have outcome : (validate (.registry .empty) (.text "parcel") (.map [])).result =
      .ok (.error [⟨contractField, "contract parcel not found", []⟩]) := by
    cbv
  rw [hc, GuardedFunction.result_of_bind]
  have shown : guardedStray.contract.display = .ok "parcel" := rfl
  have decided := GuardedFunction.decided_of_policy (a := .passed (.map [])) shown shared
  exact decided.refused rfl _ outcome rfl (not_isOverlong_of_lt (by decide))

end DataContract
