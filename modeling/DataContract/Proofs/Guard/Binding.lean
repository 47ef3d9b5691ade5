/-
How the arguments of a call are bound to the parameters of a function.

A signature that a function can have (`Signature.Lawful`) has distinct names, its kinds in order,
and at most one parameter for what is left of each sort of argument.

* `Signature.PositionsBound`, `Signature.NamesBound` — the two steps of binding, as derivations: the
  arguments by position come first, then those by name, and what is left of these is collected;
* `Signature.bind_eq_ok` — what is bound fits its parameter (`Signature.Fits`);
* `Signature.assign_listed` — a call that fits comes to one argument for each parameter, in order.
-/
import DataContract.Guard.Signature
import DataContract.Proofs.Result

namespace DataContract

/-! ### Arguments by name -/

namespace NamedArguments

variable {l : NamedArguments} {n : String} {a : Argument} {e : String × Argument}

theorem mem_of_argument? (h : l.argument? n = some a) : (n, a) ∈ l := by
  obtain ⟨e, he, rfl⟩ := Option.map_eq_some_iff.mp h
  have named : e.1 = n := by simpa using List.find?_some he
  rw [← named]
  exact List.mem_of_find?_eq_some he

theorem argument?_eq_none_iff : l.argument? n = none ↔ ∀ e ∈ l, e.1 ≠ n := by
  simp [argument?, List.find?_eq_none]

theorem has_eq_false_iff : l.has n = false ↔ ∀ e ∈ l, e.1 ≠ n := by
  rw [has, Option.isSome_eq_false_iff, Option.isNone_iff_eq_none, argument?_eq_none_iff]

theorem has_of_mem (h : (n, a) ∈ l) : l.has n = true := by
  cases hn : l.has n with
  | true => rfl
  | false => exact absurd rfl (has_eq_false_iff.mp hn _ h)

theorem mem_without_iff : e ∈ l.without n ↔ e ∈ l ∧ e.1 ≠ n := by
  simp [without]

end NamedArguments

/-! ### Signatures -/

namespace ParameterKind

/-- The place of a kind among the kinds of a signature. -/
def rank : ParameterKind → Nat
  | .positional => 0
  | .normal => 1
  | .restPositional => 2
  | .named => 3
  | .restNamed => 4

/-- A parameter of one kind can stand before one of the other. -/
def Precedes (k k' : ParameterKind) : Prop :=
  k.rank < k'.rank ∨ (k = k' ∧ k.isSingle = true)

instance (k k' : ParameterKind) : Decidable (Precedes k k') :=
  inferInstanceAs (Decidable (_ ∨ _))

theorem precedes_restPositional {k : ParameterKind} (h : Precedes .restPositional k) :
    k.takesPosition = false := by
  cases k <;> simp_all [Precedes, rank, isSingle, takesPosition]

theorem takesPosition_of_precedes {k k' : ParameterKind} (h : k.Precedes k')
    (later : k.takesPosition = false) : k'.takesPosition = false := by
  cases k <;> cases k' <;> simp_all [Precedes, rank, isSingle, takesPosition]

theorem not_precedes_restNamed (k : ParameterKind) : ¬Precedes .restNamed k := by
  cases k <;> simp [Precedes, rank, isSingle]

end ParameterKind

namespace Signature

/-- What holds of the parameters of every function. -/
structure Lawful (s : Signature) : Prop where
  names : (s.map (·.name)).Nodup
  order : s.Pairwise fun p q => p.kind.Precedes q.kind
  defaults : ∀ p ∈ s, p.kind.isSingle = false → p.default = none

instance (s : Signature) : Decidable s.Lawful :=
  decidable_of_iff ((s.map (·.name)).Nodup ∧ (s.Pairwise fun p q => p.kind.Precedes q.kind) ∧
      ∀ p ∈ s, p.kind.isSingle = false → p.default.isNone)
    ⟨fun ⟨names, order, defaults⟩ =>
        ⟨names, order, fun p mem one => Option.isNone_iff_eq_none.mp (defaults p mem one)⟩,
      fun ⟨names, order, defaults⟩ =>
        ⟨names, order, fun p mem one => Option.isNone_iff_eq_none.mpr (defaults p mem one)⟩⟩

/-- What a parameter can be assigned: any argument if it takes one for itself, else a collection of
arguments. Those by name that are collected are no other parameter's. -/
inductive Fits (s : Signature) (p : Parameter) : Argument → Prop where
  | single (a : Argument) (one : p.kind.isSingle = true) : Fits s p a
  | restPositional (items : List Value) (kind : p.kind = .restPositional) :
    Fits s p (.made (.tuple items))
  | restNamed (entries : NamedArguments) (kind : p.kind = .restNamed)
    (free : ∀ e ∈ entries, ∀ q ∈ s, q.kind = .normal ∨ q.kind = .named → e.1 ≠ q.name) :
    Fits s p (.made entries.toValue)

/-- The arguments of the parameters, in their order. -/
def listed (s : Signature) (arg : Parameter → Argument) : NamedArguments :=
  s.map fun p => (p.name, arg p)

variable {s rest : Signature} {p q : Parameter} {arg : Parameter → Argument}

theorem Lawful.of_cons (h : Lawful (p :: rest)) :
    (∀ q ∈ rest, q.name ≠ p.name ∧ p.kind.Precedes q.kind) ∧ Lawful rest := by
  obtain ⟨names, order, defaults⟩ := h
  rw [List.map_cons, List.nodup_cons] at names
  rw [List.pairwise_cons] at order
  refine ⟨fun q mem => ⟨fun same => names.1 ?_, order.1 q mem⟩,
    names.2, order.2, fun q mem => defaults q (List.mem_cons_of_mem _ mem)⟩
  exact List.mem_map.mpr ⟨q, mem, same⟩

/-- Parameters of one name are one. -/
theorem Lawful.eq_of_name (h : Lawful s) (hp : p ∈ s) (hq : q ∈ s) (same : p.name = q.name) :
    p = q := by
  induction s with
  | nil => exact absurd hp List.not_mem_nil
  | cons r rest ih =>
    obtain ⟨first, others⟩ := h.of_cons
    cases hp with
    | head =>
      cases hq with
      | head => rfl
      | tail _ hq => exact absurd same.symm (first q hq).1
    | tail _ hp =>
      cases hq with
      | head => exact absurd same (first p hp).1
      | tail _ hq => exact ih others hp hq

theorem argument?_listed (arg : Parameter → Argument) (h : Lawful s) (mem : p ∈ s) :
    (s.listed arg).argument? p.name = some (arg p) := by
  cases found : (s.listed arg).argument? p.name with
  | none =>
    rw [NamedArguments.argument?_eq_none_iff] at found
    exact absurd rfl (found (p.name, arg p) (List.mem_map.mpr ⟨p, mem, rfl⟩))
  | some a =>
    obtain ⟨q, hq, same⟩ := List.mem_map.mp (NamedArguments.mem_of_argument? found)
    obtain ⟨name, rfl⟩ := Prod.mk.inj same
    rw [h.eq_of_name hq mem name]

/-! ### What is assigned -/

/-- How arguments by position are bound: one by one, until they run out or a parameter takes all
that are left. -/
inductive PositionsBound (named : NamedArguments) :
    Signature → List Argument → NamedArguments → Signature → Prop where
  | done (s : Signature) : PositionsBound named s [] [] s
  | unused {p : Parameter} {rest : Signature} (kind : p.kind = .restPositional) :
    PositionsBound named (p :: rest) [] [] rest
  | collected {p : Parameter} {rest : Signature} {a : Argument} {others : List Argument}
    (kind : p.kind = .restPositional) : PositionsBound named (p :: rest) (a :: others)
      [(p.name, .made (.tuple ((a :: others).map (·.value))))] rest
  | one {p : Parameter} {rest remaining : Signature} {a : Argument} {others : List Argument}
    {bound : NamedArguments} (kind : p.kind = .positional ∨ p.kind = .normal)
    (free : p.kind = .normal → named.has p.name = false)
    (next : PositionsBound named rest others bound remaining) :
    PositionsBound named (p :: rest) (a :: others) ((p.name, a) :: bound) remaining

/-- How arguments by name are bound: each to its parameter, the others left over. -/
inductive NamesBound : Signature → NamedArguments → NamedArguments → NamedArguments → Prop where
  | nil (named : NamedArguments) : NamesBound [] named [] named
  | rest {p : Parameter} {rest : Signature} {named bound leftover : NamedArguments}
    (kind : p.kind.isSingle = false) (next : NamesBound rest named bound leftover) :
    NamesBound (p :: rest) named bound leftover
  | default {p : Parameter} {rest : Signature} {named bound leftover : NamedArguments} {v : Value}
    (absent : named.argument? p.name = none) (default : p.default = some v)
    (next : NamesBound rest named bound leftover) : NamesBound (p :: rest) named bound leftover
  | one {p : Parameter} {rest : Signature} {named bound leftover : NamedArguments} {a : Argument}
    (kind : p.kind.isSingle = true) (given : named.argument? p.name = some a)
    (next : NamesBound rest (named.without p.name) bound leftover) :
    NamesBound (p :: rest) named ((p.name, a) :: bound) leftover

theorem positionsBound_of_eq_ok {named bound : NamedArguments} {remaining : Signature} :
    ∀ {s : Signature} {positions : List Argument},
      bindPositions named s positions = .ok (bound, remaining) →
        PositionsBound named s positions bound remaining := by
  intro s
  induction s generalizing bound with
  | nil =>
    intro positions h
    cases positions with
    | nil =>
      cases h
      exact .done []
    | cons a others => cases h
  | cons p rest ih =>
    intro positions h
    cases positions with
    | nil =>
      rw [bindPositions] at h
      split at h
      · rename_i kind
        cases h
        exact .unused kind
      -- the other parameters keep their place, to be bound by name or by default
      · split at h
        · split at h <;> cases h
          exact .done _
        · split at h <;> cases h
          exact .done _
    | cons a others =>
      rw [bindPositions] at h
      split at h
      · cases h
      · rename_i takes
        split at h
        · rename_i kind
          cases h
          exact .collected kind
        · rename_i single
          split at h
          · cases h
          · rename_i free
            obtain ⟨⟨b, r⟩, hb, hr⟩ := bind_eq_ok_iff.mp h
            cases hr
            refine .one ?_ ?_ (ih hb)
            · cases hk : p.kind <;> simp_all [ParameterKind.takesPosition]
            · intro kind
              simpa [kind] using free

theorem namesBound_of_eq_ok {s : Signature} :
    ∀ {named bound leftover : NamedArguments}, bindNames s named = .ok (bound, leftover) →
      NamesBound s named bound leftover := by
  induction s with
  | nil =>
    intro named bound leftover h
    cases h
    exact .nil _
  | cons p rest ih =>
    intro named bound leftover h
    rw [bindNames] at h
    split at h
    · rename_i kind
      exact .rest (by simpa using kind) (ih h)
    · rename_i kind
      split at h
      · rename_i absent
        split at h
        · cases h
        · rename_i default
          obtain ⟨v, hv⟩ := Option.ne_none_iff_exists'.mp (by simpa using default)
          exact .default absent hv (ih h)
      · rename_i a given
        split at h
        · cases h
        · obtain ⟨⟨b, l⟩, hb, hl⟩ := bind_eq_ok_iff.mp h
          cases hl
          exact .one (by simpa using kind) given (ih hb)

namespace PositionsBound

variable {named bound : NamedArguments} {remaining : Signature} {positions : List Argument}

theorem remaining_sub (h : PositionsBound named s positions bound remaining) :
    ∀ q ∈ remaining, q ∈ s := by
  induction h with
  | done => exact fun q mem => mem
  | unused | collected => exact fun q mem => List.mem_cons_of_mem _ mem
  | one _ _ _ ih => exact fun q mem => List.mem_cons_of_mem _ (ih q mem)

theorem fits (whole : Signature) (h : PositionsBound named s positions bound remaining) :
    ∀ e ∈ bound, ∃ p ∈ s, p.name = e.1 ∧ Fits whole p e.2 := by
  induction h with
  | done | unused => exact nofun
  | @collected p rest a others kind =>
    intro e mem
    obtain rfl := List.mem_singleton.mp mem
    exact ⟨p, List.mem_cons_self, rfl, .restPositional _ kind⟩
  | @one p rest remaining a others bound kind free next ih =>
    intro e mem
    rcases List.mem_cons.mp mem with rfl | mem
    · exact ⟨p, List.mem_cons_self, rfl, .single a (by rcases kind with k | k <;> rw [k] <;> rfl)⟩
    · obtain ⟨q, hq, name, fits⟩ := ih e mem
      exact ⟨q, List.mem_cons_of_mem _ hq, name, fits⟩

/-- A parameter that takes one argument for itself is bound, or remains. -/
theorem covers (h : PositionsBound named s positions bound remaining) :
    ∀ q ∈ s, q.kind.isSingle = true → q ∈ remaining ∨
      (∃ a, (q.name, a) ∈ bound) ∧ q.kind ≠ .named ∧
        (q.kind = .normal → named.has q.name = false) := by
  induction h with
  | done => exact fun q mem _ => .inl mem
  | unused kind | collected kind =>
    intro q mem one
    rcases List.mem_cons.mp mem with rfl | mem
    · rw [kind] at one
      cases one
    · exact .inl mem
  | @one p rest remaining a others bound kind free next ih =>
    intro q mem one
    rcases List.mem_cons.mp mem with rfl | mem
    · refine .inr ⟨⟨a, List.mem_cons_self⟩, ?_, free⟩
      rcases kind with k | k <;> rw [k] <;> nofun
    · refine (ih q mem one).imp_right fun ⟨⟨b, hb⟩, rest⟩ => ⟨⟨b, List.mem_cons_of_mem _ hb⟩, rest⟩

end PositionsBound

namespace NamesBound

variable {named bound leftover : NamedArguments}

theorem single (h : NamesBound s named bound leftover) :
    ∀ e ∈ bound, ∃ p ∈ s, p.name = e.1 ∧ p.kind.isSingle = true := by
  induction h with
  | nil => exact nofun
  | rest _ _ ih | default _ _ _ ih =>
    intro e mem
    obtain ⟨q, hq, found⟩ := ih e mem
    exact ⟨q, List.mem_cons_of_mem _ hq, found⟩
  | @one p rest named bound leftover a kind given next ih =>
    intro e mem
    rcases List.mem_cons.mp mem with rfl | mem
    · exact ⟨p, List.mem_cons_self, rfl, kind⟩
    · obtain ⟨q, hq, found⟩ := ih e mem
      exact ⟨q, List.mem_cons_of_mem _ hq, found⟩

theorem leftover_sub (h : NamesBound s named bound leftover) : ∀ e ∈ leftover, e ∈ named := by
  induction h with
  | nil => exact fun e mem => mem
  | rest _ _ ih | default _ _ _ ih => exact ih
  | one _ _ _ ih => exact fun e mem => (NamedArguments.mem_without_iff.mp (ih e mem)).1

/-- A parameter that takes one argument for itself takes all that bear its name, and is bound unless
it has a default. -/
theorem covers (h : NamesBound s named bound leftover) :
    ∀ q ∈ s, q.kind.isSingle = true →
      (∀ e ∈ leftover, e.1 ≠ q.name) ∧ (q.default = none → ∃ a, (q.name, a) ∈ bound) := by
  induction h with
  | nil => exact nofun
  | rest kind _ ih =>
    intro q mem one
    rcases List.mem_cons.mp mem with rfl | mem
    · exact absurd (one.symm.trans kind) nofun
    · exact ih q mem one
  | default absent default next ih =>
    intro q mem one
    rcases List.mem_cons.mp mem with rfl | mem
    · refine ⟨fun e he => ?_, fun none => absurd (none.symm.trans default) nofun⟩
      -- nothing bore the name before, so nothing of it is left over
      exact NamedArguments.argument?_eq_none_iff.mp absent e (next.leftover_sub e he)
    · exact ih q mem one
  | @one p rest named bound leftover a kind given next ih =>
    intro q mem one
    rcases List.mem_cons.mp mem with rfl | mem
    · refine ⟨fun e he => ?_, fun _ => ⟨a, List.mem_cons_self⟩⟩
      exact (NamedArguments.mem_without_iff.mp (next.leftover_sub e he)).2
    · obtain ⟨free, taken⟩ := ih q mem one
      refine ⟨free, fun none => ?_⟩
      obtain ⟨b, hb⟩ := taken none
      exact ⟨b, List.mem_cons_of_mem _ hb⟩

end NamesBound

theorem collectNames_eq_ok {named last : NamedArguments} (h : s.collectNames named = .ok last) :
    (named = [] ∧ last = []) ∨
      ∃ p ∈ s, p.kind = .restNamed ∧ last = [(p.name, .made named.toValue)] := by
  rw [collectNames.eq_def] at h
  split at h
  · cases h
    exact .inl ⟨rfl, rfl⟩
  · rename_i p found
    cases h
    refine .inr ⟨p, List.mem_reverse.mp (List.mem_of_find?_eq_some found), ?_, rfl⟩
    simpa using List.find?_some found
  · cases h

/-- What is bound fits, and only parameters that have a default, or collect the rest, are left
out. -/
theorem bind_eq_ok {positions : List Argument} {named bound : NamedArguments}
    (h : s.bind positions named = .ok bound) :
    (∀ e ∈ bound, ∃ p ∈ s, p.name = e.1 ∧ Fits s p e.2) ∧
      ∀ p ∈ s, p.kind.isSingle = true → p.default = none → ∃ a, (p.name, a) ∈ bound := by
  obtain ⟨⟨first, remaining⟩, hf, h⟩ := bind_eq_ok_iff.mp h
  obtain ⟨⟨second, leftover⟩, hs, h⟩ := bind_eq_ok_iff.mp h
  obtain ⟨last, hl, h⟩ := bind_eq_ok_iff.mp h
  cases h
  have byPosition := positionsBound_of_eq_ok hf
  have byName := namesBound_of_eq_ok hs
  constructor
  · intro e mem
    rcases List.mem_append.mp mem with mem | mem
    · rcases List.mem_append.mp mem with mem | mem
      · exact byPosition.fits s e mem
      · obtain ⟨p, hp, name, one⟩ := byName.single e mem
        exact ⟨p, byPosition.remaining_sub p hp, name, .single e.2 one⟩
    · obtain ⟨-, rfl⟩ | ⟨p, hp, kind, rfl⟩ := collectNames_eq_ok hl
      · exact absurd mem List.not_mem_nil
      · obtain rfl := List.mem_singleton.mp mem
        refine ⟨p, byPosition.remaining_sub p hp, rfl, .restNamed leftover kind ?_⟩
        -- an argument under such a name was refused, or taken by the parameter
        intro e he q hq kind
        have one : q.kind.isSingle = true := by rcases kind with k | k <;> rw [k] <;> rfl
        obtain remains | ⟨-, other, free⟩ := byPosition.covers q hq one
        · exact (byName.covers q remains one).1 e he
        · have absent := free (kind.resolve_right other)
          exact NamedArguments.has_eq_false_iff.mp absent e (byName.leftover_sub e he)
  · intro p hp one none
    obtain remains | ⟨⟨a, ha⟩, -⟩ := byPosition.covers p hp one
    · obtain ⟨a, ha⟩ := (byName.covers p remains one).2 none
      exact ⟨a, List.mem_append_left _ (List.mem_append_right _ ha)⟩
    · exact ⟨a, List.mem_append_left _ (List.mem_append_left _ ha)⟩

/-- A parameter that may go without an argument has a default that fits. -/
theorem fits_default (h : Lawful s) (mem : p ∈ s)
    (needed : p.kind.isSingle = true → p.default ≠ none) :
    ∃ a, defaultOf p = some a ∧ Fits s p a := by
  cases hd : p.default with
  | some v =>
    refine ⟨.made v, by rw [defaultOf, hd], .single _ ?_⟩
    cases one : p.kind.isSingle with
    | true => rfl
    | false => exact absurd (hd.symm.trans (h.defaults p mem one)) nofun
  | none =>
    cases hk : p.kind with
    | restPositional => exact ⟨_, by rw [defaultOf, hd, hk], .restPositional [] hk⟩
    | restNamed => exact ⟨_, by rw [defaultOf, hd, hk]; rfl, .restNamed [] hk nofun⟩
    | positional | normal | named => exact absurd hd (needed (by rw [hk]; rfl))

/-- What is assigned is one argument for each parameter, in order, and fits it. -/
theorem assign_listed {positions : List Argument} {named l : NamedArguments} (h : Lawful s)
    (ha : s.assign positions named = .ok l) :
    ∃ arg : Parameter → Argument, (∀ p ∈ s, Fits s p (arg p)) ∧ l = s.listed arg := by
  rw [assign] at ha
  cases hb : s.bind positions named with
  | error e =>
    rw [hb] at ha
    cases ha
  | ok bound =>
    rw [hb] at ha
    cases ha
    obtain ⟨fits, needed⟩ := bind_eq_ok hb
    have each : ∀ p ∈ s, ∃ a, ((bound.argument? p.name).orElse fun _ => defaultOf p) = some a ∧
        Fits s p a := by
      intro p mem
      cases found : bound.argument? p.name with
      | some a =>
        obtain ⟨q, hq, name, fits⟩ := fits _ (NamedArguments.mem_of_argument? found)
        -- names are distinct, so the entry found is that of the parameter itself
        obtain rfl := h.eq_of_name hq mem name
        exact ⟨a, rfl, fits⟩
      | none =>
        refine fits_default h mem fun one none => ?_
        obtain ⟨a, ha⟩ := needed p mem one none
        exact NamedArguments.argument?_eq_none_iff.mp found _ ha rfl
    -- the argument of each parameter: the one bound to it, or else its default
    refine ⟨fun p => ((bound.argument? p.name).orElse fun _ => defaultOf p).getD default, ?_, ?_⟩
    · intro p mem
      obtain ⟨a, ha, fits⟩ := each p mem
      simp only [ha]
      exact fits
    · rw [complete, listed, List.filterMap_eq_map_iff_forall_eq_some]
      intro p mem
      obtain ⟨a, ha, -⟩ := each p mem
      rw [ha]
      rfl

end Signature

end DataContract
