/-
Arguments that were assigned to parameters, passed on in a call.

A guard passes on what it was called with. Spread into a call (`Signature.spread`), the arguments
that were assigned are assigned again just as they were (`Signature.assign_spread`): those by
position are bound one by one and what was collected of them is collected again
(`bindPositions_positionsFor`), and the same goes for those by name (`bindNames_namesFor`).
-/
import DataContract.Proofs.Guard.Binding

namespace DataContract

namespace NamedArguments

variable {l : NamedArguments}

/-- Going through a map of arguments gives them back, as made for the function. -/
theorem ofValue_toValue : ofValue l.toValue = l.map fun e => (e.1, .made e.2.value) := by
  rw [ofValue, toValue, Value.map, Value.asEntries?, Option.getD_some, List.filterMap_map,
    List.filterMap_eq_map_iff_forall_eq_some]
  exact fun e _ => rfl

theorem toValue_map_made : toValue (l.map fun e => (e.1, .made e.2.value)) = l.toValue := by
  simp [toValue, Argument.made, Function.comp_def]

end NamedArguments

namespace Signature

variable {s rest : Signature} {p : Parameter} {arg : Parameter → Argument}

/-! ### Arguments that are bound as they were assigned -/

/-- Bound arguments agree with an assignment: each is the one assigned, and what is not bound is
assigned its default. -/
structure Agrees (arg : Parameter → Argument) (s : Signature) (bound : NamedArguments) : Prop where
  given : ∀ e ∈ bound, ∃ p ∈ s, e = (p.name, arg p)
  others : ∀ p ∈ s, (p.name, arg p) ∈ bound ∨ defaultOf p = some (arg p)

theorem Agrees.append {s t : Signature} {b c : NamedArguments} (hb : Agrees arg s b)
    (hc : Agrees arg t c) : Agrees arg (s ++ t) (b ++ c) := by
  constructor
  · intro e mem
    rcases List.mem_append.mp mem with mem | mem
    · obtain ⟨p, hp, he⟩ := hb.given e mem
      exact ⟨p, List.mem_append_left t hp, he⟩
    · obtain ⟨p, hp, he⟩ := hc.given e mem
      exact ⟨p, List.mem_append_right s hp, he⟩
  · intro p mem
    rcases List.mem_append.mp mem with mem | mem
    · exact (hb.others p mem).imp_left (List.mem_append_left c)
    · exact (hc.others p mem).imp_left (List.mem_append_right b)

theorem agrees_single : Agrees arg [p] [(p.name, arg p)] := by
  refine ⟨fun e mem => ⟨p, List.mem_cons_self, List.mem_singleton.mp mem⟩, fun q mem => .inl ?_⟩
  obtain rfl := List.mem_singleton.mp mem
  exact List.mem_cons_self

theorem agrees_default (default : defaultOf p = some (arg p)) : Agrees arg [p] [] := by
  refine ⟨nofun, fun q mem => .inr ?_⟩
  obtain rfl := List.mem_singleton.mp mem
  exact default

theorem complete_of_agrees {bound : NamedArguments} (h : Lawful s) (agrees : Agrees arg s bound) :
    s.complete bound = s.listed arg := by
  have each : ∀ p ∈ s, ((bound.argument? p.name).orElse fun _ => defaultOf p) = some (arg p) := by
    intro p mem
    cases found : bound.argument? p.name with
    | none =>
      rw [NamedArguments.argument?_eq_none_iff] at found
      rcases agrees.others p mem with taken | default
      · exact absurd rfl (found _ taken)
      · exact default
    | some a =>
      obtain ⟨q, hq, same⟩ := agrees.given _ (NamedArguments.mem_of_argument? found)
      obtain ⟨name, rfl⟩ := Prod.mk.inj same
      rw [h.eq_of_name mem hq name]
      rfl
  rw [complete, listed, List.filterMap_eq_map_iff_forall_eq_some]
  intro p mem
  rw [each p mem]
  rfl

/-! ### Arguments that are passed on -/

/-- The arguments by position that pass a parameter's argument on. -/
def positionsFor (arg : Parameter → Argument) (p : Parameter) : List Argument :=
  asPositions p (arg p)

/-- The arguments by name that pass a parameter's argument on. -/
def namesFor (arg : Parameter → Argument) (p : Parameter) : NamedArguments :=
  asNames p (arg p)

/-- The parameters that come before those by name alone. -/
def leading (s : Signature) : Signature := s.takeWhile (·.kind.takesPosition)

/-- The parameters by name alone. -/
def trailing (s : Signature) : Signature := s.dropWhile (·.kind.takesPosition)

theorem mem_of_trailing (mem : p ∈ s.trailing) : p ∈ s :=
  (List.dropWhile_sublist _).mem mem

theorem trailing_of_later (later : ∀ q ∈ s, q.kind.takesPosition = false) :
    s.leading = [] ∧ s.trailing = s := by
  cases s with
  | nil => exact ⟨rfl, rfl⟩
  | cons p rest =>
    have hp := later p List.mem_cons_self
    exact ⟨by simp [leading, hp], by simp [trailing, hp]⟩

theorem cons_of_earlier (rest : Signature) (earlier : p.kind.takesPosition = true) :
    leading (p :: rest) = p :: leading rest ∧ trailing (p :: rest) = trailing rest := by
  simp [leading, trailing, earlier]

/-- Where every parameter has an argument, it is passed by position exactly if it can be. -/
theorem spread_of_given {l : NamedArguments}
    (given : ∀ p ∈ s, l.argument? p.name = some (arg p)) :
    spreadPositions l s = s.leading.flatMap (positionsFor arg) ∧
      spreadNames l s = s.trailing.flatMap (namesFor arg) := by
  induction s with
  | nil => exact ⟨rfl, rfl⟩
  | cons p rest ih =>
    have hp := given p List.mem_cons_self
    have held : l.has p.name = true := by rw [NamedArguments.has, hp]; rfl
    obtain ⟨positions, names⟩ := ih fun q mem => given q (List.mem_cons_of_mem p mem)
    cases earlier : p.kind.takesPosition with
    | true =>
      obtain ⟨leads, trails⟩ := cons_of_earlier rest earlier
      rw [leads, trails, List.flatMap_cons, ← positions, ← names]
      exact ⟨by simp [spreadPositions, hp, earlier, positionsFor],
        by simp [spreadNames, held, earlier]⟩
    -- from the first parameter by name alone on, the others go by name as well
    | false =>
      have leads : leading (p :: rest) = [] := by simp [leading, earlier]
      have trails : trailing (p :: rest) = p :: rest := by simp [trailing, earlier]
      rw [leads, trails]
      refine ⟨by simp [spreadPositions, hp, earlier], ?_⟩
      rw [spreadNames, earlier]
      refine List.flatMap_congr fun q mem => ?_
      rw [given q mem]
      rfl

theorem spread_listed (h : Lawful s) : s.spread (s.listed arg) =
    (s.leading.flatMap (positionsFor arg), s.trailing.flatMap (namesFor arg)) := by
  obtain ⟨positions, names⟩ := spread_of_given fun p mem => argument?_listed arg h mem
  rw [spread, positions, names]

theorem Lawful.later (h : Lawful (p :: rest)) (hp : p.kind.takesPosition = false) :
    ∀ q ∈ p :: rest, q.kind.takesPosition = false := by
  intro q mem
  rcases List.mem_cons.mp mem with rfl | mem
  · exact hp
  · exact ParameterKind.takesPosition_of_precedes (h.of_cons.1 q mem).2 hp

theorem Lawful.trailing (h : Lawful s) :
    Lawful s.trailing ∧ ∀ q ∈ s.trailing, q.kind.takesPosition = false := by
  induction s with
  | nil => exact ⟨h, nofun⟩
  | cons p rest ih =>
    cases hp : p.kind.takesPosition with
    | true =>
      rw [(cons_of_earlier rest hp).2]
      exact ih h.of_cons.2
    | false =>
      rw [(trailing_of_later (h.later hp)).2]
      exact ⟨h, h.later hp⟩

/-- No argument by name that is passed on bears the name of a parameter that it is not for. -/
theorem name_ne_of_namesFor {whole : Signature} (h : Lawful whole) (hp : p ∈ whole)
    (kind : p.kind = .normal ∨ p.kind = .named) (other : p ∉ s) (sub : ∀ q ∈ s, q ∈ whole)
    (fits : ∀ q ∈ s, Fits whole q (arg q)) : ∀ e ∈ s.flatMap (namesFor arg), e.1 ≠ p.name := by
  intro e mem
  obtain ⟨q, hq, he⟩ := List.mem_flatMap.mp mem
  rw [namesFor, asNames] at he
  split at he
  -- what was collected by name avoids all such names, and other parameters bear other names
  · rename_i rest
    have hf := fits q hq
    generalize arg q = a at he hf
    cases hf with
    | single _ one =>
      rw [rest] at one
      cases one
    | restPositional items other => exact absurd (rest.symm.trans other) nofun
    | restNamed entries _ free =>
      rw [Argument.made, NamedArguments.ofValue_toValue] at he
      obtain ⟨entry, hentry, rfl⟩ := List.mem_map.mp he
      exact free entry hentry p hp kind
  · obtain rfl := List.mem_singleton.mp he
    intro same
    exact other (h.eq_of_name hp (sub q hq) same.symm ▸ hq)

theorem bindPositions_cons {named bound : NamedArguments} {remaining : Signature} {a : Argument}
    {others : List Argument} (kind : p.kind = .positional ∨ p.kind = .normal)
    (free : p.kind = .normal → named.has p.name = false)
    (hb : bindPositions named rest others = .ok (bound, remaining)) :
    bindPositions named (p :: rest) (a :: others) = .ok ((p.name, a) :: bound, remaining) := by
  rw [bindPositions, hb]
  rcases kind with k | k
  · simp only [k, ParameterKind.takesPosition]
    simp
  · simp only [k, free k, ParameterKind.takesPosition]
    rfl

theorem bindPositions_nil {named : NamedArguments} (later : ∀ q ∈ s, q.kind.takesPosition = false)
    (given : ∀ p ∈ s, p.kind = .named → named.has p.name = true) :
    bindPositions named s [] = .ok ([], s) := by
  cases s with
  | nil => rfl
  | cons p rest =>
    have hp := later p List.mem_cons_self
    have hgiven := given p List.mem_cons_self
    rw [bindPositions]
    cases hk : p.kind <;> simp_all [ParameterKind.takesPosition]

/-- Arguments that are passed on for a parameter that collects them are collected again. -/
theorem bindPositions_rest {whole : Signature} {named : NamedArguments}
    (kind : p.kind = .restPositional) (none : p.default = none) (fits : Fits whole p (arg p)) :
    ∃ first, Agrees arg [p] first ∧
      bindPositions named (p :: rest) (positionsFor arg p) = .ok (first, rest) := by
  generalize ha : arg p = a at fits
  cases fits with
  | single _ one =>
    rw [kind] at one
    cases one
  | restNamed _ other => exact absurd (kind.symm.trans other) nofun
  | restPositional items _ =>
    have passed : positionsFor arg p = items.map Argument.made := by
      rw [positionsFor, asPositions, if_pos kind, ha]
      rfl
    rw [passed]
    cases items with
    | nil =>
      refine ⟨[], agrees_default ?_, by rw [List.map_nil, bindPositions, if_pos kind]⟩
      rw [defaultOf, none, kind, ha]
    | cons v vs =>
      refine ⟨[(p.name, arg p)], agrees_single, ?_⟩
      rw [ha, List.map_cons, bindPositions]
      simp [kind, ParameterKind.takesPosition, Argument.made, Function.comp_def]

/-- Arguments by position that are passed on are bound as they were assigned. -/
theorem bindPositions_positionsFor {whole : Signature} {named : NamedArguments} (h : Lawful s)
    (fits : ∀ p ∈ s, Fits whole p (arg p))
    (free : ∀ p ∈ s, p.kind = .normal → named.has p.name = false)
    (given : ∀ p ∈ s, p.kind = .named → named.has p.name = true) :
    ∃ first, Agrees arg s.leading first ∧
      bindPositions named s (s.leading.flatMap (positionsFor arg)) = .ok (first, s.trailing) := by
  induction s with
  | nil => exact ⟨[], ⟨nofun, nofun⟩, rfl⟩
  | cons p rest ih =>
    obtain ⟨first, others⟩ := h.of_cons
    cases hk : p.kind with
    | positional | normal =>
      obtain ⟨leads, trails⟩ := cons_of_earlier rest (p := p) (by rw [hk]; rfl)
      obtain ⟨bound, agrees, hb⟩ := ih others (fun q mem => fits q (List.mem_cons_of_mem _ mem))
        (fun q mem => free q (List.mem_cons_of_mem _ mem))
        (fun q mem => given q (List.mem_cons_of_mem _ mem))
      have alone : positionsFor arg p = [arg p] := by simp [positionsFor, asPositions, hk]
      rw [leads, trails, List.flatMap_cons, alone, List.singleton_append]
      exact ⟨(p.name, arg p) :: bound, agrees_single.append agrees,
        bindPositions_cons (by simp [hk]) (free p List.mem_cons_self) hb⟩
    | restPositional =>
      -- the parameters after it go by name, so its arguments are the last by position
      obtain ⟨leads, trails⟩ := cons_of_earlier rest (p := p) (by rw [hk]; rfl)
      obtain ⟨noneLead, allTrail⟩ := trailing_of_later (s := rest) fun q mem =>
        ParameterKind.precedes_restPositional (hk ▸ (first q mem).2)
      rw [leads, trails, noneLead, allTrail, List.flatMap_singleton]
      exact bindPositions_rest hk (h.defaults p List.mem_cons_self (by rw [hk]; rfl))
        (fits p List.mem_cons_self)
    | named | restNamed =>
      have later := h.later (by rw [hk]; rfl)
      obtain ⟨leads, trails⟩ := trailing_of_later later
      rw [leads, trails]
      exact ⟨[], ⟨nofun, nofun⟩, bindPositions_nil later given⟩

theorem collectNames_cons {named : NamedArguments} (kind : p.kind ≠ .restNamed) :
    collectNames (p :: rest) named = collectNames rest named := by
  cases named with
  | nil => rfl
  | cons e others =>
    have found : (p :: rest).reverse.find? (·.kind = .restNamed) =
        rest.reverse.find? (·.kind = .restNamed) := by
      simp [List.find?_append, kind]
    rw [collectNames.eq_def, collectNames.eq_def, found]

theorem bindNames_cons {named bound leftover : NamedArguments} {a : Argument}
    (kind : p.kind = .named) (free : ∀ e ∈ named, e.1 ≠ p.name)
    (hb : bindNames rest named = .ok (bound, leftover)) :
    bindNames (p :: rest) ((p.name, a) :: named) = .ok ((p.name, a) :: bound, leftover) := by
  have found : NamedArguments.argument? ((p.name, a) :: named) p.name = some a := by
    simp [NamedArguments.argument?]
  have others : NamedArguments.without ((p.name, a) :: named) p.name = named := by
    simpa [NamedArguments.without] using free
  rw [bindNames, found]
  simp only [others, hb, kind, ParameterKind.isSingle]
  rfl

/-- Arguments that are passed on for a parameter that collects them are collected again. -/
theorem bindNames_rest {whole : Signature} (kind : p.kind = .restNamed) (none : p.default = none)
    (fits : Fits whole p (arg p)) :
    ∃ leftover last, bindNames [p] (namesFor arg p) = .ok ([], leftover) ∧
      collectNames [p] leftover = .ok last ∧ Agrees arg [p] last := by
  generalize ha : arg p = a at fits
  cases fits with
  | single _ one =>
    rw [kind] at one
    cases one
  | restPositional _ other => exact absurd (kind.symm.trans other) nofun
  | restNamed entries _ free =>
    have passed : namesFor arg p = entries.map fun e => (e.1, .made e.2.value) := by
      rw [namesFor, asNames, if_pos kind, ha]
      exact NamedArguments.ofValue_toValue
    have bound : bindNames [p] (namesFor arg p) = .ok ([], namesFor arg p) := by
      simp [bindNames, kind, ParameterKind.isSingle]
    cases entries with
    | nil =>
      refine ⟨[], [], passed ▸ bound, rfl, agrees_default ?_⟩
      rw [defaultOf, none, kind, ha]
      rfl
    | cons e others =>
      refine ⟨_, [(p.name, arg p)], bound, ?_, agrees_single⟩
      rw [passed, ha, ← NamedArguments.toValue_map_made, List.map_cons, collectNames.eq_def]
      simp [kind]

/-- Arguments by name that are passed on are bound as they were assigned, and those that were
collected are collected again. -/
theorem bindNames_namesFor {whole : Signature} (h : Lawful s) (hw : Lawful whole)
    (later : ∀ q ∈ s, q.kind.takesPosition = false) (sub : ∀ q ∈ s, q ∈ whole)
    (fits : ∀ p ∈ s, Fits whole p (arg p)) :
    ∃ second leftover last, bindNames s (s.flatMap (namesFor arg)) = .ok (second, leftover) ∧
      s.collectNames leftover = .ok last ∧ Agrees arg s (second ++ last) := by
  induction s with
  | nil => exact ⟨[], [], [], rfl, rfl, nofun, nofun⟩
  | cons p rest ih =>
    obtain ⟨first, others⟩ := h.of_cons
    have hlater := later p List.mem_cons_self
    cases hk : p.kind with
    | positional | normal | restPositional =>
      rw [hk] at hlater
      cases hlater
    | named =>
      obtain ⟨second, leftover, last, hb, hl, agrees⟩ :=
        ih others (fun q mem => later q (List.mem_cons_of_mem _ mem))
          (fun q mem => sub q (List.mem_cons_of_mem _ mem))
          (fun q mem => fits q (List.mem_cons_of_mem _ mem))
      have alone : namesFor arg p = [(p.name, arg p)] := by simp [namesFor, asNames, hk]
      have free : ∀ e ∈ rest.flatMap (namesFor arg), e.1 ≠ p.name :=
        name_ne_of_namesFor hw (sub p List.mem_cons_self) (.inr hk)
          (fun mem => (first p mem).1 rfl) (fun q mem => sub q (List.mem_cons_of_mem _ mem))
          (fun q mem => fits q (List.mem_cons_of_mem _ mem))
      refine ⟨(p.name, arg p) :: second, leftover, last, ?_, ?_, ?_⟩
      · rw [List.flatMap_cons, alone, List.singleton_append]
        exact bindNames_cons hk free hb
      · rw [collectNames_cons (by rw [hk]; nofun)]
        exact hl
      · exact agrees_single.append agrees
    | restNamed =>
      -- it is the last parameter, and all that is left over is its own
      have alone : rest = [] := List.eq_nil_iff_forall_not_mem.mpr fun q mem =>
        ParameterKind.not_precedes_restNamed _ (hk ▸ (first q mem).2)
      subst alone
      obtain ⟨leftover, last, hb, hl, agrees⟩ := bindNames_rest hk
        (h.defaults p List.mem_cons_self (by rw [hk]; rfl)) (fits p List.mem_cons_self)
      rw [List.flatMap_singleton]
      exact ⟨[], leftover, last, hb, hl, agrees⟩

/-- Arguments that fit, spread into a call, are assigned as they were. -/
theorem assign_spread (h : Lawful s) (fits : ∀ p ∈ s, Fits s p (arg p)) :
    s.assign (s.spread (s.listed arg)).1 (s.spread (s.listed arg)).2 = .ok (s.listed arg) := by
  rw [spread_listed h]
  obtain ⟨ht, later⟩ := h.trailing
  have free : ∀ p ∈ s, p.kind = .normal →
      NamedArguments.has (s.trailing.flatMap (namesFor arg)) p.name = false := by
    intro p mem kind
    rw [NamedArguments.has_eq_false_iff]
    refine name_ne_of_namesFor h mem (.inl kind) (fun trails => ?_) (fun q => mem_of_trailing)
      (fun q hq => fits q (mem_of_trailing hq))
    have hp := later p trails
    rw [kind] at hp
    cases hp
  have given : ∀ p ∈ s, p.kind = .named →
      NamedArguments.has (s.trailing.flatMap (namesFor arg)) p.name = true := by
    intro p mem kind
    -- it is not among those that take arguments by position
    have trails : p ∈ s.trailing := by
      rw [← List.takeWhile_append_dropWhile (p := (·.kind.takesPosition)) (l := s)] at mem
      refine (List.mem_append.mp mem).resolve_left fun leads => ?_
      have hp := List.all_eq_true.mp List.all_takeWhile p leads
      rw [kind] at hp
      cases hp
    refine NamedArguments.has_of_mem (a := arg p) (List.mem_flatMap.mpr ⟨p, trails, ?_⟩)
    rw [namesFor, asNames, if_neg (by rw [kind]; nofun)]
    exact List.mem_cons_self
  obtain ⟨first, agreesFirst, hf⟩ := bindPositions_positionsFor h fits free given
  obtain ⟨second, leftover, last, hs, hl, agreesRest⟩ :=
    bindNames_namesFor ht h later (fun q => mem_of_trailing)
      (fun q hq => fits q (mem_of_trailing hq))
  have whole : s.leading ++ s.trailing = s := List.takeWhile_append_dropWhile
  have agrees := agreesFirst.append agreesRest
  rw [whole, ← List.append_assoc] at agrees
  have bound : s.bind (s.leading.flatMap (positionsFor arg)) (s.trailing.flatMap (namesFor arg)) =
      .ok (first ++ second ++ last) := by
    refine bind_eq_ok_iff.mpr ⟨(first, s.trailing), hf, ?_⟩
    refine bind_eq_ok_iff.mpr ⟨(second, leftover), hs, ?_⟩
    exact bind_eq_ok_iff.mpr ⟨last, hl, rfl⟩
  rw [assign, bound, Except.map, complete_of_agrees h agrees]

end Signature

end DataContract
