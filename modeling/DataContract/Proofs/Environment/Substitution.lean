/-
Substitution is a single pass over the text.

Read from the left, a text is a row of pieces: a placeholder wherever one begins, with a body between
its braces that is not empty and has no closing brace, and else the next character as it is
(`Scans`). There is exactly one such row (`exists_scans`, `Scans.unique`), and what is substituted is
what its pieces stand for, one behind the other (`Scans.substituted`). So a text can be cut wherever
no placeholder reaches over the cut (`Scans.append`).
-/
import DataContract.Environment
import Mathlib

namespace DataContract

namespace Environment

variable {e : Environment} {cs rest body body' after after' : List Char} {c : Char}

/-! ### Up to the first of a character -/

theorem takeWhile_ne_self {a : Char} (plain : a ∉ cs) : cs.takeWhile (fun c => decide (c ≠ a)) = cs := by
  rw [List.takeWhile_eq_self_iff]
  intro d mem
  have other : d ≠ a := fun same => plain (same ▸ mem)
  simpa using other

theorem takeWhile_ne {a : Char} (plain : a ∉ cs) :
    (cs ++ a :: rest).takeWhile (fun c => decide (c ≠ a)) = cs := by
  have front : ∀ d ∈ cs, decide (d ≠ a) = true := by
    intro d mem
    have other : d ≠ a := fun same => plain (same ▸ mem)
    simpa using other
  rw [List.takeWhile_append_of_pos front, List.takeWhile_cons_of_neg (by simp), List.append_nil]

theorem not_endsPlaceholder :
    (fun c => !endsPlaceholder c) = fun c => decide (c ≠ '\x7d') := by
  funext c
  simp [endsPlaceholder]

/-! ### Where a placeholder begins -/

/-- A text begins with a placeholder: `body` stands between its braces, and `after` behind them. -/
structure Begins (cs body after : List Char) : Prop where
  some : body ≠ []
  closed : '\x7d' ∉ body
  text : cs = '$' :: '\x7b' :: (body ++ '\x7d' :: after)

/-- What stands in front of the first closing brace, and behind it, is settled by the text. -/
theorem bodies_unique (closed : '\x7d' ∉ body) (closed' : '\x7d' ∉ body')
    (same : body ++ '\x7d' :: after = body' ++ '\x7d' :: after') : body = body' ∧ after = after' := by
  have bodies : body = body' := by
    have front : (body ++ '\x7d' :: after).takeWhile _ = body := takeWhile_ne closed
    rw [← front, same, takeWhile_ne closed']
  subst bodies
  simpa using same

theorem Begins.unique (h : Begins cs body after) (h' : Begins cs body' after') :
    body = body' ∧ after = after' := by
  have same := h.text.symm.trans h'.text
  simp only [List.cons.injEq, true_and] at same
  exact bodies_unique h.closed h'.closed same

theorem Begins.length_lt (h : Begins cs body after) : after.length < cs.length := by
  rw [h.text]
  simp only [List.length_cons, List.length_append]
  omega

theorem body?_of_closed (closed : '\x7d' ∉ body) :
    body? (body ++ '\x7d' :: after) = if body.isEmpty then none else some (body, after) := by
  simp only [body?, not_endsPlaceholder, takeWhile_ne closed, List.drop_left]

theorem body?_of_endless (endless : '\x7d' ∉ cs) : body? cs = none := by
  simp only [body?, not_endsPlaceholder, takeWhile_ne_self endless, List.drop_length]

/-- Where no placeholder begins there is no body behind the opening brace. -/
theorem body?_eq_none (plain : ∀ body after, ¬Begins ('$' :: '\x7b' :: cs) body after) :
    body? cs = none := by
  by_cases mem : '\x7d' ∈ cs
  · obtain ⟨body, after, rfl, closed⟩ := List.eq_append_cons_of_mem mem
    rw [body?_of_closed closed]
    -- a body with a character in it would make a placeholder
    cases body with
    | nil => rfl
    | cons d ds => exact absurd ⟨List.cons_ne_nil d ds, closed, rfl⟩ (plain (d :: ds) after)
  · exact body?_of_endless mem

/-! ### One step of the pass -/

theorem substituted_of_begins (h : Begins cs body after) :
    e.substituted cs = e.placeholder body ++ e.substituted after := by
  obtain ⟨some, closed, rfl⟩ := h
  have found : body? (body ++ '\x7d' :: after) = .some (body, after) := by
    rw [body?_of_closed closed, if_neg (by simpa using some)]
  rw [substituted]
  split
  · next b a h =>
    cases found.symm.trans h
    rfl
  · next h => cases found.symm.trans h

theorem substituted_of_plain (plain : ∀ body after, ¬Begins (c :: rest) body after) :
    e.substituted (c :: rest) = c :: e.substituted rest := by
  by_cases opening : c = '$' ∧ ∃ inside, rest = '\x7b' :: inside
  · obtain ⟨rfl, inside, rfl⟩ := opening
    have none := body?_eq_none plain
    rw [substituted]
    split
    · next h => cases none.symm.trans h
    · rfl
  · rw [substituted]
    intro inside hc hr
    exact opening ⟨hc, inside, hr⟩

/-! ### Pieces -/

/-- A part of a text that is put in its place as a whole. -/
inductive Piece where
  | literal (c : Char)
  | placeholder (body : List Char)

/-- A piece as it is written. -/
def Piece.written : Piece → List Char
  | literal c => [c]
  | placeholder body => '$' :: '\x7b' :: (body ++ ['\x7d'])

/-- A text read from the left: a placeholder where one begins, and else the next character. -/
inductive Scans : List Char → List Piece → Prop where
  | nil : Scans [] []
  | placeholder {cs body after : List Char} {pieces : List Piece} (here : Begins cs body after)
    (behind : Scans after pieces) : Scans cs (.placeholder body :: pieces)
  | literal {c : Char} {rest : List Char} {pieces : List Piece}
    (plain : ∀ body after, ¬Begins (c :: rest) body after) (behind : Scans rest pieces) :
    Scans (c :: rest) (.literal c :: pieces)

variable {pieces others : List Piece}

theorem exists_scans (cs : List Char) : ∃ pieces, Scans cs pieces := by
  induction hn : cs.length using Nat.strongRecOn generalizing cs with
  | ind n ih =>
    cases cs with
    | nil => exact ⟨[], .nil⟩
    | cons c rest =>
      by_cases begins : ∃ body after, Begins (c :: rest) body after
      · obtain ⟨body, after, here⟩ := begins
        obtain ⟨pieces, behind⟩ := ih after.length (hn ▸ here.length_lt) after rfl
        exact ⟨_, .placeholder here behind⟩
      · have plain : ∀ body after, ¬Begins (c :: rest) body after :=
          fun body after here => begins ⟨body, after, here⟩
        obtain ⟨pieces, behind⟩ := ih rest.length (hn ▸ Nat.lt_succ_self _) rest rfl
        exact ⟨_, .literal plain behind⟩

theorem Scans.unique (h : Scans cs pieces) (h' : Scans cs others) : pieces = others := by
  induction h generalizing others with
  | nil =>
    cases h' with
    | nil => rfl
    | placeholder here => exact absurd here.text nofun
  | placeholder here _ ih =>
    cases h' with
    | nil => exact absurd here.text nofun
    | placeholder here' behind' =>
      obtain ⟨rfl, rfl⟩ := here.unique here'
      rw [ih behind']
    | literal plain => exact absurd here (plain _ _)
  | literal plain _ ih =>
    cases h' with
    | placeholder here => exact absurd here (plain _ _)
    | literal _ behind' => rw [ih behind']

/-- The pieces of a text, as they are written, are the text. -/
theorem Scans.written (h : Scans cs pieces) : pieces.flatMap Piece.written = cs := by
  induction h with
  | nil => rfl
  | placeholder here _ ih =>
    rw [List.flatMap_cons, ih, here.text]
    simp [Piece.written]
  | literal _ _ ih =>
    rw [List.flatMap_cons, ih]
    rfl

/-! ### What pieces stand for -/

/-- A body is a name alone, or a name up to the first colon and a default behind it. -/
inductive Reads : List Char → List Char → List Char → Prop where
  | name {name : List Char} (plain : ':' ∉ name) : Reads name name []
  | default {name default : List Char} (plain : ':' ∉ name) :
    Reads (name ++ ':' :: default) name default

/-- What a piece stands for: a character for itself, and a placeholder for the value of the variable
that it names, be it empty, or for its default if the variable is not set. -/
inductive StandsFor (e : Environment) : Piece → List Char → Prop where
  | literal (c : Char) : StandsFor e (.literal c) [c]
  | value {body name default : List Char} {value : String} (reads : Reads body name default)
    (set : e.get? (String.ofList name) = some value) :
    StandsFor e (.placeholder body) value.toList
  | default {body name default : List Char} (reads : Reads body name default)
    (unset : e.get? (String.ofList name) = none) : StandsFor e (.placeholder body) default

/-- A body is read in one way: the name is what stands in front of the first colon. -/
theorem reads_iff {name default : List Char} : Reads body name default ↔
    name = body.takeWhile (fun c => decide (c ≠ ':')) ∧ default = body.drop (name.length + 1) := by
  constructor
  · intro h
    cases h with
    | name plain => exact ⟨(takeWhile_ne_self plain).symm, by simp⟩
    | default plain =>
      rw [takeWhile_ne plain, ← List.drop_drop, List.drop_left]
      exact ⟨rfl, rfl⟩
  · rintro ⟨rfl, rfl⟩
    by_cases colon : ':' ∈ body
    · obtain ⟨name, default, rfl, plain⟩ := List.eq_append_cons_of_mem colon
      rw [takeWhile_ne plain, ← List.drop_drop, List.drop_left]
      exact .default plain
    · rw [takeWhile_ne_self colon, List.drop_eq_nil_of_le (Nat.le_succ _)]
      exact .name colon

theorem standsFor_placeholder_iff {part : List Char} :
    e.StandsFor (.placeholder body) part ↔ part = e.placeholder body := by
  constructor
  · intro h
    cases h with
    | value reads set =>
      obtain ⟨rfl, -⟩ := reads_iff.mp reads
      rw [placeholder, set]
      rfl
    | default reads unset =>
      obtain ⟨rfl, rfl⟩ := reads_iff.mp reads
      rw [placeholder, unset]
      rfl
  · rintro rfl
    have reads : Reads body _ _ := reads_iff.mpr ⟨rfl, rfl⟩
    rw [placeholder]
    cases known : e.get? (String.ofList (body.takeWhile fun c => decide (c ≠ ':'))) with
    | some value => exact .value reads known
    | none => exact .default reads known

theorem exists_standsFor (e : Environment) (pieces : List Piece) :
    ∃ parts, List.Forall₂ e.StandsFor pieces parts := by
  induction pieces with
  | nil => exact ⟨[], .nil⟩
  | cons piece pieces ih =>
    obtain ⟨parts, behind⟩ := ih
    cases piece with
    | literal c => exact ⟨_, .cons (.literal c) behind⟩
    | placeholder body => exact ⟨_, .cons (standsFor_placeholder_iff.mpr rfl) behind⟩

/-- What is substituted is what the pieces stand for: nothing that is put in is looked at again. -/
theorem Scans.substituted (h : Scans cs pieces) {parts : List (List Char)}
    (stand : List.Forall₂ e.StandsFor pieces parts) : e.substituted cs = parts.flatten := by
  induction h generalizing parts with
  | nil =>
    cases stand
    rw [Environment.substituted]
    rfl
  | placeholder here _ ih =>
    cases stand with
    | cons first behind =>
      rw [substituted_of_begins here, ih behind, standsFor_placeholder_iff.mp first]
      rfl
  | literal plain _ ih =>
    cases stand with
    | cons first behind =>
      cases first
      rw [substituted_of_plain plain, ih behind]
      rfl

/-! ### Texts put together -/

/-- No placeholder reaches over the end of a text, whatever follows: the text does not end with `$`,
and behind every `$` with an opening brace there is a closing one. -/
structure Whole (cs : List Char) : Prop where
  last : cs.getLast? ≠ some '$'
  closed : ∀ before behind, cs = before ++ '$' :: '\x7b' :: behind → '\x7d' ∈ behind

variable {front back : List Char}

theorem Whole.of_append (h : Whole (front ++ back)) : Whole back where
  last := by
    intro last
    apply h.last
    rw [List.getLast?_append, last, Option.some_or]
  closed before behind split := by
    apply h.closed (front ++ before)
    rw [split, List.append_assoc]

/-- A text that ends with a closing brace is whole. -/
theorem whole_of_getLast? (h : cs.getLast? = some '\x7d') : Whole cs := by
  refine ⟨by rw [h]; decide, fun before behind split => ?_⟩
  have last : ('\x7b' :: behind).getLast? = some '\x7d' := by
    rw [split, List.append_cons, List.getLast?_append_of_ne_nil _ (List.cons_ne_nil _ _)] at h
    exact h
  have mem : '\x7d' ∈ '\x7b' :: behind := List.mem_of_getLast? last
  simpa using mem

theorem Begins.append (h : Begins cs body after) (back : List Char) :
    Begins (cs ++ back) body (after ++ back) := by
  refine ⟨h.some, h.closed, ?_⟩
  rw [h.text]
  simp

/-- A placeholder that begins in a whole text ends in it. -/
theorem Whole.begins (whole : Whole (c :: rest)) (h : Begins (c :: rest ++ back) body after) :
    ∃ after', Begins (c :: rest) body after' := by
  obtain ⟨some, closed, text⟩ := h
  rw [List.cons_append] at text
  obtain ⟨rfl, behind⟩ := List.cons.inj text
  cases rest with
  | nil => exact absurd rfl whole.last
  | cons d inside =>
    obtain ⟨rfl, tails⟩ := List.cons.inj behind
    -- the first closing brace of the whole text is also the first one of all
    have mem : '\x7d' ∈ inside := whole.closed [] inside rfl
    obtain ⟨body', after', rfl, closed'⟩ := List.eq_append_cons_of_mem mem
    have same : body' ++ '\x7d' :: (after' ++ back) = body ++ '\x7d' :: after := by simpa using tails
    obtain ⟨rfl, -⟩ := bodies_unique closed' closed same
    exact ⟨after', some, closed, rfl⟩

/-- The pieces of a whole text stay as they are, whatever follows it. -/
theorem Scans.append (h : Scans front pieces) (h' : Scans back others) (whole : Whole front) :
    Scans (front ++ back) (pieces ++ others) := by
  induction h with
  | nil => exact h'
  | @placeholder cs body after pieces here _ ih =>
    have split : cs = ('$' :: '\x7b' :: (body ++ ['\x7d'])) ++ after := by
      rw [here.text]
      simp
    exact .placeholder (here.append back) (ih (split ▸ whole).of_append)
  | @literal c rest pieces plain _ ih =>
    have behind : Whole ([c] ++ rest) := whole
    refine .literal (fun body after here => ?_) (ih behind.of_append)
    obtain ⟨after', begins⟩ := whole.begins here
    exact plain body after' begins

theorem substituted_append (whole : Whole front) :
    e.substituted (front ++ back) = e.substituted front ++ e.substituted back := by
  obtain ⟨pieces, first⟩ := exists_scans front
  obtain ⟨others, second⟩ := exists_scans back
  obtain ⟨parts, stand⟩ := exists_standsFor e pieces
  obtain ⟨parts', stand'⟩ := exists_standsFor e others
  have all := List.rel_append stand stand'
  rw [first.substituted stand, second.substituted stand',
    (first.append second whole).substituted all, List.flatten_append]

theorem substituted_of_not_infix (plain : ¬['$', '\x7b'] <:+: cs) : e.substituted cs = cs := by
  induction cs with
  | nil => rw [substituted]
  | cons c rest ih =>
    have here : ∀ body after, ¬Begins (c :: rest) body after := by
      intro body after begins
      apply plain
      rw [begins.text]
      exact ⟨[], body ++ '\x7d' :: after, rfl⟩
    have behind : ¬['$', '\x7b'] <:+: rest :=
      fun inside => plain (inside.trans (List.suffix_cons c rest).isInfix)
    rw [substituted_of_plain here, ih behind]

/-- Substitution is a single pass from the left.

* A text is one row of pieces, which are characters and placeholders, and these are the text.
* What is substituted is what the pieces stand for, in their order, and they stand for something.
* Texts are substituted one by one unless a placeholder can reach from one into the next.
* A text without an opening brace behind a `$` stays as it is. -/
theorem substitute_single_pass (e : Environment) (s : String) :
    (∃! pieces, Scans s.toList pieces) ∧
    (∀ pieces, Scans s.toList pieces → pieces.flatMap Piece.written = s.toList ∧
      (∃ parts, List.Forall₂ e.StandsFor pieces parts) ∧
      ∀ parts, List.Forall₂ e.StandsFor pieces parts →
        (e.substitute s).toList = parts.flatten) ∧
    (Whole s.toList → ∀ t, e.substitute (s ++ t) = e.substitute s ++ e.substitute t) ∧
    (¬['$', '\x7b'] <:+: s.toList → e.substitute s = s) := by
  refine ⟨?_, fun pieces scans => ⟨scans.written, exists_standsFor e pieces, fun parts stand => ?_⟩,
    fun whole t => ?_, fun plain => ?_⟩
  · obtain ⟨pieces, scans⟩ := exists_scans s.toList
    exact ⟨pieces, scans, fun others scans' => scans'.unique scans⟩
  · rw [substitute, String.toList_ofList, scans.substituted stand]
  · simp only [substitute, String.toList_append, substituted_append whole, String.ofList_append]
  · rw [substitute, substituted_of_not_infix plain, String.ofList_toList]

/-- A variable that is set to what looks like a placeholder. -/
def mirrored : Environment := ⟨[("A", "$\x7bB\x7d"), ("B", "b")]⟩

/-- The value of one variable, and a default with a colon in it. -/
def mirror : String := "$\x7bA\x7d$\x7bC:x:y\x7d"

theorem mirror_substituted :
    Scans mirror.toList [.placeholder ['A'], .placeholder ['C', ':', 'x', ':', 'y']] ∧
    (mirrored.substitute mirror).toList = ['$', '\x7b', 'B', '\x7d'] ++ ['x', ':', 'y'] ∧
    Whole mirror.toList ∧
    mirrored.substitute (mirror ++ "$\x7bB") =
      mirrored.substitute mirror ++ mirrored.substitute "$\x7bB" ∧
    ¬['$', '\x7b'] <:+: "$B\x7d".toList ∧ mirrored.substitute "$B\x7d" = "$B\x7d" := by
  obtain ⟨-, pass, cut, -⟩ := substitute_single_pass mirrored mirror
  have letters : mirror.toList =
      ['$', '\x7b', 'A', '\x7d', '$', '\x7b', 'C', ':', 'x', ':', 'y', '\x7d'] := by
    decide +kernel
  have scans : Scans mirror.toList [.placeholder ['A'], .placeholder ['C', ':', 'x', ':', 'y']] := by
    rw [letters]
    exact .placeholder ⟨by decide, by decide, rfl⟩ (.placeholder ⟨by decide, by decide, rfl⟩ .nil)
  have alone : Reads ['A'] ['A'] [] := .name (by decide)
  have defaulted : Reads (['C'] ++ ':' :: ['x', ':', 'y']) ['C'] ['x', ':', 'y'] :=
    .default (by decide)
  have first : mirrored.StandsFor (.placeholder ['A']) "$\x7bB\x7d".toList :=
    .value alone (by decide +kernel)
  have second : mirrored.StandsFor (.placeholder ['C', ':', 'x', ':', 'y']) ['x', ':', 'y'] :=
    .default defaulted (by decide +kernel)
  have whole : Whole mirror.toList := whole_of_getLast? (by rw [letters]; rfl)
  have plain : ¬['$', '\x7b'] <:+: "$B\x7d".toList := by decide +kernel
  exact ⟨scans, (pass _ scans).2.2 _ (.cons first (.cons second .nil)), whole, cut whole _, plain,
    (substitute_single_pass mirrored "$B\x7d").2.2.2 plain⟩

end Environment

end DataContract
