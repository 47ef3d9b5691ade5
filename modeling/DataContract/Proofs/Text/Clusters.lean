/-
How many grapheme clusters a text has.

Whether a cluster begins at a character depends on the text before it alone, so what is appended
never changes the boundaries before it (`breaks_append`). In the appended text fewer boundaries may
remain than it has on its own, and at the seam one is lost at most: a context that has seen more
text joins whatever the other joins, except within a run of regional indicators, where the two may
pair the characters differently. `GraphemeContext.Covers` compares two such contexts, `lag` is what
the pairing can cost, and `breaks_le` the bound that one step after another keeps.

* `flatten_graphemes`, `nil_not_mem_graphemes` — the clusters are the text, cut into parts;
* `graphemeCount_le_append`, `graphemeCount_append_le` — the count of a text that is put together.
-/
import Mathlib
import DataContract.Text.Grapheme

namespace DataContract

namespace GraphemeContext

/-! ### Boundaries -/

/-- What is remembered after more of a text. -/
def after (g : GraphemeContext) (cs : List Char) : GraphemeContext :=
  cs.foldl (fun h c => h.push (GraphemeClass.of c)) g

/-- One if a cluster begins with the next character. -/
def breakAt (g : GraphemeContext) (k : GraphemeClass) : Nat :=
  if g.joins k then 0 else 1

/-- How many clusters begin in the rest of a text. -/
def breaks : GraphemeContext → List Char → Nat
  | _, [] => 0
  | g, c :: rest => g.breakAt (GraphemeClass.of c) + (g.push (GraphemeClass.of c)).breaks rest

theorem breaks_append (g : GraphemeContext) (s t : List Char) :
    g.breaks (s ++ t) = g.breaks s + (g.after s).breaks t := by
  induction s generalizing g with
  | nil => simp [breaks, after]
  | cons c s ih => simp only [List.cons_append, breaks, ih, after, List.foldl_cons, Nat.add_assoc]

theorem breakAt_le_one (g : GraphemeContext) (k : GraphemeClass) : g.breakAt k ≤ 1 := by
  unfold breakAt
  split <;> omega

theorem breaks_le_length (g : GraphemeContext) (cs : List Char) : g.breaks cs ≤ cs.length := by
  induction cs generalizing g with
  | nil => exact Nat.le_refl 0
  | cons c rest ih =>
    have here := g.breakAt_le_one (GraphemeClass.of c)
    have later := ih (g.push (GraphemeClass.of c))
    simp only [breaks, List.length_cons]
    omega

/-! ### What a boundary depends on -/

variable {g h : GraphemeContext} {k : GraphemeClass}

/-- A pictograph goes on with the cluster after a leading sign, and after a pictograph and a
joiner. -/
theorem joins_pictographic : g.joins .pictographic =
    (g.last == .leading || g.last == .joiner && g.pictographs == .joined) := by
  obtain ⟨last, odd, run⟩ := g
  cases last <;> rfl

/-- A regional indicator goes on with the cluster after a leading sign, and as the second of a
pair. -/
theorem joins_regional : g.joins .regional =
    (g.last == .leading || g.last == .regional && g.oddRegionals) := by
  obtain ⟨last, odd, run⟩ := g
  cases last <;> rfl

/-- For all other characters the last class decides. -/
theorem joins_of_last (last : g.last = h.last) (pictograph : k ≠ .pictographic)
    (regional : k ≠ .regional) : g.joins k = h.joins k := by
  obtain ⟨l, odd, run⟩ := g
  obtain ⟨l', odd', run'⟩ := h
  cases last
  cases k with
  | pictographic => exact absurd rfl pictograph
  | regional => exact absurd rfl regional
  | _ => cases l <;> rfl

/-! ### Two contexts -/

/-- Both contexts have the same class last, and a run of pictographs that the second has seen, the
first has seen too. -/
structure Covers (g h : GraphemeContext) : Prop where
  last : g.last = h.last
  run : h.pictographs ≠ .none → g.pictographs = h.pictographs

/-- One if the first context takes the next regional indicator for the beginning of a pair, and the
second for its end. -/
def lag (g h : GraphemeContext) : Nat :=
  if g.last = .regional ∧ g.oddRegionals = false ∧ h.oddRegionals = true then 1 else 0

theorem lag_le_one (g h : GraphemeContext) : lag g h ≤ 1 := by
  unfold lag
  split <;> omega

theorem lag_of_last (other : g.last ≠ .regional) : lag g h = 0 :=
  if_neg fun all => other all.1

theorem Covers.push (cover : Covers g h) (k : GraphemeClass) : Covers (g.push k) (h.push k) := by
  refine ⟨rfl, fun seen => ?_⟩
  simp only [GraphemeContext.push] at seen ⊢
  cases run : h.pictographs with
  | none => cases k <;> simp_all
  | «open» => rw [cover.run (by simp [run]), run]
  | joined => rw [cover.run (by simp [run]), run]

/-- A context that has seen no text before a character is covered by every one that has. -/
theorem covers_start (g : GraphemeContext) (k : GraphemeClass) : Covers (g.push k) (start k) := by
  refine ⟨rfl, fun seen => ?_⟩
  by_cases pictograph : k = .pictographic
  · subst pictograph
    rfl
  · simp [start, pictograph] at seen

/-- One character on, the first context has at most as many boundaries more as it has gained
on the second in the pairing. -/
theorem Covers.breakAt_le (cover : Covers g h) (k : GraphemeClass) :
    g.breakAt k + lag (g.push k) (h.push k) ≤ h.breakAt k + lag g h := by
  by_cases regional : k = .regional
  · subst regional
    by_cases paired : g.last = .regional
    -- within a run of indicators: the pairings differ, or they are the same
    · have other : h.last = .regional := cover.last ▸ paired
      simp only [breakAt, joins_regional, lag, GraphemeContext.push, paired, other]
      cases g.oddRegionals <;> cases h.oddRegionals <;> decide
    -- the first of a run is paired alike, whatever stands before it
    · have other : h.last ≠ .regional := cover.last ▸ paired
      simp [breakAt, joins_regional, lag, GraphemeContext.push, other, cover.last]
  · have none : lag (g.push k) (h.push k) = 0 := lag_of_last regional
    rw [none]
    by_cases pictograph : k = .pictographic
    -- where the second context joins a pictograph, the first does
    · subst pictograph
      have more : h.joins .pictographic = true → g.joins .pictographic = true := by
        simp only [joins_pictographic, Bool.or_eq_true, Bool.and_eq_true, beq_iff_eq, cover.last]
        rintro (leading | ⟨joiner, run⟩)
        · exact .inl leading
        · exact .inr ⟨joiner, (cover.run (by simp [run])).trans run⟩
      simp only [breakAt]
      cases second : h.joins .pictographic with
      | true => simp [more second]
      | false => cases g.joins .pictographic <;> simp
    · simp only [breakAt, joins_of_last cover.last pictograph regional]
      omega

/-- A context that has seen more text finds no more boundaries than the other, but for one that
the pairing of regional indicators can cost. -/
theorem Covers.breaks_le (cover : Covers g h) (cs : List Char) :
    g.breaks cs ≤ h.breaks cs + lag g h := by
  induction cs generalizing g h with
  | nil => exact Nat.zero_le _
  | cons c rest ih =>
    have here := cover.breakAt_le (GraphemeClass.of c)
    have later := ih (cover.push (GraphemeClass.of c))
    simp only [breaks]
    omega

/-- With a boundary before it, a first character is paired as it is on its own. -/
theorem breakAt_add_lag_start (g : GraphemeContext) (k : GraphemeClass) :
    g.breakAt k + lag (g.push k) (start k) ≤ 1 := by
  by_cases joined : g.joins k = true
  · have one := lag_le_one (g.push k) (start k)
    simpa [breakAt, joined] using one
  · have none : lag (g.push k) (start k) = 0 := by
      refine if_neg fun ⟨regional, even, _⟩ => joined ?_
      obtain rfl : k = .regional := regional
      rw [joins_regional]
      simp only [GraphemeContext.push, beq_self_eq_true, Bool.true_and, Bool.not_eq_false'] at even
      simp [even]
    rw [none]
    exact g.breakAt_le_one k

/-- After any text there are at most as many boundaries as a text has clusters on its own. -/
theorem breaks_cons_le (g : GraphemeContext) (c : Char) (rest : List Char) :
    g.breaks (c :: rest) ≤ (start (GraphemeClass.of c)).breaks rest + 1 := by
  have seam := g.breakAt_add_lag_start (GraphemeClass.of c)
  have later := (g.covers_start (GraphemeClass.of c)).breaks_le rest
  simp only [breaks]
  omega

end GraphemeContext

/-! ### Clusters -/

variable {g : GraphemeContext} {cs s t : List Char}

theorem length_graphemesFrom (g : GraphemeContext) (cs : List Char) :
    (graphemesFrom g cs).2.length = g.breaks cs := by
  induction cs generalizing g with
  | nil => rfl
  | cons c rest ih =>
    simp only [graphemesFrom, GraphemeContext.breaks, GraphemeContext.breakAt, ← ih]
    split
    · exact (Nat.zero_add _).symm
    · exact Nat.add_comm _ 1

theorem flatten_graphemesFrom (g : GraphemeContext) (cs : List Char) :
    (graphemesFrom g cs).1 ++ (graphemesFrom g cs).2.flatten = cs := by
  induction cs generalizing g with
  | nil => rfl
  | cons c rest ih =>
    have later := ih (g.push (GraphemeClass.of c))
    simp only [graphemesFrom]
    split
    · exact congrArg (c :: ·) later
    · exact congrArg (c :: ·) later

theorem nil_not_mem_graphemesFrom (g : GraphemeContext) (cs : List Char) :
    [] ∉ (graphemesFrom g cs).2 := by
  induction cs generalizing g with
  | nil => exact List.not_mem_nil
  | cons c rest ih =>
    have later := ih (g.push (GraphemeClass.of c))
    simp only [graphemesFrom]
    split
    · exact later
    · simpa using later

/-- The clusters of a text are the text, cut into parts. -/
theorem flatten_graphemes (cs : List Char) : (graphemes cs).flatten = cs := by
  cases cs with
  | nil => rfl
  | cons c rest => exact congrArg (c :: ·) (flatten_graphemesFrom _ rest)

/-- No cluster is empty. -/
theorem nil_not_mem_graphemes (cs : List Char) : [] ∉ graphemes cs := by
  cases cs with
  | nil => exact List.not_mem_nil
  | cons c rest =>
    have later := nil_not_mem_graphemesFrom (.start (GraphemeClass.of c)) rest
    simpa [graphemes] using later

theorem length_graphemes_cons (c : Char) (rest : List Char) :
    (graphemes (c :: rest)).length =
      (GraphemeContext.start (GraphemeClass.of c)).breaks rest + 1 := by
  simp only [graphemes, List.length_cons, length_graphemesFrom]

theorem length_graphemes_eq_zero_iff : (graphemes cs).length = 0 ↔ cs = [] := by
  cases cs with
  | nil => simp [graphemes]
  | cons c rest => simp [length_graphemes_cons]

theorem length_graphemes_le_length (cs : List Char) : (graphemes cs).length ≤ cs.length := by
  cases cs with
  | nil => exact Nat.le_refl 0
  | cons c rest =>
    rw [length_graphemes_cons]
    exact Nat.succ_le_succ (GraphemeContext.breaks_le_length _ rest)

/-- What is appended takes no boundary away. -/
theorem length_graphemes_le_append (s t : List Char) :
    (graphemes s).length ≤ (graphemes (s ++ t)).length := by
  cases s with
  | nil => exact Nat.zero_le _
  | cons c rest =>
    simp only [List.cons_append, length_graphemes_cons, GraphemeContext.breaks_append]
    omega

/-- A text has at most as many clusters as its parts together. -/
theorem length_graphemes_append_le (s t : List Char) :
    (graphemes (s ++ t)).length ≤ (graphemes s).length + (graphemes t).length := by
  cases s with
  | nil => exact Nat.le_add_left _ _
  | cons c rest =>
    cases t with
    | nil => simp
    | cons d more =>
      have seam := GraphemeContext.breaks_cons_le
        ((GraphemeContext.start (GraphemeClass.of c)).after rest) d more
      simp only [List.cons_append, length_graphemes_cons, GraphemeContext.breaks_append]
      omega

/-! ### The count -/

theorem graphemeCount_eq_zero_iff {s : String} : graphemeCount s = 0 ↔ s = "" := by
  rw [graphemeCount, length_graphemes_eq_zero_iff, String.toList_eq_nil_iff]

theorem graphemeCount_le_length (s : String) : graphemeCount s ≤ s.length := by
  rw [← String.length_toList]
  exact length_graphemes_le_length s.toList

-- Nothing keeps the consonants of a conjunct together.
example : graphemeCount "क्ष" = 2 := by decide +kernel

theorem graphemeCount_le_append (s t : String) : graphemeCount s ≤ graphemeCount (s ++ t) := by
  rw [graphemeCount, graphemeCount, String.toList_append]
  exact length_graphemes_le_append s.toList t.toList

theorem graphemeCount_append_le (s t : String) :
    graphemeCount (s ++ t) ≤ graphemeCount s + graphemeCount t := by
  rw [graphemeCount, graphemeCount, graphemeCount, String.toList_append]
  exact length_graphemes_append_le s.toList t.toList

end DataContract
