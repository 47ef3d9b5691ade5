/-
Lengths that constraints bound.

A text passes a least or a greatest length as the count of its grapheme clusters says
(`check_minLength_eq_ok_iff`, `check_maxLength_eq_ok_iff`), so what is known of the count of a text
that is put together is known of the constraints: `lengths_count_clusters`.
-/
import DataContract.Proofs.Contract.Check
import DataContract.Proofs.Text.Clusters

namespace DataContract

namespace Constraint

variable {v : Value} {s : String} {n : Nat}

/-- A text passes a least length exactly if it has so many clusters. -/
theorem check_minLength_eq_ok_iff (text : v.asText? = some s) :
    (minLength n).check v = .ok none ↔ n ≤ graphemeCount s := by
  simp only [check, text]
  exact unless_message_eq_ok_none_iff

/-- A text passes a greatest length exactly if it has no more clusters. -/
theorem check_maxLength_eq_ok_iff (text : v.asText? = some s) :
    (maxLength n).check v = .ok none ↔ graphemeCount s ≤ n := by
  simp only [check, text]
  exact unless_message_eq_ok_none_iff

end Constraint

open Constraint

/-- What lengths count. The clusters of a text are not empty and put together are the text; there
are none exactly if it is empty, and at most as many as it has code points. What is appended to a
text takes none of its clusters away and brings at most its own. So a text `v` that is long enough
stays so when anything is appended to it, and one that is short enough has short enough
beginnings. -/
theorem lengths_count_clusters {s t : String} {v w : Value} (text : v.asText? = some s)
    (longer : w.asText? = some (s ++ t)) :
    ((graphemes s.toList).flatten = s.toList ∧ (∀ cluster ∈ graphemes s.toList, cluster ≠ []) ∧
      (graphemeCount s = 0 ↔ s = "") ∧ graphemeCount s ≤ s.length) ∧
    (graphemeCount s ≤ graphemeCount (s ++ t) ∧
      graphemeCount (s ++ t) ≤ graphemeCount s + graphemeCount t) ∧
    (∀ n, (minLength n).check v = .ok none → (minLength n).check w = .ok none) ∧
    (∀ n, (maxLength n).check w = .ok none → (maxLength n).check v = .ok none) ∧
    (∀ n, s.length ≤ n → (maxLength n).check v = .ok none) ∧
    (∀ n m, (minLength n).check v = .ok none ∧ (maxLength m).check v = .ok none ↔
      n ≤ graphemeCount s ∧ graphemeCount s ≤ m) ∧
    ∀ n m, m < n → ¬((minLength n).check v = .ok none ∧ (maxLength m).check v = .ok none) := by
  have more := graphemeCount_le_append s t
  have points := graphemeCount_le_length s
  have least : ∀ n, (minLength n).check v = .ok none ↔ n ≤ graphemeCount s :=
    fun n => check_minLength_eq_ok_iff text
  have greatest : ∀ n, (maxLength n).check v = .ok none ↔ graphemeCount s ≤ n :=
    fun n => check_maxLength_eq_ok_iff text
  refine ⟨⟨flatten_graphemes s.toList, ?_, graphemeCount_eq_zero_iff, points⟩,
    ⟨more, graphemeCount_append_le s t⟩, fun n enough => ?_, fun n fits => ?_,
    fun n fits => (greatest n).mpr (points.trans fits),
    fun n m => and_congr (least n) (greatest m), fun n m crossed both => ?_⟩
  · rintro cluster mem rfl
    exact nil_not_mem_graphemes s.toList mem
  · exact (check_minLength_eq_ok_iff longer).mpr (((least n).mp enough).trans more)
  · exact (greatest n).mpr (more.trans ((check_maxLength_eq_ok_iff longer).mp fits))
  · have enough := (least n).mp both.1
    have fits := (greatest m).mp both.2
    omega

/-- Three regional indicators are a pair and one more, wherever the text is cut; the last one and
the next two would pair on their own. -/
theorem flags_count : graphemeCount "🇩🇪🇫" = 2 ∧ graphemeCount "🇷🇮🇹" = 2 ∧
    graphemeCount ("🇩🇪🇫" ++ "🇷🇮🇹") = 3 ∧
    (minLength 2).check (.text ("🇩🇪🇫" ++ "🇷🇮🇹")) = .ok none := by
  have two : graphemeCount "🇩🇪🇫" = 2 := by cbv
  have laws := lengths_count_clusters (s := "🇩🇪🇫") (t := "🇷🇮🇹")
    (v := .text "🇩🇪🇫") (w := .text ("🇩🇪🇫" ++ "🇷🇮🇹")) rfl rfl
  exact ⟨two, by cbv, by cbv, laws.2.2.1 2 (by cbv)⟩

end DataContract
