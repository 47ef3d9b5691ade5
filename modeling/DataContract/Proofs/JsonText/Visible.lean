/-
A JSON text on one line has visible characters only.

Texts are written in ASCII, each control character as an escape (`JsonText.visible_string`), and all
else is made of letters, digits and marks. So whatever a value holds, its text on one line has no line
break and no other control character: `JsonText.visible_written`.
-/
import DataContract.Proofs.JsonText.RoundTrip
import DataContract.Proofs.Text.Line
import DataContract.Proofs.Value.Parts

namespace DataContract

namespace JsonText

open Text (hexDigits)

/-! ### Texts -/

theorem visible_unitEscape (n : Nat) : Visible (unitEscape n) := by
  have behind : Visible ('u' :: hexDigits 4 n) :=
    visible_cons_iff.mpr ⟨by decide, visible_hexDigits 4 n⟩
  exact visible_cons_iff.mpr ⟨by decide, behind⟩

theorem visible_escaped (c : Char) : Visible (escaped c) := by
  rw [escaped]
  split_ifs with special _ _ _ _ _ plain
  · rcases special with rfl | rfl <;> decide
  · decide
  · decide
  · decide
  · decide
  · decide
  · exact List.forall_mem_singleton.mpr plain
  · exact visible_unitEscape _
  · exact visible_append_iff.mpr ⟨visible_unitEscape _, visible_unitEscape _⟩

/-- Whatever a text holds, what is written of it can be seen. -/
theorem visible_string (s : String) : Visible (string s) := by
  have inside : Visible (s.toList.flatMap escaped) := by
    intro d mem
    obtain ⟨c, -, here⟩ := List.mem_flatMap.mp mem
    exact visible_escaped c d here
  rw [string, visible_cons_iff, visible_append_iff]
  exact ⟨by decide, inside, by decide⟩

/-! ### Values without parts -/

section

variable {v : Value} {cs : List Char}

theorem visible_truth (b : Bool) : Visible (truth b) := by
  cases b <;> decide

theorem visible_double (x : Double) : Visible (double x) :=
  visible_textIn (by decide) (by decide) x

theorem visible_digits {n : Int} (h : digits n = .ok cs) : Visible cs := by
  unfold digits at h
  split at h
  · next s written =>
    cases h
    rw [decimalText] at written
    split at written
    · cases written
      exact visible_int n
    · cases written
  · cases h

theorem visible_otherwise (h : otherwise v = .ok cs) : Visible cs := by
  rw [otherwise] at h
  split at h
  · cases h
    exact visible_string _
  · cases h

theorem visible_atomic (h : atomic v = .ok cs) : Visible cs := by
  unfold atomic at h
  split at h
  · cases h
    decide
  · cases h
    exact visible_truth _
  · cases h
    exact visible_string _
  · exact visible_digits h
  · cases h
    exact visible_double _
  · exact visible_otherwise h

theorem visible_key (h : key v = .ok cs) : Visible cs := by
  have quoted : ∀ {ds : List Char}, Visible ds → Visible ('"' :: (ds ++ ['"'])) := by
    intro ds inside
    rw [visible_cons_iff, visible_append_iff]
    exact ⟨by decide, inside, by decide⟩
  unfold key at h
  split at h
  · cases h
    exact visible_string _
  · cases h
    exact quoted (visible_truth _)
  · cases h
    exact visible_string _
  · rw [bind_eq_ok_iff] at h
    obtain ⟨ds, written, done⟩ := h
    cases done
    exact quoted (visible_digits written)
  · cases h
    exact quoted (visible_double _)
  · cases h

end

/-! ### Lists and maps -/

theorem visible_intercalate {separator : List Char} {parts : List (List Char)}
    (between : Visible separator) (each : ∀ p ∈ parts, Visible p) :
    Visible (separator.intercalate parts) := by
  induction parts with
  | nil => exact visible_nil
  | cons p rest ih =>
    obtain ⟨first, behind⟩ := List.forall_mem_cons.mp each
    cases rest with
    | nil => rwa [List.intercalate_singleton]
    | cons q rest =>
      rw [List.intercalate_cons_cons, visible_append_iff, visible_append_iff]
      exact ⟨⟨first, between⟩, ih behind⟩

theorem visible_around {opening closing : Char} {parts : List (List Char)} (depth : Nat)
    (first : Visible [opening]) (last : Visible [closing]) (each : ∀ p ∈ parts, Visible p) :
    Visible (Layout.line.around depth opening closing parts) := by
  have inside : Visible ([',', ' '].intercalate parts) := visible_intercalate (by decide) each
  rw [Layout.around]
  split
  · exact visible_cons_iff.mpr ⟨first, last⟩
  · rw [visible_cons_iff, visible_append_iff, visible_append_iff, visible_append_iff]
    exact ⟨first, ⟨⟨visible_nil, inside⟩, visible_nil⟩, last⟩

/-- Whatever a value is, what is written of it on one line can be seen. -/
theorem visible_written {v : Value} {cs : List Char} {depth : Nat}
    (h : written .line depth v = .ok cs) : Visible cs := by
  induction v using Value.childInduction generalizing depth cs with
  | step v ih =>
    unfold written at h
    split at h
    · next kind items =>
      rw [bind_eq_ok_iff] at h
      obtain ⟨parts, some, done⟩ := h
      cases done
      refine visible_around depth (by decide) (by decide) fun p mem => ?_
      rw [writtenItems_eq_mapM] at some
      obtain ⟨x, there, held⟩ := exists_of_mapM_ok some p mem
      exact ih x (.item there) held
    · next kind es =>
      split at h
      · rw [bind_eq_ok_iff] at h
        obtain ⟨parts, some, done⟩ := h
        cases done
        refine visible_around depth (by decide) (by decide) fun p mem => ?_
        rw [writtenEntries_eq_mapM] at some
        obtain ⟨e, there, one⟩ := exists_of_mapM_ok some p mem
        simp only [writtenEntry, bind_eq_ok_iff, pure_eq_ok_iff] at one
        obtain ⟨name, named, value, held, rfl⟩ := one
        have behind : Visible (' ' :: value) :=
          visible_cons_iff.mpr ⟨by decide, ih e.2 (.held there) held⟩
        exact visible_append_iff.mpr ⟨visible_key named, visible_cons_iff.mpr ⟨by decide, behind⟩⟩
      -- a view is not written by its entries
      · exact visible_atomic h
    · exact visible_atomic h

end JsonText

end DataContract
