/-
Texts split at a character.

`String.splitOn` runs through positions in a text; split at a character, it comes to what splitting
the list of the characters comes to (`splitOn_singleton`), which can be computed. Texts without the
character that are joined with it between them are what is split again (`splitOn_intercalate`).
-/
import Mathlib.Data.String.Basic

namespace DataContract

open String

/-- The invariant of the run: `l` are the characters before the piece that is being read, `m` those
of the piece so far, and `r` those to come. -/
theorem splitOnAux_of_valid (c : Char) (l m r : List Char) (acc : List String) :
    splitOnAux (ofList (l ++ m ++ r)) (ofList [c]) ⟨utf8Len l⟩ ⟨utf8Len l + utf8Len m⟩ 0 acc =
      acc.reverse ++ (List.splitOnPPrepend (· == c) r m.reverse).map ofList := by
  unfold splitOnAux
  simp only [List.append_assoc, atEnd_iff, rawEndPos_ofList, utf8Len_append, Pos.Raw.mk_le_mk,
    Nat.add_le_add_iff_left, (by omega : utf8Len m + utf8Len r ≤ utf8Len m ↔ utf8Len r = 0),
    utf8Len_eq_zero, List.reverse_cons]
  split
  · subst r
    simpa using extract_of_valid l m []
  · obtain ⟨d, r, rfl⟩ := r.exists_cons_of_ne_nil ‹_›
    have here := get_of_valid (l ++ m) (d :: r)
    have behind := next_of_valid (l ++ m) d r
    have piece := extract_of_valid l m (d :: r)
    have separator : Pos.Raw.get (ofList [c]) 0 = c := by simpa using get_of_valid [] [c]
    have whole : Pos.Raw.next (ofList [c]) 0 = ⟨c.utf8Size⟩ := by simpa using next_of_valid [] c []
    have stay : (⟨utf8Len l + utf8Len m⟩ : Pos.Raw).unoffsetBy 0 = ⟨utf8Len l + utf8Len m⟩ := by simp
    simp only [List.append_assoc, utf8Len_append, List.headD_cons] at here behind piece
    simp only [here, behind, separator, whole, stay]
    split
    · next same =>
      -- the piece ends here, and the next one begins behind the separator
      obtain rfl := beq_iff_eq.mp same
      have atEnd : (⟨utf8Len [d]⟩ : Pos.Raw) ≤ ⟨d.utf8Size⟩ := by simp
      have ends : (⟨utf8Len l + utf8Len m + d.utf8Size⟩ : Pos.Raw).unoffsetBy ⟨d.utf8Size⟩ =
          ⟨utf8Len l + utf8Len m⟩ := by simp [Pos.Raw.ext_iff]
      rw [if_pos atEnd, ends, piece]
      simpa [Nat.add_assoc, List.splitOnPPrepend_cons_eq_if] using
        splitOnAux_of_valid d (l ++ m ++ [d]) [] r (ofList m :: acc)
    · next other =>
      simpa [List.splitOnPPrepend_cons_eq_if, other, Nat.add_assoc] using
        splitOnAux_of_valid c l (m ++ [d]) r acc

/-- A text is split at a character where the list of its characters is. -/
theorem splitOn_singleton (s : String) (c : Char) :
    s.splitOn (singleton c) = (s.toList.splitOn c).map ofList := by
  simpa [splitOn, List.splitOn] using splitOnAux_of_valid c [] [] s.toList []

/-- Texts joined with a character between them are split there again, if it is in none of them. -/
theorem splitOn_intercalate {c : Char} {parts : List String} (apart : ∀ p ∈ parts, c ∉ p.toList)
    (some : parts ≠ []) : ((singleton c).intercalate parts).splitOn (singleton c) = parts := by
  have letters : ∀ cs ∈ parts.map toList, c ∉ cs := by simpa using apart
  have pieces : parts.map toList ≠ [] := by simpa using some
  rw [splitOn_singleton, toList_intercalate, toList_singleton,
    List.splitOn_intercalate c letters pieces, List.map_map]
  exact List.map_id'' (fun s => ofList_toList) parts

end DataContract
