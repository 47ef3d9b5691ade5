/-
Lists in step.

Two lists are in step if their elements are related one by one (`List.Forall₂`). Here is when a list
has another in step with it (`exists_forall₂`, `exists_of_forall₂`), when two relations put the same
lists in step (`forall₂_congr_mem`), and what becomes of lists in step when an element is replaced
(`forall₂_set`, `forall₂_replace`).

A step that may fail, taken with the elements one by one, succeeds with a list in step with them
(`mapM_eq_ok_iff`), or fails as it does with one of them (`exists_of_mapM_error`, `mapM_eq_error`).
-/
import DataContract.Proofs.Result

namespace DataContract

variable {α β : Type} {R S : α → β → Prop} {P : β → Prop} {l : List α} {m : List β}

/-- Lists are related alike if their elements are. -/
theorem forall₂_congr_mem (h : ∀ x ∈ l, ∀ y, R x y ↔ S x y) :
    List.Forall₂ R l m ↔ List.Forall₂ S l m := by
  induction l generalizing m with
  | nil => rw [List.forall₂_nil_left_iff, List.forall₂_nil_left_iff]
  | cons x rest ih =>
    obtain ⟨first, behind⟩ := List.forall_mem_cons.mp h
    simp only [List.forall₂_cons_left_iff, first, ih behind]

theorem forall₂_and_right : List.Forall₂ (fun x y => R x y ∧ P y) l m ↔
    List.Forall₂ R l m ∧ ∀ y ∈ m, P y := by
  induction l generalizing m with
  | nil =>
    rw [List.forall₂_nil_left_iff, List.forall₂_nil_left_iff]
    constructor
    · rintro rfl
      exact ⟨rfl, List.forall_mem_nil _⟩
    · exact And.left
  | cons x rest ih =>
    simp only [List.forall₂_cons_left_iff, ih]
    constructor
    · rintro ⟨y, others, ⟨first, kept⟩, ⟨behind, all⟩, rfl⟩
      exact ⟨⟨y, others, first, behind, rfl⟩, List.forall_mem_cons.mpr ⟨kept, all⟩⟩
    · rintro ⟨⟨y, others, first, behind, rfl⟩, all⟩
      obtain ⟨kept, all⟩ := List.forall_mem_cons.mp all
      exact ⟨y, others, ⟨first, kept⟩, ⟨behind, all⟩, rfl⟩

theorem exists_forall₂ (h : ∀ x ∈ l, ∃ y, R x y) : ∃ m, List.Forall₂ R l m := by
  induction l with
  | nil => exact ⟨[], .nil⟩
  | cons x rest ih =>
    obtain ⟨⟨y, first⟩, behind⟩ := List.forall_mem_cons.mp h
    obtain ⟨m, later⟩ := ih behind
    exact ⟨y :: m, .cons first later⟩

theorem exists_of_forall₂ (h : List.Forall₂ R l m) : ∀ x ∈ l, ∃ y ∈ m, R x y := by
  induction h with
  | nil => exact List.forall_mem_nil _
  | cons first _ ih =>
    refine List.forall_mem_cons.mpr ⟨⟨_, List.mem_cons_self, first⟩, fun x mem => ?_⟩
    obtain ⟨y, there, related⟩ := ih x mem
    exact ⟨y, List.mem_cons_of_mem _ there, related⟩

theorem exists_of_forall₂_right (h : List.Forall₂ R l m) : ∀ y ∈ m, ∃ x ∈ l, R x y :=
  exists_of_forall₂ h.flip

/-- What is in step with a list has a part that is in step with a part of it. -/
theorem exists_sublist_of_forall₂ (h : List.Forall₂ R l m) {part : List α}
    (within : part.Sublist l) : ∃ other, other.Sublist m ∧ List.Forall₂ R part other := by
  induction within generalizing m with
  | slnil => exact ⟨m, List.Sublist.refl m, h⟩
  | cons x _ ih =>
    obtain ⟨y, rest, -, behind, rfl⟩ := List.forall₂_cons_left_iff.mp h
    obtain ⟨other, within, inStep⟩ := ih behind
    exact ⟨other, within.cons y, inStep⟩
  | cons_cons x _ ih =>
    obtain ⟨y, rest, first, behind, rfl⟩ := List.forall₂_cons_left_iff.mp h
    obtain ⟨other, within, inStep⟩ := ih behind
    exact ⟨y :: other, within.cons_cons y, .cons first inStep⟩

theorem forall₂_set {x : α} {y : β} (h : List.Forall₂ R l m) (related : R x y) (i : Nat) :
    List.Forall₂ R (l.set i x) (m.set i y) := by
  induction h generalizing i with
  | nil => exact .nil
  | cons first rest ih =>
    cases i with
    | zero => exact .cons related rest
    | succ i => exact .cons first (ih i)

/-- A list whose elements are related to themselves stays in step with one where a related element
stands in the place of one of its own. -/
theorem forall₂_replace {T : α → α → Prop} {front back : List α} {a b : α}
    (each : ∀ x ∈ front ++ b :: back, T x x) (related : T a b) :
    List.Forall₂ T (front ++ a :: back) (front ++ b :: back) := by
  have before : ∀ x ∈ front, T x x := fun x mem => each x (List.mem_append_left _ mem)
  have behind : ∀ x ∈ back, T x x :=
    fun x mem => each x (List.mem_append_right _ (List.mem_cons_of_mem _ mem))
  exact List.rel_append (List.forall₂_same.mpr before) (.cons related (List.forall₂_same.mpr behind))

/-! ### Steps that may fail -/

section

variable {ε : Type} {f : α → Except ε β} {e : ε}

theorem mapM_eq_ok_iff : l.mapM f = .ok m ↔ List.Forall₂ (fun x y => f x = .ok y) l m := by
  induction l generalizing m with
  | nil => rw [List.mapM_nil, pure_eq_ok_iff, List.forall₂_nil_left_iff, eq_comm]
  | cons x rest ih =>
    simp only [List.mapM_cons, bind_eq_ok_iff, pure_eq_ok_iff, ih, List.forall₂_cons_left_iff]
    constructor
    · rintro ⟨y, first, others, behind, rfl⟩
      exact ⟨y, others, first, behind, rfl⟩
    · rintro ⟨y, others, first, behind, rfl⟩
      exact ⟨y, first, others, behind, rfl⟩

theorem exists_mapM_eq_ok (each : ∀ x ∈ l, ∃ y, f x = .ok y) : ∃ m, l.mapM f = .ok m :=
  (exists_forall₂ each).imp fun _ => mapM_eq_ok_iff.mpr

theorem exists_of_mapM_ok (h : l.mapM f = .ok m) : ∀ y ∈ m, ∃ x ∈ l, f x = .ok y :=
  exists_of_forall₂_right (mapM_eq_ok_iff.mp h)

theorem exists_of_mapM_error (h : l.mapM f = .error e) : ∃ x ∈ l, f x = .error e := by
  induction l with
  | nil => cases h
  | cons x rest ih =>
    rw [List.mapM_cons, bind_eq_error_iff] at h
    rcases h with first | ⟨_, -, h⟩
    · exact ⟨x, List.mem_cons_self, first⟩
    · rcases bind_eq_error_iff.mp h with behind | ⟨_, -, h⟩
      · obtain ⟨y, mem, fails⟩ := ih behind
        exact ⟨y, List.mem_cons_of_mem _ mem, fails⟩
      · exact absurd h pure_ne_error

/-- Where there is one failure only, it does not matter which element it comes from. -/
theorem mapM_eq_error (each : ∀ x ∈ l, (∃ y, f x = .ok y) ∨ f x = .error e)
    (some : ∃ x ∈ l, f x = .error e) : l.mapM f = .error e := by
  induction l with
  | nil =>
    obtain ⟨x, mem, -⟩ := some
    cases mem
  | cons x rest ih =>
    obtain ⟨first, behind⟩ := List.forall_mem_cons.mp each
    rw [List.mapM_cons]
    rcases first with ⟨y, first⟩ | first
    · have later : ∃ x ∈ rest, f x = .error e :=
        ((List.exists_mem_cons_iff ..).mp some).resolve_left fun fails => by
          cases first.symm.trans fails
      rw [first, ih behind later]
      rfl
    · rw [first]
      rfl

end

theorem mem_zip_middle {front back : List α} {front' back' : List β} {a : α} {b : β}
    (aligned : front.length = front'.length) :
    (a, b) ∈ (front ++ a :: back).zip (front' ++ b :: back') := by
  rw [List.zip_append aligned]
  exact List.mem_append_right _ List.mem_cons_self

end DataContract
