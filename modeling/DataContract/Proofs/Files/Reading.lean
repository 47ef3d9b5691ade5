/-
Files read as text.

A path opens a file if it leads to one (`FileTree.Opens`), and as it is given only if it is neither
empty nor too long and does not ask for a directory (`FileTree.OpensAt`). The text of a file is then
that of its bytes (`textOf`). A path that opens none is at fault itself just if there is a null
character in it.
-/
import DataContract.Files.Tree
import DataContract.Proofs.Result
import DataContract.Proofs.Text.Splitting

namespace DataContract

/-- The names in a path are the pieces of its characters between slashes. -/
theorem Path.ofText_eq (s : String) : Path.ofText s = ⟨(Path.ofText s).root,
    ((s.toList.splitOn '/').map String.ofList).filter fun n => n ≠ "" && n ≠ "."⟩ := by
  rw [ofText, ← splitOn_singleton]
  rfl

/-- A text of several characters and no slash is the path with one name. -/
theorem Path.ofText_of_name {name : String} (plain : '/' ∉ name.toList) (several : 1 < name.length) :
    Path.ofText name = ⟨"", [name]⟩ := by
  have apart : name.splitOn "/" = [name] := by
    have single : "/".intercalate [name] = name := by simp
    have back := splitOn_intercalate (List.forall_mem_singleton.mpr plain) (List.cons_ne_nil name [])
    exact (congrArg (String.splitOn · "/") single).symm.trans back
  have relative : name.toList.takeWhile (· = '/') = [] := by
    cases letters : name.toList with
    | nil => rfl
    | cons c rest =>
      have first : c ≠ '/' := fun same => plain (by simp [letters, same])
      simp [first]
  have some : name ≠ "" := by
    rintro rfl
    exact absurd several (by decide)
  have other : name ≠ "." := by
    rintro rfl
    exact absurd several (by decide)
  rw [ofText, apart, relative]
  simp [some, other]

/-- The text that bytes write, with a line feed at the end of each line. -/
def textOf (bytes : List UInt8) : Except Utf8Fault String :=
  (Utf8.decode bytes).map fun s => String.ofList (unifiedBreaks s.toList)

namespace FileTree

variable {t : FileTree} {p : Path} {given shown : String} {bytes : List UInt8}

/-- A path leads to a file of these bytes. -/
def Opens (t : FileTree) (p : Path) (bytes : List UInt8) : Prop :=
  ∃ names, t.locate p = .found names (.file bytes)

/-- A path leads to a file of these bytes, as it is given: it is neither empty nor too long, and has
no slash at its end. -/
structure OpensAt (t : FileTree) (given : String) (bytes : List UInt8) : Prop where
  some : given ≠ ""
  short : given.utf8ByteSize ≤ Path.textLimit
  file : (given.endsWith "/" || given.endsWith "/.") = false
  opens : t.Opens (Path.ofText given) bytes

/-- Names always lead somewhere, or to where something is missing. -/
theorem follow_ne_noPath (t : FileTree) (here names : List String) :
    t.follow here names ≠ .noPath := by
  fun_induction follow t here names <;> simp_all

theorem locate_eq_noPath_iff : t.locate p = .noPath ↔ p.hasNull = true := by
  rw [locate]
  split
  · next null => exact iff_of_true rfl null
  · next whole =>
    refine iff_of_false ?_ whole
    split
    · simp
    · exact follow_ne_noPath t _ _

/-- A path that could be one is followed name by name. -/
theorem locate_of_short (whole : p.hasNull = false) (short : p.text.utf8ByteSize ≤ Path.textLimit) :
    t.locate p = t.follow p.start p.names := by
  rw [locate, whole, if_neg Bool.false_ne_true, if_neg (Nat.not_lt.mpr short)]

theorem Opens.holds (h : t.Opens p bytes) : t.holds p = .ok true := by
  obtain ⟨names, found⟩ := h
  rw [FileTree.holds, found]

theorem follow_ne_file (bare : ∀ e ∈ t.entries, e.2 = .directory) (here names there : List String)
    (bytes : List UInt8) : t.follow here names ≠ .found there (.file bytes) := by
  have entry : ∀ names bytes, t.entry? names ≠ some (.file bytes) := by
    intro names bytes
    rw [ entry?]
    split
    · simp
    · intro held
      obtain ⟨e, found, same⟩ := Option.map_eq_some_iff.mp held
      cases (bare e (List.mem_of_find?_eq_some found)).symm.trans same
  fun_induction follow t here names <;> simp_all

/-- Where there are only directories no path opens a file. -/
theorem not_opens_of_bare (bare : ∀ e ∈ t.entries, e.2 = .directory) (p : Path)
    (bytes : List UInt8) : ¬t.Opens p bytes := by
  rintro ⟨names, found⟩
  rw [locate] at found
  split at found
  · cases found
  · split at found
    · cases found
    · exact follow_ne_file bare _ _ _ _ found

/-- A path that leads anywhere has no null character in it. -/
theorem hasNull_of_holds (h : t.holds p = .ok true) : p.hasNull = false := by
  refine Bool.eq_false_iff.mpr fun null => ?_
  rw [FileTree.holds, locate_eq_noPath_iff.mpr null] at h
  cases h

theorem Opens.hasNull (h : t.Opens p bytes) : p.hasNull = false :=
  hasNull_of_holds h.holds

/-- Of two paths the second is looked for only if the first leads nowhere. -/
theorem first?_pair (t : FileTree) (p q : Path) : t.first? [p, q] = do
    if ← t.holds p then return some p
    if ← t.holds q then return some q
    return none :=
  rfl

theorem read_eq_ok_iff : t.read p shown = .ok bytes ↔ t.Opens p bytes := by
  rw [read, Opens]
  cases t.locate p with
  | found names entry => cases entry <;> simp
  | _ => simp

theorem readText_of_opens (h : t.Opens p bytes) :
    t.readText p shown = (textOf bytes).mapError .notText := by
  rw [readText, read_eq_ok_iff.mpr h, textOf]
  dsimp only
  cases Utf8.decode bytes <;> rfl

theorem readTextAt_of_opens (h : t.OpensAt given bytes) :
    t.readTextAt given = (textOf bytes).mapError .notText := by
  obtain ⟨some, short, file, opens⟩ := h
  have whole := opens.hasNull
  obtain ⟨names, found⟩ := opens
  simp only [readTextAt, if_neg some, whole, if_neg (Nat.not_lt.mpr short), found, file,
    Bool.false_eq_true, if_false]
  exact readText_of_opens ⟨names, found⟩

end FileTree

end DataContract
