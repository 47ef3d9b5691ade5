/-
Environment variables, and putting them into texts.

A text may hold placeholders: a variable's name between `$\x7b` and the next closing brace, with a
default after a colon. `Environment.substitute` puts values in their place, from left to right and
once: what has been put in is not looked at again.
-/

namespace DataContract

/-- Variables with their values. -/
structure Environment where
  assignments : List (String × String)
  deriving Inhabited

namespace Environment

/-- The value of a variable that is set. -/
def get? (e : Environment) (name : String) : Option String :=
  (e.assignments.find? (·.1 = name)).map (·.2)

/-- Unsets a variable. -/
def erase (e : Environment) (name : String) : Environment :=
  ⟨e.assignments.filter (·.1 ≠ name)⟩

/-- Sets a variable. -/
def set (e : Environment) (name value : String) : Environment :=
  ⟨(name, value) :: (e.erase name).assignments⟩

/-- What a placeholder stands for, by the text between its braces: the variable named before the
first colon or, if that is not set, what comes after it. -/
def placeholder (e : Environment) (body : List Char) : List Char :=
  let name := body.takeWhile (· ≠ ':')
  let default := body.drop (name.length + 1)
  ((e.get? (String.ofList name)).map String.toList).getD default

/-- Whether a character ends a placeholder. -/
def endsPlaceholder (c : Char) : Bool :=
  c = '\x7d'

/-- The text between the braces of a placeholder and what follows it, after `$` and the brace; none
if nothing is between them, or the closing one is missing. -/
def body? (cs : List Char) : Option (List Char × List Char) :=
  let body := cs.takeWhile fun c => !endsPlaceholder c
  match cs.drop body.length with
  | [] => none
  | _ :: rest => if body.isEmpty then none else some (body, rest)

theorem body?_rest_length {cs body rest : List Char} (h : body? cs = some (body, rest)) :
    rest.length < cs.length := by
  unfold body? at h
  simp only at h
  split at h
  · simp at h
  · next c r hd =>
    split at h
    · simp at h
    · simp only [Option.some.injEq, Prod.mk.injEq] at h
      have : (cs.drop (cs.takeWhile fun c => !endsPlaceholder c).length).length =
          (c :: r).length := by rw [hd]
      simp only [List.length_drop, List.length_cons] at this
      obtain ⟨_, rfl⟩ := h
      omega

/-- The characters of a text with the placeholders replaced. -/
def substituted (e : Environment) : List Char → List Char
  | [] => []
  | '$' :: '\x7b' :: rest =>
    match h : body? rest with
    | some (body, after) =>
      have := body?_rest_length h
      e.placeholder body ++ e.substituted after
    | none => '$' :: e.substituted ('\x7b' :: rest)
  | c :: rest => c :: e.substituted rest
termination_by cs => cs.length

/-- A text with the placeholders replaced. -/
def substitute (e : Environment) (s : String) : String :=
  String.ofList (e.substituted s.toList)

/-- The variables that the placeholders of a text name, in order. -/
def mentioned : List Char → List String
  | [] => []
  | '$' :: '\x7b' :: rest =>
    match h : body? rest with
    | some (body, after) =>
      have := body?_rest_length h
      String.ofList (body.takeWhile (· ≠ ':')) :: mentioned after
    | none => mentioned ('\x7b' :: rest)
  | _ :: rest => mentioned rest
termination_by cs => cs.length

end Environment

end DataContract
