/-
Paths of files: names between slashes.

Empty names and single dots mean nothing and are dropped; two dots are kept, as what they mean
depends on the files.
-/

namespace DataContract

/-- A path: where it starts, and the names it goes through. -/
structure Path where
  /-- What stands before the first name of an absolute path, and nothing otherwise. -/
  root : String
  names : List String
  deriving DecidableEq, Inhabited

namespace Path

/-- The path that a text writes. Just two slashes at the beginning are kept as such. -/
def ofText (s : String) : Path :=
  let slashes := (s.toList.takeWhile (· = '/')).length
  let root := if slashes = 0 then "" else if slashes = 2 then "//" else "/"
  ⟨root, (s.splitOn "/").filter fun n => n ≠ "" && n ≠ "."⟩

/-- A path as text. -/
def text (p : Path) : String :=
  if p.root = "" && p.names.isEmpty then "." else p.root ++ "/".intercalate p.names

/-- Whether a null character stands in a path; no file can be asked for by such a one. -/
def hasNull (p : Path) : Bool :=
  p.names.any fun name => name.toList.contains '\x00'

/-- The most bytes that the name of a file may have. -/
def nameLimit : Nat := 255

/-- The most bytes that a path may have as text. -/
def textLimit : Nat := 4095

/-- What a path leads to from another one. -/
def join (p q : Path) : Path :=
  if q.root = "" then ⟨p.root, p.names ++ q.names⟩ else q

/-- What the names of everything begin with that absolute paths lead to. -/
def top : List String := ["/"]

/-- Where a path starts: at the top, or in the working directory. -/
def start (p : Path) : List String :=
  if p.root = "" then [] else top

/-- The names that a path leads through, two dots taking back the name before. -/
def settled (p : Path) : List String :=
  p.names.foldl (fun names name =>
    if name = ".." then if names = top then names else names.dropLast else names ++ [name]) p.start

/-- The paths that lead step by step to where a path leads, itself at the end. -/
def stages (p : Path) : List Path :=
  (List.range p.names.length).map fun i => ⟨p.root, p.names.take (i + 1)⟩

/-- The path that leads through names. -/
def ofNames (names : List String) : Path :=
  if names.take 1 = top then ⟨"/", names.drop 1⟩ else ⟨"", names⟩

/-- The end of the last name from its last dot on, which neither begins nor ends the name. -/
def suffix (p : Path) : String :=
  let name := (p.names.getLast?.getD "").toList
  let after := (name.reverse.takeWhile (· ≠ '.')).reverse
  let before := name.length - after.length
  if after.isEmpty || before < 2 then "" else "." ++ String.ofList after

end Path

end DataContract
