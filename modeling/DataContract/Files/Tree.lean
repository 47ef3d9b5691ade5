/-
Files and directories, as they are seen from a working directory.

A path is followed name by name, and fails where a name is missing, is no directory, or is longer than
a name may be; nothing is known about what the working directory lies in. Whoever may look at a
directory may look at all that is in it.
-/
import DataContract.Files.Path
import DataContract.Text.Utf8

namespace DataContract

/-- Why a file cannot be used; each with the path as it was given. -/
inductive FileFault where
  | missing (path : String)
  | occupied (path : String)
  | notDirectory (path : String)
  | isDirectory (path : String)
  | tooLong (path : String)
  /-- There is a null character in the path, which so is none. -/
  | nullCharacter
  deriving DecidableEq, Inhabited

/-- Whether it is the file that is at fault, and not what was given as its path. -/
def FileFault.isOfFile : FileFault → Bool
  | .nullCharacter => false
  | _ => true

/-- What the refusal to use a file reads. -/
def FileFault.message : FileFault → String
  | .missing path => "[Errno 2] No such file or directory: " ++ Text.quoted path
  | .occupied path => "[Errno 17] File exists: " ++ Text.quoted path
  | .notDirectory path => "[Errno 20] Not a directory: " ++ Text.quoted path
  | .isDirectory path => "[Errno 21] Is a directory: " ++ Text.quoted path
  | .tooLong path => "[Errno 36] File name too long: " ++ Text.quoted path
  | .nullCharacter => "embedded null byte"

/-- What stands under a name. -/
inductive FileEntry where
  | file (content : List UInt8)
  | directory
  deriving DecidableEq, Inhabited

/-- Files and directories by their names, from the working directory or from the top on. -/
structure FileTree where
  entries : List (List String × FileEntry)
  deriving Inhabited

/-- What a path leads to; a missing one with its names if only the last of them is missing. -/
inductive Location where
  | found (names : List String) (entry : FileEntry)
  | free (names : List String)
  | nowhere
  | pastFile
  /-- A name on the way, or the whole path, is too long to be looked for. -/
  | tooLong
  | noPath
  deriving DecidableEq, Inhabited

namespace FileTree

/-- No files at all. -/
def empty : FileTree := ⟨[]⟩

/-- What stands under names without dots. -/
def entry? (t : FileTree) (names : List String) : Option FileEntry :=
  if names.isEmpty || names = Path.top then some .directory
  else (t.entries.find? (·.1 = names)).map (·.2)

/-- Follows names from a directory on. -/
def follow (t : FileTree) (here : List String) : List String → Location
  | [] => .found here .directory
  | name :: rest =>
    if name = ".." then
      if here.isEmpty then .nowhere
      else t.follow (if here = Path.top then here else here.dropLast) rest
    else if Path.nameLimit < name.utf8ByteSize then .tooLong
    else
      let there := here ++ [name]
      match t.entry? there, rest with
      | some .directory, rest => t.follow there rest
      | some (.file content), [] => .found there (.file content)
      | some (.file _), _ :: _ => .pastFile
      | none, [] => .free there
      | none, _ :: _ => .nowhere

/-- What a path leads to. -/
def locate (t : FileTree) (p : Path) : Location :=
  if p.hasNull then .noPath
  else if Path.textLimit < p.text.utf8ByteSize then .tooLong
  else t.follow p.start p.names

/-- Whether a path leads to something, unless it is too long to be looked for. -/
def holds (t : FileTree) (p : Path) : Except FileFault Bool :=
  match t.locate p with
  | .found _ _ => .ok true
  | .tooLong => .error (.tooLong p.text)
  | _ => .ok false

/-- The first of paths that leads to something, if one does. -/
def first? (t : FileTree) : List Path → Except FileFault (Option Path)
  | [] => .ok none
  | p :: rest => do
    if ← t.holds p then return some p
    t.first? rest

/-- Puts an entry under names. -/
def put (t : FileTree) (names : List String) (e : FileEntry) : FileTree :=
  if t.entries.any (·.1 = names) then
    ⟨t.entries.map fun x => if x.1 = names then (names, e) else x⟩
  else ⟨t.entries ++ [(names, e)]⟩

/-- Takes away what is under names. -/
def erase (t : FileTree) (names : List String) : FileTree :=
  ⟨t.entries.filter (·.1 ≠ names)⟩

/-- What stands where, in the order of the paths' texts. -/
def listing (t : FileTree) : List (String × FileEntry) :=
  (t.entries.map fun (names, e) => ("/".intercalate names, e)).mergeSort fun a b => a.1 ≤ b.1

/-- The bytes of the file at a path, which is shown as `shown`. -/
def read (t : FileTree) (p : Path) (shown : String) : Except FileFault (List UInt8) :=
  match t.locate p with
  | .found _ (.file content) => .ok content
  | .found _ .directory => .error (.isDirectory shown)
  | .free _ => .error (.missing shown)
  | .nowhere => .error (.missing shown)
  | .pastFile => .error (.notDirectory shown)
  | .tooLong => .error (.tooLong shown)
  | .noPath => .error .nullCharacter

/-- Makes the directory at a path, those it lies in first if they are missing; these stay if it cannot
be made in them. -/
def makeDirectory (t : FileTree) (p : Path) : FileTree × Except FileFault Unit :=
  match t.locate p with
  | .found _ .directory => (t, .ok ())
  | .found _ (.file _) => (t, .error (.occupied p.text))
  | .free names => (t.put names .directory, .ok ())
  | .pastFile => (t, .error (.notDirectory p.text))
  | .tooLong => (t, .error (.tooLong p.text))
  | .noPath => (t, .error .nullCharacter)
  | .nowhere =>
    if _h : p.names = [] then (t, .error (.missing p.text))
    else
      match t.makeDirectory ⟨p.root, p.names.dropLast⟩ with
      | (made, .error e) => (made, .error e)
      | (made, .ok ()) =>
        match made.locate p with
        | .found _ .directory => (made, .ok ())
        | .free names => (made.put names .directory, .ok ())
        | .tooLong => (made, .error (.tooLong p.text))
        | _ => (made, .error (.missing p.text))
termination_by p.names.length
decreasing_by
  have := List.length_pos_iff.2 ‹¬p.names = []›
  simp only [List.length_dropLast]
  omega

/-- Writes a file with the directories that it lies in. -/
def write (t : FileTree) (p : Path) (content : List UInt8) : FileTree :=
  let made := (t.makeDirectory ⟨p.root, p.names.dropLast⟩).1
  made.put (p.start ++ p.names) (.file content)

/-- Puts a directory at a path, with those it lies in. -/
def addDirectory (t : FileTree) (p : Path) : FileTree :=
  (t.makeDirectory p).1

/-- Puts bytes at the end of the file under names, which is made if it is missing. -/
def append (t : FileTree) (names : List String) (content : List UInt8) : FileTree :=
  match t.entry? names with
  | some (.file before) => t.put names (.file (before ++ content))
  | some .directory => t
  | none => t.put names (.file content)

/-- Moves what is under names, if there is anything, in the place of what is under others. -/
def move (t : FileTree) (source target : List String) : FileTree :=
  match t.entry? source with
  | some e => ((t.erase target).erase source).put target e
  | none => t

/-- Deletes the file at a path. -/
def delete (t : FileTree) (p : Path) : FileTree :=
  match t.locate p with
  | .found names (.file _) => t.erase names
  | _ => t

end FileTree

/-- Lines that end with a carriage return, or with one and a line feed, end with a line feed. -/
def unifiedBreaks : List Char → List Char
  | '\r' :: '\n' :: rest => '\n' :: unifiedBreaks rest
  | '\r' :: rest => '\n' :: unifiedBreaks rest
  | c :: rest => c :: unifiedBreaks rest
  | [] => []

/-- Why a file cannot be read as text. -/
inductive TextFileFault where
  | file (fault : FileFault)
  | notText (fault : Utf8Fault)
  deriving DecidableEq, Inhabited

/-- What the refusal of a file as text reads. -/
def TextFileFault.message : TextFileFault → String
  | .file fault => fault.message
  | .notText fault => fault.message

/-- The text of the file at a path, with a line feed at the end of each line. -/
def FileTree.readText (t : FileTree) (p : Path) (shown : String) : Except TextFileFault String :=
  match t.read p shown with
  | .error e => .error (.file e)
  | .ok content =>
    match Utf8.decode content with
    | .error e => .error (.notText e)
    | .ok s => .ok (String.ofList (unifiedBreaks s.toList))

/-- The text of the file at a path as it was given: an empty one leads nowhere, a slash at its end asks
for a directory, and the slashes in it count when it is too long. -/
def FileTree.readTextAt (t : FileTree) (given : String) : Except TextFileFault String :=
  let p := Path.ofText given
  if given = "" then .error (.file (.missing given))
  else if p.hasNull then .error (.file .nullCharacter)
  else if Path.textLimit < given.utf8ByteSize then .error (.file (.tooLong given))
  else
    match t.locate p with
    | .found _ (.file _) =>
      if given.endsWith "/" || given.endsWith "/." then .error (.file (.notDirectory given))
      else t.readText p given
    | _ => t.readText p given

end DataContract
