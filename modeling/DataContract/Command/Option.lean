/-
The options of the command, and how its arguments are spelt.

An argument is taken for an option, for an operand, or for an option that there is none of. A long
option may be shortened as long as it stays the only one, and may have its value after `=`.
-/
import DataContract.Text.CodeSet
import DataContract.Text.Quoted
import DataContract.Text.Word

namespace DataContract

/-- The options of the command. -/
inductive CommandOption where
  | help
  | contracts
  | contract
  | file
  | strict
  | json
  deriving DecidableEq, Inhabited

namespace CommandOption

/-- All options, in order. -/
def all : List CommandOption :=
  [.help, .contracts, .contract, .file, .strict, .json]

/-- The spellings of an option in full. -/
def spellings : CommandOption → List String
  | .help => ["-h", "--help"]
  | .contracts => ["--contracts"]
  | .contract => ["--contract"]
  | .file => ["--file"]
  | .strict => ["--strict"]
  | .json => ["--json"]

/-- An option as messages name it. -/
def label (o : CommandOption) : String :=
  "/".intercalate o.spellings

/-- Whether an option has a value. -/
def takesValue : CommandOption → Bool
  | .contracts => true
  | .contract => true
  | .file => true
  | _ => false

/-- Whether an option must be given. -/
def isRequired : CommandOption → Bool
  | .contract => true
  | .file => true
  | _ => false

/-- All spellings with their options, in order. -/
def table : List (String × CommandOption) :=
  all.flatMap fun o => o.spellings.map fun s => (s, o)

/-- The option with a spelling. -/
def ofSpelling? (s : String) : Option CommandOption :=
  (table.find? fun (t, _) => t = s).map (·.2)

end CommandOption

/-- Why the arguments of the command are refused. -/
inductive UsageFault where
  | ambiguous (given : String) (spellings : List String)
  | valueMissing (o : CommandOption)
  /-- An option without a value is given one. -/
  | valueIgnored (o : CommandOption) (value : String)
  | missing (os : List CommandOption)
  | unrecognized (arguments : List String)
  deriving DecidableEq, Inhabited

/-- What the refusal reads. -/
def UsageFault.message : UsageFault → String
  | .ambiguous given spellings =>
    "ambiguous option: " ++ given ++ " could match " ++ ", ".intercalate spellings
  | .valueMissing o => "argument " ++ o.label ++ ": expected one argument"
  | .valueIgnored o value =>
    "argument " ++ o.label ++ ": ignored explicit argument " ++ Text.quoted value
  | .missing os =>
    "the following arguments are required: " ++ ", ".intercalate (os.map (·.label))
  | .unrecognized arguments => "unrecognized arguments: " ++ " ".intercalate arguments

/-- What an argument is taken for. -/
inductive CommandArgument where
  /-- An operand, or the value of the option before it. -/
  | operand (s : String)
  /-- The mark after which everything is an operand. -/
  | divider
  /-- An option, with the value after its spelling. -/
  | option (o : CommandOption) (value : Option String)
  /-- Options of one letter in a row: the first, and what comes after it. -/
  | letters (o : CommandOption) (rest : String)
  /-- What looks like an option but is none. -/
  | unknown (s : String)
  deriving DecidableEq, Inhabited

namespace CommandArgument

/-- Whether a text is a number with a minus sign, a line feed being allowed at its end. -/
def isNegativeNumber (s : String) : Bool :=
  match s.toList with
  | '-' :: cs =>
    let cs := if cs.getLast? = some '\n' then cs.dropLast else cs
    let whole := cs.takeWhile CodeSet.digit.contains
    match cs.drop whole.length with
    | [] => !whole.isEmpty
    | '.' :: fraction => !fraction.isEmpty && fraction.all CodeSet.digit.contains
    | _ => false
  | _ => false

/-- A text up to its first `=`, and what comes after that. -/
def parted (s : String) : String × Option String :=
  match s.splitOn "=" with
  | front :: next :: rest => (front, some ("=".intercalate (next :: rest)))
  | _ => (s, none)

/-- What an argument that is no spelling in full is taken for, if it is not an option. -/
def other (s : String) : CommandArgument :=
  if isNegativeNumber s || s.toList.contains ' ' then .operand s else .unknown s

/-- What an argument is taken for that begins with a long option cut short. -/
def shortened (s : String) : Except UsageFault CommandArgument :=
  let (front, value) := parted s
  match CommandOption.table.filter fun (spelling, _) => spelling.startsWith front with
  | [] => .ok (other s)
  | [(_, o)] => .ok (.option o value)
  | several => .error (.ambiguous s (several.map (·.1)))

/-- What an argument is taken for that begins with one `-`. -/
def lettered (s : String) : CommandArgument :=
  match CommandOption.ofSpelling? (s.take 2).toString with
  | some o => .letters o (s.drop 2).toString
  | none => other s

/-- What an argument with a spelling before its first `=` is taken for. -/
def assigned? (s : String) : Option CommandArgument :=
  match parted s with
  | (front, some value) =>
    (CommandOption.ofSpelling? front).map fun o =>
      if front.startsWith "--" then .option o (some value) else .letters o value
  | _ => none

/-- What an argument before the divider is taken for. -/
def ofText (s : String) : Except UsageFault CommandArgument :=
  if !s.startsWith "-" || s = "-" then .ok (.operand s)
  else
    match CommandOption.ofSpelling? s, assigned? s with
    | some o, _ => .ok (.option o none)
    | none, some a => .ok a
    | none, none => if s.startsWith "--" then shortened s else .ok (lettered s)

/-- What arguments are taken for; after the divider all are operands. -/
def ofTexts : List String → Except UsageFault (List CommandArgument)
  | [] => .ok []
  | s :: rest =>
    if s = "--" then .ok (.divider :: rest.map .operand)
    else do
      let first ← ofText s
      let others ← ofTexts rest
      return first :: others

end CommandArgument

end DataContract
