/-
What the command is asked to do.

* `CommandRequest.ofArguments` — the request that arguments make, or why they are refused: first an
  argument that cannot be taken for one thing, then one that has no place, then a missing option, at
  last what is left over;
* `Command.usage`, `Command.help` — how the command is used.
-/
import DataContract.Command.Option

namespace DataContract

/-- A request to validate the data of a file. -/
structure CommandRequest where
  /-- The definition file, if it is not to be the one of the settings. -/
  contracts : Option String
  contract : String
  file : String
  /-- Whether the exit code tells that data is not valid. -/
  strict : Bool
  /-- Whether violations are printed as JSON. -/
  json : Bool
  deriving DecidableEq, Inhabited

namespace CommandRequest

/-- The options given, with their values, and the arguments left over. -/
structure Given where
  options : List (CommandOption × String)
  rest : List String
  deriving DecidableEq, Inhabited

/-- Whether an option is given. -/
def Given.has (g : Given) (o : CommandOption) : Bool :=
  g.options.any (·.1 = o)

/-- The value of an option; of several the last. -/
def Given.value? (g : Given) (o : CommandOption) : Option String :=
  (g.options.reverse.find? (·.1 = o)).map (·.2)

/-- Checks letters in a row after that of the help: they must be such letters too, and there must be
some. -/
def checkLetters (o : CommandOption) : List Char → Except UsageFault Unit
  | [] => .error (.valueIgnored o "")
  | c :: rest =>
    if !o.spellings.contains ("-" ++ String.singleton c) then
      .error (.valueIgnored o (String.ofList (c :: rest)))
    else if rest.isEmpty then .ok ()
    else checkLetters o rest

/-- Goes through arguments; none as soon as the help is asked for. -/
def gather (g : Given) : List CommandArgument → Except UsageFault (Option Given)
  | [] => .ok (some g)
  | .operand s :: rest => gather { g with rest := g.rest ++ [s] } rest
  | .divider :: rest => gather { g with rest := g.rest ++ ["--"] } rest
  | .unknown s :: rest => gather { g with rest := g.rest ++ [s] } rest
  | .letters o text :: _ => (checkLetters o text.toList).map fun _ => none
  | .option o (some value) :: rest =>
    if o.takesValue then gather { g with options := g.options ++ [(o, value)] } rest
    else .error (.valueIgnored o value)
  | .option o none :: rest =>
    if o = .help then .ok none
    else if o.takesValue then
      match rest with
      | .operand value :: rest => gather { g with options := g.options ++ [(o, value)] } rest
      | _ => .error (.valueMissing o)
    else gather { g with options := g.options ++ [(o, "")] } rest

/-- The request that given options make. -/
def ofGiven (g : Given) : Except UsageFault CommandRequest :=
  match CommandOption.all.filter fun o => o.isRequired && !g.has o, g.rest with
  | [], [] => .ok ⟨g.value? .contracts, (g.value? .contract).getD "", (g.value? .file).getD "",
      g.has .strict, g.has .json⟩
  | [], rest => .error (.unrecognized rest)
  | missing, _ => .error (.missing missing)

/-- The request that arguments make; none if they ask for the help. -/
def ofArguments (arguments : List String) : Except UsageFault (Option CommandRequest) := do
  match ← gather ⟨[], []⟩ (← CommandArgument.ofTexts arguments) with
  | none => return none
  | some g => return some (← ofGiven g)

end CommandRequest

namespace Command

/-- The name of the command. -/
def name : String := "perimeter-validate"

/-- How the command is called. -/
def usage : String :=
  "usage: perimeter-validate [-h] [--contracts CONTRACTS] --contract CONTRACT\n" ++
  "                          --file FILE [--strict] [--json]\n"

/-- What the command does and what its options mean. -/
def help : String :=
  usage ++
  "\nValidate data against a contract\n" ++
  "\noptions:\n" ++
  "  -h, --help            show this help message and exit\n" ++
  "  --contracts CONTRACTS\n" ++
  "                        Contract definition file (.yaml/.yml/.json); defaults\n" ++
  "                        to the contracts_path setting\n" ++
  "  --contract CONTRACT   Name of the contract to validate against\n" ++
  "  --file FILE           JSON file to validate\n" ++
  "  --strict              Exit with error code on validation failure\n" ++
  "  --json                Print violations as JSON instead of a report\n"

/-- What is printed when arguments are refused. -/
def refusal (fault : UsageFault) : String :=
  usage ++ name ++ ": error: " ++ fault.message ++ "\n"

end Command

end DataContract
