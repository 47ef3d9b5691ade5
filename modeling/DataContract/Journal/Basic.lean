/-
Log entries, and computations that write them.

A `Noted` computation succeeds or fails and either way leaves the entries written until then, in
order. Which of them anyone sees is decided where they are read, by their level.
-/
import DataContract.Value.Rendering

namespace DataContract

/-- The levels that have names. -/
inductive LogLevel where
  | debug
  | info
  | warning
  | error
  | critical
  deriving DecidableEq, Inhabited

namespace LogLevel

/-- The number of a level. -/
def number : LogLevel → Nat
  | .debug => 10
  | .info => 20
  | .warning => 30
  | .error => 40
  | .critical => 50

end LogLevel

/-- The parts of the library that write entries, each under a name of its own. -/
inductive Component where
  | validator
  | builder
  | loader
  | registry
  | guard
  | policy
  | settings
  deriving DecidableEq, Inhabited

namespace Component

/-- The name that a component's entries bear. -/
def loggerName : Component → String
  | .validator => "contracts.validator"
  | .builder => "contracts.builder"
  | .loader => "contracts.loader"
  | .registry => "contracts.registry"
  | .guard => "middleware.guard"
  | .policy => "middleware.policy"
  | .settings => "common.config"

end Component

/-- An entry of the log; `fields` if it was written with structured fields. -/
structure LogEntry where
  logger : String
  level : Int
  message : String
  fields : Option (List (String × Value))
  deriving Inhabited

namespace LogEntry

/-- A plain entry of a component. -/
def plain (c : Component) (level : LogLevel) (message : String) : LogEntry :=
  ⟨c.loggerName, level.number, message, none⟩

/-- Fields as an entry's message shows them. -/
def shownFields : List (String × Value) → Except TooManyDigits (List String)
  | [] => .ok []
  | (name, v) :: rest => do
    let text ← v.display
    let others ← shownFields rest
    return (name ++ "=" ++ text) :: others

/-- Whether a field says something. -/
def isPresent : String × Value → Bool
  | (_, .null) => false
  | _ => true

/-- An entry with structured fields: those that say something are kept, and shown between brackets
after the message. -/
def structured (logger : String) (level : Int) (message : String) (fields : List (String × Value)) :
    Except TooManyDigits LogEntry := do
  let kept := fields.filter isPresent
  let shown ← shownFields kept
  let text := if shown.isEmpty then message else message ++ " [" ++ " ".intercalate shown ++ "]"
  return ⟨logger, level, text, some kept⟩

end LogEntry

/-- A computation that may fail, with the entries it wrote. -/
structure Noted (ε α : Type) where
  result : Except ε α
  notes : List LogEntry

namespace Noted

/-- A value, with nothing written. -/
def ok {ε α : Type} (a : α) : Noted ε α := ⟨.ok a, []⟩

/-- A failure, with nothing written. -/
def fail {ε α : Type} (e : ε) : Noted ε α := ⟨.error e, []⟩

/-- A result, with nothing written. -/
def of {ε α : Type} (r : Except ε α) : Noted ε α := ⟨r, []⟩

/-- Goes on with the value, the entries of both in order. -/
def andThen {ε α β : Type} (x : Noted ε α) (f : α → Noted ε β) : Noted ε β :=
  match x.result with
  | .ok a => ⟨(f a).result, x.notes ++ (f a).notes⟩
  | .error e => ⟨.error e, x.notes⟩

instance {ε : Type} : Monad (Noted ε) where
  pure := ok
  bind := andThen

/-- Writes an entry. -/
def note {ε : Type} (entry : LogEntry) : Noted ε Unit := ⟨.ok (), [entry]⟩

/-- Writes entries. -/
def noteAll {ε : Type} (entries : List LogEntry) : Noted ε Unit := ⟨.ok (), entries⟩

/-- The same with the failure turned into another. -/
def mapError {ε δ α : Type} (f : ε → δ) (x : Noted ε α) : Noted δ α :=
  ⟨x.result.mapError f, x.notes⟩

end Noted

end DataContract
