/-
The tokens of YAML texts.
-/

namespace DataContract.Yaml

/-- A line that speaks about the document that follows. -/
inductive Directive where
  | version (major : Nat)
  | tagHandle (handle expansion : String)
  | other
  deriving DecidableEq, Inhabited

/-- A token. The marks for the start and end of block collections, and for simple keys, stand for
indentation and for what follows. -/
inductive Token where
  | directive (d : Directive)
  | documentStart
  | documentEnd
  | flowSequenceStart
  | flowSequenceEnd
  | flowMappingStart
  | flowMappingEnd
  | flowEntry
  | blockSequenceStart
  | blockMappingStart
  | blockEnd
  | blockEntry
  | key
  | value
  | alias (name : String)
  | anchor (name : String)
  | tag (handle : Option String) (suffix : String)
  | scalar (text : String) (plain : Bool)
  deriving DecidableEq, Inhabited

end DataContract.Yaml
