/-
Nodes: the tree that the tokens of a YAML text describe.

`Node.ofTokens` reads the one document of a text. Aliases are replaced by the nodes they name; one
that names nothing is refused, and so is one inside the very node it names: a value that holds itself
is no value here.
-/
import DataContract.Yaml.Tag
import DataContract.Yaml.Token

namespace DataContract.Yaml

/-- A node of the tree. -/
inductive Node where
  | scalar (tag : Tag) (text : String)
  | sequence (tag : Tag) (items : List Node)
  | mapping (tag : Tag) (entries : List (Node × Node))
  deriving Inhabited

namespace Node

/-- The node for nothing. -/
def empty : Node := .scalar .null ""

/-- What is known while a document is read: the tokens that are left, the nodes with names, none for
one that is still being read, and what handles of tags stand for. -/
structure Context where
  tokens : List Token
  anchors : List (String × Option Node)
  handles : List (String × String)

/-- Where a node stands, which decides what collections it may be. -/
inductive Place where
  | inFlow
  | inBlock
  /-- After a key or colon of a block mapping, where a sequence need not be indented. -/
  | afterKey
  deriving DecidableEq

/-- The properties before a node's content. -/
structure Properties where
  anchor : Option String
  tag : Option String

/-- The handles that every document knows. -/
def standardHandles : List (String × String) :=
  [("!", "!"), ("!!", Tag.standard)]

/-- A tag with its handle replaced. -/
def fullTag (c : Context) (handle : Option String) (suffix : String) : Except YamlFault String :=
  match handle with
  | none => .ok suffix
  | some h =>
    match c.handles.find? (·.1 = h) with
    | some (_, expansion) => .ok (expansion ++ suffix)
    | none => .error .malformed

/-- The properties at a place: an anchor and a tag in either order. -/
def properties (c : Context) : Except YamlFault (Properties × Context) :=
  match c.tokens with
  | .anchor a :: .tag h s :: rest => do
    return (⟨some a, some (← fullTag c h s)⟩, { c with tokens := rest })
  | .tag h s :: .anchor a :: rest => do
    return (⟨some a, some (← fullTag c h s)⟩, { c with tokens := rest })
  | .anchor a :: rest => .ok (⟨some a, none⟩, { c with tokens := rest })
  | .tag h s :: rest => do return (⟨none, some (← fullTag c h s)⟩, { c with tokens := rest })
  | _ => .ok (⟨none, none⟩, c)

/-- The tag of a scalar: the one given, or what its form says if it is plain. -/
def scalarTag (given : Option String) (plain : Bool) (text : String) : Tag :=
  match given with
  | none => if plain then Tag.ofPlain text else .text
  | some t => if t = "!" then Tag.ofPlain text else Tag.ofName t

/-- The tag of a collection: the one given, or the common one. -/
def collectionTag (given : Option String) (common : Tag) : Tag :=
  match given with
  | none => common
  | some t => if t = "!" then common else Tag.ofName t

/-- Takes note that a node with a name begins. -/
def opening (p : Properties) (c : Context) : Except YamlFault Context :=
  match p.anchor with
  | none => .ok c
  | some a =>
    if c.anchors.any (·.1 = a) then .error .malformed
    else .ok { c with anchors := (a, none) :: c.anchors }

/-- Takes note of a node's name once it is read. -/
def closing (p : Properties) (n : Node) (c : Context) : Node × Context :=
  match p.anchor with
  | none => (n, c)
  | some a =>
    (n, { c with anchors := c.anchors.map fun e => if e.1 = a then (a, some n) else e })

/-- The node that an alias names. -/
def aliased (c : Context) (name : String) : Except YamlFault Node :=
  match c.anchors.find? (·.1 = name) with
  | some (_, some n) => .ok n
  | _ => .error .malformed

/-- Whether nothing stands between a key or colon of a block mapping and the next token. -/
def emptyInMapping : List Token → Bool
  | .key :: _ => true
  | .value :: _ => true
  | .blockEnd :: _ => true
  | _ => false

/-- Whether nothing stands after the dash of a sequence that is not indented. -/
def emptyInSequence : List Token → Bool
  | .blockEntry :: _ => true
  | ts => emptyInMapping ts

/-- Whether nothing stands after a key or colon in a flow collection. -/
def emptyInFlow (ending : Token) : List Token → Bool
  | [] => false
  | t :: _ => t == .value || t == .flowEntry || t == ending

/-- Whether a flow collection ends, and the tokens after it or, if it goes on, after the comma that
must then be there, the first part apart. -/
def nextInFlow (ending : Token) (first : Bool) (ts : List Token) :
    Except YamlFault (Bool × List Token) :=
  match ts with
  | [] => .error .malformed
  | t :: rest =>
    if t == ending then .ok (true, rest)
    else if first then .ok (false, ts)
    else if t == .flowEntry then
      match rest with
      | u :: more => .ok (if u == ending then (true, more) else (false, rest))
      | [] => .error .malformed
    else .error .malformed

mutual

/-- A node with its properties. -/
def node : Nat → Place → Context → Except YamlFault (Node × Context)
  | 0, _, _ => .error .malformed
  | fuel + 1, place, c =>
    match c.tokens with
    | .alias name :: rest => do return (← aliased c name, { c with tokens := rest })
    | _ => do
      let (p, c) ← properties c
      let c ← opening p c
      let (n, c) ← content fuel place p c
      return closing p n c

/-- The content of a node; nothing at all is a node only if it has properties. -/
def content : Nat → Place → Properties → Context → Except YamlFault (Node × Context)
  | 0, _, _, _ => .error .malformed
  | fuel + 1, place, p, c =>
    let next (rest : List Token) : Context := { c with tokens := rest }
    let listTag := collectionTag p.tag .sequence
    let mapTag := collectionTag p.tag .mapping
    match place, c.tokens with
    | .afterKey, .blockEntry :: _ => do
      let (items, c) ← looseItems fuel c
      return (.sequence listTag items, c)
    | _, .scalar text plain :: rest => .ok (.scalar (scalarTag p.tag plain text) text, next rest)
    | _, .flowSequenceStart :: rest => do
      let (items, c) ← flowItems fuel true (next rest)
      return (.sequence listTag items, c)
    | _, .flowMappingStart :: rest => do
      let (entries, c) ← flowEntries fuel true (next rest)
      return (.mapping mapTag entries, c)
    | place, .blockSequenceStart :: rest =>
      if place = .inFlow then .error .malformed
      else do
        let (items, c) ← blockItems fuel (next rest)
        return (.sequence listTag items, c)
    | place, .blockMappingStart :: rest =>
      if place = .inFlow then .error .malformed
      else do
        let (entries, c) ← blockEntries fuel (next rest)
        return (.mapping mapTag entries, c)
    | _, _ =>
      if p.anchor.isSome || p.tag.isSome then .ok (.scalar (scalarTag p.tag true "") "", c)
      else .error .malformed

/-- The items of a block sequence. -/
def blockItems : Nat → Context → Except YamlFault (List Node × Context)
  | 0, _ => .error .malformed
  | fuel + 1, c =>
    match c.tokens with
    | .blockEnd :: rest => .ok ([], { c with tokens := rest })
    | .blockEntry :: rest => do
      let c := { c with tokens := rest }
      let bare : Bool := match rest with
        | .blockEntry :: _ => true
        | .blockEnd :: _ => true
        | _ => false
      let (n, c) ← if bare then .ok (empty, c) else node fuel .inBlock c
      let (ns, c) ← blockItems fuel c
      return (n :: ns, c)
    | _ => .error .malformed

/-- The items of a sequence that is not indented. -/
def looseItems : Nat → Context → Except YamlFault (List Node × Context)
  | 0, _ => .error .malformed
  | fuel + 1, c =>
    match c.tokens with
    | .blockEntry :: rest => do
      let c := { c with tokens := rest }
      let (n, c) ← if emptyInSequence rest then .ok (empty, c) else node fuel .inBlock c
      let (ns, c) ← looseItems fuel c
      return (n :: ns, c)
    | _ => .ok ([], c)

/-- The entries of a block mapping. -/
def blockEntries : Nat → Context → Except YamlFault (List (Node × Node) × Context)
  | 0, _ => .error .malformed
  | fuel + 1, c =>
    match c.tokens with
    | .blockEnd :: rest => .ok ([], { c with tokens := rest })
    | .key :: rest => do
      let c := { c with tokens := rest }
      let (k, c) ← if emptyInMapping rest then .ok (empty, c) else node fuel .afterKey c
      let (v, c) ←
        match c.tokens with
        | .value :: rest =>
          let c := { c with tokens := rest }
          if emptyInMapping rest then .ok (empty, c) else node fuel .afterKey c
        | _ => .ok (empty, c)
      let (es, c) ← blockEntries fuel c
      return ((k, v) :: es, c)
    | _ => .error .malformed

/-- A key and a value in a flow collection, the mark for a key behind them. -/
def flowPair : Nat → Token → Context → Except YamlFault ((Node × Node) × Context)
  | 0, _, _ => .error .malformed
  | fuel + 1, ending, c => do
    let (k, c) ← if emptyInFlow ending c.tokens then .ok (empty, c) else node fuel .inFlow c
    match c.tokens with
    | .value :: rest =>
      let c := { c with tokens := rest }
      let bare : Bool := match rest with
        | t :: _ => t == .flowEntry || t == ending
        | [] => false
      let (v, c) ← if bare then .ok (empty, c) else node fuel .inFlow c
      return ((k, v), c)
    | _ => return ((k, empty), c)

/-- The items of a flow sequence; a pair is a mapping with one entry. -/
def flowItems : Nat → Bool → Context → Except YamlFault (List Node × Context)
  | 0, _, _ => .error .malformed
  | fuel + 1, first, c => do
    let (done, rest) ← nextInFlow .flowSequenceEnd first c.tokens
    let c := { c with tokens := rest }
    if done then return ([], c)
    else
      let (n, c) ←
        match rest with
        | .key :: more => do
          let (pair, c) ← flowPair fuel .flowSequenceEnd { c with tokens := more }
          pure (Node.mapping .mapping [pair], c)
        | _ => node fuel .inFlow c
      let (ns, c) ← flowItems fuel false c
      return (n :: ns, c)

/-- The entries of a flow mapping; a node alone is a key. -/
def flowEntries : Nat → Bool → Context → Except YamlFault (List (Node × Node) × Context)
  | 0, _, _ => .error .malformed
  | fuel + 1, first, c => do
    let (done, rest) ← nextInFlow .flowMappingEnd first c.tokens
    let c := { c with tokens := rest }
    if done then return ([], c)
    else
      let (e, c) ←
        match rest with
        | .key :: more => flowPair fuel .flowMappingEnd { c with tokens := more }
        | _ => do
          let (k, c) ← node fuel .inFlow c
          pure ((k, empty), c)
      let (es, c) ← flowEntries fuel false c
      return (e :: es, c)

end

/-- What the directives before a document say about handles of tags; a version may be given once. -/
def directives : List Token → Bool → List (String × String) →
    Except YamlFault (List (String × String) × List Token)
  | .directive (.version major) :: rest, versioned, handles =>
    if versioned || major ≠ 1 then .error .malformed else directives rest true handles
  | .directive (.tagHandle h expansion) :: rest, versioned, handles =>
    if handles.any (·.1 = h) then .error .malformed
    else directives rest versioned ((h, expansion) :: handles)
  | .directive .other :: rest, versioned, handles => directives rest versioned handles
  | rest, _, handles => .ok (handles, rest)

/-- The end of a text after its one document. -/
def atEnd (ts : List Token) : Bool :=
  (ts.dropWhile (· == .documentEnd)).isEmpty

/-- The node of the document that begins with these tokens, which must be the only one. -/
def document (handles : List (String × String)) (ts : List Token) : Except YamlFault Node := do
  let (n, c) ← node (3 * ts.length + 3) .inBlock ⟨ts, [], handles ++ standardHandles⟩
  if atEnd c.tokens then return n else .error .malformed

/-- Whether a document begun by a mark has nothing in it. -/
def nothingFollows : List Token → Bool
  | [] => true
  | .directive _ :: _ => true
  | .documentStart :: _ => true
  | .documentEnd :: _ => true
  | _ => false

/-- The node of the document that tokens describe; none if there is no document. -/
def ofTokens (ts : List Token) : Except YamlFault (Option Node) :=
  let marked : Bool := match ts with
    | .directive _ :: _ => true
    | .documentStart :: _ => true
    | _ => false
  if ts.isEmpty then .ok none
  else if !marked then (document [] ts).map some
  else do
    let (handles, rest) ← directives ts false []
    match rest with
    | .documentStart :: rest =>
      if nothingFollows rest then
        if atEnd rest then return some empty else .error .malformed
      else some <$> document handles rest
    | _ => .error .malformed

end Node

end DataContract.Yaml
