/-
Reading the text of a pattern.

The grammar is read from the left over `PatternToken`s, a backslash being one token with the
character after it. `Regex.read?` yields the tree and the options in force, those given and those
that the pattern turns on at its start. A text that is no pattern is refused with a
`PatternFault`, and so is one that names a character by its Unicode name (`\N` before a name in
braces), for which there is no table here.
-/
import DataContract.Pattern.Tree
import DataContract.Number.Text
import DataContract.Text.Identifier

namespace DataContract

/-- Why a text is no pattern. -/
inductive PatternFault where
  /-- The grammar is not kept. -/
  | malformed
  /-- The options exclude one another, or a number is too long to be read. -/
  | unusable (reason : String)
  /-- A repetition asks for more turns than can be counted. -/
  | repetitionTooLarge
  deriving DecidableEq, Inhabited

/-- What a repetition that cannot be counted is refused with. -/
def repetitionTooLargeText : String := "the repetition number is too large"

/-- A character of the pattern's text, or a backslash with the character after it. -/
inductive PatternToken where
  | plain (c : Char)
  | escaped (c : Char)
  deriving DecidableEq, Inhabited

namespace PatternToken

/-- The tokens of a text; none if it ends in a lone backslash. -/
def ofText? : List Char → Option (List PatternToken)
  | [] => some []
  | ['\\'] => none
  | '\\' :: c :: rest => (ofText? rest).map (.escaped c :: ·)
  | c :: rest => (ofText? rest).map (.plain c :: ·)

/-- The characters of a token. -/
def chars : PatternToken → List Char
  | .plain c => [c]
  | .escaped c => ['\\', c]

end PatternToken

/-- What is known while a pattern is read. -/
structure PatternReading where
  rest : List PatternToken
  options : PatternOptions
  /-- How long the matches of each group are, from the first on; none while it is open. -/
  groups : List (Option MatchWidth)
  names : List (String × Nat)
  /-- How many groups there were when the outermost open lookbehind began. -/
  behindFrom : Option Nat
  /-- The groups that conditions name by number. -/
  referred : List Nat
  /-- Whether every lookbehind has matches of one length. -/
  fixedBehind : Bool
  deriving Inhabited

/-- A step of reading a pattern. -/
abbrev PatternReader := StateT PatternReading (Except PatternFault)

namespace PatternReader

/-- Refuses the pattern. -/
def malformed {α : Type} : PatternReader α :=
  throw .malformed

/-- The next token, left where it is. -/
def peek : PatternReader (Option PatternToken) :=
  return (← get).rest.head?

/-- The next token, taken. -/
def next : PatternReader (Option PatternToken) := do
  let s ← get
  match s.rest with
  | [] => return none
  | t :: rest =>
    set { s with rest := rest }
    return some t

/-- Takes the next token if it is this character. -/
def accept (c : Char) : PatternReader Bool := do
  let s ← get
  match s.rest with
  | .plain d :: rest =>
    if c = d then
      set { s with rest := rest }
      return true
    else return false
  | _ => return false

/-- Takes up to `count` plain characters that pass the test. -/
def takeWhile (test : Char → Bool) : Nat → PatternReader (List Char)
  | 0 => return []
  | count + 1 => do
    let s ← get
    match s.rest with
    | .plain c :: rest =>
      if test c then
        set { s with rest := rest }
        return c :: (← takeWhile test count)
      else return []
    | _ => return []

/-- Takes the tokens before a closing character, and the character; there must be some. -/
def untilChar (close : Char) : PatternReader (List Char) := do
  let s ← get
  let name := s.rest.takeWhile (· ≠ .plain close)
  let rest := s.rest.dropWhile (· ≠ .plain close)
  if name.isEmpty || rest.isEmpty then malformed
  else
    set { s with rest := rest.drop 1 }
    return name.flatMap PatternToken.chars

/-- Whether the pattern is one of texts; one of bytes knows no Unicode escapes. -/
structure Dialect where
  text : Bool
  deriving DecidableEq, Inhabited

/-- Whether a character is an octal digit. -/
def isOctal (c : Char) : Bool := '0' ≤ c && c ≤ '7'

/-- Whether a character is an ASCII letter. -/
def isAsciiLetter (c : Char) : Bool := ('a' ≤ c && c ≤ 'z') || ('A' ≤ c && c ≤ 'Z')

/-- A character written as a fixed number of hexadecimal digits. -/
def hexEscape (count : Nat) : PatternReader Nat := do
  let digits ← takeWhile isHexDigit count
  let code := digitsValue 16 digitOf digits
  if digits.length = count && code ≤ 0x10ffff then return code else malformed

/-- A character named by a letter after the backslash. -/
def letterEscape? : Char → Option Nat
  | 'a' => some 7
  | 'b' => some 8
  | 'f' => some 12
  | 'n' => some 10
  | 'r' => some 13
  | 't' => some 9
  | 'v' => some 11
  | '\\' => some 92
  | _ => none

/-- A class of characters named by a letter after the backslash. -/
def category? : Char → Option Category
  | 'd' => some .digit
  | 'D' => some .notDigit
  | 's' => some .space
  | 'S' => some .notSpace
  | 'w' => some .word
  | 'W' => some .notWord
  | _ => none

/-- An octal escape of up to three digits, at most `0o377`. -/
def octalCode (digits : List Char) : PatternReader Nat :=
  let code := digitsValue 8 digitOf digits
  if code ≤ 0o377 then return code else malformed

/-- The escapes common to sets and to the rest of the pattern, after those with a class. -/
def characterEscape (d : Dialect) (c : Char) : PatternReader Nat := do
  if c = 'x' then hexEscape 2
  else if c = 'u' && d.text then hexEscape 4
  else if c = 'U' && d.text then hexEscape 8
  else if isAsciiLetter c || isAsciiDigit c then malformed
  else return c.toNat

/-- A backslash inside a set. -/
def setEscape (d : Dialect) (c : Char) : PatternReader SetItem := do
  match letterEscape? c, category? c with
  | some code, _ => return .point code
  | none, some k => return .category k
  | none, none =>
    if isOctal c then
      let more ← takeWhile isOctal 2
      return .point (← octalCode (c :: more))
    else return .point (← characterEscape d c)

/-- Whether a group is closed. -/
def isClosed (s : PatternReading) (group : Nat) : Bool :=
  match s.groups[group]? with
  | some (some _) => true
  | _ => false

/-- A lookbehind may refer only to groups that were closed before it began. -/
def checkBehind (group : Nat) : PatternReader Unit := do
  let s ← get
  match s.behindFrom with
  | none => return ()
  | some count => if isClosed s group && group < count then return () else malformed

/-- A reference to a group that must be closed. -/
def reference (group : Nat) : PatternReader Regex := do
  if isClosed (← get) group then
    checkBehind group
    return .back group
  else malformed

/-- A backslash outside sets. -/
def escape (d : Dialect) (c : Char) : PatternReader Regex := do
  match category? c with
  | some k => return .set false [.category k]
  | none =>
    match c with
    | 'A' => return .anchor .textStart
    | 'Z' => return .anchor .textFinish
    | 'b' => return .anchor .boundary
    | 'B' => return .anchor .notBoundary
    | _ =>
      match letterEscape? c with
      | some code => return .literal code
      | none =>
        if c = '0' then
          let more ← takeWhile isOctal 2
          return .literal (← octalCode (c :: more))
        else if isAsciiDigit c then
          let second ← takeWhile isAsciiDigit 1
          match second with
          | [e] =>
            if isOctal c && isOctal e then
              match ← takeWhile isOctal 1 with
              | [f] => return .literal (← octalCode [c, e, f])
              | _ => reference (decimalValue [c, e])
            else reference (decimalValue [c, e])
          | _ => reference (decimalValue [c])
        else return .literal (← characterEscape d c)

/-- The first alternative of a set's class that a hyphen follows is a range. -/
def rangeOf : SetItem → SetItem → PatternReader SetItem
  | .point low, .point high => if high < low then malformed else return .range low high
  | _, _ => malformed

/-- The items of a set up to its closing bracket, which is a plain character in first place. -/
def setItems (d : Dialect) : Nat → Bool → PatternReader (List SetItem)
  | 0, _ => malformed
  | fuel + 1, isFirst => do
    match ← next with
    | none => malformed
    | some t =>
      if t = .plain ']' && !isFirst then return []
      else
        let item ← match t with
          | .escaped c => setEscape d c
          | .plain c => pure (SetItem.point c.toNat)
        if ← accept '-' then
          match ← next with
          | none => malformed
          | some (.plain ']') => return [item, .point '-'.toNat]
          | some (.plain c) =>
            let r ← rangeOf item (.point c.toNat)
            return r :: (← setItems d fuel false)
          | some (.escaped c) =>
            let r ← rangeOf item (← setEscape d c)
            return r :: (← setItems d fuel false)
        else return item :: (← setItems d fuel false)

/-- A bracketed set after its opening bracket; one that holds a single character is that
character. -/
def bracketed (d : Dialect) : PatternReader Regex := do
  let negated ← accept '^'
  let fuel := (← get).rest.length + 1
  let items := (← setItems d fuel true).eraseDups
  match items with
  | [.point code] => return if negated then .notLiteral code else .literal code
  | _ => return .set negated items

/-- One more than the greatest number of turns a repetition may ask for. -/
def repetitionLimit : Nat := 4294967295

/-- A number of turns. -/
def turns (digits : List Char) : PatternReader Nat :=
  let n := decimalValue digits
  if digits.length > digitLimit then
    throw (.unusable (TooManyDigits.readMessage digits.length))
  else if n ≥ repetitionLimit then throw .repetitionTooLarge
  else return n

/-- The counts between braces after the opening one, or nothing, and then nothing is taken. -/
def counts? : PatternReader (Option (Nat × Option Nat)) := do
  let before ← get
  if (← peek) = some (.plain '}') then return none
  else
    let all := before.rest.length
    let low ← takeWhile isAsciiDigit all
    let high ← if ← accept ',' then takeWhile isAsciiDigit all else pure low
    if ← accept '}' then
      let least ← if low.isEmpty then pure 0 else turns low
      if high.isEmpty then return some (least, none)
      else
        let most ← turns high
        if most < least then malformed else return some (least, some most)
    else
      set before
      return none

/-- What a letter switches. -/
def optionOf? : Char → Option PatternOptions
  | 'i' => some { PatternOptions.off with ignoreCase := true }
  | 'L' => some { PatternOptions.off with alphabets := ⟨false, true, false⟩ }
  | 'm' => some { PatternOptions.off with multiline := true }
  | 's' => some { PatternOptions.off with dotAll := true }
  | 'x' => some { PatternOptions.off with verbose := true }
  | 'a' => some { PatternOptions.off with alphabets := ⟨true, false, false⟩ }
  | 't' => some { PatternOptions.off with template := true }
  | 'u' => some { PatternOptions.off with alphabets := ⟨false, false, true⟩ }
  | _ => none

/-- Switches turned on, from the first letter on, and the character that ends them. -/
def switchesOn (d : Dialect) : Nat → Char → PatternOptions → PatternReader (PatternOptions × Char)
  | 0, _, _ => malformed
  | fuel + 1, c, added => do
    match optionOf? c with
    | none => malformed
    | some option =>
      if (d.text && c = 'L') || (!d.text && c = 'u') then malformed
      let sum := added.union option
      if option.choosesAlphabet && sum.alphabets ≠ option.alphabets then malformed
      match ← next with
      | some (.plain e) =>
        if e = ')' || e = '-' || e = ':' then return (sum, e) else switchesOn d fuel e sum
      | _ => malformed

/-- Switches turned off, from the first letter on, up to the colon. -/
def switchesOff : Nat → Char → PatternOptions → PatternReader PatternOptions
  | 0, _, _ => malformed
  | fuel + 1, c, removed => do
    match optionOf? c with
    | none => malformed
    | some option =>
      if option.choosesAlphabet then malformed
      let sum := removed.union option
      match ← next with
      | some (.plain ':') => return sum
      | some (.plain e) => switchesOff fuel e sum
      | _ => malformed

/-- Switches after `(?`: either for the whole pattern, or turned on and off for a group. -/
def switches (d : Dialect) (c : Char) :
    PatternReader (Option (PatternOptions × PatternOptions)) := do
  let fuel := (← get).rest.length + 1
  let (added, close) ← if c = '-' then pure (PatternOptions.off, '-') else switchesOn d fuel c .off
  if close = ')' then
    modify fun s => { s with options := s.options.union added }
    return none
  if added.template then malformed
  let removed ←
    if close = '-' then
      match ← next with
      | some (.plain e) => switchesOff fuel e .off
      | _ => malformed
    else pure PatternOptions.off
  if removed.template then malformed
  let both (f : PatternOptions → Bool) : Bool := f added && f removed
  if both (·.ignoreCase) || both (·.multiline) || both (·.dotAll) || both (·.verbose) then malformed
  return some (added, removed)

/-- Opens the next group. -/
def openGroup (name : Option String) : PatternReader Nat := do
  let s ← get
  let index := s.groups.length
  match name with
  | some n => if s.names.any (·.1 = n) then malformed
  | none => pure ()
  set { s with
    groups := s.groups ++ [none]
    names := (name.map (·, index)).toList ++ s.names }
  return index

/-- How long matches of a tree are, by the groups closed so far. -/
def widthOf (r : Regex) : PatternReader MatchWidth := do
  let s ← get
  return r.width fun index => (s.groups[index]?.bind id).getD .zero

/-- Closes a group. -/
def closeGroup (index : Nat) (r : Regex) : PatternReader Unit := do
  let w ← widthOf r
  modify fun s => { s with groups := s.groups.set index (some w) }

/-- The group that a name stands for. -/
def named (name : List Char) : PatternReader Nat := do
  match (← get).names.find? (·.1 = String.ofList name) with
  | some (_, index) => return index
  | none => malformed

/-- A name must be an identifier. -/
def checkName (name : List Char) : PatternReader Unit :=
  if isIdentifier name then return () else malformed

/-- The group that a condition names, by name or by number. -/
def conditionGroup (name : List Char) : PatternReader Nat := do
  if isIdentifier name then named name
  else
    let body := (name.dropWhile CodeSet.space.contains).reverse.dropWhile
      CodeSet.space.contains |>.reverse
    let digits := match body with
      | '+' :: r => r
      | r => r
    let group := decimalValue digits
    if digits.isEmpty || !digits.all isAsciiDigit || group = 0 then malformed
    else
      modify fun s => { s with referred := group :: s.referred }
      return group

/-- An item of a sequence while it is read: whether a repetition sign may follow it, and whether it
is a repetition already. -/
structure Item where
  tree : Regex
  repeatable : Bool
  isRepetition : Bool

/-- An item that a repetition sign may follow. -/
def Item.plain (tree : Regex) : Item := ⟨tree, true, false⟩

/-- An anchor, which no repetition sign may follow. -/
def Item.fixed (tree : Regex) : Item := ⟨tree, false, false⟩

/-- What has been read in a sequence, the last item first. -/
def sequenceOf (items : List Item) : Regex :=
  match items with
  | [] => .empty
  | last :: before => before.foldl (fun tree item => .sequence item.tree tree) last.tree

/-- The sign after a repetition that says how it chooses among counts. -/
def repeatMode : PatternReader RepeatMode := do
  let isLazy ← accept '?'
  if isLazy then return .lazy
  let isPossessive ← accept '+'
  if isPossessive then return .possessive
  return .greedy

/-- Puts a repetition in the place of the item before it. -/
def repetition (items : List Item) (least : Nat) (most : Option Nat) :
    PatternReader (List Item) := do
  match items with
  | [] => malformed
  | last :: before =>
    if !last.repeatable || last.isRepetition then malformed
    let mode ← repeatMode
    return ⟨.repeated least most mode last.tree, true, true⟩ :: before

/-- Whether a character is a blank that a verbose pattern may hold anywhere. -/
def isVerboseBlank (c : Char) : Bool :=
  c = ' ' || (9 ≤ c.toNat && c.toNat ≤ 13)

/-- Takes the tokens up to the end of the line. -/
def skipLine : PatternReader Unit :=
  modify fun s => { s with rest := (s.rest.dropWhile (· ≠ .plain '\n')).drop 1 }

/-- Takes the tokens up to a closing parenthesis, which must come. -/
def skipComment : PatternReader Unit := do
  let s ← get
  let rest := s.rest.dropWhile (· ≠ .plain ')')
  if rest.isEmpty then malformed else set { s with rest := rest.drop 1 }

/-- Takes the closing parenthesis of a group, which must come. -/
def closing : PatternReader Unit := do
  if ← accept ')' then return () else malformed

/-- Alternatives; `outermost` for those of the whole pattern, where switches in the first may make
the others verbose. -/
def choose : List Regex → Regex
  | [] => .empty
  | [r] => r
  | r :: rest => .either r (choose rest)

mutual

/-- Alternatives separated by bars. -/
def alternatives (d : Dialect) : Nat → Bool → Bool → PatternReader Regex
  | 0, _, _ => malformed
  | fuel + 1, verbose, outermost => do
    let first ← sequence d fuel verbose outermost []
    let others ← moreAlternatives d fuel verbose outermost
    return choose (first :: others)

/-- The alternatives after the first. -/
def moreAlternatives (d : Dialect) : Nat → Bool → Bool → PatternReader (List Regex)
  | 0, _, _ => malformed
  | fuel + 1, verbose, outermost => do
    if ← accept '|' then
      let s ← get
      let verbose := if outermost then s.options.verbose else verbose
      let r ← sequence d fuel verbose false []
      return r :: (← moreAlternatives d fuel verbose outermost)
    else return []

/-- A sequence of items up to a bar, a closing parenthesis or the end; `leading` while switches for
the whole pattern may still come. -/
def sequence (d : Dialect) : Nat → Bool → Bool → List Item → PatternReader Regex
  | 0, _, _, _ => malformed
  | fuel + 1, verbose, leading, items => do
    match ← peek with
    | none => return sequenceOf items
    | some (.plain '|') => return sequenceOf items
    | some (.plain ')') => return sequenceOf items
    | some (.escaped c) =>
      let _ ← next
      let tree ← escape d c
      let item := match tree with
        | .anchor _ => Item.fixed tree
        | _ => Item.plain tree
      sequence d fuel verbose leading (item :: items)
    | some (.plain c) =>
      let _ ← next
      if verbose && isVerboseBlank c then sequence d fuel verbose leading items
      else if verbose && c = '#' then
        skipLine
        sequence d fuel verbose leading items
      else
        match c with
        | '[' =>
          let tree ← bracketed d
          sequence d fuel verbose leading (Item.plain tree :: items)
        | '.' => sequence d fuel verbose leading (Item.plain .any :: items)
        | '^' => sequence d fuel verbose leading (Item.fixed (.anchor .start) :: items)
        | '$' => sequence d fuel verbose leading (Item.fixed (.anchor .finish) :: items)
        | '?' => sequence d fuel verbose leading (← repetition items 0 (some 1))
        | '*' => sequence d fuel verbose leading (← repetition items 0 none)
        | '+' => sequence d fuel verbose leading (← repetition items 1 none)
        | '{' =>
          match ← counts? with
          | some (least, most) =>
            sequence d fuel verbose leading (← repetition items least most)
          | none => sequence d fuel verbose leading (Item.plain (.literal '{'.toNat) :: items)
        | '(' =>
          let (verbose, item?) ← parenthesis d fuel verbose (leading && items.isEmpty)
          sequence d fuel verbose leading (item?.toList ++ items)
        | _ => sequence d fuel verbose leading (Item.plain (.literal c.toNat) :: items)

/-- What follows an opening parenthesis: the item it makes, if it makes one, and whether the rest
of the sequence is verbose. -/
def parenthesis (d : Dialect) : Nat → Bool → Bool → PatternReader (Bool × Option Item)
  | 0, _, _ => malformed
  | fuel + 1, verbose, leading => do
    if !(← accept '?') then
      let tree ← capturing d fuel verbose none
      return (verbose, some (Item.plain tree))
    match ← next with
    | some (.plain 'P') =>
      match ← next with
      | some (.plain '<') =>
        let name ← untilChar '>'
        checkName name
        let tree ← capturing d fuel verbose (some (String.ofList name))
        return (verbose, some (Item.plain tree))
      | some (.plain '=') =>
        let name ← untilChar ')'
        checkName name
        let tree ← reference (← named name)
        return (verbose, some (Item.plain tree))
      | _ => malformed
    | some (.plain ':') =>
      let tree ← alternatives d fuel verbose false
      closing
      return (verbose, some (Item.plain tree))
    | some (.plain '#') =>
      skipComment
      return (verbose, none)
    | some (.plain '=') => return (verbose, some (Item.plain (← lookahead d fuel verbose false)))
    | some (.plain '!') => return (verbose, some (Item.plain (← lookahead d fuel verbose true)))
    | some (.plain '<') =>
      match ← next with
      | some (.plain '=') => return (verbose, some (Item.plain (← lookbehind d fuel verbose false)))
      | some (.plain '!') => return (verbose, some (Item.plain (← lookbehind d fuel verbose true)))
      | _ => malformed
    | some (.plain '(') =>
      let name ← untilChar ')'
      let group ← conditionGroup name
      checkBehind group
      let yes ← sequence d fuel verbose false []
      let no ← if ← accept '|' then sequence d fuel verbose false [] else pure .empty
      closing
      return (verbose, some (Item.plain (.conditional group yes no)))
    | some (.plain '>') =>
      let tree ← alternatives d fuel verbose false
      closing
      return (verbose, some (Item.plain (.atomic tree)))
    | some (.plain c) =>
      match ← switches d c with
      | none =>
        let s ← get
        if leading then return (s.options.verbose, none) else malformed
      | some (added, removed) =>
        let inner := (verbose || added.verbose) && !removed.verbose
        let tree ← alternatives d fuel inner false
        closing
        return (verbose, some (Item.plain (.switched added removed tree)))
    | _ => malformed

/-- The contents of a capturing group and its closing parenthesis. -/
def capturing (d : Dialect) : Nat → Bool → Option String → PatternReader Regex
  | 0, _, _ => malformed
  | fuel + 1, verbose, name => do
    let index ← openGroup name
    let tree ← alternatives d fuel verbose false
    closing
    closeGroup index tree
    return .capture index tree

/-- The contents of a lookahead and its closing parenthesis. -/
def lookahead (d : Dialect) : Nat → Bool → Bool → PatternReader Regex
  | 0, _, _ => malformed
  | fuel + 1, verbose, negated => do
    let tree ← alternatives d fuel verbose false
    closing
    return .ahead negated tree

/-- The contents of a lookbehind and its closing parenthesis. -/
def lookbehind (d : Dialect) : Nat → Bool → Bool → PatternReader Regex
  | 0, _, _ => malformed
  | fuel + 1, verbose, negated => do
    let outer := (← get).behindFrom
    if outer.isNone then modify fun s => { s with behindFrom := some s.groups.length }
    let tree ← alternatives d fuel verbose false
    if outer.isNone then modify fun s => { s with behindFrom := none }
    closing
    match (← widthOf tree).fixed? with
    | some width => return .behind negated width tree
    | none =>
      modify fun s => { s with fixedBehind := false }
      return .behind negated 0 tree

end

end PatternReader

namespace Regex

/-- Whether a repetition stands anywhere in the tree. -/
def hasRepetition : Regex → Bool
  | .repeated _ _ _ _ => true
  | .sequence a b => a.hasRepetition || b.hasRepetition
  | .either a b => a.hasRepetition || b.hasRepetition
  | .capture _ body => body.hasRepetition
  | .switched _ _ body => body.hasRepetition
  | .atomic body => body.hasRepetition
  | .ahead _ body => body.hasRepetition
  | .behind _ _ body => body.hasRepetition
  | .conditional _ yes no => yes.hasRepetition || no.hasRepetition
  | _ => false

/-- The options in force: a text's alphabet is that of Unicode unless ASCII is asked for. -/
def settle (text : Bool) (o : PatternOptions) : Except PatternFault PatternOptions :=
  if text then
    if o.alphabets.locale then .error (.unusable "cannot use LOCALE flag with a str pattern")
    else if !o.alphabets.ascii then
      .ok { o with alphabets := { o.alphabets with unicode := true } }
    else if o.alphabets.unicode then
      .error (.unusable "ASCII and UNICODE flags are incompatible")
    else .ok o
  else if o.alphabets.unicode then
    .error (.unusable "cannot use UNICODE flag with a bytes pattern")
  else if o.alphabets.locale && o.alphabets.ascii then
    .error (.unusable "ASCII and LOCALE flags are incompatible")
  else .ok o

/-- Reads a pattern of texts, or of bytes, under given options. -/
def read? (text : Bool) (given : PatternOptions) (cs : List Char) :
    Except PatternFault (Regex × PatternOptions) := do
  match PatternToken.ofText? cs with
  | none => .error .malformed
  | some tokens =>
    let start : PatternReading := ⟨tokens, given, [some .zero], [], none, [], true⟩
    let fuel := 4 * tokens.length + 8
    let (tree, reading) ← (PatternReader.alternatives ⟨text⟩ fuel given.verbose true).run start
    let options ← settle text reading.options
    if !reading.rest.isEmpty || reading.referred.any (reading.groups.length ≤ ·) ||
        !reading.fixedBehind || (options.template && tree.hasRepetition) then
      .error .malformed
    else .ok (tree, options)

end Regex

end DataContract
