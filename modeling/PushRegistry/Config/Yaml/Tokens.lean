import PushRegistry.Config.Yaml.Scalar

/-!
# `PushRegistry.Config.Yaml.Tokens`: the words of a file in order

`tokens?` reads a whole file. Each step passes blanks and comments, closes the block
collections that the new column leaves, and reads one word.
-/

set_option autoImplicit false

namespace PushRegistry.Config.Yaml

namespace Lex

/-- Passes blanks, comments and line breaks in front of the next word. -/
def toNextWord : Nat → Lex Unit
  | 0 => pure ()
  | fuel + 1 => do
    let l ← get
    let c ← look 0
    if c = '\t' ∧ !l.indentations.isEmpty ∧ l.leading ∧ Int.ofNat l.column < l.indent then
      let _ ← blanks true
      if endsLine (← look 0) then toNextWord fuel else failure
    else if isBlank c then
      skip
      toNextWord fuel
    else if isBreak c then
      skipBreak
      if ← inBlock then allowKey true
      toNextWord fuel
    else if c = '#' then
      skipLine
      toNextWord fuel

/-! ### Directives, tags and anchors -/

/-- A number in a directive. -/
def versionNumber : Lex Unit := do
  let run ← takeWhile Char.isDigit
  if run.isEmpty ∨ 9 < run.length then failure

/-- A directive, after its percent sign. -/
def directiveBody : Lex Token := do
  skip
  let name ← takeWhile fun c => c.isAlphanum || c = '_' || c = '-'
  if name.isEmpty ∨ !endsWord (← look 0) then failure
  if name = "YAML".toList then
    let _ ← takeWhile isBlank
    versionNumber
    if (← look 0) = '.' then skip else failure
    versionNumber
    return .versionDirective
  else if name = "TAG".toList then
    let _ ← takeWhile isBlank
    let handle ← takeWhile (!endsWord ·)
    let gap ← takeWhile isBlank
    let full ← takeWhile (!endsWord ·)
    if gap.isEmpty ∨ full.isEmpty ∨ handle.head? ≠ some '!' ∨ handle.getLast? ≠ some '!' then
      failure
    return .tagDirective (String.ofList handle) (String.ofList full)
  else
    skipLine
    return .tagDirective "" ""

/-- Ends everything that is open in front of a new part of the file. -/
def closeAll : Lex Unit := do
  unroll (-1)
  dropKey
  allowKey false

/-- A directive and the end of its line. -/
def directive : Lex Unit := do
  closeAll
  let t ← directiveBody
  let _ ← blanks true
  if endsLine (← look 0) then
    if isBreak (← look 0) then skipBreak
    emit t
  else failure

/-- The mark of the start or the end of a document. -/
def documentMark (t : Token) : Lex Unit := do
  closeAll
  skipMany 3
  emit t
  if t = .documentEnd then
    let _ ← blanks true
    if !endsLine (← look 0) then failure

/-- The name of an anchor or of an alias. -/
def anchorName : Lex String := do
  skip
  let name ← takeWhile fun c => !endsWord c && !isFlow c
  if name.isEmpty then failure else return String.ofList name

/-- An anchor or an alias. -/
def anchor (isAlias : Bool) : Lex Unit := do
  reserveKey
  allowKey false
  let name ← anchorName
  emit (if isAlias then .alias name else .anchor name)

/-- A character of a tag. -/
def isTagChar (c : Char) : Bool := !endsWord c && !isFlow c && c ≠ '!'

/-- The parts of a tag. -/
def tagBody : Lex Token := do
  if (← look 1) = '<' then
    skipMany 2
    let suffix ← takeWhile fun c => !endsWord c && c ≠ '>'
    if (← look 0) = '>' ∧ !suffix.isEmpty then
      skip
      return .tag "" (String.ofList suffix)
    else failure
  else
    skip
    let word ← takeWhile fun c => c.isAlphanum || c = '_' || c = '-'
    if (← look 0) = '!' then
      skip
      let suffix ← takeWhile isTagChar
      if suffix.isEmpty ∧ !word.isEmpty then failure
      return .tag (String.ofList ('!' :: word ++ ['!'])) (String.ofList suffix)
    else
      let suffix := word ++ (← takeWhile isTagChar)
      if suffix.isEmpty then return .tag "" "!"
      else return .tag "!" (String.ofList suffix)

/-- A tag; a blank or the end of the line must follow it. -/
def tag : Lex Unit := do
  reserveKey
  allowKey false
  let t ← tagBody
  let c ← look 0
  if endsWord c ∨ (!(← inBlock) ∧ isFlow c) then emit t else failure

/-! ### Collections -/

/-- The start of a flow collection. -/
def flowStart (kind : FlowKind) (t : Token) : Lex Unit := do
  reserveKey
  indentByOne
  modify fun l => { l with flow := kind :: l.flow, keys := none :: l.keys, keyAllowed := true }
  skip
  let _ ← blanks true
  emit t

/-- Ends a pair without braces inside a flow sequence. -/
def endPair : Lex Unit := do
  match (← get).flow with
  | .sequence pair :: rest =>
    modify fun l => { l with flow := .sequence .outside :: rest }
    if pair = .implied then emit .flowMappingEnd
  | _ => pure ()

/-- The end of a flow collection. -/
def flowEnd (t : Token) : Lex Unit := do
  dropKey
  endPair
  modify fun l =>
    { l with
      flow := l.flow.drop 1
      keys := if l.flow.isEmpty then l.keys else l.keys.drop 1
      keyAllowed := false }
  skip
  let _ ← blanks true
  modify fun l => if l.flow.isEmpty then l else { l with adjacent := some l.index }
  emit t

/-- A comma in a flow collection. -/
def flowEntry : Lex Unit := do
  dropKey
  allowKey true
  endPair
  skip
  let _ ← blanks true
  emit .flowEntry

/-- A dash in front of an item of a block sequence. -/
def blockEntry : Lex Unit := do
  let l ← get
  if !l.flow.isEmpty ∨ !l.keyAllowed then failure
  skip
  if ← roll l.column then emit .blockSequenceStart
  let passed ← blanks true
  if passed.tabs ∧ (← look 0) = '-' ∧ endsWord (← look 1) then failure
  let c ← look 0
  if isBreak c ∨ isFlow c then indentByOne
  dropKey
  allowKey true
  emit .blockEntry

/-- A question mark in front of a key. -/
def explicitKey : Lex Unit := do
  let l ← get
  if l.flow.isEmpty then
    if !l.keyAllowed then failure
    if ← roll l.column then emit .blockMappingStart
  dropKey
  allowKey l.flow.isEmpty
  modify fun l => match l.flow with
    | .sequence .outside :: rest => { l with flow := .sequence .marked :: rest }
    | _ => l
  skip
  let _ ← blanks false
  if (← look 0) = '\t' then failure
  emit .key

/-- The colon of a key that is known to be one, for the word in front of it. -/
def simpleValue (k : PossibleKey) (startLine : Nat) : Lex Unit := do
  match (← get).flow with
  | .sequence pair :: rest =>
    if pair ≠ .outside ∨ k.line < startLine then failure
    fill k.slot [.flowMappingStart, .key]
    modify fun l => { l with flow := .sequence .implied :: rest }
  | .mapping :: _ => fill k.slot [.key]
  | [] =>
    let opened ← roll k.column
    fill k.slot (if opened then [.blockMappingStart, .key] else [.key])
  indentByOne
  modify fun l => { l with keys := none :: l.keys.drop 1, keyAllowed := false }

/-- The colon after a key that is no simple word. -/
def complexValue (column : Nat) : Lex Unit := do
  match (← get).flow with
  | .sequence .implied :: _ => failure
  | .sequence .marked :: _ => pure ()
  | .sequence .outside :: rest =>
    emit .flowMappingStart
    modify fun l => { l with flow := .sequence .implied :: rest }
  | .mapping :: _ => pure ()
  | [] =>
    if !(← get).keyAllowed then failure
    if ← roll column then emit .blockMappingStart
  indentByOne
  allowKey (← inBlock)

/-- A colon in front of a value. -/
def valueMark : Lex Unit := do
  let l ← get
  skip
  if (← look 0) = '\t' then
    let passed ← blanks true
    let c ← look 0
    if !passed.spaces ∧ (c = '-' ∨ c.isAlphanum ∨ c = '_') then failure
  -- The word in front of the colon is the key if it was one that may be.
  match l.keys with
  | some k :: _ => simpleValue k l.line
  | _ => complexValue l.column
  emit .value

/-! ### Words -/

/-- A scalar that may be a key. -/
def scalarWord (scan : Lex Token) (keyAfter : Bool) : Lex Unit := do
  reserveKey
  allowKey keyAfter
  emit (← scan)

/-- A quoted scalar; in a flow collection a value may follow it without a blank. -/
def quotedWordToken (single : Bool) : Lex Unit := do
  scalarWord (quotedScalar single) false
  toNextWord ((← get).rest.length + 1)
  modify fun l => { l with adjacent := some l.index }

/-- Reads one word that starts with `c`, followed by `n`. -/
def word (c n : Char) : Lex Unit := do
  let l ← get
  let flow := !l.flow.isEmpty
  if c = '[' then flowStart (.sequence .outside) .flowSequenceStart
  else if c = '\x7b' then flowStart .mapping .flowMappingStart
  else if c = ']' then flowEnd .flowSequenceEnd
  else if c = '\x7d' then flowEnd .flowMappingEnd
  else if c = ',' then flowEntry
  else if c = '-' ∧ endsWord n then blockEntry
  else if c = '?' ∧ endsWord n then explicitKey
  else if c = ':' ∧ (endsWord n ∨ (flow ∧ (isFlow n ∨ l.adjacent = some l.index))) then valueMark
  else if c = '*' then anchor true
  else if c = '&' then anchor false
  else if c = '!' then tag
  else if (c = '|' ∨ c = '>') ∧ !flow then scalarWord (blockScalar (c = '|')) true
  else if c = '\'' then quotedWordToken true
  else if c = '"' then quotedWordToken false
  else if c = '%' ∨ c = '@' ∨ c = '\x60' then failure
  else scalarWord plainScalar false

/-- Reads the words of a file up to its end. -/
def words : Nat → Lex Unit
  | 0 => failure
  | fuel + 1 => do
    toNextWord fuel
    dropStaleKeys
    let l ← get
    unroll (Int.ofNat l.column)
    let c ← look 0
    if c = endMark then
      modify fun l => { l with flow := [] }
      unroll (-1)
      dropKey
    else
      if ← atMark '-' then documentMark .documentStart
      else if ← atMark '.' then documentMark .documentEnd
      else if l.column = 0 ∧ c = '%' then directive
      else if Int.ofNat l.column < (← get).indent then failure
      else word c (← look 1)
      words fuel

end Lex

/-- The tokens of a file; none if it cannot be divided into tokens. -/
def tokens? (cs : List Char) : Option (List Token) :=
  (StateT.run (Lex.words (2 * cs.length + 2)) (Lexer.start cs)).map fun r => r.2.tokens

end PushRegistry.Config.Yaml
