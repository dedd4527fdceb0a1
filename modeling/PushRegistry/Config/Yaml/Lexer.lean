import PushRegistry.Config.Yaml.Token

/-!
# `PushRegistry.Config.Yaml.Lexer`: places, indentation and possible keys

Whether a word is the key of a mapping shows only at the colon behind it. So a slot is left in
front of every word that may turn out to be one, and `Lexer.tokens` fills the slots when the
whole file has been read.
-/

set_option autoImplicit false

namespace PushRegistry.Config.Yaml

/-! ### Characters -/

/-- The mark of the end of the file. -/
def endMark : Char := '\x00'

/-- A blank inside a line. -/
def isBlank (c : Char) : Bool := c = ' ' || c = '\t'

/-- A line break. -/
def isBreak (c : Char) : Bool := c = '\n' || c = '\r'

/-- A line break or the end of the file. -/
def endsLine (c : Char) : Bool := isBreak c || c = endMark

/-- A blank, a line break or the end of the file. -/
def endsWord (c : Char) : Bool := isBlank c || endsLine c

/-- An indicator of flow collections. -/
def isFlow (c : Char) : Bool := [',', '[', ']', '\x7b', '\x7d'].contains c

/-! ### State -/

/-- An open indentation: the one around it, and whether a block collection ends with it. -/
structure Indentation where
  outer : Int
  isBlock : Bool
  deriving DecidableEq, Repr

/-- A word that may turn out to be a key. -/
structure PossibleKey where
  slot : Nat
  /-- Whether it must be one, since it stands where only keys can. -/
  required : Bool
  line : Nat
  column : Nat
  index : Nat
  deriving DecidableEq, Repr

/-- Whether a flow sequence is inside a mapping of a single pair that has no braces. -/
inductive Pair where
  | outside
  /-- A question mark started the pair. -/
  | marked
  /-- The colon of the pair started it. -/
  | implied
  deriving DecidableEq, Repr

/-- An open flow collection. -/
inductive FlowKind where
  | mapping
  | sequence (pair : Pair)
  deriving DecidableEq, Repr

/-- A token, or a place where tokens may have to be put later. -/
inductive Slot where
  | token (t : Token)
  | reserved (slot : Nat)
  deriving DecidableEq, Repr

/-- The state of reading a file. -/
structure Lexer where
  rest : List Char
  line : Nat
  column : Nat
  index : Nat
  /-- Whether only blanks stand before the next character on its line. -/
  leading : Bool
  /-- The open flow collections, innermost first. -/
  flow : List FlowKind
  /-- The column of the innermost block collection; -1 outside of all. -/
  indent : Int
  indentations : List Indentation
  keyAllowed : Bool
  /-- The word that may be a key, for each open flow collection and for the block around. -/
  keys : List (Option PossibleKey)
  /-- Where a value may follow its colon without a blank. -/
  adjacent : Option Nat
  /-- The tokens so far, last first. -/
  output : List Slot
  /-- The number of slots that have been reserved. -/
  slots : Nat
  /-- What belongs into the slots. -/
  filled : List (Nat × List Token)

/-- The state at the start of a file. -/
def Lexer.start (cs : List Char) : Lexer where
  rest := cs.takeWhile (· ≠ endMark)
  line := 1
  column := 0
  index := 0
  leading := true
  flow := []
  indent := -1
  indentations := []
  keyAllowed := true
  keys := [none]
  adjacent := none
  output := []
  slots := 0
  filled := []

/-- The tokens in order, with the slots filled. -/
def Lexer.tokens (l : Lexer) : List Token :=
  l.output.reverse.flatMap fun s =>
    match s with
    | .token t => [t]
    | .reserved n => (l.filled.lookup n).getD []

/-- A computation that reads a file and may refuse it. -/
abbrev Lex := StateT Lexer Option

namespace Lex

/-! ### Moving -/

/-- A character ahead. -/
def look (n : Nat) : Lex Char := do return (← get).rest.getD n endMark

/-- Passes one character that is no line break. -/
def skip : Lex Unit := modify fun l =>
  match l.rest with
  | [] => l
  | c :: rest =>
    { l with rest := rest, column := l.column + 1, index := l.index + 1,
             leading := l.leading && isBlank c }

/-- Passes several characters. -/
def skipMany : Nat → Lex Unit
  | 0 => pure ()
  | n + 1 => do
    skip
    skipMany n

/-- Passes one line break. -/
def skipBreak : Lex Unit := modify fun l =>
  let n := match l.rest with
    | '\r' :: '\n' :: _ => 2
    | [] => 0
    | _ => 1
  { l with rest := l.rest.drop n, column := 0, line := l.line + 1, index := l.index + n,
           leading := true }

/-- Takes characters as long as they satisfy a condition; none of them is a line break. -/
def takeWhile (accept : Char → Bool) : Lex (List Char) := do
  let run := (← get).rest.takeWhile accept
  skipMany run.length
  return run

/-- Passes the rest of a line. -/
def skipLine : Lex Unit := do
  let _ ← takeWhile (!endsLine ·)

/-- What blanks were passed. -/
structure Passed where
  tabs : Bool
  spaces : Bool

/-- Passes blanks, and a comment if blanks stand before it. -/
def blanks (tabs : Bool) : Lex Passed := do
  let run ← takeWhile fun c => c = ' ' || (tabs && c = '\t')
  if (← look 0) = '#' then
    if run.isEmpty then failure else skipLine
  return ⟨run.contains '\t', run.contains ' '⟩

/-- Whether the three characters of a document mark come next, at the start of a line. -/
def atMark (c : Char) : Lex Bool := do
  let l ← get
  return l.column = 0 && l.rest.take 3 = [c, c, c] && endsWord (l.rest.getD 3 endMark)

/-- Whether a document mark comes next. -/
def atDocumentMark : Lex Bool := do return (← atMark '-') || (← atMark '.')

/-! ### Tokens and keys -/

/-- Appends a token. -/
def emit (t : Token) : Lex Unit := modify fun l => { l with output := .token t :: l.output }

/-- Whether no flow collection is open. -/
def inBlock : Lex Bool := do return (← get).flow.isEmpty

/-- Says whether a key may start at the next word. -/
def allowKey (allowed : Bool) : Lex Unit := modify fun l => { l with keyAllowed := allowed }

/-- Gives up the word that may be a key; refuses the file if it must be one. -/
def dropKey : Lex Unit := do
  match (← get).keys with
  | some k :: rest =>
    if k.required then failure else modify fun l => { l with keys := none :: rest }
  | _ => pure ()

/-- Reserves a slot for a key in front of the next word, if one may start here. -/
def reserveKey : Lex Unit := do
  if (← get).keyAllowed then
    dropKey
    modify fun l =>
      -- At the column of an open block collection nothing but a key can stand.
      let required := l.flow.isEmpty && l.indent == Int.ofNat l.column &&
        (l.indentations.head?.any (·.isBlock))
      { l with
        output := .reserved l.slots :: l.output
        slots := l.slots + 1
        keys := some ⟨l.slots, required, l.line, l.column, l.index⟩ :: l.keys.drop 1 }

/-- Gives up words that are too far behind to be keys. -/
def dropStaleKeys : Lex Unit := do
  let l ← get
  if l.flow.isEmpty then
    match l.keys with
    | some k :: _ => if k.line < l.line ∨ k.index + 1024 < l.index then dropKey
    | _ => pure ()

/-- Fills a slot. -/
def fill (slot : Nat) (tokens : List Token) : Lex Unit :=
  modify fun l => { l with filled := (slot, tokens) :: l.filled }

/-! ### Indentation -/

/-- Closes the indentations that are deeper than a column, as long as `more` holds. -/
def closeWhile (more : Int → Indentation → Bool) : List Indentation → Lex Unit
  | [] => pure ()
  | i :: rest => do
    if more (← get).indent i then
      modify fun l => { l with indent := i.outer, indentations := rest }
      if i.isBlock then emit .blockEnd
      closeWhile more rest

/-- Ends the block collections that are deeper than a column. -/
def unroll (column : Int) : Lex Unit := do
  if ← inBlock then closeWhile (fun indent _ => column < indent) (← get).indentations

/-- Closes the indentations that start no collection. -/
def unrollPlain : Lex Unit := do
  closeWhile (fun _ i => !i.isBlock) (← get).indentations

/-- Opens an indentation by one column that starts no collection. -/
def indentByOne : Lex Unit := modify fun l =>
  if l.flow.isEmpty ∧ l.indentations.head?.any (·.isBlock) then
    { l with indentations := ⟨l.indent, false⟩ :: l.indentations, indent := l.indent + 1 }
  else l

/-- Opens a block collection at a column unless one is open there. Says whether it did. -/
def roll (column : Nat) : Lex Bool := do
  if ← inBlock then
    modify fun l =>
      match l.indentations with
      | i :: rest =>
        if l.indent ≤ Int.ofNat column ∧ !i.isBlock then
          { l with indent := i.outer, indentations := rest }
        else l
      | [] => l
    let l ← get
    if l.indent < Int.ofNat column then
      set { l with
        indentations := ⟨l.indent, true⟩ :: l.indentations, indent := Int.ofNat column }
      return true
    else return false
  else return false

end Lex

end PushRegistry.Config.Yaml
