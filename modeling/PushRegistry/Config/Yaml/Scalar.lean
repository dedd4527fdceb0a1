import PushRegistry.Config.Yaml.Lexer
import PushRegistry.Text.Hex

/-!
# `PushRegistry.Config.Yaml.Scalar`: texts

Plain and quoted scalars may span lines, which are folded: one line break becomes a space,
more of them lose the first. Block scalars keep their lines or fold them in the same way.
-/

set_option autoImplicit false

namespace PushRegistry.Config.Yaml

open PushRegistry.Text

/-- What stands between two words of a scalar. -/
inductive Gap where
  | spaces (cs : List Char)
  /-- A positive number of line breaks. -/
  | breaks (count : Nat)
  /-- Line breaks after one that was escaped. -/
  | escaped (count : Nat)
  deriving DecidableEq, Repr

namespace Gap

/-- Whether the gap has a line break. -/
def isBroken : Gap → Bool
  | .spaces _ => false
  | _ => true

/-- The gap with one more line break. -/
def addBreak : Gap → Gap
  | .spaces _ => .breaks 1
  | .breaks n => .breaks (n + 1)
  | .escaped n => .escaped (n + 1)

/-- What the gap stands for in the text. -/
def text : Gap → List Char
  | .spaces cs => cs
  | .breaks n => if n = 1 then [' '] else List.replicate (n - 1) '\n'
  | .escaped n => List.replicate n '\n'

end Gap

namespace Lex

/-- Passes blanks and line breaks. A tab cannot stand in the indentation of a line with
content. -/
def gap (indent : Int) : Nat → Gap → Lex Gap
  | 0, g => return g
  | fuel + 1, g => do
    let c ← look 0
    if isBlank c then
      if g.isBroken then
        if c = '\t' ∧ Int.ofNat (← get).column < indent then
          let _ ← blanks true
          if endsLine (← look 0) then gap indent fuel g else failure
        else
          skip
          gap indent fuel g
      else
        skip
        gap indent fuel (match g with
          | .spaces cs => .spaces (cs ++ [c])
          | other => other)
    else if isBreak c then
      skipBreak
      gap indent fuel g.addBreak
    else return g

/-! ### Plain scalars -/

/-- Whether a plain scalar goes on with the next character. -/
def continuesPlain : Lex Bool := do
  let c ← look 0
  let n ← look 1
  let flow := !(← inBlock)
  if endsWord c then return false
  else if c = ':' ∧ (endsWord n ∨ (flow ∧ isFlow n)) then return false
  else return !(flow && isFlow c)

/-- A word of a plain scalar; the second argument holds what was read, last character first. -/
def plainWord : Nat → List Char → Lex (List Char)
  | 0, acc => return acc
  | fuel + 1, acc => do
    if ← continuesPlain then
      let c ← look 0
      skip
      plainWord fuel (c :: acc)
    else return acc

/-- The rest of a plain scalar, and whether a line break follows it. -/
def plainRest (indent : Int) : Nat → Gap → List Char → Lex (List Char × Bool)
  | 0, g, acc => return (acc, g.isBroken)
  | fuel + 1, g, acc => do
    let c ← look 0
    if (← atDocumentMark) ∨ c = '#' then return (acc, g.isBroken)
    else if !(← inBlock) ∧ c = '-' ∧ isFlow (← look 1) then failure
    else
      let go ← continuesPlain
      let acc ← if go then plainWord fuel (g.text.reverse ++ acc) else pure acc
      let g := if go then Gap.spaces [] else g
      let c ← look 0
      if isBlank c ∨ isBreak c then
        let g ← gap indent fuel g
        -- A line that is not deep enough belongs to what is around the scalar.
        if (← inBlock) ∧ Int.ofNat (← get).column < indent then return (acc, g.isBroken)
        else plainRest indent fuel g acc
      else return (acc, g.isBroken)

/-- A plain scalar. -/
def plainScalar : Lex Token := do
  unrollPlain
  let l ← get
  let indent := l.indent + 1
  if !l.flow.isEmpty ∧ Int.ofNat l.column < indent then failure
  let (acc, broken) ← plainRest indent (l.rest.length + 1) (.spaces []) []
  if broken then allowKey true
  if acc.isEmpty then failure else return .scalar true (String.ofList acc.reverse)

/-! ### Quoted scalars -/

/-- The character with a code of a number of hexadecimal digits. -/
def codePoint (digits : Nat) : Lex Char := do
  let run := (← get).rest.take digits
  match if run.length = digits then Hex.number? run else none with
  | some n =>
    skipMany digits
    if n < 0xd800 ∨ (0xdfff < n ∧ n < 0x110000) then return Char.ofNat n else failure
  | none => failure

/-- The character of an escape, after its backslash. -/
def escape : Lex Char := do
  let c ← look 0
  skip
  match c with
  | '0' => return '\x00'
  | 'a' => return '\x07'
  | 'b' => return '\x08'
  | 't' => return '\t'
  | '\t' => return '\t'
  | 'n' => return '\n'
  | 'v' => return '\x0b'
  | 'f' => return '\x0c'
  | 'r' => return '\r'
  | 'e' => return '\x1b'
  | ' ' => return ' '
  | '"' => return '"'
  | '/' => return '/'
  | '\\' => return '\\'
  | 'N' => return '\u0085'
  | '_' => return '\u00a0'
  | 'L' => return '\u2028'
  | 'P' => return '\u2029'
  | 'x' => codePoint 2
  | 'u' => codePoint 4
  | 'U' => codePoint 8
  | _ => failure

/-- A word of a quoted scalar, and whether an escaped line break ended it. -/
def quotedWord (single : Bool) : Nat → List Char → Lex (List Char × Bool)
  | 0, acc => return (acc, false)
  | fuel + 1, acc => do
    let c ← look 0
    if endsWord c then return (acc, false)
    else if single then
      if c = '\'' then
        if (← look 1) = '\'' then
          skipMany 2
          quotedWord single fuel ('\'' :: acc)
        else return (acc, false)
      else
        skip
        quotedWord single fuel (c :: acc)
    else if c = '"' then return (acc, false)
    else if c = '\\' then
      skip
      if isBreak (← look 0) then
        skipBreak
        return (acc, true)
      else quotedWord single fuel ((← escape) :: acc)
    else
      skip
      quotedWord single fuel (c :: acc)

/-- The rest of a quoted scalar, up to its quote. -/
def quotedRest (single : Bool) : Nat → List Char → Lex (List Char)
  | 0, _ => failure
  | fuel + 1, acc => do
    let l ← get
    if (← atDocumentMark) ∨ l.rest.isEmpty ∨ Int.ofNat l.column < l.indent then failure
    else
      let (acc, escapedBreak) ← quotedWord single fuel acc
      let c ← look 0
      if !escapedBreak ∧ c = (if single then '\'' else '"') then return acc
      else
        let g ← gap (← get).indent fuel (if escapedBreak then .escaped 0 else .spaces [])
        quotedRest single fuel (g.text.reverse ++ acc)

/-- A quoted scalar. Behind it the line ends, or a colon or a flow indicator follows. -/
def quotedScalar (single : Bool) : Lex Token := do
  let start := (← get).line
  skip
  let acc ← quotedRest single ((← get).rest.length + 1) []
  skip
  let _ ← blanks true
  let c ← look 0
  let l ← get
  let fits :=
    endsLine c || (!l.flow.isEmpty && [',', '\x7d', ']', ':'].contains c) ||
      (l.flow.isEmpty && c = ':' && start = l.line)
  if fits then return .scalar false (String.ofList acc.reverse) else failure

/-! ### Block scalars -/

/-- What becomes of the line breaks at the end. -/
inductive Chomping where
  | strip
  | clip
  | keep
  deriving DecidableEq, Repr

/-- The chomping that an indicator asks for. -/
def chomping? (c : Char) : Option Chomping :=
  if c = '-' then some .strip else if c = '+' then some .keep else none

/-- The depth that an indicator asks for. -/
def depth? (c : Char) : Option Nat :=
  if c.isDigit ∧ c ≠ '0' then some (c.toNat - 48) else none

/-- Chomping and depth of a block scalar, in either order. -/
def blockHeader : Lex (Chomping × Nat) := do
  let c ← look 0
  match chomping? c, depth? c with
  | some ch, _ =>
    skip
    let d := depth? (← look 0)
    if d.isSome then skip
    return (ch, d.getD 0)
  | none, some d =>
    skip
    let ch := chomping? (← look 0)
    if ch.isSome then skip
    return (ch.getD .clip, d)
  | none, none => return (.clip, 0)

/-- Passes empty lines and the indentation of the first line with content. Returns the number of
line breaks and the deepest column. -/
def firstIndent : Nat → Nat → Nat → Lex (Nat × Nat)
  | 0, breaks, deepest => return (breaks, deepest)
  | fuel + 1, breaks, deepest => do
    let _ ← takeWhile (· = ' ')
    let deepest := max deepest (← get).column
    if isBreak (← look 0) then
      skipBreak
      firstIndent fuel (breaks + 1) deepest
    else return (breaks, deepest)

/-- Passes empty lines and the indentation of the next line. Returns the number of line
breaks. -/
def nextIndent (indent : Nat) : Nat → Nat → Lex Nat
  | 0, breaks => return breaks
  | fuel + 1, breaks => do
    let spaces := (← get).rest.takeWhile (· = ' ')
    skipMany (min spaces.length (indent - (← get).column))
    if isBreak (← look 0) then
      skipBreak
      nextIndent indent fuel (breaks + 1)
    else return breaks

/-- The content of a block scalar so far. -/
structure BlockText where
  /-- The text, last character first. -/
  acc : List Char
  /-- Whether a line break is waiting to be written. -/
  pendingBreak : Bool
  /-- The number of further line breaks that are waiting. -/
  emptyLines : Nat
  /-- Whether the last line started with a blank. -/
  indented : Bool

/-- The lines of a block scalar. -/
def blockLines (literal : Bool) (indent : Nat) : Nat → BlockText → Lex BlockText
  | 0, t => return t
  | fuel + 1, t => do
    let l ← get
    if l.column ≠ indent ∨ l.rest.isEmpty ∨ (indent = 0 ∧ (← atDocumentMark)) then return t
    else
      let blank := isBlank (← look 0)
      let empty := List.replicate t.emptyLines '\n'
      let waiting :=
        if !literal ∧ t.pendingBreak ∧ !t.indented ∧ !blank then
          if t.emptyLines = 0 then [' '] else empty
        else (if t.pendingBreak then ['\n'] else []) ++ empty
      let line ← takeWhile (!endsLine ·)
      let acc := line.reverse ++ waiting.reverse ++ t.acc
      if (← get).rest.isEmpty then return ⟨acc, false, 0, blank⟩
      else
        skipBreak
        let n ← nextIndent indent fuel 0
        blockLines literal indent fuel ⟨acc, true, n, blank⟩

/-- A block scalar. -/
def blockScalar (literal : Bool) : Lex Token := do
  let startLine := (← get).line
  skip
  unrollPlain
  let (chomping, depth) ← blockHeader
  let _ ← blanks true
  if !endsLine (← look 0) then failure
  let firstBreak := isBreak (← look 0)
  if firstBreak then skipBreak
  if (← look 0) = '\t' then failure
  let l ← get
  let fuel := l.rest.length + 1
  let (breaks, indent) ←
    if 0 < depth then do
      let indent := if 0 ≤ l.indent then l.indent.toNat + depth else depth
      pure (← nextIndent indent fuel 0, indent)
    else do
      let (breaks, deepest) ← firstIndent fuel 0 0
      pure (breaks, max (max deepest (l.indent + 1).toNat) 1)
  -- A file may end right behind the header, or after empty lines only.
  let l ← get
  let result (cs : List Char) : Lex Token := return .scalar false (String.ofList cs)
  if l.rest.isEmpty then
    match chomping with
    | .strip => result []
    | .clip => result (if l.line = startLine ∨ !firstBreak then [] else ['\n'])
    | .keep =>
      if l.line = startLine then result []
      else if breaks = 0 then result (if firstBreak then ['\n'] else [])
      else result (List.replicate breaks '\n')
  else if l.column < indent ∧ l.indent < Int.ofNat l.column then failure
  else
    let t ← blockLines literal indent fuel ⟨[], false, breaks, false⟩
    let l ← get
    let final := match chomping with
      | .strip => []
      | _ => (if t.pendingBreak then ['\n'] else []) ++
        (if l.rest.isEmpty ∧ max indent 1 ≤ l.column then ['\n'] else [])
    let kept := if chomping = .keep then List.replicate t.emptyLines '\n' else []
    result (t.acc.reverse ++ final ++ kept)

end Lex

end PushRegistry.Config.Yaml
