import PushRegistry.Text.Hex
import PushRegistry.Text.Scan

/-!
# `PushRegistry.Config.Toml.Text`: strings and keys

Strings are basic, with escapes, or literal, and either kind may span lines between three
quotes. Keys are bare words or strings on one line, with dots between them.
-/

set_option autoImplicit false

namespace PushRegistry.Config.Toml

open PushRegistry.Text

/-- A character that may stand in comments and strings: not a control, except a tab. -/
def isPlain (c : Char) : Bool := c = '\t' || (0x20 ≤ c.toNat && c.toNat ≠ 0x7f)

/-- A blank inside a line. -/
def isBlank (c : Char) : Bool := c = ' ' || c = '\t'

/-- Passes blanks inside a line. -/
def blanks : Scan Unit := Scan.skipWhile isBlank

/-- Takes one line break. -/
def newline : Scan Unit := Scan.char '\n' <|> Scan.literal "\r\n"

/-- Takes a comment up to the end of its line. -/
def comment : Scan Unit := do
  Scan.char '#'
  Scan.skipWhile isPlain

/-- The character with a code of the given number of digits. -/
def codePoint (digits : Nat) : Scan Char := do
  let n := (Hex.number? (← Scan.count digits Hex.isDigit)).getD 0
  if n < 0xd800 ∨ (0xdfff < n ∧ n < 0x110000) then return Char.ofNat n else failure

/-- The character of an escape, after its backslash. -/
def escape : Scan Char := do
  match ← Scan.next with
  | 'b' => return '\x08'
  | 't' => return '\t'
  | 'n' => return '\n'
  | 'f' => return '\x0c'
  | 'r' => return '\r'
  | '"' => return '"'
  | '\\' => return '\\'
  | 'u' => codePoint 4
  | 'U' => codePoint 8
  | _ => failure

/-- The rest of a basic string on one line; the second argument holds what was read, last
character first. -/
def basicRest : Nat → List Char → Scan (List Char)
  | 0, _ => failure
  | fuel + 1, acc => do
    let c ← Scan.next
    if c = '"' then return acc.reverse
    else if c = '\\' then basicRest fuel ((← escape) :: acc)
    else if isPlain c then basicRest fuel (c :: acc)
    else failure

/-- A literal string on one line, after its quote. -/
def literalRest : Scan (List Char) := do
  let cs ← Scan.takeWhile fun c => isPlain c && c != '\''
  Scan.char '\''
  return cs

/-- The quotes at the end of a string that spans lines: three close it, and up to two more in
front of those belong to it. None if there are fewer than three. -/
def closing (quote : Char) : Scan (Option Nat) := do
  let run := ((← get).takeWhile (· = quote)).length
  if run < 3 then return none
  else
    let extra := min (run - 3) 2
    modify (·.drop (extra + 3))
    return some extra

/-- The blank after a backslash at the end of a line: everything up to the next text. -/
def lineContinuation : Scan Unit := do
  blanks
  newline
  let _ ← Scan.many (newline <|> (Scan.satisfy isBlank *> pure ())) (← get).length

/-- The rest of a basic string that spans lines. -/
def multilineBasicRest : Nat → List Char → Scan (List Char)
  | 0, _ => failure
  | fuel + 1, acc => do
    match ← closing '"' with
    | some extra => return (List.replicate extra '"' ++ acc).reverse
    | none =>
      match ← Scan.option newline with
      | some _ => multilineBasicRest fuel ('\n' :: acc)
      | none =>
        let c ← Scan.next
        if c = '\\' then
          match ← Scan.option lineContinuation with
          | some _ => multilineBasicRest fuel acc
          | none => multilineBasicRest fuel ((← escape) :: acc)
        else if isPlain c then multilineBasicRest fuel (c :: acc)
        else failure

/-- The rest of a literal string that spans lines. -/
def multilineLiteralRest : Nat → List Char → Scan (List Char)
  | 0, _ => failure
  | fuel + 1, acc => do
    match ← closing '\'' with
    | some extra => return (List.replicate extra '\'' ++ acc).reverse
    | none =>
      match ← Scan.option newline with
      | some _ => multilineLiteralRest fuel ('\n' :: acc)
      | none =>
        let c ← Scan.next
        if isPlain c then multilineLiteralRest fuel (c :: acc) else failure

/-- A string on one line. -/
def simpleString : Scan String := do
  let c ← Scan.next
  let fuel := (← get).length + 1
  if c = '"' then return String.ofList (← basicRest fuel [])
  else if c = '\'' then return String.ofList (← literalRest)
  else failure

/-- A string that spans lines; a line break right after the opening quotes is dropped. -/
def multilineString : Scan String := do
  let basic ← (Scan.literal "\"\"\"" *> pure true) <|> (Scan.literal "\x27\x27\x27" *> pure false)
  let _ ← Scan.option newline
  let fuel := (← get).length + 1
  let cs ← if basic then multilineBasicRest fuel [] else multilineLiteralRest fuel []
  return String.ofList cs

/-- Whether three quotes of one kind come next. -/
def startsMultiline (cs : List Char) : Bool :=
  cs.take 3 = ['"', '"', '"'] || cs.take 3 = ['\'', '\'', '\'']

/-- A string of any kind. -/
def anyString : Scan String := do
  if startsMultiline (← get) then multilineString else simpleString

/-- The characters of bare keys. -/
def isBareKey (c : Char) : Bool := c.isAlphanum || c = '_' || c = '-'

/-- One part of a key. -/
def simpleKey : Scan String :=
  (String.ofList <$> Scan.takeSome isBareKey) <|> simpleString

/-- A key: its parts, with blanks around the dots. -/
def key : Scan (List String) := do
  blanks
  let first ← simpleKey
  blanks
  let more ← Scan.many (do
    Scan.char '.'
    blanks
    let part ← simpleKey
    blanks
    return part) (← get).length
  return first :: more

end PushRegistry.Config.Toml
