import PushRegistry.Config.Document
import PushRegistry.Decimal.Numeral
import PushRegistry.Text.Blank
import PushRegistry.Text.Hex
import PushRegistry.Text.Scan

/-!
# `PushRegistry.Config.Ron`: object notation with structures

Values are numbers, texts, characters, lists, maps with any keys, and structures in round
brackets, whose name may be left out. Structures with named fields are tables, structures
without names are lists, empty ones are nothing.
-/

set_option autoImplicit false

namespace PushRegistry.Config.Ron

open PushRegistry.Decimal
open PushRegistry.Text

/-! ### Gaps -/

/-- Passes the rest of a comment between marks; comments may be nested. -/
def blockComment : Nat → List Char → Option (List Char)
  | depth, '/' :: '*' :: rest => blockComment (depth + 1) rest
  | 0, '*' :: '/' :: rest => some rest
  | depth + 1, '*' :: '/' :: rest => blockComment depth rest
  | depth, _ :: rest => blockComment depth rest
  | _, [] => none

/-- Passes one comment. -/
def comment : Scan Unit := do
  Scan.char '/'
  match ← Scan.next with
  | '/' => Scan.skipWhile (· ≠ '\n')
  | '*' =>
    match blockComment 0 (← get) with
    | some rest => set rest
    | none => failure
  | _ => failure

/-- Passes blanks and comments. -/
def gap : Scan Unit := do
  let _ ← Scan.many (Scan.takeSome isBlank *> pure () <|> comment) ((← get).length + 1)

/-! ### Texts -/

/-- The character of an escape, after its backslash. -/
def escape : Scan Char := do
  match ← Scan.next with
  | 'n' => return '\n'
  | 'r' => return '\r'
  | 't' => return '\t'
  | '0' => return '\x00'
  | '\\' => return '\\'
  | '\'' => return '\''
  | '"' => return '"'
  | 'x' => return Char.ofNat ((Hex.number? (← Scan.count 2 Hex.isDigit)).getD 0)
  | 'u' =>
    Scan.char '\x7b'
    let digits ← Scan.takeSome Hex.isDigit
    Scan.char '\x7d'
    let n := (Hex.number? digits).getD 0
    if digits.length ≤ 6 ∧ (n < 0xd800 ∨ (0xdfff < n ∧ n < 0x110000)) then return Char.ofNat n
    else failure
  | _ => failure

/-- The rest of a string up to its quote. -/
def stringRest : Nat → List Char → Scan String
  | 0, _ => failure
  | fuel + 1, acc => do
    let c ← Scan.next
    if c = '"' then return String.ofList acc.reverse
    else if c = '\\' then stringRest fuel ((← escape) :: acc)
    else stringRest fuel (c :: acc)

/-- The rest of a raw string up to a quote and a number of hashes. -/
def rawRest (hashes : Nat) : Nat → List Char → Scan String
  | 0, _ => failure
  | fuel + 1, acc => do
    let c ← Scan.next
    if c = '"' ∧ ((← get).take hashes).length = hashes ∧ ((← get).take hashes).all (· = '#') then
      modify (·.drop hashes)
      return String.ofList acc.reverse
    else rawRest hashes fuel (c :: acc)

/-- A string, raw or with escapes. -/
def string : Scan String := do
  let fuel := (← get).length + 1
  match ← Scan.next with
  | '"' => stringRest fuel []
  | 'r' =>
    let hashes ← Scan.takeWhile (· = '#')
    Scan.char '"'
    rawRest hashes.length fuel []
  | _ => failure

/-- A single character. -/
def character : Scan String := do
  Scan.char '\''
  let c ← Scan.next
  let c ← if c = '\\' then escape else pure c
  Scan.char '\''
  return String.ofList [c]

/-- The characters of identifiers. -/
def isIdentChar (c : Char) : Bool := c.isAlphanum || c = '_'

/-- An identifier. -/
def identifier : Scan String := do
  let first ← Scan.satisfy fun c => c.isAlpha || c = '_'
  return String.ofList (first :: (← Scan.takeWhile isIdentChar))

/-! ### Numbers -/

/-- The characters of numbers. -/
def isNumberChar (c : Char) : Bool := c.isAlphanum || ['+', '-', '.', '_'].contains c

/-- An integer that fits 64 bits, or else the nearest double. -/
def integerDocument (n : Int) : Document :=
  (Document.int? n).getD (.scalar (.float (Binary64.ofRatio (decide (n < 0)) n.natAbs 1)))

/-- A number: an integer in any of four bases, or a double. -/
def number? (cs : List Char) : Option Document :=
  let plain := cs.filter (· ≠ '_')
  let (sign, rest) := Numeral.splitSign plain
  let mark := if sign = some true then ['-'] else []
  let based (base : Nat) (digits : List Char) : Option Document :=
    if (Numeral.splitSign digits).1.isSome then none
    else (Numeral.integer? base (mark ++ digits)).map integerDocument
  match rest with
  | '0' :: 'x' :: digits => based 16 digits
  | '0' :: 'o' :: digits => based 8 digits
  | '0' :: 'b' :: digits => based 2 digits
  | _ =>
    if rest.all Char.isDigit then based 10 rest
    else (Numeral.binary64? (mark ++ rest)).map fun x => .scalar (.float x)

/-- A number at the front of a text. -/
def number : Scan Document := do
  match number? (← Scan.takeSome isNumberChar) with
  | some d => return d
  | none => failure

/-! ### Values -/

/-- Items with commas between them and the closing bracket. -/
def itemsRest {α : Type} (close : Char) (item : Scan α) : Nat → List α → Scan (List α)
  | 0, _ => failure
  | fuel + 1, acc => do
    gap
    if (← Scan.peek) = some close then
      Scan.char close
      return acc.reverse
    else
      let a ← item
      gap
      let c ← Scan.next
      if c = ',' then itemsRest close item fuel (a :: acc)
      else if c = close then return (a :: acc).reverse
      else failure

/-- Entries as a table; of several with one key the last one counts. -/
def tableOf (entries : List (String × Document)) : Document :=
  .table (entries.foldl (fun acc e => Document.bind e.1 e.2 acc) [])

/-- A named field and its value. -/
def fieldOf (value : Scan Document) : Scan (String × Document) := do
  let name ← identifier
  gap
  Scan.char ':'
  gap
  return (name, ← value)

/-- An entry of a map; the key must be a text. -/
def entryOf (value : Scan Document) : Scan (String × Document) := do
  let key ← value
  gap
  Scan.char ':'
  gap
  match key with
  | .scalar (.text s) => return (s, ← value)
  | _ => failure

/-- Whether named fields come next. -/
def startsFields (cs : List Char) : Bool :=
  ((do
    gap
    let _ ← identifier
    gap
    Scan.char ':' : Scan Unit).run cs).isSome

/-- A structure, after its opening bracket. -/
def structureRest (value : Scan Document) (fuel : Nat) : Scan Document := do
  if startsFields (← get) then return tableOf (← itemsRest ')' (fieldOf value) fuel [])
  else
    let items ← itemsRest ')' value fuel []
    return if items.isEmpty then .null else .list items

/-- What starts with an identifier: a switch, an optional value or a structure with a name. -/
def named (value : Scan Document) (fuel : Nat) : Scan Document := do
  let name ← identifier
  match name with
  | "true" => return .scalar (.bool true)
  | "false" => return .scalar (.bool false)
  | "None" => return .null
  | "inf" => return .scalar (.float (Binary64.ofMagnitude false Binary64.infinityBits))
  | "NaN" => return .scalar (.float (Binary64.ofMagnitude false Binary64.notANumberBits))
  | "Some" =>
    gap
    Scan.char '('
    gap
    let d ← value
    gap
    let _ ← Scan.option (Scan.char ',')
    gap
    Scan.char ')'
    return d
  | _ =>
    let after ← Scan.option (gap *> Scan.char '(')
    if after.isSome then structureRest value fuel else return .null

/-- Whether a string comes next. -/
def startsString (cs : List Char) : Bool :=
  match cs with
  | '"' :: _ => true
  | 'r' :: rest => (rest.dropWhile (· = '#')).head? = some '"'
  | _ => false

/-- A value, with fewer brackets inside each other than the argument. -/
def value : Nat → Scan Document
  | 0 => failure
  | depth + 1 => do
    let cs ← get
    let fuel := cs.length + 1
    if startsString cs then return Document.text (← string)
    else match cs with
      | '(' :: rest =>
        set rest
        structureRest (value depth) fuel
      | '[' :: rest =>
        set rest
        return .list (← itemsRest ']' (value depth) fuel [])
      | '\x7b' :: rest =>
        set rest
        return tableOf (← itemsRest '\x7d' (entryOf (value depth)) fuel [])
      | '\'' :: _ => return Document.text (← character)
      | c :: _ => if c.isAlpha ∨ c = '_' then named (value depth) fuel else number
      | [] => failure

/-- Passes a line that enables extensions. -/
def extensions : Scan Unit := do
  Scan.literal "#![enable("
  Scan.skipWhile (· ≠ ')')
  Scan.literal ")]"
  gap

/-- The document that a file holds. -/
def parse? (cs : List Char) : Option Document :=
  Scan.whole (do
    gap
    let _ ← Scan.option extensions
    let d ← value (cs.length + 1)
    gap
    return d) cs

end PushRegistry.Config.Ron
