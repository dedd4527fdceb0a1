import PushRegistry.Config.Document
import PushRegistry.Decimal.Numeral
import PushRegistry.Text.Alphanumeric
import PushRegistry.Text.Blank
import PushRegistry.Text.Hex
import PushRegistry.Text.Mark
import PushRegistry.Text.Scan

/-!
# `PushRegistry.Config.Json5`: JSON with comforts

Beyond JSON there are comments, commas at the end of lists, names without quotes, strings in
single quotes, and numbers in hexadecimal notation, with a plus sign or with a bare point.
-/

set_option autoImplicit false

namespace PushRegistry.Config.Json5

open PushRegistry.Decimal
open PushRegistry.Text

/-! ### Gaps -/

/-- Whether a character ends a line. -/
def isLineEnd (c : Char) : Bool := ['\n', '\r', '\u2028', '\u2029'].contains c

/-- A blank between tokens. -/
def isGap (c : Char) : Bool := (isBlank c && c ≠ '\u0085') || c = '\uFEFF'

/-- Passes the rest of a comment between marks. -/
def blockComment : List Char → Option (List Char)
  | '*' :: '/' :: rest => some rest
  | _ :: rest => blockComment rest
  | [] => none

/-- Passes one comment. -/
def comment : Scan Unit := do
  Scan.char '/'
  match ← Scan.next with
  | '/' => Scan.skipWhile (!isLineEnd ·)
  | '*' =>
    match blockComment (← get) with
    | some rest => set rest
    | none => failure
  | _ => failure

/-- Passes blanks and comments. -/
def gap : Scan Unit := do
  let _ ← Scan.many (Scan.takeSome isGap *> pure () <|> comment) ((← get).length + 1)

/-! ### Strings and names -/

/-- A 16-bit unit in four hexadecimal digits. -/
def unit : Scan Nat := do
  match Hex.number? (← Scan.count 4 Hex.isDigit) with
  | some n => return n
  | none => failure

/-- The character of an escape by number; halves of a pair must come together. -/
def unicodeEscape : Scan Char := do
  let high ← unit
  if 0xd800 ≤ high ∧ high ≤ 0xdbff then
    Scan.literal "\\u"
    let low ← unit
    if 0xdc00 ≤ low ∧ low ≤ 0xdfff then
      return Char.ofNat (0x10000 + (high - 0xd800) * 0x400 + (low - 0xdc00))
    else failure
  else if 0xdc00 ≤ high ∧ high ≤ 0xdfff then failure
  else return Char.ofNat high

/-- What an escape stands for, after its backslash. -/
def escape : Scan (List Char) := do
  match ← Scan.next with
  | 'b' => return ['\x08']
  | 'f' => return ['\x0c']
  | 'n' => return ['\n']
  | 'r' => return ['\r']
  | 't' => return ['\t']
  | 'v' => return ['\x0b']
  | 'u' => return [← unicodeEscape]
  | 'x' => return [Char.ofNat ((Hex.number? (← Scan.count 2 Hex.isDigit)).getD 0)]
  | '\r' =>
    let _ ← Scan.option (Scan.char '\n')
    return []
  | c =>
    if c = '0' then
      if (← Scan.peek).any Char.isDigit then failure else return ['\x00']
    else if c.isDigit then failure
    else if isLineEnd c then return []
    else return [c]

/-- The rest of a string up to its quote. -/
def stringRest (quote : Char) : Nat → List Char → Scan String
  | 0, _ => failure
  | fuel + 1, acc => do
    let c ← Scan.next
    if c = quote then return String.ofList acc.reverse
    else if c = '\\' then stringRest quote fuel ((← escape).reverse ++ acc)
    else if c = '\n' ∨ c = '\r' then failure
    else stringRest quote fuel (c :: acc)

/-- A string. -/
def string : Scan String := do
  let quote ← Scan.satisfy fun c => c = '"' || c = '\''
  stringRest quote ((← get).length + 1) []

/-- A character that a name can start with. -/
def isNameStart (c : Char) : Bool := isLetter c || c = '$' || c = '_'

/-- A character that a name can go on with. -/
def isNamePart (c : Char) : Bool :=
  isNameStart c || isMark c || isDecimal c || isConnector c || ['‌', '‍'].contains c

/-- A character of a name, or an escape by number, which can stand for any character. -/
def nameChar (accept : Char → Bool) : Scan Char :=
  Scan.satisfy accept <|> (Scan.literal "\\u" *> unicodeEscape)

/-- A name without quotes. -/
def name : Scan String := do
  let c ← nameChar isNameStart
  let rest ← Scan.many (nameChar isNamePart) (← get).length
  return String.ofList (c :: rest)

/-! ### Numbers -/

/-- The characters of numbers and words. -/
def isWordChar (c : Char) : Bool := c.isAlphanum || c = '.' || c = '+' || c = '-'

/-- A hexadecimal integer of at most 32 bits, after its mark. -/
def hexadecimal? (digits : List Char) : Option Document := do
  let n ← Numeral.natural? 16 digits
  if n < UInt32.size then some (.scalar (.int (Int.ofNat n))) else none

/-- A decimal number: an integer if it has neither point nor exponent. -/
def decimal? (cs : List Char) : Option Document :=
  let digits := (Numeral.splitSign cs).2
  let leadingZero := match digits with
    | '0' :: d :: _ => d.isDigit
    | _ => false
  if leadingZero then none
  else if cs.all fun c => c.isDigit || c = '+' || c = '-' then
    (Numeral.int64? 10 cs).map fun n => .scalar (.int n)
  else if digits.head?.any fun c => c.isDigit || c = '.' then
    (Numeral.binary64? cs).map fun x => .scalar (.float x)
  else none

/-- A number. -/
def number? (cs : List Char) : Option Document :=
  match cs with
  | '0' :: 'x' :: digits => hexadecimal? digits
  | '0' :: 'X' :: digits => hexadecimal? digits
  | _ =>
    let (sign, rest) := Numeral.splitSign cs
    let mark := if sign = some true then ['-'] else []
    if rest = "Infinity".toList then
      (Numeral.binary64? (mark ++ "inf".toList)).map fun x => .scalar (.float x)
    else if rest = "NaN".toList then
      (Numeral.binary64? "nan".toList).map fun x => .scalar (.float x)
    else decimal? cs

/-- A number or a literal name. -/
def word : Scan Document := do
  let cs ← Scan.takeSome isWordChar
  if cs = "null".toList then return .null
  else if cs = "true".toList then return .scalar (.bool true)
  else if cs = "false".toList then return .scalar (.bool false)
  else match number? cs with
    | some d => return d
    | none => failure

/-! ### Values -/

/-- The items of a list, after its bracket. -/
def listRest (value : Scan Document) : Nat → List Document → Scan (List Document)
  | 0, _ => failure
  | fuel + 1, acc => do
    gap
    match ← Scan.peek with
    | some ']' =>
      Scan.char ']'
      return acc.reverse
    | _ =>
      let d ← value
      gap
      match ← Scan.next with
      | ',' => listRest value fuel (d :: acc)
      | ']' => return (d :: acc).reverse
      | _ => failure

/-- The members of an object, after its brace. -/
def objectRest (value : Scan Document) : Nat → List (String × Document) →
    Scan (List (String × Document))
  | 0, _ => failure
  | fuel + 1, acc => do
    gap
    match ← Scan.peek with
    | some '\x7d' =>
      Scan.char '\x7d'
      return acc
    | _ =>
      let key ← string <|> name
      gap
      Scan.char ':'
      gap
      let acc := Document.bind key (← value) acc
      gap
      match ← Scan.next with
      | ',' => objectRest value fuel acc
      | '\x7d' => return acc
      | _ => failure

/-- A value, with fewer brackets inside each other than the argument. -/
def value : Nat → Scan Document
  | 0 => failure
  | depth + 1 => do
    let fuel := (← get).length + 1
    match ← Scan.peek with
    | some '"' => return Document.text (← string)
    | some '\'' => return Document.text (← string)
    | some '[' =>
      Scan.char '['
      return .list (← listRest (value depth) fuel [])
    | some '\x7b' =>
      Scan.char '\x7b'
      return .table (← objectRest (value depth) fuel [])
    | _ => word

/-- The document that a file holds. -/
def parse? (cs : List Char) : Option Document :=
  Scan.whole (do
    gap
    let d ← value (cs.length + 1)
    gap
    return d) cs

end PushRegistry.Config.Json5
