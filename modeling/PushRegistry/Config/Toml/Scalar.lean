import PushRegistry.Config.Document
import PushRegistry.Config.Toml.Text
import PushRegistry.Decimal.Numeral

/-!
# `PushRegistry.Config.Toml.Scalar`: numbers, switches and dates

Underscores may stand between digits. Dates and times are checked and kept as texts in one
spelling.
-/

set_option autoImplicit false

namespace PushRegistry.Config.Toml

open PushRegistry.Decimal
open PushRegistry.Text

/-! ### Numbers -/

/-- Digits with single underscores between them, which are dropped. -/
def digitGroups (accept : Char → Bool) : Scan (List Char) := do
  let first ← Scan.takeSome accept
  let more ← Scan.many (do
    Scan.char '_'
    Scan.takeSome accept) (← get).length
  return first ++ more.flatten

/-- A sign, if there is one. -/
def sign : Scan (List Char) :=
  (Scan.char '-' *> pure ['-']) <|> (Scan.char '+' *> pure []) <|> pure []

/-- The digits of a decimal integer: a zero, or digits that do not start with one. -/
def decimalDigits : Scan (List Char) := do
  match ← Scan.peek with
  | some '0' =>
    Scan.char '0'
    return ['0']
  | _ => digitGroups Char.isDigit

/-- An integer in the base that its mark names. -/
def radixInteger (mark : String) (base : Nat) : Scan Int := do
  Scan.literal mark
  let digits ← digitGroups fun c => (Numeral.digitValue? base c).isSome
  match Numeral.natural? base digits with
  | some n => return Int.ofNat n
  | none => failure

/-- An integer in decimal notation. -/
def decimalInteger : Scan Int := do
  let s ← sign
  match Numeral.integer? 10 (s ++ (← decimalDigits)) with
  | some n => return n
  | none => failure

/-- An integer that fits 64 bits. -/
def integer : Scan Document := do
  let n ← radixInteger "0x" 16 <|> radixInteger "0o" 8 <|> radixInteger "0b" 2 <|> decimalInteger
  match Document.int? n with
  | some d => return d
  | none => failure

/-- The exponent of a double, with its mark. -/
def exponent : Scan (List Char) := do
  let _ ← Scan.satisfy fun c => c = 'e' || c = 'E'
  return 'e' :: (← sign) ++ (← digitGroups Char.isDigit)

/-- A double in decimal notation; too large ones are refused. -/
def decimalFloat : Scan Document := do
  let s ← sign
  let whole ← decimalDigits
  let fraction ← Scan.option (do
    Scan.char '.'
    return '.' :: (← digitGroups Char.isDigit))
  let e ← Scan.option exponent
  if fraction.isNone ∧ e.isNone then failure
  else
    match Numeral.binary64? (s ++ whole ++ fraction.getD [] ++ e.getD []) with
    | some x => if x.isInfinite && !x.isNegative then failure else return .scalar (.float x)
    | none => failure

/-- Infinity and what is no number. -/
def specialFloat : Scan Document := do
  let s ← sign
  let word ← (Scan.literal "inf" *> pure "inf".toList) <|> (Scan.literal "nan" *> pure "nan".toList)
  match Numeral.binary64? (s ++ word) with
  | some x => return .scalar (.float x)
  | none => failure

/-- A switch. -/
def boolean : Scan Document :=
  (Scan.literal "true" *> pure (.scalar (.bool true))) <|>
    (Scan.literal "false" *> pure (.scalar (.bool false)))

/-! ### Dates and times -/

/-- A number with a fixed count of digits. -/
def fixedNumber (digits : Nat) : Scan Nat := do
  return (Numeral.natural? 10 (← Scan.count digits Char.isDigit)).getD 0

/-- A number with a fixed count of digits, within bounds. -/
def boundedNumber (digits low high : Nat) : Scan Nat := do
  let n ← fixedNumber digits
  if low ≤ n ∧ n ≤ high then return n else failure

/-- A number in decimal digits, filled up with zeros. -/
def padded (width n : Nat) : List Char :=
  let digits := Nat.toDigits 10 n
  List.replicate (width - digits.length) '0' ++ digits

/-- Whether a year has a leap day. -/
def isLeap (year : Nat) : Bool := year % 4 = 0 && (year % 100 ≠ 0 || year % 400 = 0)

/-- The number of days of a month. -/
def daysIn (year month : Nat) : Nat :=
  if month = 2 then if isLeap year then 29 else 28
  else if [4, 6, 9, 11].contains month then 30
  else 31

/-- A date. -/
def date : Scan (List Char) := do
  let year ← fixedNumber 4
  Scan.char '-'
  let month ← boundedNumber 2 1 12
  Scan.char '-'
  let day ← boundedNumber 2 1 (daysIn year month)
  return padded 4 year ++ '-' :: padded 2 month ++ '-' :: padded 2 day

/-- The fraction of a second, to the nanosecond and without zeros at the end. -/
def secondFraction : Scan (List Char) := do
  Scan.char '.'
  let digits ← Scan.takeSome Char.isDigit
  let kept := ((digits.take 9).reverse.dropWhile (· = '0')).reverse
  return if kept.isEmpty then [] else '.' :: kept

/-- A time of day. -/
def time : Scan (List Char) := do
  let hour ← boundedNumber 2 0 23
  Scan.char ':'
  let minute ← boundedNumber 2 0 59
  Scan.char ':'
  let second ← boundedNumber 2 0 60
  let fraction ← Scan.option secondFraction
  return padded 2 hour ++ ':' :: padded 2 minute ++ ':' :: padded 2 second ++ fraction.getD []

/-- The distance to universal time. -/
def offset : Scan (List Char) := do
  let c ← Scan.next
  if c = 'Z' ∨ c = 'z' then return ['Z']
  else if c = '+' ∨ c = '-' then
    let hour ← boundedNumber 2 0 23
    Scan.char ':'
    let minute ← boundedNumber 2 0 59
    let shown := if hour = 0 ∧ minute = 0 then '+' else c
    return shown :: padded 2 hour ++ ':' :: padded 2 minute
  else failure

/-- A date, a time or both, as a text in one spelling. -/
def dateTime : Scan Document := do
  let withDate : Scan (List Char) := do
    let d ← date
    let rest ← Scan.option (do
      let _ ← Scan.satisfy fun c => c = 'T' || c = 't' || c = ' '
      let t ← time
      let o ← Scan.option offset
      return 'T' :: t ++ o.getD [])
    return d ++ rest.getD []
  return Document.text (String.ofList (← withDate <|> time))

/-- A scalar that is no string. -/
def scalar : Scan Document := do
  match ← Scan.peek with
  | some c =>
    if c.isDigit ∨ c = '+' ∨ c = '-' then
      dateTime <|> decimalFloat <|> specialFloat <|> integer
    else boolean <|> specialFloat
  | none => failure

end PushRegistry.Config.Toml
