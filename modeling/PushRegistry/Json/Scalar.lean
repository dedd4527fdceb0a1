import PushRegistry.Json.Cursor
import PushRegistry.Text.Utf8

/-!
# `PushRegistry.Json.Scalar`: words, numbers and strings

A number without point and exponent is an integer if it fits 64 bits, with or without a
sign. All others are doubles: the digits are collected as long as they fit an unsigned
64-bit word, and that word is scaled by powers of ten with one rounding for each step.
-/

set_option autoImplicit false

namespace PushRegistry.Json.Reader

open PushRegistry.Decimal (Binary64)
open PushRegistry.Text

/-- The rest of a literal name. -/
def ident (expected : List UInt8) : Reader Unit :=
  expected.forM fun b => do
    match ← next with
    | none => fail .eofInValue
    | some found => if found = b then pure () else fail .expectedIdent

/-! ### Numbers -/

/-- Whether a byte is a decimal digit. -/
def isDigit (b : UInt8) : Bool := 0x30 ≤ b && b ≤ 0x39

/-- The value of a digit. -/
def digitValue (b : UInt8) : Nat := b.toNat - 0x30

/-- The values of the digits at the front. -/
def digits : Reader (List Nat) := do return (← takeWhile isDigit).map digitValue

/-- Appends digits to a number as long as the result stays at most `limit`; the digits that
are left over come back as well. -/
def accumulate (limit : Nat) : Nat → List Nat → Nat × List Nat
  | n, [] => (n, [])
  | n, d :: rest =>
    if n * 10 + d ≤ limit then accumulate limit (n * 10 + d) rest else (n, d :: rest)

/-- The largest unsigned 64-bit number. -/
def maxWord : Nat := UInt64.size - 1

/-- The largest power of ten that is a double. -/
def maxPower : Nat := 308

/-- The double nearest to a power of ten. -/
def power (e : Nat) : Binary64 := Binary64.ofDecimal false 1 (Int.ofNat e)

/-- Divides by ten `e` times, by at most `maxPower` places in one step. -/
def shrink : Nat → Binary64 → Nat → Binary64
  | 0, x, _ => x
  | fuel + 1, x, e =>
    if e ≤ maxPower then x.div (power e)
    else if x.isZero then x
    else shrink fuel (x.div (power maxPower)) (e - maxPower)

/-- The double for `significand * 10 ^ exponent`; none if that is out of range. -/
def scale? (significand : Nat) (exponent : Int) : Option Binary64 :=
  let x := Binary64.ofRatio false significand 1
  match exponent with
  | .negSucc e => some (shrink (e + 1) x (e + 1))
  | .ofNat e =>
    if e ≤ maxPower then
      let scaled := x.mul (power e)
      if scaled.isInfinite then none else some scaled
    else if x.isZero then some x
    else none

/-- The double for a sign, a significand and a power of ten. -/
def float (negative : Bool) (significand : Nat) (exponent : Int) : Reader Number :=
  match scale? significand exponent with
  | some x => return .float (if negative then x.negate else x)
  | none => fail .numberOutOfRange

/-- The part of a number from its exponent mark on. -/
def exponentPart (negative : Bool) (significand : Nat) (exponent : Int) : Reader Number := do
  skip
  let sign ← peek
  let below := sign == some 0x2d
  if below || sign == some 0x2b then skip
  match ← next with
  | none => fail .eofInValue
  | some b =>
    if isDigit b then
      let run := ((← get).rest.takeWhile isDigit).map digitValue
      match accumulate 0x7fffffff (digitValue b) run with
      | (e, []) =>
        let _ ← digits
        float negative significand (if below then exponent - Int.ofNat e else exponent + Int.ofNat e)
      | (_, excess) =>
        -- The exponent itself is too large: the number is zero or out of range.
        if significand ≠ 0 ∧ !below then
          modify (Cursor.advanceBy (run.length - excess.length + 1))
          fail .numberOutOfRange
        else
          let _ ← digits
          return .float (Binary64.ofMagnitude negative 0)
    else fail .invalidNumber

/-- What may follow the digits of a double: an exponent or nothing. -/
def exponentOrEnd (negative : Bool) (significand : Nat) (exponent : Int) : Reader Number := do
  let b ← peek
  if b = some 0x65 ∨ b = some 0x45 then exponentPart negative significand exponent
  else float negative significand exponent

/-- The part of a number from its point on. Digits that do not fit are dropped. -/
def fractionPart (negative : Bool) (significand : Nat) (exponent : Int) : Reader Number := do
  skip
  let run ← digits
  if run.isEmpty then
    match ← peek with
    | some _ => failAhead .invalidNumber
    | none => failAhead .eofInValue
  else
    let (more, excess) := accumulate maxWord significand run
    exponentOrEnd negative more (exponent - Int.ofNat (run.length - excess.length))

/-- What may follow the digits before the point; `whole` is the number if nothing does. -/
def afterWhole (negative : Bool) (significand : Nat) (exponent : Int) (whole : Reader Number) :
    Reader Number := do
  let b ← peek
  if b = some 0x2e then fractionPart negative significand exponent
  else if b = some 0x65 ∨ b = some 0x45 then exponentPart negative significand exponent
  else whole

/-- An integer with its sign. A negative zero and what does not fit 64 bits are doubles. -/
def wholeNumber (negative : Bool) (significand : Nat) : Number :=
  if negative then
    if significand = 0 ∨ 0x8000000000000000 < significand then
      .float (Binary64.ofRatio true significand 1)
    else .int (-(Int.ofNat significand))
  else .int (Int.ofNat significand)

/-- A number whose sign, if any, has been read. -/
def number (negative : Bool) : Reader Number := do
  match ← next with
  | none => fail .eofInValue
  | some b =>
    if b = 0x30 then
      match ← peek with
      | some d => if isDigit d then failAhead .invalidNumber else afterZero
      | none => afterZero
    else if isDigit b then
      let (significand, excess) := accumulate maxWord (digitValue b) (← digits)
      if excess.isEmpty then
        afterWhole negative significand 0 (return wholeNumber negative significand)
      else
        let exponent := Int.ofNat excess.length
        afterWhole negative significand exponent (float negative significand exponent)
    else fail .invalidNumber
where
  /-- What follows a leading zero. -/
  afterZero : Reader Number := afterWhole negative 0 0 (return wholeNumber negative 0)

/-! ### Strings -/

/-- Four hexadecimal digits. -/
def hexEscape : Reader Nat := do
  match (← get).rest with
  | a :: b :: c :: d :: _ =>
    modify (Cursor.advanceBy 4)
    match [a, b, c, d].mapM Hex.byteValue? with
    | some values => return values.foldl (fun acc v => acc * 16 + v) 0
    | none => fail .invalidEscape
  | rest =>
    modify (Cursor.advanceBy rest.length)
    fail .eofInString

/-- Takes the next byte of a string. -/
def nextInString : Reader UInt8 := do
  match ← next with
  | some b => return b
  | none => fail .eofInString

/-- The byte that must stand between the halves of a surrogate pair. -/
def pairMark (expected : UInt8) : Reader Unit := do
  match ← peek with
  | none => fail .eofInString
  | some b =>
    skip
    if b = expected then pure () else fail .unexpectedEndOfHexEscape

/-- The character of an escape that is given by its number, or by the two halves of a
surrogate pair. -/
def unicodeEscape : Reader Char := do
  let high ← hexEscape
  if 0xdc00 ≤ high ∧ high ≤ 0xdfff then fail .loneSurrogate
  else if high < 0xd800 ∨ 0xdbff < high then return Char.ofNat high
  else
    pairMark 0x5c
    pairMark 0x75
    let low ← hexEscape
    if low < 0xdc00 ∨ 0xdfff < low then fail .loneSurrogate
    else return Char.ofNat (0x10000 + (high - 0xd800) * 0x400 + (low - 0xdc00))

/-- The character of an escape, after its backslash. -/
def escapedChar : Reader Char := do
  let b ← nextInString
  if b = 0x75 then unicodeEscape
  else if b = 0x22 then return '"'
  else if b = 0x5c then return '\\'
  else if b = 0x2f then return '/'
  else if b = 0x62 then return '\x08'
  else if b = 0x66 then return '\x0c'
  else if b = 0x6e then return '\n'
  else if b = 0x72 then return '\r'
  else if b = 0x74 then return '\t'
  else fail .invalidEscape

/-- The rest of a string whose characters so far are `acc`, last first. The place after the
first byte that is not well-formed UTF-8 is remembered and reported at the closing quote. -/
def stringRest : Nat → Option Position → List Char → Reader String
  | 0, _, _ => fail .eofInString
  | fuel + 1, bad, acc => do
    let here ← get
    match here.rest with
    | [] => fail .eofInString
    | b :: _ =>
      if b = 0x22 then
        skip
        match bad with
        | some place => throw ⟨.invalidCodePoint, some place⟩
        | none => return String.ofList acc.reverse
      else if b = 0x5c then
        skip
        let c ← escapedChar
        stringRest fuel bad (c :: acc)
      else if b < 0x20 then
        skip
        fail .controlCharacter
      else
        match Utf8.first? here.rest with
        | some c =>
          modify (Cursor.advanceBy c.utf8Size)
          stringRest fuel bad (c :: acc)
        | none =>
          skip
          stringRest fuel (bad <|> some here.positionAhead) acc

/-- A string, after its opening quote. -/
def string : Reader String := do stringRest ((← get).rest.length + 1) none []

end PushRegistry.Json.Reader
