import PushRegistry.Decimal.Binary64

/-!
# `PushRegistry.Decimal.Numeral`: reading numbers

Integers in a given base within fixed bounds, and decimal floating-point numerals.
-/

set_option autoImplicit false

namespace PushRegistry.Decimal.Numeral

/-- The value of a digit in a base of at most 36. -/
def digitValue? (base : Nat) (c : Char) : Option Nat :=
  let v :=
    if '0' ≤ c ∧ c ≤ '9' then some (c.toNat - 48)
    else if 'a' ≤ c ∧ c ≤ 'z' then some (c.toNat - 87)
    else if 'A' ≤ c ∧ c ≤ 'Z' then some (c.toNat - 55)
    else none
  v.filter (· < base)

/-- The number that a list of digits writes; the empty list writes none. -/
def natural? (base : Nat) (digits : List Char) : Option Nat :=
  match digits with
  | [] => none
  | _ => digits.foldlM (fun acc c => (digitValue? base c).map (acc * base + ·)) 0

/-- A sign, if one stands in front, and the rest. -/
def splitSign : List Char → Option Bool × List Char
  | '-' :: rest => (some true, rest)
  | '+' :: rest => (some false, rest)
  | cs => (none, cs)

/-- An integer with an optional sign. -/
def integer? (base : Nat) (cs : List Char) : Option Int :=
  let (sign, digits) := splitSign cs
  (natural? base digits).map fun n => if sign = some true then -(Int.ofNat n) else Int.ofNat n

/-- A signed 64-bit word holds the integer. -/
abbrev FitsInt64 (n : Int) : Prop := -0x8000000000000000 ≤ n ∧ n < 0x8000000000000000

/-- An integer that a signed 64-bit word holds. -/
def int64? (base : Nat) (cs : List Char) : Option Int :=
  (integer? base cs).filter fun n => FitsInt64 n

/-- Why a numeral is not an unsigned integer. -/
inductive UnsignedFault where
  | empty
  | invalidDigit
  | overflow
  deriving DecidableEq, Repr

/-- A number below `bound`, with an optional plus sign in front. A sign alone and any other
character that is no digit are invalid digits. -/
def unsigned (bound : Nat) (cs : List Char) : Except UnsignedFault Nat :=
  let digits := match cs with
    | '+' :: rest => if rest.isEmpty then cs else rest
    | _ => cs
  if digits.isEmpty then .error .empty
  else match natural? 10 digits with
    | none => .error .invalidDigit
    | some n => if n < bound then .ok n else .error .overflow

/-- Why a numeral is not a signed 64-bit integer. -/
inductive SignedFault where
  | empty
  | invalidDigit
  | tooLarge
  | tooSmall
  deriving DecidableEq, Repr

/-- The account of a fault that users see. -/
def SignedFault.message : SignedFault → String
  | .empty => "cannot parse integer from empty string"
  | .invalidDigit => "invalid digit found in string"
  | .tooLarge => "number too large to fit in target type"
  | .tooSmall => "number too small to fit in target type"

/-- Puts digits behind a number, away from zero. The first character that is no digit or makes
the number leave the range decides. -/
def appendDigits (negative : Bool) : Int → List Char → Except SignedFault Int
  | n, [] => .ok n
  | n, c :: rest =>
    match digitValue? 10 c with
    | none => .error .invalidDigit
    | some d =>
      let next := if negative then 10 * n - Int.ofNat d else 10 * n + Int.ofNat d
      if FitsInt64 next then appendDigits negative next rest
      else .error (if next < 0 then .tooSmall else .tooLarge)

/-- A signed 64-bit integer with an optional sign. A sign alone is an invalid digit. -/
def signed (cs : List Char) : Except SignedFault Int :=
  match splitSign cs with
  | (_, []) => .error (if cs.isEmpty then .empty else .invalidDigit)
  | (sign, digits) => appendDigits (sign == some true) 0 digits

/-- A character in lower case, for the letters of ASCII. -/
def lowerAscii (cs : List Char) : List Char := cs.map Char.toLower

/-- The exponent part of a decimal numeral: nothing, or `e`, an optional sign and digits. -/
def exponent? : List Char → Option Int
  | [] => some 0
  | c :: rest => if c = 'e' ∨ c = 'E' then integer? 10 rest else none

/-- An unsigned decimal numeral: digits with an optional point, at least one digit in all,
and an optional exponent. -/
def decimal? (negative : Bool) (cs : List Char) : Option Binary64 :=
  let whole := cs.takeWhile Char.isDigit
  let afterWhole := cs.dropWhile Char.isDigit
  let (fraction, afterFraction) := match afterWhole with
    | '.' :: rest => (rest.takeWhile Char.isDigit, rest.dropWhile Char.isDigit)
    | _ => ([], afterWhole)
  match natural? 10 (whole ++ fraction), exponent? afterFraction with
  | some digits, some e =>
    some (Binary64.ofDecimal negative digits (e - Int.ofNat fraction.length))
  | _, _ => none

/-- A floating-point numeral: an optional sign, then a decimal numeral or, in any case,
`inf`, `infinity` or `nan`. -/
def binary64? (cs : List Char) : Option Binary64 :=
  let (sign, rest) := splitSign cs
  let negative := sign == some true
  match String.ofList (lowerAscii rest) with
  | "inf" => some (Binary64.ofMagnitude negative Binary64.infinityBits)
  | "infinity" => some (Binary64.ofMagnitude negative Binary64.infinityBits)
  | "nan" => some (Binary64.ofMagnitude negative Binary64.notANumberBits)
  | _ => decimal? negative rest

end PushRegistry.Decimal.Numeral
