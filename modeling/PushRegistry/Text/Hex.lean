/-!
# `PushRegistry.Text.Hex`: hexadecimal digits

Digits, fixed-width numbers and byte strings in base 16.
-/

set_option autoImplicit false

namespace PushRegistry.Text.Hex

/-- The lower-case digit of a number below 16. -/
def lowerDigit (n : Nat) : Char :=
  if n < 10 then Char.ofNat (48 + n) else Char.ofNat (87 + n)

/-- The upper-case digit of a number below 16. -/
def upperDigit (n : Nat) : Char :=
  if n < 10 then Char.ofNat (48 + n) else Char.ofNat (55 + n)

/-- The value of a digit in either case. -/
def value? (c : Char) : Option Nat :=
  if '0' ≤ c ∧ c ≤ '9' then some (c.toNat - 48)
  else if 'a' ≤ c ∧ c ≤ 'f' then some (c.toNat - 87)
  else if 'A' ≤ c ∧ c ≤ 'F' then some (c.toNat - 55)
  else none

/-- Whether a character is a digit in either case. -/
def isDigit (c : Char) : Bool := (value? c).isSome

/-- The value of a byte that is the ASCII code of a digit. -/
def byteValue? (b : UInt8) : Option Nat := value? (Char.ofNat b.toNat)

/-- The number that a list of digits writes, most significant first. -/
def number? (digits : List Char) : Option Nat :=
  digits.foldlM (fun acc c => (value? c).map (acc * 16 + ·)) 0

/-- The shortest lower-case numeral of a number. -/
def lower (n : Nat) : List Char := Nat.toDigits 16 n

/-- Two upper-case digits for a byte. -/
def upperByte (b : UInt8) : List Char :=
  [upperDigit (b.toNat / 16), upperDigit (b.toNat % 16)]

/-- The bytes that pairs of digits write. -/
def bytes? : List Char → Option (List UInt8)
  | [] => some []
  | a :: b :: rest => do
    let hi ← value? a
    let lo ← value? b
    let tail ← bytes? rest
    return UInt8.ofNat (hi * 16 + lo) :: tail
  | [_] => none

end PushRegistry.Text.Hex
