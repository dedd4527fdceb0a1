/-!
# `PushRegistry.Decimal.Binary64`: double-precision numbers

A double is its bit pattern, and every operation is exact arithmetic on natural numbers
followed by one rounding (`roundHalfEven`), so that statements about the numbers need no
facts about machine floats.
-/

set_option autoImplicit false

namespace PushRegistry.Decimal

/-- The quotient `num / den` rounded to the nearest integer, halves to the even one. -/
def roundHalfEven (num den : Nat) : Nat :=
  let q := num / den
  let r := 2 * (num % den)
  if r < den then q else if den < r then q + 1 else q + q % 2

/-- The quotient `num / den` rounded to the nearest integer, halves upwards. -/
def roundHalfUp (num den : Nat) : Nat := (2 * num + den) / (2 * den)

/-- A double-precision number. -/
structure Binary64 where
  bits : UInt64
  deriving DecidableEq, Repr

namespace Binary64

/-- The weight of the lowest bit of the exponent field, `2 ^ 52`. It is also the smallest
significand of full length. -/
def fullSignificand : Nat := 0x10000000000000

/-- The bits of infinity. The patterns from here to `signBit` are infinity and the values that
are no number. -/
def infinityBits : Nat := 0x7ff0000000000000

/-- The bits of the value that is no number. -/
def notANumberBits : Nat := 0x7ff8000000000000

/-- The weight of the sign bit, `2 ^ 63`. -/
def signBit : Nat := 0x8000000000000000

/-- The number with the given sign whose other bits are `magnitude`. -/
def ofMagnitude (negative : Bool) (magnitude : Nat) : Binary64 :=
  ⟨UInt64.ofNat (if negative then signBit + magnitude else magnitude)⟩

/-- Whether the sign bit is set. -/
def isNegative (x : Binary64) : Bool := decide (signBit ≤ x.bits.toNat)

/-- The bits without the sign. -/
def magnitude (x : Binary64) : Nat := x.bits.toNat % signBit

/-- The number with the opposite sign. -/
def negate (x : Binary64) : Binary64 := ofMagnitude (!x.isNegative) x.magnitude

/-- What a double stands for. -/
inductive Meaning where
  /-- `significand * 2 ^ exponent`, with the sign. -/
  | finite (negative : Bool) (significand : Nat) (exponent : Int)
  | infinite (negative : Bool)
  | notANumber
  deriving DecidableEq, Repr

/-- The meaning of a bit pattern. -/
def meaning (x : Binary64) : Meaning :=
  let m := x.magnitude
  if m < fullSignificand then .finite x.isNegative m (-1074)
  else if m < infinityBits then
    .finite x.isNegative (m % fullSignificand + fullSignificand)
      (Int.ofNat (m / fullSignificand) - 1075)
  else if m = infinityBits then .infinite x.isNegative
  else .notANumber

/-- `2 ^ exponent` as a fraction: numerator and denominator. -/
def powerOfTwo (exponent : Int) : Nat × Nat :=
  match exponent with
  | .ofNat e => (Nat.pow 2 e, 1)
  | .negSucc e => (1, Nat.pow 2 (e + 1))

/-- `10 ^ exponent` as a fraction: numerator and denominator. -/
def powerOfTen (exponent : Int) : Nat × Nat :=
  match exponent with
  | .ofNat e => (Nat.pow 10 e, 1)
  | .negSucc e => (1, Nat.pow 10 (e + 1))

/-- `num / den` rounded to a multiple of `2 ^ exponent`, as the number of those multiples. -/
def quantize (num den : Nat) (exponent : Int) : Nat :=
  let p := powerOfTwo exponent
  roundHalfEven (num * p.2) (den * p.1)

/-- The exponent of the last place of the double nearest to `num / den`, before a carry. -/
def lastPlace (num den : Nat) : Int :=
  let guess := Int.ofNat num.log2 - Int.ofNat den.log2 - 53
  let p := powerOfTwo guess
  let exact := if num * p.2 < den * p.1 * (2 * fullSignificand) then guess else guess + 1
  max exact (-1074)

/-- The magnitude bits of the double nearest to `num / den`, ties to even, and infinity beyond
the largest one. A carry out of the significand moves into the exponent field by itself. -/
def nearestMagnitude (num den : Nat) : Nat :=
  let q := lastPlace num den
  let m := quantize num den q
  min infinityBits (m + (q + 1074).toNat * fullSignificand)

/-- The double nearest to the fraction `num / den`, with the given sign. -/
def ofRatio (negative : Bool) (num den : Nat) : Binary64 :=
  if num = 0 then ofMagnitude negative 0
  else ofMagnitude negative (nearestMagnitude num den)

/-- The number of decimal digits of a positive number, and 1 for zero. -/
def digitCount (n : Nat) : Nat := (Nat.toDigits 10 n).length

/-- The double nearest to `digits * 10 ^ exponent`. Exponents that only zero or infinity can
answer are not computed. -/
def ofDecimal (negative : Bool) (digits : Nat) (exponent : Int) : Binary64 :=
  let top := Int.ofNat (digitCount digits) + exponent
  if digits = 0 ∨ top < -330 then ofMagnitude negative 0
  else if 310 < top then ofMagnitude negative infinityBits
  else
    let p := powerOfTen exponent
    ofRatio negative (digits * p.1) p.2

/-- A finite number as sign and fraction. -/
def toRatio? (x : Binary64) : Option (Bool × Nat × Nat) :=
  match x.meaning with
  | .finite neg m q =>
    let p := powerOfTwo q
    some (neg, m * p.1, p.2)
  | _ => none

/-- Whether the number is an infinity. -/
def isInfinite (x : Binary64) : Bool := x.magnitude == infinityBits

/-- Whether the number is zero, of either sign. -/
def isZero (x : Binary64) : Bool := x.magnitude == 0

/-- The product of two numbers that are finite and not negative, rounded once. -/
def mul (x y : Binary64) : Binary64 :=
  match x.toRatio?, y.toRatio? with
  | some (_, a, b), some (_, c, d) => ofRatio false (a * c) (b * d)
  | _, _ => ofMagnitude false infinityBits

/-- The quotient of two numbers that are finite and not negative, rounded once. -/
def div (x y : Binary64) : Binary64 :=
  match x.toRatio?, y.toRatio? with
  | some (_, a, b), some (_, c, d) => ofRatio false (a * d) (b * c)
  | _, _ => ofMagnitude false infinityBits

end Binary64

end PushRegistry.Decimal
