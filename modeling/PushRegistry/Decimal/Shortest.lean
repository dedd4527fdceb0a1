import PushRegistry.Decimal.Binary64

/-!
# `PushRegistry.Decimal.Shortest`: the fewest digits that read back

A finite double is written with the fewest significant digits whose decimal value is
still nearest to it among all doubles, and of those numerals with the one closest to it.
`Style` says how a text spells the digits out.
-/

set_option autoImplicit false

namespace PushRegistry.Decimal

/-- A positive decimal number, `digits * 10 ^ exponent`. -/
structure Scaled where
  digits : Nat
  exponent : Int
  deriving DecidableEq, Repr

namespace Scaled

/-- The decimal digits, most significant first. -/
def numerals (s : Scaled) : List Char := Nat.toDigits 10 s.digits

/-- Whether the double nearest to this number is `x`. -/
def readsBackAs (s : Scaled) (x : Binary64) : Bool :=
  s.digits != 0 && Binary64.ofDecimal false s.digits s.exponent == x

/-- The distance to `num / den`, multiplied by `den` and by the denominator of the power of
ten, so that distances on one decimal grid can be compared. -/
def distance (s : Scaled) (num den : Nat) : Nat :=
  let p := Binary64.powerOfTen s.exponent
  let here := s.digits * p.1 * den
  let there := num * p.2
  if here ≤ there then there - here else here - there

/-- The same number without zeros at the end of its digits. -/
def strip : Nat → Scaled → Scaled
  | 0, s => s
  | n + 1, s =>
    if s.digits % 10 = 0 then strip n ⟨s.digits / 10, s.exponent + 1⟩ else s

end Scaled

namespace Shortest

/-- The exponent of ten of the leading digit of `num / den`, at most one too large. -/
def leadingExponent (num den : Nat) : Int :=
  let e := Int.ofNat (Binary64.digitCount num) - Int.ofNat (Binary64.digitCount den)
  let p := Binary64.powerOfTen e
  if num * p.2 < den * p.1 then e - 1 else e

/-- The neighbours of `num / den` on the grid of numbers with `count` digits, the nearer
first; of two equally near ones the even one first. -/
def neighbours (num den count : Nat) : List Scaled :=
  let e := leadingExponent num den + 1 - Int.ofNat count
  let p := Binary64.powerOfTen e
  let below : Scaled := ⟨num * p.2 / (den * p.1), e⟩
  let above : Scaled := ⟨below.digits + 1, e⟩
  let dBelow := below.distance num den
  let dAbove := above.distance num den
  if dBelow < dAbove ∨ (dBelow = dAbove ∧ below.digits % 2 = 0) then [below, above]
  else [above, below]

/-- The shortest decimal number that reads back as the positive number `x`. -/
def find? (x : Binary64) : Option Scaled :=
  match x.toRatio? with
  | none => none
  | some (_, num, den) =>
    ((List.range 17).flatMap fun n => neighbours num den (n + 1)).find? (·.readsBackAs x)
      |>.map (Scaled.strip 20)

end Shortest

/-- How a text writes a double. -/
structure Style where
  /-- The exponents of the leading digit that are written positionally; none for all. -/
  positional : Option (Int × Int)
  /-- Whether an integer is followed by a point and a zero. -/
  keepPoint : Bool
  infinity : String
  notANumber : String
  deriving DecidableEq, Repr

namespace Style

/-- Whether the style writes a number positionally, by the exponent of its leading digit. -/
def isPositional (style : Style) (leading : Int) : Bool :=
  match style.positional with
  | none => true
  | some (low, high) => decide (low ≤ leading) && decide (leading ≤ high)

/-- The digits with a point `places` digits from the left. -/
def positionalText (style : Style) (digits : List Char) (places : Int) : List Char :=
  match places with
  | .negSucc n => ['0', '.'] ++ List.replicate (n + 1) '0' ++ digits
  | .ofNat 0 => ['0', '.'] ++ digits
  | .ofNat n =>
    if digits.length ≤ n then
      digits ++ List.replicate (n - digits.length) '0' ++
        (if style.keepPoint then ['.', '0'] else [])
    else digits.take n ++ '.' :: digits.drop n

/-- The digits with a point after the first and an exponent. -/
def scientificText (digits : List Char) (leading : Int) : List Char :=
  (match digits with
    | [d] => [d]
    | d :: rest => d :: '.' :: rest
    | [] => []) ++
    'e' :: (if leading < 0 then '-' else '+') :: Nat.toDigits 10 leading.natAbs

/-- The text of a positive decimal number. -/
def scaledText (style : Style) (s : Scaled) : List Char :=
  let digits := s.numerals
  let leading := s.exponent + Int.ofNat digits.length - 1
  if style.isPositional leading then style.positionalText digits (leading + 1)
  else scientificText digits leading

/-- The text of a number that is not negative. -/
def magnitudeText (style : Style) (x : Binary64) : List Char :=
  if x.isZero then if style.keepPoint then ['0', '.', '0'] else ['0']
  else
    match Shortest.find? x with
    | some s => style.scaledText s
    | none => style.infinity.toList

/-- The text of a double. -/
def text (style : Style) (x : Binary64) : List Char :=
  match x.meaning with
  | .notANumber => style.notANumber.toList
  | _ =>
    let m := Binary64.ofMagnitude false x.magnitude
    if x.isNegative then '-' :: style.magnitudeText m else style.magnitudeText m

end Style

end PushRegistry.Decimal
