import PushRegistry.Decimal.Numeral

/-!
# `PushRegistry.Url.Ipv4`: numeric hosts

A host whose last label is a number is an IPv4 address: up to four numbers, in decimal, octal
or hexadecimal notation, of which the last one fills all bytes that are left.
-/

set_option autoImplicit false

namespace PushRegistry.Url.Ipv4

open PushRegistry.Decimal (Numeral.natural?)

/-- The digits of one number and their base. -/
def numeral? (part : List Char) : Option (Nat × List Char) :=
  match part with
  | [] => none
  | '0' :: 'x' :: digits => some (16, digits)
  | '0' :: 'X' :: digits => some (16, digits)
  | '0' :: d :: digits => some (8, d :: digits)
  | _ => some (10, part)

/-- One number of an address. A base mark alone is zero. -/
def number? (part : List Char) : Option Nat := do
  let (base, digits) ← numeral? part
  if digits.isEmpty then some 0 else Numeral.natural? base digits

/-- The labels of a host, without the empty one after a dot at its end. -/
def labels (host : List Char) : List (List Char) :=
  let parts := host.splitOn '.'
  match parts.getLast? with
  | some [] => parts.dropLast
  | _ => parts

/-- Whether the last label of a host is a number, so that it must be an address. -/
def endsInNumber (host : List Char) : Bool :=
  match (labels host).getLast? with
  | none => false
  | some [] => false
  | some last => last.all Char.isDigit || (number? last).isSome

/-- The value of an address whose leading numbers are single bytes. -/
def combine (bytes : List Nat) (last : Nat) : Nat :=
  bytes.zipIdx.foldl (fun acc p => acc + p.1 * Nat.pow 256 (3 - p.2)) last

/-- The address that a host writes. -/
def parse? (host : List Char) : Option Nat := do
  let numbers ← (labels host).mapM number?
  let last ← numbers.getLast?
  let bytes := numbers.dropLast
  if 4 < numbers.length ∨ bytes.any (255 < ·) ∨ Nat.pow 256 (4 - bytes.length) ≤ last then none
  else some (combine bytes last)

/-- The four decimal bytes of an address. -/
def text (address : Nat) : List Char :=
  let byte (n : Nat) := Nat.toDigits 10 (address / Nat.pow 256 n % 256)
  byte 3 ++ '.' :: byte 2 ++ '.' :: byte 1 ++ '.' :: byte 0

end PushRegistry.Url.Ipv4
