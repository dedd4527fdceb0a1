import PushRegistry.Decimal.Numeral
import PushRegistry.Text.Hex

/-!
# `PushRegistry.Url.Ipv6`: bracketed hosts

An address is eight pieces of 16 bits. In its text one run of zeros may be left out, and the
last two pieces may be written as an IPv4 address.
-/

set_option autoImplicit false

namespace PushRegistry.Url.Ipv6

open PushRegistry.Decimal (Numeral.natural?)
open PushRegistry.Text

/-- The pieces read so far; `after` holds those behind the gap, once there is one. -/
structure Pieces where
  before : List Nat
  after : Option (List Nat)
  deriving DecidableEq, Repr

namespace Pieces

/-- The number of pieces, counting the gap as one. -/
def count (p : Pieces) : Nat :=
  p.before.length + (match p.after with
    | none => 0
    | some ps => ps.length + 1)

/-- Appends one piece. -/
def push (p : Pieces) (n : Nat) : Pieces :=
  match p.after with
  | none => { p with before := p.before ++ [n] }
  | some ps => { p with after := some (ps ++ [n]) }

/-- The eight pieces, with the gap filled by zeros. -/
def finish? (p : Pieces) : Option (List Nat) :=
  match p.after with
  | none => if p.before.length = 8 then some p.before else none
  | some ps => some (p.before ++ List.replicate (8 - p.before.length - ps.length) 0 ++ ps)

end Pieces

/-- One byte of an embedded IPv4 address: a decimal number up to 255 without leading zeros. -/
def byte? (part : List Char) : Option Nat := do
  let n ← Numeral.natural? 10 part
  if 255 < n ∨ (part.head? = some '0' ∧ part.length ≠ 1) then none else some n

/-- The two pieces that an embedded IPv4 address stands for. -/
def embedded? (cs : List Char) : Option (Nat × Nat) :=
  match (cs.splitOn '.').mapM byte? with
  | some [a, b, c, d] => some (a * 256 + b, c * 256 + d)
  | _ => none

/-- Reads pieces from a text whose length is below the first argument. -/
def readPieces : Nat → Pieces → List Char → Option Pieces
  | 0, _, _ => none
  | _ + 1, p, [] => some p
  | fuel + 1, p, c :: rest =>
    if p.count = 8 then none
    else if c = ':' then
      if p.after.isSome then none else readPieces fuel { p with after := some [] } rest
    else
      let cs := c :: rest
      let digits := (cs.take 4).takeWhile Hex.isDigit
      let value := (Hex.number? digits).getD 0
      match cs.drop digits.length with
      | [] => some (p.push value)
      | ':' :: next => if next.isEmpty then none else readPieces fuel (p.push value) next
      | '.' :: _ =>
        if digits.isEmpty ∨ 6 < p.count then none
        else (embedded? cs).map fun pair => (p.push pair.1).push pair.2
      | _ => none

/-- The pieces of the address between the brackets. -/
def parse? (cs : List Char) : Option (List Nat) :=
  let read (p : Pieces) (rest : List Char) :=
    (readPieces (rest.length + 1) p rest).bind Pieces.finish?
  match cs with
  | ':' :: ':' :: rest => read ⟨[], some []⟩ rest
  | ':' :: _ => none
  | _ => if cs.length < 2 then none else read ⟨[], none⟩ cs

/-- The length of the run of zeros that starts at each piece. -/
def zeroRuns : List Nat → List Nat
  | [] => []
  | n :: rest =>
    let runs := zeroRuns rest
    (if n = 0 then runs.head?.getD 0 + 1 else 0) :: runs

/-- Pieces with colons between them. -/
def joined (ps : List Nat) : List Char := [':'].intercalate (ps.map Hex.lower)

/-- The text between the brackets, with the first of the longest runs of at least two zeros
left out. -/
def text (pieces : List Nat) : List Char :=
  let runs := zeroRuns pieces
  let longest := runs.foldl max 0
  if longest < 2 then joined pieces
  else
    let start := runs.findIdx (· == longest)
    joined (pieces.take start) ++ [':', ':'] ++ joined (pieces.drop (start + longest))

end PushRegistry.Url.Ipv6
