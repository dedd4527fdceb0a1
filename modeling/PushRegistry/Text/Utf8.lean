/-!
# `PushRegistry.Text.Utf8`: characters and bytes

`pieces` cuts any byte sequence into scalar values and ill-formed parts, one byte at a
time: `Pending` remembers how many continuation bytes are still owed and which range
the next of them must fall into, so overlong forms, surrogates and values above
U+10FFFF are refused at the first byte that rules them out. The strict decoder, the
lenient one and the account of the first fault are all read off the pieces.
-/

set_option autoImplicit false

namespace PushRegistry.Text.Utf8

/-- A byte, as the members of a byte sequence are called throughout. -/
abbrev Byte := UInt8

/-- What one part of a byte sequence stands for. -/
inductive Piece where
  /-- A well-formed character. -/
  | scalar (c : Char)
  /-- `length` bytes that start a character which the next byte does not continue, or a
  single byte that can start none. -/
  | illFormed (length : Nat)
  /-- The sequence ends inside a character. -/
  | truncated
  deriving DecidableEq, Repr

/-- The state inside a character: bytes read so far, continuation bytes owed, the range of
the next one, and the bits collected. -/
structure Pending where
  read : Nat
  owed : Nat
  low : Byte
  high : Byte
  bits : Nat
  deriving DecidableEq, Repr

/-- What a byte means at the start of a character. -/
inductive Lead where
  | ascii (c : Char)
  | multi (p : Pending)
  | none
  deriving DecidableEq, Repr

/-- Classifies the first byte of a character. -/
def lead (b : Byte) : Lead :=
  if b ≤ 0x7f then .ascii (Char.ofNat b.toNat)
  else if b < 0xc2 then .none
  else if b ≤ 0xdf then .multi ⟨1, 1, 0x80, 0xbf, b.toNat - 0xc0⟩
  else if b ≤ 0xef then
    .multi ⟨1, 2, if b = 0xe0 then 0xa0 else 0x80, if b = 0xed then 0x9f else 0xbf,
      b.toNat - 0xe0⟩
  else if b ≤ 0xf4 then
    .multi ⟨1, 3, if b = 0xf0 then 0x90 else 0x80, if b = 0xf4 then 0x8f else 0xbf,
      b.toNat - 0xf0⟩
  else .none

/-- Whether `b` may follow in the state `p`. -/
def Pending.admits (p : Pending) (b : Byte) : Bool := p.low ≤ b && b ≤ p.high

/-- The state after a continuation byte that `p` admits. -/
def Pending.next (p : Pending) (b : Byte) : Pending :=
  ⟨p.read + 1, p.owed - 1, 0x80, 0xbf, p.bits * 64 + (b.toNat - 0x80)⟩

/-- The parts of a byte sequence that follows the bytes which led to the given state. -/
def piecesFrom : Option Pending → List Byte → List Piece
  | .none, [] => []
  | some _, [] => [.truncated]
  | .none, b :: rest =>
    match lead b with
    | .ascii c => .scalar c :: piecesFrom .none rest
    | .multi p => piecesFrom (some p) rest
    | .none => .illFormed 1 :: piecesFrom .none rest
  | some p, b :: rest =>
    if p.admits b then
      if p.owed ≤ 1 then .scalar (Char.ofNat (p.next b).bits) :: piecesFrom .none rest
      else piecesFrom (some (p.next b)) rest
    else
      .illFormed p.read ::
        match lead b with
        | .ascii c => .scalar c :: piecesFrom .none rest
        | .multi q => piecesFrom (some q) rest
        | .none => .illFormed 1 :: piecesFrom .none rest

/-- The parts of a byte sequence, in order. -/
def pieces (bytes : List Byte) : List Piece := piecesFrom .none bytes

/-- The character of a part, if it has one. -/
def Piece.char? : Piece → Option Char
  | .scalar c => some c
  | _ => none

/-- The bytes of a list of characters. -/
def encode (cs : List Char) : List Byte := cs.flatMap String.utf8EncodeChar

/-- The bytes of a string. -/
def ofString (s : String) : List Byte := encode s.toList

/-- The characters of a byte sequence that is well-formed as a whole. -/
def decode? (bytes : List Byte) : Option (List Char) := (pieces bytes).mapM Piece.char?

/-- The string whose bytes these are, if there is one. -/
def toString? (bytes : List Byte) : Option String := (decode? bytes).map String.ofList

/-- Every ill-formed part becomes one U+FFFD. -/
def decodeLossy (bytes : List Byte) : List Char :=
  (pieces bytes).map fun p => p.char?.getD '\uFFFD'

/-- `decodeLossy` as a string. -/
def toStringLossy (bytes : List Byte) : String := String.ofList (decodeLossy bytes)

/-- The character at the front of a byte sequence. -/
def first? (bytes : List Byte) : Option Char :=
  (pieces (bytes.take 4)).head?.bind Piece.char?

/-- Where and how a byte sequence first stops being well-formed. -/
structure Fault where
  /-- The number of bytes before the fault. -/
  validUpTo : Nat
  /-- The length of the ill-formed part; none when the sequence just ends too early. -/
  length : Option Nat
  deriving DecidableEq, Repr

/-- The first fault among parts that start `offset` bytes into the sequence. -/
def faultFrom (offset : Nat) : List Piece → Option Fault
  | [] => none
  | .scalar c :: rest => faultFrom (offset + c.utf8Size) rest
  | .illFormed n :: _ => some ⟨offset, some n⟩
  | .truncated :: _ => some ⟨offset, none⟩

/-- The first fault of a byte sequence. -/
def fault? (bytes : List Byte) : Option Fault := faultFrom 0 (pieces bytes)

/-- The account of a fault that is shown to users. -/
def Fault.message (f : Fault) : String :=
  match f.length with
  | some n => s!"invalid utf-8 sequence of {n} bytes from index {f.validUpTo}"
  | none => s!"incomplete utf-8 byte sequence from index {f.validUpTo}"

end PushRegistry.Text.Utf8
