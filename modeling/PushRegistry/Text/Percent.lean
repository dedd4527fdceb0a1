import PushRegistry.Text.Hex
import PushRegistry.Text.Utf8

/-!
# `PushRegistry.Text.Percent`: percent-encoding

Characters of a given set are written as `%XX` for each of their bytes; every other
character stays. Decoding works on bytes and leaves a `%` that no two digits follow.
-/

set_option autoImplicit false

namespace PushRegistry.Text.Percent

/-- A set of characters that must not stand as they are. -/
abbrev EncodeSet := Char → Bool

/-- One byte as `%XX`. -/
def encodeByte (b : UInt8) : List Char := '%' :: Hex.upperByte b

/-- A character, encoded if the set holds it. -/
def encodeChar (set : EncodeSet) (c : Char) : List Char :=
  if set c then (String.utf8EncodeChar c).flatMap encodeByte else [c]

/-- A text with the characters of the set encoded. -/
def encode (set : EncodeSet) (cs : List Char) : List Char := cs.flatMap (encodeChar set)

/-- The bytes that an encoded text stands for. -/
def decode : List UInt8 → List UInt8
  | 0x25 :: a :: b :: rest =>
    match Hex.byteValue? a, Hex.byteValue? b with
    | some hi, some lo => UInt8.ofNat (hi * 16 + lo) :: decode rest
    | _, _ => 0x25 :: decode (a :: b :: rest)
  | b :: rest => b :: decode rest
  | [] => []

/-- The bytes that an encoded list of characters stands for. -/
def decodeChars (cs : List Char) : List UInt8 := decode (Utf8.encode cs)

/-- The string that an encoded list of characters stands for, if it is well-formed. -/
def decodeString? (cs : List Char) : Option String := Utf8.toString? (decodeChars cs)

/-- Controls and everything that is not ASCII. -/
def controlSet : EncodeSet := fun c => c.toNat < 0x20 || 0x7e < c.toNat

/-- What is encoded in a fragment. -/
def fragmentSet : EncodeSet := fun c => controlSet c || [' ', '"', '<', '>', '`'].contains c

/-- What is encoded in a query. -/
def querySet : EncodeSet := fun c =>
  controlSet c || [' ', '"', '#', '<', '>', '\''].contains c

/-- What is encoded in a path. -/
def pathSet : EncodeSet := fun c => fragmentSet c || ['#', '?', '\x7b', '\x7d'].contains c

/-- What is encoded in a single segment, which may hold neither separators nor escapes. -/
def segmentSet : EncodeSet := fun c => pathSet c || ['/', '%', '\\'].contains c

/-- What is encoded in user names and passwords. -/
def userinfoSet : EncodeSet := fun c =>
  pathSet c || ['/', ':', ';', '=', '@', '[', '\\', ']', '^', '|'].contains c

end PushRegistry.Text.Percent
