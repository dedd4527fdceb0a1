import PushRegistry.Json.Value
import PushRegistry.Text.Hex

/-!
# `PushRegistry.Json.Printer`: the texts of a document

`Value.compact` writes a document without any blanks, `Value.pretty` on lines indented by
two spaces. Both write strings with the same escapes and doubles by `floatStyle`.
-/

set_option autoImplicit false

namespace PushRegistry.Json

open PushRegistry.Decimal (Style)
open PushRegistry.Text

/-- Doubles are written positionally from 1e-5 up to below 1e16 and always with a point or
an exponent. -/
def floatStyle : Style where
  positional := some (-5, 15)
  keepPoint := true
  infinity := "null"
  notANumber := "null"

/-- The text of a number. -/
def Number.text : Number → List Char
  | .int n => (toString n).toList
  | .float x => floatStyle.text x

/-- One character inside a string. -/
def escape (c : Char) : List Char :=
  if c = '"' then ['\\', '"']
  else if c = '\\' then ['\\', '\\']
  else if c = '\x08' then ['\\', 'b']
  else if c = '\x0c' then ['\\', 'f']
  else if c = '\n' then ['\\', 'n']
  else if c = '\r' then ['\\', 'r']
  else if c = '\t' then ['\\', 't']
  else if c.toNat < 0x20 then
    ['\\', 'u', '0', '0', Hex.lowerDigit (c.toNat / 16), Hex.lowerDigit (c.toNat % 16)]
  else [c]

/-- A string between quotes. -/
def stringText (s : String) : List Char := '"' :: s.toList.flatMap escape ++ ['"']

namespace Value

mutual

/-- A document without blanks. -/
def compactText : Value → List Char
  | .null => "null".toList
  | .bool b => (if b then "true" else "false").toList
  | .number n => n.text
  | .string s => stringText s
  | .array [] => ['[', ']']
  | .array (v :: rest) => '[' :: compactText v ++ compactItems rest
  | .object [] => ['\x7b', '\x7d']
  | .object ((k, v) :: rest) =>
    '\x7b' :: stringText k ++ ':' :: compactText v ++ compactMembers rest

/-- The items after the first one, and the closing bracket. -/
def compactItems : List Value → List Char
  | [] => [']']
  | v :: rest => ',' :: compactText v ++ compactItems rest

/-- The members after the first one, and the closing brace. -/
def compactMembers : List (String × Value) → List Char
  | [] => ['\x7d']
  | (k, v) :: rest => ',' :: stringText k ++ ':' :: compactText v ++ compactMembers rest

end

/-- A new line, indented by the given number of levels. -/
def newline (level : Nat) : List Char := '\n' :: List.replicate (2 * level) ' '

mutual

/-- A document on indented lines, inside the given number of brackets. -/
def prettyText (level : Nat) : Value → List Char
  | .null => "null".toList
  | .bool b => (if b then "true" else "false").toList
  | .number n => n.text
  | .string s => stringText s
  | .array [] => ['[', ']']
  | .array (v :: rest) =>
    '[' :: newline (level + 1) ++ prettyText (level + 1) v ++ prettyItems level rest
  | .object [] => ['\x7b', '\x7d']
  | .object ((k, v) :: rest) =>
    '\x7b' :: newline (level + 1) ++ stringText k ++ ':' :: ' ' :: prettyText (level + 1) v ++
      prettyMembers level rest

/-- The items after the first one, and the closing bracket. -/
def prettyItems (level : Nat) : List Value → List Char
  | [] => newline level ++ [']']
  | v :: rest =>
    ',' :: newline (level + 1) ++ prettyText (level + 1) v ++ prettyItems level rest

/-- The members after the first one, and the closing brace. -/
def prettyMembers (level : Nat) : List (String × Value) → List Char
  | [] => newline level ++ ['\x7d']
  | (k, v) :: rest =>
    ',' :: newline (level + 1) ++ stringText k ++ ':' :: ' ' :: prettyText (level + 1) v ++
      prettyMembers level rest

end

/-- A document without blanks. -/
def compact (v : Value) : String := String.ofList v.compactText

/-- A document on indented lines. -/
def pretty (v : Value) : String := String.ofList (v.prettyText 0)

end Value

end PushRegistry.Json
