import PushRegistry.Config.Setting
import PushRegistry.Decimal.Numeral

/-!
# `PushRegistry.Config.Environment`: settings from environment variables

Variables whose names start with `POSTAL_` set the key that the rest of the name spells. Two
underscores stand for a dot; the rest is brought into lower case with single underscores
between words and numbers. Values are read as booleans or numbers where that is possible.
-/

set_option autoImplicit false

namespace PushRegistry.Config.Environment

open PushRegistry.Decimal (Numeral.int64? Numeral.binary64?)

/-- A variable: its name and its value. -/
abbrev Variable := String × String

/-- What names of settings start with. -/
def namePrefix : List Char := "postal_".toList

/-- A text with each pair of underscores replaced by a dot, from left to right. -/
def replaceSeparator : List Char → List Char
  | '_' :: '_' :: rest => '.' :: replaceSeparator rest
  | c :: rest => c :: replaceSeparator rest
  | [] => []

/-- Whether a character divides words and is dropped. -/
def isDivider (c : Char) : Bool := c = '_' || c = '-' || c = ' '

/-- Whether one word ends and another begins between two characters. -/
def isBoundary (a b : Char) : Bool :=
  (a.isDigit && b.isLower) || (a.isLower && b.isDigit)

/-- The words of a name; the first argument holds the word being read, last character
first. -/
def words : List Char → List Char → List (List Char)
  | acc, [] => [acc.reverse]
  | acc, c :: rest =>
    if isDivider c then acc.reverse :: words [] rest
    else match acc with
      | a :: _ => if isBoundary a c then acc.reverse :: words [c] rest else words (c :: acc) rest
      | [] => words [c] rest

/-- A name with single underscores between its words. -/
def snakeCase (cs : List Char) : List Char :=
  ['_'].intercalate ((words [] cs).filter (!·.isEmpty))

/-- The key that a variable sets. -/
def key? (name : String) : Option String :=
  let lower := name.toList.map Char.toLower
  if namePrefix.isPrefixOf lower then
    some (String.ofList (snakeCase (replaceSeparator (lower.drop namePrefix.length))))
  else none

/-- The value of a variable. -/
def value (s : String) : Scalar :=
  match Setting.normalize s with
  | "true" => .bool true
  | "false" => .bool false
  | _ =>
    match Numeral.int64? 10 s.toList with
    | some n => .int n
    | none =>
      match Numeral.binary64? s.toList with
      | some x => .float x
      | none => .text s

/-- The settings that variables make, in their order. -/
def source (given : List Variable) : List (String × Setting) :=
  given.filterMap fun v =>
    (key? v.1).map fun key => (key, .scalar (some .environment) (value v.2))

end PushRegistry.Config.Environment
