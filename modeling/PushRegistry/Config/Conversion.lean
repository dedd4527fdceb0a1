import PushRegistry.Config.Setting
import PushRegistry.Decimal.Numeral
import PushRegistry.Decimal.Shortest
import PushRegistry.Text.Quoted

/-!
# `PushRegistry.Config.Conversion`: values as what is asked for

Sources know little about types, so values are converted generously: texts and booleans to
numbers, numbers and booleans to texts. What cannot be converted is reported with the key and
the origin of the value.
-/

set_option autoImplicit false

namespace PushRegistry.Config

open PushRegistry.Decimal
open PushRegistry.Text (Quoted.quote)

/-- A value that cannot be converted. -/
inductive Found where
  | unit
  | signed (n : Int)
  | unsigned (n : Nat)
  | text (s : String)
  | sequence
  | map
  deriving DecidableEq, Repr

/-- What was asked for. -/
inductive Wanted where
  | text
  | integer
  /-- An integer that is not negative. -/
  | unsigned
  /-- An integer below 65536. -/
  | unsigned16
  deriving DecidableEq, Repr

/-- A value that does not suit its key. -/
structure Mismatch where
  found : Found
  wanted : Wanted
  key : String
  origin : Option Origin
  deriving DecidableEq, Repr

/-- A value as a message names it. -/
def Found.describe : Found → String
  | .unit => "unit value"
  | .signed n => "64-bit integer `" ++ toString n ++ "`"
  | .unsigned n => "64-bit unsigned integer `" ++ toString n ++ "`"
  | .text s => "string " ++ Quoted.quote s
  | .sequence => "sequence"
  | .map => "map"

/-- A wish as a message names it. -/
def Wanted.describe : Wanted → String
  | .text => "a string"
  | .integer => "an integer"
  | .unsigned => "an unsigned 64 bit or less integer"
  | .unsigned16 => "an unsigned 16 bit integer"

/-- The account of a mismatch that users see. -/
def Mismatch.message (m : Mismatch) : String :=
  "invalid type: " ++ m.found.describe ++ ", expected " ++ m.wanted.describe ++
    " for key `" ++ m.key ++ "`" ++
    (match m.origin with
      | some o => " in " ++ o.text
      | none => "")

/-- The largest unsigned 64-bit number. -/
def maxWord : Nat := UInt64.size - 1

/-- Doubles as texts: positional, without a point if they are integers. -/
def floatStyle : Style where
  positional := none
  keepPoint := false
  infinity := "inf"
  notANumber := "NaN"

/-- The nearest unsigned 64-bit number, halves away from zero; zero for what is no number. -/
def roundToWord (x : Binary64) : Nat :=
  match x.meaning with
  | .finite false _ _ =>
    match x.toRatio? with
    | some (_, num, den) => min maxWord (roundHalfUp num den)
    | none => 0
  | .infinite false => maxWord
  | _ => 0

/-- The number that a text means: a switch position or a numeral. -/
def wordOfText? (s : String) : Option Nat :=
  let lower := Setting.normalize s
  if ["true", "on", "yes"].contains lower then some 1
  else if ["false", "off", "no"].contains lower then some 0
  else match Numeral.unsigned UInt64.size s.toList with
    | .ok n => some n
    | .error _ => none

/-- A value as an unsigned 64-bit number. -/
def toWord (key : String) (s : Setting) : Except Mismatch Nat :=
  match s with
  | .scalar origin v =>
    match v with
    | .null => .error ⟨.unit, .integer, key, origin⟩
    | .bool b => .ok (if b then 1 else 0)
    | .int n =>
      if 0 ≤ n then .ok n.toNat else .error ⟨.signed n, .unsigned, key, origin⟩
    | .float x => .ok (roundToWord x)
    | .text t =>
      match wordOfText? t with
      | some n => .ok n
      | none => .error ⟨.text t, .integer, key, origin⟩
  | .list origin _ => .error ⟨.sequence, .integer, key, origin⟩
  | .table _ => .error ⟨.map, .integer, key, none⟩

/-- A value as a number below 65536. -/
def toPort (key : String) (s : Setting) : Except Mismatch Nat := do
  let n ← toWord key s
  if n < 65536 then .ok n else .error ⟨.unsigned n, .unsigned16, key, none⟩

/-- A value as a text. -/
def toText (key : String) (s : Setting) : Except Mismatch String :=
  match s with
  | .scalar origin v =>
    match v with
    | .null => .error ⟨.unit, .text, key, origin⟩
    | .bool b => .ok (if b then "true" else "false")
    | .int n => .ok (toString n)
    | .float x => .ok (String.ofList (floatStyle.text x))
    | .text t => .ok t
  | .list origin _ => .error ⟨.sequence, .text, key, origin⟩
  | .table _ => .error ⟨.map, .text, key, none⟩

end PushRegistry.Config
