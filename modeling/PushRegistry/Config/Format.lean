import PushRegistry.Config.Conversion
import PushRegistry.Config.Ini
import PushRegistry.Config.Json5
import PushRegistry.Config.Ron
import PushRegistry.Config.Toml.File
import PushRegistry.Config.Yaml.Node
import PushRegistry.Json.Reader

/-!
# `PushRegistry.Config.Format`: formats of settings files

The extension of a settings file names its format. In every format the outermost value must
be a table.
-/

set_option autoImplicit false

namespace PushRegistry.Config

open PushRegistry.Decimal (Binary64)
open PushRegistry.Json (Value)
open PushRegistry.Text

/-- A format of settings files. -/
inductive Format where
  | toml
  | json
  | yaml
  | ini
  | ron
  | json5
  deriving DecidableEq, Repr

/-- Why a file cannot be read. -/
inductive FormatFault where
  | json (fault : Json.Fault)
  | malformed
  /-- The outermost value is no table. -/
  | noTable (root : Document)
  deriving Repr

/-- A document as a message names it. -/
def Document.describe : Document → String
  | .scalar .null => "unit value"
  | .scalar (.bool b) => "boolean `" ++ (if b then "true" else "false") ++ "`"
  | .scalar (.int n) => "64-bit integer `" ++ toString n ++ "`"
  | .scalar (.float x) => "floating point `" ++ String.ofList (floatStyle.text x) ++ "`"
  | .scalar (.text s) => "string " ++ Quoted.quote s
  | .list _ => "sequence"
  | .table _ => "map"

/-- The account of a fault in a file. -/
def FormatFault.message (file : String) : FormatFault → String
  | .json fault => fault.message
  | .malformed => "the file is malformed"
  | .noTable root => "invalid type: " ++ root.describe ++ ", expected a map in " ++ file

namespace Format

/-- The extensions of settings files. -/
def extensions : List (String × Format) :=
  [("toml", .toml), ("json", .json), ("yaml", .yaml), ("yml", .yaml), ("ini", .ini),
    ("ron", .ron), ("json5", .json5)]

mutual

/-- A JSON document. Integers that do not fit 64 bits with a sign are doubles. -/
def ofJson : Value → Document
  | .null => .null
  | .bool b => .scalar (.bool b)
  | .number (.int n) => (Document.int? n).getD
      (.scalar (.float (Binary64.ofRatio (decide (n < 0)) n.natAbs 1)))
  | .number (.float x) => .scalar (.float x)
  | .string s => .text s
  | .array items => .list (ofJsonItems items)
  | .object ms => .table (ofJsonMembers ms)

/-- The items of an array. -/
def ofJsonItems : List Value → List Document
  | [] => []
  | v :: rest => ofJson v :: ofJsonItems rest

/-- The members of an object. -/
def ofJsonMembers : List (String × Value) → List (String × Document)
  | [] => []
  | (k, v) :: rest => (k, ofJson v) :: ofJsonMembers rest

end

/-- The document that a file of a format holds. -/
def document (format : Format) (cs : List Char) : Except FormatFault Document :=
  let orMalformed (d? : Option Document) : Except FormatFault Document :=
    match d? with
    | some d => .ok d
    | none => .error .malformed
  match format with
  | .json =>
    match Value.decode (Utf8.encode cs) with
    | .ok v => .ok (ofJson v)
    | .error fault => .error (.json fault)
  | .toml => orMalformed ((Toml.parse? cs).map .table)
  | .yaml => orMalformed (Yaml.parse? cs)
  | .ini => orMalformed ((Ini.parse? cs).map .table)
  | .ron => orMalformed (Ron.parse? cs)
  | .json5 => orMalformed (Json5.parse? cs)

/-- The entries of the outermost table of a file. -/
def table (format : Format) (cs : List Char) : Except FormatFault (List (String × Document)) :=
  match document format cs with
  | .ok (.table es) => .ok es
  | .ok d => .error (.noTable d)
  | .error fault => .error fault

end Format

end PushRegistry.Config
