import PushRegistry.Decimal.Numeral

/-!
# `PushRegistry.Config.Document`: the content of configuration files

Files of all formats are read into the same tree of scalars, lists and tables.
-/

set_option autoImplicit false

namespace PushRegistry.Config

open PushRegistry.Decimal

/-- A single value. Integers fit 64 bits with a sign. -/
inductive Scalar where
  | null
  | bool (b : Bool)
  | int (n : Int)
  | float (x : Binary64)
  | text (s : String)
  deriving DecidableEq, Repr

/-- The content of a file or a part of it. -/
inductive Document where
  | scalar (s : Scalar)
  | list (items : List Document)
  /-- Entries in the order of the file; of several with one key the last one counts. -/
  | table (entries : List (String × Document))
  deriving Repr, BEq

namespace Document

/-- A text. -/
def text (s : String) : Document := .scalar (.text s)

/-- No value. -/
def null : Document := .scalar .null

/-- An integer if it fits 64 bits. -/
def int? (n : Int) : Option Document :=
  if Numeral.FitsInt64 n then some (.scalar (.int n)) else none

/-- The entries of a table. -/
def entries? : Document → Option (List (String × Document))
  | .table es => some es
  | _ => none

/-- Binds a key: in the place of its entry if there is one, otherwise at the end. -/
def bind (key : String) (value : Document) :
    List (String × Document) → List (String × Document)
  | [] => [(key, value)]
  | (k, v) :: rest => if k = key then (k, value) :: rest else (k, v) :: bind key value rest

end Document

end PushRegistry.Config
