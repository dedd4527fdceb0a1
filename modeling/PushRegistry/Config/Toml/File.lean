import PushRegistry.Config.Toml.Scalar
import PushRegistry.Config.Toml.Tree

/-!
# `PushRegistry.Config.Toml.File`: TOML files

A file is a sequence of lines: keys with values, headers of tables, comments. `parse?` reads
it into the entries of its outermost table.
-/

set_option autoImplicit false

namespace PushRegistry.Config.Toml

open PushRegistry.Text

/-- Passes blanks, line breaks and comments between the items of a list. -/
def listGap : Scan Unit := do
  let fuel := (← get).length + 1
  let _ ← Scan.many (Scan.takeSome isBlank *> pure () <|> newline <|> comment) fuel

/-- One key with its value, added to entries. -/
def keyValue (value : Scan Document) (es : Entries) : Scan Entries := do
  let path ← key
  Scan.char '='
  blanks
  let d ← value
  match es.assign path d with
  | some es => return es
  | none => failure

/-- The entries of a table on one line, after its brace. -/
def inlineRest (value : Scan Document) : Nat → Entries → Scan Entries
  | 0, _ => failure
  | fuel + 1, es => do
    let es ← keyValue value es
    blanks
    match ← Scan.next with
    | ',' => inlineRest value fuel es
    | '\x7d' => return es
    | _ => failure

/-- The items of a list, after its bracket. -/
def listRest (value : Scan Document) : Nat → List Document → Scan (List Document)
  | 0, _ => failure
  | fuel + 1, acc => do
    listGap
    match ← Scan.peek with
    | some ']' =>
      Scan.char ']'
      return acc.reverse
    | _ =>
      let d ← value
      listGap
      match ← Scan.next with
      | ',' => listRest value fuel (d :: acc)
      | ']' => return (d :: acc).reverse
      | _ => failure

/-- A value, with fewer brackets inside each other than the argument. -/
def value : Nat → Scan Document
  | 0 => failure
  | depth + 1 => do
    let fuel := (← get).length + 1
    match ← Scan.peek with
    | some '"' => return Document.text (← anyString)
    | some '\'' => return Document.text (← anyString)
    | some '[' =>
      Scan.char '['
      return .list (← listRest (value depth) fuel [])
    | some '\x7b' =>
      Scan.char '\x7b'
      blanks
      match ← Scan.peek with
      | some '\x7d' =>
        Scan.char '\x7d'
        return .table []
      | _ => return .table (entriesDocuments (← inlineRest (value depth) fuel []))
    | _ => scalar

/-- How many brackets may be open inside each other. -/
def depthLimit : Nat := 128

/-- The file so far: its entries, and the path of the table that is open. -/
structure Progress where
  entries : Entries
  current : List String

/-- Runs a change that may fail. -/
def attempt (change : Option Progress) : Scan Progress :=
  match change with
  | some p => return p
  | none => failure

/-- The header of a table or of an item of a list of tables. -/
def header (p : Progress) : Scan Progress := do
  Scan.char '['
  match ← Scan.peek with
  | some '[' =>
    Scan.char '['
    let path ← key
    Scan.literal "]]"
    attempt ((p.entries.openItem path).map fun es => ⟨es, path⟩)
  | _ =>
    let path ← key
    Scan.char ']'
    attempt ((p.entries.openTable path).map fun es => ⟨es, path⟩)

/-- A key with its value, in the open table. -/
def assignment (p : Progress) : Scan Progress := do
  let path ← key
  Scan.char '='
  blanks
  let d ← value depthLimit
  attempt ((p.entries.within p.current (·.assign path d)).map fun es => ⟨es, p.current⟩)

/-- One line, up to its line break. -/
def line (p : Progress) : Scan Progress := do
  blanks
  let p ← match ← Scan.peek with
    | none => pure p
    | some '[' => header p
    | some '#' => pure p
    | some '\n' => pure p
    | some '\r' => pure p
    | some _ => assignment p
  blanks
  let _ ← Scan.option comment
  return p

/-- All lines. -/
def lines : Nat → Progress → Scan Progress
  | 0, _ => failure
  | fuel + 1, p => do
    let p ← line p
    if (← get).isEmpty then return p
    else
      newline
      lines fuel p

/-- The entries that a file defines. A byte order mark at its front is passed. -/
def parse? (cs : List Char) : Option (List (String × Document)) :=
  let text := if cs.head? = some '\uFEFF' then cs.drop 1 else cs
  (Scan.whole (lines (text.length + 1) ⟨[], []⟩) text).map fun p => entriesDocuments p.entries

end PushRegistry.Config.Toml
