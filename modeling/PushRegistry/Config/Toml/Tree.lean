import PushRegistry.Config.Document

/-!
# `PushRegistry.Config.Toml.Tree`: tables under construction

A file defines its tables piece by piece. Each table knows how it came to be, because that
decides what may still be added to it: nothing is ever defined twice.
-/

set_option autoImplicit false

namespace PushRegistry.Config.Toml

/-- How a table came to be. -/
inductive TableKind where
  /-- It was only named on the way to another table. -/
  | implicit
  /-- It has a header of its own. -/
  | header
  /-- It was made by a key with dots. -/
  | dotted
  deriving DecidableEq, Repr

/-- A part of the file's content. -/
inductive Node where
  | value (d : Document)
  | table (kind : TableKind) (entries : List (String × Node))
  /-- A list of tables with headers of their own. -/
  | tables (items : List (List (String × Node)))
  deriving Repr

/-- The entries of a table. -/
abbrev Entries := List (String × Node)

namespace Entries

/-- Replaces the value of a key that is there. -/
def replace (es : Entries) (key : String) (node : Node) : Entries :=
  es.map fun e => if e.1 = key then (key, node) else e

/-- Adds a key that is not there yet. -/
def add (es : Entries) (key : String) (node : Node) : Option Entries :=
  if (es.lookup key).isSome then none else some (es ++ [(key, node)])

/-- Changes the table that a path leads to. Tables that are missing on the way are made. -/
def within (path : List String) (change : Entries → Option Entries) (es : Entries) :
    Option Entries :=
  match path with
  | [] => change es
  | k :: rest =>
    match es.lookup k with
    | none => do return es ++ [(k, .table .implicit (← within rest change []))]
    | some (.value _) => none
    | some (.table kind inner) => do return es.replace k (.table kind (← within rest change inner))
    | some (.tables items) =>
      match items.getLast? with
      | none => none
      | some last => do return es.replace k (.tables (items.dropLast ++ [← within rest change last]))

/-- Adds a value under a key with dots. Only tables made in this way may be extended in it, and
tables with a header not at all. -/
def assign (path : List String) (d : Document) (es : Entries) : Option Entries :=
  match path with
  | [] => none
  | [k] => es.add k (.value d)
  | k :: rest =>
    match es.lookup k with
    | none => do return es ++ [(k, .table .dotted (← assign rest d []))]
    | some (.value _) => none
    | some (.tables _) => none
    | some (.table kind inner) =>
      if kind = .header ∨ (kind = .implicit ∧ rest.length = 1) then none
      else do return es.replace k (.table kind (← assign rest d inner))

/-- Opens the table that a header names. -/
def openTable (path : List String) (es : Entries) : Option Entries :=
  match path.getLast? with
  | none => none
  | some k => es.within path.dropLast fun parent =>
    match parent.lookup k with
    | none => parent.add k (.table .header [])
    | some (.table .implicit inner) => some (parent.replace k (.table .header inner))
    | some _ => none

/-- Starts one more table of the list that a header names. -/
def openItem (path : List String) (es : Entries) : Option Entries :=
  match path.getLast? with
  | none => none
  | some k => es.within path.dropLast fun parent =>
    match parent.lookup k with
    | none => parent.add k (.tables [[]])
    | some (.tables items) => some (parent.replace k (.tables (items ++ [[]])))
    | some _ => none

end Entries

mutual

/-- A node as a document. -/
def Node.document : Node → Document
  | .value d => d
  | .table _ es => .table (entriesDocuments es)
  | .tables items => .list (itemsDocuments items)

/-- Entries as entries of a document. -/
def entriesDocuments : List (String × Node) → List (String × Document)
  | [] => []
  | (k, n) :: rest => (k, n.document) :: entriesDocuments rest

/-- The tables of a list as documents. -/
def itemsDocuments : List (List (String × Node)) → List Document
  | [] => []
  | es :: rest => .table (entriesDocuments es) :: itemsDocuments rest

end

end PushRegistry.Config.Toml
