import PushRegistry.Config.Document
import PushRegistry.Config.Key

/-!
# `PushRegistry.Config.Setting`: layers of settings

Sources are laid over each other. A later scalar or list replaces what was there, a later
table is merged into it entry by entry. Every value remembers where it came from; containers
that were made to hold a value came from nowhere.
-/

set_option autoImplicit false

namespace PushRegistry.Config

/-- Where a value was set. -/
inductive Origin where
  | environment
  | file (name : String)
  deriving DecidableEq, Repr

/-- The name of an origin in messages. -/
def Origin.text : Origin → String
  | .environment => "the environment"
  | .file name => name

/-- A value and where it came from. -/
inductive Setting where
  | scalar (origin : Option Origin) (s : Scalar)
  | list (origin : Option Origin) (items : List Setting)
  | table (entries : List (String × Setting))
  deriving Repr, BEq

namespace Setting

/-- A place that holds nothing. -/
def unset : Setting := .scalar none .null

/-- Nothing is set. -/
def empty : Setting := .table []

/-- The entries of a table; none for anything else. -/
def entries : Setting → List (String × Setting)
  | .table es => es
  | _ => []

/-- A name in the case in which it is kept. -/
def normalize (name : String) : String := String.ofList (name.toList.map Char.toLower)

/-- Changes the value of a name, or adds it at the end. -/
def update (name : String) (change : Option Setting → Setting) :
    List (String × Setting) → List (String × Setting)
  | [] => [(name, change none)]
  | (k, v) :: rest =>
    if k = name then (k, change (some v)) :: rest else (k, v) :: update name change rest

mutual

/-- Lays a value over the entry with a name. What is no table becomes one. -/
def place (value : Setting) (name : String) (root : Setting) : Setting :=
  match value with
  | .table incoming =>
    .table (update (normalize name) (fun old => placeAll incoming (old.getD empty)) root.entries)
  | .scalar origin s => .table (update (normalize name) (fun _ => .scalar origin s) root.entries)
  | .list origin items =>
    .table (update (normalize name) (fun _ => .list origin items) root.entries)

/-- Lays entries over a value, one after the other. -/
def placeAll : List (String × Setting) → Setting → Setting
  | [], root => root
  | (name, value) :: rest, root => placeAll rest (place value name root)

end

/-- The position that an index means; negative ones count from the end. -/
def position (index : Int) (length : Nat) : Nat :=
  if 0 ≤ index then index.toNat else length - index.natAbs

/-- Changes one item of a list, which grows as needed. -/
def changeItem (change : Setting → Setting) (index : Int) (s : Setting) : Setting :=
  let (origin, items) := match s with
    | .list origin items => (origin, items)
    | _ => (none, [])
  let i := position index items.length
  let padded := items ++ List.replicate (i + 1 - items.length) unset
  .list origin (padded.modify i change)

/-- Changes the value at a path. Values on the way become the containers that it needs. -/
def change (f : Setting → Setting) (key : Key) (root : Setting) : Setting :=
  match key with
  | .name s =>
    match root with
    | .table es => .table (update (normalize s) (fun old => f (old.getD unset)) es)
    | _ => root
  | .entry parent s =>
    change (fun p => .table (update (normalize s) (fun old => f (old.getD unset)) p.entries))
      parent root
  | .item parent i => change (changeItem f i) parent root

/-- Lays a value over what stands at a path. -/
def set (key : Key) (value : Setting) (root : Setting) : Setting :=
  match key with
  | .name s => place value s root
  | .entry parent s => change (place value s) parent root
  | .item parent i => change (changeItem (fun _ => value) i) parent root

/-- Lays the entries of a source over the settings so far. -/
def overlay (root : Setting) (source : List (String × Setting)) : Setting :=
  source.foldl (fun acc p => set (Key.ofString p.1) p.2 acc) root

/-- The value of a name. -/
def get? (root : Setting) (name : String) : Option Setting := root.entries.lookup name

mutual

/-- A document as a value from an origin. -/
def ofDocument (origin : Origin) : Document → Setting
  | .scalar s => .scalar (some origin) s
  | .list items => .list (some origin) (ofItems origin items)
  | .table es => .table (ofEntries origin es)

/-- The items of a list. -/
def ofItems (origin : Origin) : List Document → List Setting
  | [] => []
  | d :: rest => ofDocument origin d :: ofItems origin rest

/-- The entries of a table. -/
def ofEntries (origin : Origin) : List (String × Document) → List (String × Setting)
  | [] => []
  | (k, d) :: rest => (k, ofDocument origin d) :: ofEntries origin rest

end

end Setting

end PushRegistry.Config
