import PushRegistry.Config.Document
import PushRegistry.Config.Yaml.Tokens
import PushRegistry.Decimal.Numeral

/-!
# `PushRegistry.Config.Yaml.Node`: what the words of a YAML file mean

`Yaml.parse?` reads the one document of a file. Plain scalars are values of the types that
their spelling or their tag names; quoted ones and those in block style are texts.
-/

set_option autoImplicit false

namespace PushRegistry.Config.Yaml

open PushRegistry.Decimal

/-- The content of a node: nothing if it does not fit its tag or if the node is used inside
itself. -/
abbrev Node := Option Document

/-- What stands where no content is written. -/
def emptyNode : Node := some .null

/-! ### Plain scalars -/

/-- The words for infinities and for what is no number. They have no value as a setting. -/
def namedFloats : List String :=
  [".inf", ".Inf", ".INF", "+.inf", "+.Inf", "+.INF", "-.inf", "-.Inf", "-.INF",
    ".nan", ".NaN", ".NAN"]

/-- Whether a plain scalar is a floating-point number. -/
def isFloat (s : String) : Bool :=
  namedFloats.contains s || (s.toList.any Char.isDigit && (Numeral.binary64? s.toList).isSome)

/-- The value of a floating-point number. -/
def float? (s : String) : Option Document :=
  (Numeral.binary64? s.toList).map fun x => .scalar (.float x)

/-- An integer in one of the spellings that need no tag. -/
def integer? (s : String) : Option Int :=
  match s.toList with
  | '0' :: 'x' :: digits => Numeral.int64? 16 digits
  | '0' :: 'o' :: digits => Numeral.int64? 8 digits
  | '+' :: digits => Numeral.int64? 10 digits
  | cs => Numeral.int64? 10 cs

/-- The value of a plain scalar without a tag; none if it is a number without a value. -/
def untagged (s : String) : Option Document :=
  match integer? s with
  | some n => some (.scalar (.int n))
  | none =>
    if ["", "~", "null"].contains s then some .null
    else if ["true", "True", "TRUE"].contains s then some (.scalar (.bool true))
    else if ["false", "False", "FALSE"].contains s then some (.scalar (.bool false))
    else if isFloat s then float? s
    else some (Document.text s)

/-- A tag with its handle written out. -/
structure FullTag where
  handle : String
  suffix : String
  deriving DecidableEq, Repr

/-- The handle of the standard types. -/
def standardHandle : String := "tag:yaml.org,2002:"

/-- The node of a plain scalar with a tag of a standard type. -/
def ofStandardTag (suffix s : String) : Option Node :=
  match suffix with
  | "bool" =>
    some (if s = "true" then some (.scalar (.bool true))
      else if s = "false" then some (.scalar (.bool false)) else none)
  | "int" => some ((Numeral.int64? 10 s.toList).map fun n => .scalar (.int n))
  | "float" => if isFloat s then (float? s).map some else some none
  | "null" => some (if s = "~" ∨ s = "null" then some .null else none)
  | _ => some (some (Document.text s))

/-- The node of a scalar; none if it is a number without a value. -/
def ofScalar (plain : Bool) (tag : Option FullTag) (s : String) : Option Node :=
  match plain, tag with
  | false, _ => some (some (Document.text s))
  | true, none => (untagged s).map some
  | true, some t =>
    if t.handle = standardHandle then ofStandardTag t.suffix s
    else some (some (Document.text s))

/-! ### Mappings -/

/-- The entry of a key; keys are texts or integers. -/
def key? : Document → Option Scalar
  | .scalar (.text s) => some (.text s)
  | .scalar (.int n) => some (.int n)
  | _ => none

/-- A key as a text. -/
def keyText : Scalar → String
  | .text s => s
  | .int n => toString n
  | _ => ""

/-- The entries that keys and values in turn make. A node without content is skipped where a
key is due. -/
def entries? : List Scalar → List Node → Option (List (String × Document))
  | _, [] => some []
  | seen, none :: rest => entries? seen rest
  | _, [some _] => some []
  | seen, some k :: v :: rest => do
    let k ← key? k
    if seen.contains k then none
    else return (keyText k, v.getD .null) :: (← entries? (k :: seen) rest)

/-! ### Collections -/

/-- The state of reading tokens. -/
structure Reader where
  rest : List Token
  /-- The last directive in front of the document, if it is about tags. -/
  tags : List (String × String)
  /-- The number of each anchor; the last of several with one name comes first. -/
  names : List (String × Nat)
  /-- The nodes with an anchor that have been read. -/
  finished : List (Nat × Node)

/-- A computation that reads tokens and may refuse them. -/
abbrev Read := StateT Reader Option

namespace Read

/-- The next token, which stays. -/
def peek : Read (Option Token) := do return (← get).rest.head?

/-- Passes one token. -/
def skip : Read Unit := modify fun r => { r with rest := r.rest.drop 1 }

/-- Passes a token if it comes next, and says whether it did. -/
def accept (t : Token) : Read Bool := do
  if (← peek) = some t then
    skip
    return true
  else return false

/-- Whether one of some tokens comes next. -/
def comes (ts : List Token) : Read Bool := do return (← peek).any ts.contains

/-- The handle that a tag stands for, written out. -/
def fullTag (handle suffix : String) : Read FullTag := do
  let given := (← get).tags.lookup handle
  if handle = "!!" then return ⟨given.getD standardHandle, suffix⟩
  else match given with
    | some full => return ⟨full, suffix⟩
    | none =>
      if handle.length ≥ 2 ∧ handle.startsWith "!" ∧ handle.endsWith "!" then failure
      else return ⟨handle, suffix⟩

/-- A tag, if one comes next. -/
def tag? : Read (Option FullTag) := do
  match ← peek with
  | some (.tag handle suffix) =>
    skip
    return some (← fullTag handle suffix)
  | _ => return none

/-- The number of an anchor, if one comes next. -/
def anchor? : Read (Option Nat) := do
  match ← peek with
  | some (.anchor name) =>
    skip
    let n := (← get).names.length
    modify fun r => { r with names := (name, n) :: r.names }
    return some n
  | _ => return none

/-- A node, or none in front of one of some tokens. -/
def nodeUnless (stop : List Token) (node : Read Node) : Read Node := do
  if ← comes stop then return emptyNode else node

/-- The value after a key: none if there is no colon. -/
def valueUnless (stop : List Token) (node : Read Node) : Read Node := do
  if ← accept .value then nodeUnless stop node else return emptyNode

/-- The keys and values of a block mapping in turn. -/
def blockMapping (node : Read Node) : Nat → Read (List Node)
  | 0 => failure
  | fuel + 1 => do
    if ← accept .blockEnd then return []
    else
      let stop := [.key, .value, .blockEnd]
      let key ←
        if ← accept .key then nodeUnless stop node
        else if ← comes [.value] then pure emptyNode
        else failure
      let value ← valueUnless stop node
      return key :: value :: (← blockMapping node fuel)

/-- The items of a block sequence. -/
def blockSequence (node : Read Node) : Nat → Read (List Node)
  | 0 => failure
  | fuel + 1 => do
    if ← accept .blockEnd then return []
    else if ← accept .blockEntry then
      let item ← nodeUnless [.blockEntry, .blockEnd] node
      return item :: (← blockSequence node fuel)
    else failure

/-- The items of a block sequence that is no deeper than the mapping around it. -/
def indentlessSequence (node : Read Node) : Nat → Read (List Node)
  | 0 => failure
  | fuel + 1 => do
    if ← accept .blockEntry then
      let item ← nodeUnless [.blockEntry, .key, .value, .blockEnd] node
      return item :: (← indentlessSequence node fuel)
    else return []

/-- A comma in front of every entry of a flow collection but the first. -/
def comma (first : Bool) : Read Unit := do
  if first then pure ()
  else if ← accept .flowEntry then pure ()
  else failure

/-- The keys and values of a flow mapping in turn. -/
def flowMapping (node : Read Node) : Nat → Bool → Read (List Node)
  | 0, _ => failure
  | fuel + 1, first => do
    if ← accept .flowMappingEnd then return []
    else
      comma first
      if ← accept .flowMappingEnd then return []
      else
        let stop := [.flowEntry, .flowMappingEnd]
        let (key, value) ←
          if ← accept .key then do
            let key ← nodeUnless (.value :: stop) node
            pure (key, ← valueUnless stop node)
          else if ← comes [.value] then do pure (emptyNode, ← valueUnless stop node)
          else do pure (← node, emptyNode)
        return key :: value :: (← flowMapping node fuel false)

/-- The key and the value of a pair without braces in a flow sequence. -/
def pair (node : Read Node) : Read (List Node) := do
  let stop := [.flowEntry, .flowSequenceEnd]
  if ← comes (.value :: stop) then
    skip
    return [emptyNode, ← valueUnless stop node]
  else
    let key ← node
    return [key, ← valueUnless stop node]

/-- A mapping of keys and values in turn. -/
def mapping (nodes : List Node) : Read Node := do
  match entries? [] nodes with
  | some es => return some (.table es)
  | none => failure

/-- A list of items. -/
def list (nodes : List Node) : Node := some (.list (nodes.map (·.getD .null)))

/-- The items of a flow sequence. -/
def flowSequence (node : Read Node) : Nat → Bool → Read (List Node)
  | 0, _ => failure
  | fuel + 1, first => do
    if ← accept .flowSequenceEnd then return []
    else
      comma first
      if ← accept .flowSequenceEnd then return []
      else
        let item ← if ← accept .key then do mapping (← pair node) else node
        return item :: (← flowSequence node fuel false)

/-! ### Nodes -/

/-- The content of a node behind its anchor and its tag. `node block indentless` reads a node
inside it. -/
def content (node : Bool → Bool → Read Node) (fuel : Nat) (block indentless named : Bool)
    (tag : Option FullTag) : Read Node := do
  match ← peek with
  | some .blockEntry =>
    if indentless then return list (← indentlessSequence (node true false) fuel)
    else if named then empty
    else failure
  | some (.scalar plain s) =>
    skip
    scalar plain s
  | some .flowSequenceStart =>
    skip
    return list (← flowSequence (node false false) fuel true)
  | some .flowMappingStart =>
    skip
    mapping (← flowMapping (node false false) fuel true)
  | some .blockSequenceStart =>
    if block then
      skip
      return list (← blockSequence (node true false) fuel)
    else if named then empty
    else failure
  | some .blockMappingStart =>
    if block then
      skip
      mapping (← blockMapping (node true true) fuel)
    else if named then empty
    else failure
  | _ => if named then empty else failure
where
  /-- The node of a scalar. -/
  scalar (plain : Bool) (s : String) : Read Node :=
    match ofScalar plain tag s with
    | some n => return n
    | none => failure
  /-- A node of which only the anchor or the tag is written. -/
  empty : Read Node := scalar true ""

/-- A node, with fewer nodes inside each other than the first argument. -/
def node : Nat → Bool → Bool → Read Node
  | 0, _, _ => failure
  | depth + 1, block, indentless => do
    match ← peek with
    | some (.alias name) =>
      skip
      match (← get).names.lookup name with
      | some n => return ((← get).finished.lookup n).getD none
      | none => failure
    | _ =>
      let early ← anchor?
      let tag ← tag?
      let anchor ← if early.isNone && tag.isSome then anchor? else pure early
      let fuel := (← get).rest.length + 1
      let n ← content (node depth) fuel block indentless (anchor.isSome || tag.isSome) tag
      match anchor with
      | some a => modify fun r => { r with finished := (a, n) :: r.finished }
      | none => pure ()
      return n

/-! ### Files -/

/-- The directives in front of a document. The version may be named once; of the others only
the last counts. Says whether there are any. -/
def directives : Nat → Bool → Bool → Read Bool
  | 0, _, found => return found
  | fuel + 1, versioned, found => do
    match ← peek with
    | some .versionDirective =>
      if versioned then failure
      skip
      modify fun r => { r with tags := [] }
      directives fuel true true
    | some (.tagDirective handle full) =>
      skip
      modify fun r => { r with tags := [(handle, full)] }
      directives fuel versioned true
    | _ => return found

/-- Passes marks of the end of a document. -/
def skipEnds : Read Unit := modify fun r =>
  { r with rest := r.rest.dropWhile (· == .documentEnd) }

/-- The only document of a file; an empty table if there is none. -/
def file : Read Document := do
  skipEnds
  let fuel := (← get).rest.length + 1
  if (← peek).isNone then return .table []
  else
    let directed ← directives fuel false false
    let marked ← accept .documentStart
    if directed ∧ !marked then failure
    let isEmpty ← match ← peek with
      | none | some .documentStart | some .documentEnd | some .versionDirective
      | some (.tagDirective _ _) => pure marked
      | _ => pure false
    let n ← if isEmpty then pure emptyNode else node fuel true false
    skipEnds
    if (← peek).isNone then return n.getD .null else failure

end Read

/-- The document that a file holds. -/
def parse? (cs : List Char) : Option Document := do
  let tokens ← tokens? cs
  let (d, _) ← StateT.run Read.file ⟨tokens, [], [], []⟩
  return d

end PushRegistry.Config.Yaml
