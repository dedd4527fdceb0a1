import PushRegistry.Json.Skip

/-!
# `PushRegistry.Json.Reader`: lists, objects and whole documents

Lists and objects may be nested `depthLimit` deep. An object keeps of each name the last
value, and its members in ascending order of the names.
-/

set_option autoImplicit false

namespace PushRegistry.Json.Reader

variable {α σ : Type}

/-- How many brackets may be open at a time. -/
def depthLimit : Nat := 127

/-! ### Brackets -/

/-- The end of a list. -/
def endList : Reader Unit := do
  match ← token with
  | none => failAhead .eofInList
  | some b =>
    if b = 0x5d then skip
    else if b = 0x2c then
      skip
      if (← token) = some 0x5d then failAhead .trailingComma
      else failAhead .trailingCharacters
    else failAhead .trailingCharacters

/-- The end of an object. -/
def endObject : Reader Unit := do
  match ← token with
  | none => failAhead .eofInObject
  | some b =>
    if b = 0x7d then skip
    else if b = 0x2c then failAhead .trailingComma
    else failAhead .trailingCharacters

/-- A bracketed part: the opening bracket, `body` one level deeper, the end. -/
def bracketed (allowed : Nat) (body : Nat → Reader α) (close : Reader Unit) : Reader α :=
  match allowed with
  | 0 => failAhead .recursionLimit
  | n + 1 => do
    skip
    closing (body n) close

/-- Whether a list has one more item; the comma in front of it is passed. -/
def hasItem (first : Bool) : Reader Bool := do
  match ← token with
  | none => failAhead .eofInList
  | some b =>
    if b = 0x5d then return false
    else if first then return true
    else if b = 0x2c then
      skip
      match ← token with
      | none => failAhead .eofInValue
      | some c => if c = 0x5d then failAhead .trailingComma else return true
    else failAhead .expectedListCommaOrEnd

/-- Whether an object has one more member; the comma in front of it is passed. -/
def hasMember (first : Bool) : Reader Bool := do
  match ← token with
  | none => failAhead .eofInObject
  | some b =>
    if b = 0x7d then return false
    else if first then if b = 0x22 then return true else failAhead .keyMustBeString
    else if b = 0x2c then
      skip
      match ← token with
      | none => failAhead .eofInValue
      | some c =>
        if c = 0x22 then return true
        else if c = 0x7d then failAhead .trailingComma
        else failAhead .keyMustBeString
    else failAhead .expectedObjectCommaOrEnd

/-- The colon between the name and the value of a member. -/
def colon : Reader Unit := do
  match ← token with
  | none => failAhead .eofInObject
  | some b => if b = 0x3a then skip else failAhead .expectedColon

/-- Reads the items of a list into a state, up to its end. -/
def foldItems (item : σ → Reader σ) : Nat → Bool → σ → Reader σ
  | 0, _, _ => failAhead .eofInList
  | fuel + 1, first, s => do
    if ← hasItem first then foldItems item fuel false (← item s) else return s

/-- Reads the members of an object into a state, up to its end. `member` is given the name
and reads the colon and the value. -/
def foldMembers (member : String → σ → Reader σ) : Nat → Bool → σ → Reader σ
  | 0, _, _ => failAhead .eofInObject
  | fuel + 1, first, s => do
    if ← hasMember first then
      skip
      let name ← string
      foldMembers member fuel false (← member name s)
    else return s

/-- The items of a list, up to its end. -/
def items (item : Reader α) : Reader (List α) := do
  let fuel := (← get).rest.length + 1
  let reversed ← foldItems (fun acc => do return (← item) :: acc) fuel true []
  return reversed.reverse

/-- The members of an object, up to its end. -/
def members (value : Reader α) : Reader (Members α) := do
  let fuel := (← get).rest.length + 1
  foldMembers (fun name acc => do
    colon
    let v ← value
    return acc.insert name v) fuel true []

/-! ### Documents -/

/-- One value, with at most `allowed` brackets open inside each other. -/
def value (allowed : Nat) : Reader Value := do
  match ← token with
  | none => failAhead .eofInValue
  | some b =>
    if b = 0x6e then
      skip
      ident [0x75, 0x6c, 0x6c]
      return .null
    else if b = 0x74 then
      skip
      ident [0x72, 0x75, 0x65]
      return .bool true
    else if b = 0x66 then
      skip
      ident [0x61, 0x6c, 0x73, 0x65]
      return .bool false
    else if b = 0x2d then
      skip
      return .number (← number true)
    else if isDigit b then return .number (← number false)
    else if b = 0x22 then
      skip
      return .string (← string)
    else if b = 0x5b then
      match allowed with
      | 0 => failAhead .recursionLimit
      | n + 1 =>
        skip
        return .array (← closing (items (value n)) endList)
    else if b = 0x7b then
      match allowed with
      | 0 => failAhead .recursionLimit
      | n + 1 =>
        skip
        return .object (← closing (members (value n)) endObject)
    else failAhead .expectedValue

/-- The end of the text. -/
def endOfText : Reader Unit := do
  match ← token with
  | none => pure ()
  | some _ => failAhead .trailingCharacters

/-- A text that holds what `reader` reads and nothing else. -/
def whole (reader : Nat → Reader α) : Reader α := do
  let a ← reader depthLimit
  endOfText
  return a

/-! ### Typed values -/

/-- Refuses the value that follows, since another kind was expected. Scalars are read first,
and their own faults win. -/
def refuse (expected : Expected) : Reader α := located do
  let wrong (found : Found) : Reader α := failUnlocated (.invalidType found expected)
  match ← peek with
  | none => failAhead .expectedValue
  | some b =>
    if b = 0x6e then
      skip
      ident [0x75, 0x6c, 0x6c]
      wrong .null
    else if b = 0x74 then
      skip
      ident [0x72, 0x75, 0x65]
      wrong (.bool true)
    else if b = 0x66 then
      skip
      ident [0x61, 0x6c, 0x73, 0x65]
      wrong (.bool false)
    else if b = 0x2d then
      skip
      wrong (.number (← number true))
    else if isDigit b then wrong (.number (← number false))
    else if b = 0x22 then
      skip
      wrong (.string (← string))
    else if b = 0x5b then wrong .sequence
    else if b = 0x7b then wrong .map
    else failAhead .expectedValue

/-- A string. -/
def stringValue : Reader String := do
  match ← token with
  | none => failAhead .eofInValue
  | some b =>
    if b = 0x22 then
      skip
      string
    else refuse .string

/-- A number that `accept` takes, or the cause it names. -/
def numberValue (expected : Expected) (accept : Number → Except Cause α) : Reader α := do
  match ← token with
  | none => failAhead .eofInValue
  | some b =>
    if b = 0x2d then
      skip
      located do
        match accept (← number true) with
        | .ok a => return a
        | .error cause => failUnlocated cause
    else if isDigit b then
      located do
        match accept (← number false) with
        | .ok a => return a
        | .error cause => failUnlocated cause
    else refuse expected

/-- An unsigned 64-bit integer. -/
def unsignedValue : Reader Nat :=
  numberValue .unsigned fun n =>
    match n with
    | .int (.ofNat k) => .ok k
    | .int (.negSucc _) => .error (.invalidValue (.number n) .unsigned)
    | .float _ => .error (.invalidType (.number n) .unsigned)

/-- A signed 64-bit integer. -/
def signedValue : Reader Int :=
  numberValue .signed fun n =>
    match n with
    | .int k => if k < 0x8000000000000000 then .ok k else .error (.invalidValue (.number n) .signed)
    | .float _ => .error (.invalidType (.number n) .signed)

/-- Nothing for `null`, otherwise what `reader` reads. -/
def optional (reader : Reader α) : Reader (Option α) := do
  if (← token) = some 0x6e then
    skip
    ident [0x75, 0x6c, 0x6c]
    return none
  else return some (← reader)

/-- A list whose items are read by `item`. -/
def listOf (item : Nat → Reader α) (allowed : Nat) : Reader (List α) := do
  match ← token with
  | none => failAhead .eofInValue
  | some b =>
    if b = 0x5b then located (bracketed allowed (fun n => items (item n)) endList)
    else refuse .sequence

/-- An object with values of any kind. -/
def mapOfValues (allowed : Nat) : Reader (Members Value) := do
  match ← token with
  | none => failAhead .eofInValue
  | some b =>
    if b = 0x7b then located (bracketed allowed (fun n => members (value n)) endObject)
    else refuse .map

/-- `null`, read as the content of a variant that has none. -/
def unitValue : Reader Unit := do
  match ← token with
  | none => failAhead .eofInValue
  | some b =>
    if b = 0x6e then
      skip
      ident [0x75, 0x6c, 0x6c]
    else refuse .unit

/-- A variant without content: its name, or an object with the name as only member and `null`
as its value. -/
def unitVariant (variant? : String → Option α) (names : List String) (allowed : Nat) :
    Reader α := do
  match ← token with
  | none => failAhead .eofInValue
  | some b =>
    if b = 0x22 then named
    else if b = 0x7b then
      match allowed with
      | 0 => failAhead .recursionLimit
      | _ + 1 =>
        skip
        match ← token with
        | none => failAhead .eofInObject
        | some c =>
          if c = 0x22 then
            let a ← named
            colon
            unitValue
            match ← token with
            | none => fail .eofInObject
            | some d =>
              if d = 0x7d then
                skip
                return a
              else fail .expectedValue
          else if c = 0x7d then failAhead .expectedValue
          else failAhead .keyMustBeString
    else failAhead .expectedValue
where
  /-- The quoted name of a variant. -/
  named : Reader α := located do
    skip
    let name ← string
    match variant? name with
    | some a => return a
    | none => failUnlocated (.unknownVariant name names)

/-! ### Records -/

/-- A record: a list of its fields in order, or an object with them by name. -/
def record (name : String) (fromList fromObject : Nat → Reader α) (allowed : Nat) :
    Reader α := do
  match ← token with
  | none => failAhead .eofInValue
  | some b =>
    if b = 0x5b then located (bracketed allowed fromList endList)
    else if b = 0x7b then located (bracketed allowed fromObject endObject)
    else refuse (.record name)

/-- The next field of a record that is given as a list; `absent` if the list has ended. -/
def element (index : Nat) (reader absent : Reader α) : Reader α := do
  if ← hasItem (index == 0) then reader else absent

/-- A field that must be there as the element `index` of a list. -/
def requiredElement (expected : Expected) (index : Nat) (reader : Reader α) : Reader α :=
  element index reader (failUnlocated (.invalidLength index expected))

/-- The value of a field that may be given only once. -/
def once (name : String) (given : Option α) (reader : Reader α) : Reader (Option α) := do
  if given.isSome then failUnlocated (.duplicateField name)
  else
    colon
    return some (← reader)

/-- A field that must have been given. -/
def required (name : String) (given : Option α) : Reader α :=
  match given with
  | some a => return a
  | none => failUnlocated (.missingField name)

/-- Reads the members of a record into a state; `member` knows the fields. -/
def fields (member : String → σ → Reader σ) (empty : σ) : Reader σ := do
  foldMembers member ((← get).rest.length + 1) true empty

/-- Passes the colon and the value of a field that the record does not have. -/
def unknownField (s : σ) : Reader σ := do
  colon
  skipValue
  return s

end PushRegistry.Json.Reader

namespace PushRegistry.Json

/-- The document that a text holds. -/
def Value.decode (bytes : List UInt8) : Except Fault Value :=
  Reader.run (Reader.whole Reader.value) bytes

/-- The document that a string holds. -/
def Value.parse (text : String) : Except Fault Value :=
  Value.decode (Text.Utf8.ofString text)

end PushRegistry.Json
