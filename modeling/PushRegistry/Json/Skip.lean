import PushRegistry.Json.Scalar

/-!
# `PushRegistry.Json.Skip`: values nobody asked for

The value of an unknown field is checked for its shape and dropped. Nesting is not limited,
strings are not decoded and numbers may have any size.
-/

set_option autoImplicit false

namespace PushRegistry.Json.Reader

/-- Passes the digits of an exponent, from its mark on. -/
def skipExponent : Reader Unit := do
  skip
  let sign ← peek
  if sign = some 0x2b ∨ sign = some 0x2d then skip
  match ← next with
  | some b =>
    if isDigit b then
      let _ ← takeWhile isDigit
    else fail .invalidNumber
  | none => fail .invalidNumber

/-- Passes the part of a number from its point on. -/
def skipFraction : Reader Unit := do
  skip
  let run ← takeWhile isDigit
  if run.isEmpty then failAhead .invalidNumber
  else
    let b ← peek
    if b = some 0x65 ∨ b = some 0x45 then skipExponent

/-- Passes a number whose sign, if any, has been read. -/
def skipNumber : Reader Unit := do
  match ← next with
  | none => fail .invalidNumber
  | some b =>
    if b = 0x30 then
      if ((← peek).any isDigit) then failAhead .invalidNumber
    else if isDigit b then
      let _ ← takeWhile isDigit
    else fail .invalidNumber
    let after ← peek
    if after = some 0x2e then skipFraction
    else if after = some 0x65 ∨ after = some 0x45 then skipExponent

/-- Passes an escape, after its backslash. -/
def skipEscape : Reader Unit := do
  let b ← nextInString
  if b = 0x75 then
    let _ ← hexEscape
  else if [0x22, 0x5c, 0x2f, 0x62, 0x66, 0x6e, 0x72, 0x74].contains b then pure ()
  else fail .invalidEscape

/-- Passes the rest of a string. -/
def skipStringRest : Nat → Reader Unit
  | 0 => fail .eofInString
  | fuel + 1 => do
    match ← peek with
    | none => fail .eofInString
    | some b =>
      if b = 0x22 then skip
      else if b = 0x5c then
        skip
        skipEscape
        skipStringRest fuel
      else if b < 0x20 then fail .controlCharacter
      else
        skip
        skipStringRest fuel

/-- Passes a string, after its opening quote. -/
def skipString : Reader Unit := do skipStringRest ((← get).rest.length + 1)

/-- Passes the items of an array or the members of an object, one by one, each with `item`,
until the closing byte. A comma must be followed by one more. -/
def skipList (close : UInt8) (unfinished expectedComma : Cause) (item : Reader Unit) :
    Nat → Bool → Reader Unit
  | 0, _ => failAhead unfinished
  | fuel + 1, first => do
    match ← token with
    | none => failAhead unfinished
    | some b =>
      if b = close then skip
      else if first then
        item
        skipList close unfinished expectedComma item fuel false
      else if b = 0x2c then
        skip
        item
        skipList close unfinished expectedComma item fuel false
      else failAhead expectedComma

/-- Passes the name of a member and its colon, then its value with `value`. -/
def skipMember (value : Reader Unit) : Reader Unit := do
  match ← token with
  | some b => if b = 0x22 then skip else failAhead .keyMustBeString
  | none => failAhead .eofInObject
  skipString
  match ← token with
  | some b => if b = 0x3a then skip else failAhead .expectedColon
  | none => failAhead .eofInObject
  value

/-- Passes one value. -/
def skipValueWith : Nat → Reader Unit
  | 0 => failAhead .eofInValue
  | fuel + 1 => do
    match ← token with
    | none => failAhead .eofInValue
    | some b =>
      if b = 0x6e then
        skip
        ident [0x75, 0x6c, 0x6c]
      else if b = 0x74 then
        skip
        ident [0x72, 0x75, 0x65]
      else if b = 0x66 then
        skip
        ident [0x61, 0x6c, 0x73, 0x65]
      else if b = 0x2d then
        skip
        skipNumber
      else if isDigit b then skipNumber
      else if b = 0x22 then
        skip
        skipString
      else if b = 0x5b then
        skip
        skipList 0x5d .eofInList .expectedListCommaOrEnd (skipValueWith fuel) (fuel + 1) true
      else if b = 0x7b then
        skip
        skipList 0x7d .eofInObject .expectedObjectCommaOrEnd
          (skipMember (skipValueWith fuel)) (fuel + 1) true
      else failAhead .expectedValue

/-- Passes one value. -/
def skipValue : Reader Unit := do skipValueWith ((← get).rest.length + 1)

end PushRegistry.Json.Reader
