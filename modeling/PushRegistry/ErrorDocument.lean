import PushRegistry.Json.Reader

/-!
# `PushRegistry.ErrorDocument`: what servers say about failures

A server may send a document with a failure status: a message, and optionally the domain
and the code of the error.
-/

set_option autoImplicit false

namespace PushRegistry

open PushRegistry.Json (Reader)

/-- The account of a failure that a server gives. -/
structure ErrorDocument where
  message : String
  domain : Option String
  code : Option Int
  deriving DecidableEq, Repr

namespace ErrorDocument

/-- The document with its members in ascending order. -/
def toValue (e : ErrorDocument) : Json.Value :=
  .object [("code", match e.code with
      | some n => .int n
      | none => .null),
    ("domain", Json.Value.ofOptionString e.domain), ("message", .string e.message)]

/-- The fields that have been read so far. -/
structure Partial where
  message : Option String
  domain : Option (Option String)
  code : Option (Option Int)
  deriving DecidableEq, Repr

namespace Partial

/-- No field has been read. -/
def empty : Partial := ⟨none, none, none⟩

/-- Reads the member of the given name. -/
def member (name : String) (p : Partial) : Reader Partial :=
  match name with
  | "message" => do return { p with message := ← Reader.once name p.message Reader.stringValue }
  | "domain" => do
    return { p with domain := ← Reader.once name p.domain (Reader.optional Reader.stringValue) }
  | "code" => do
    return { p with code := ← Reader.once name p.code (Reader.optional Reader.signedValue) }
  | _ => Reader.unknownField p

/-- The document, if it has a message. -/
def finish (p : Partial) : Reader ErrorDocument := do
  let message ← Reader.required "message" p.message
  return ⟨message, p.domain.getD none, p.code.getD none⟩

end Partial

/-- The list of the fields; domain and code may be missing. -/
def listReader : Reader ErrorDocument := do
  let message ← Reader.requiredElement (.elements "ErrorDocument" 3) 0 Reader.stringValue
  let domain ← Reader.element 1 (Reader.optional Reader.stringValue) (return none)
  let code ← Reader.element 2 (Reader.optional Reader.signedValue) (return none)
  return ⟨message, domain, code⟩

/-- The members of the document. -/
def objectReader : Reader ErrorDocument := do
  (← Reader.fields Partial.member Partial.empty).finish

/-- Reads an error document. -/
def reader (allowed : Nat) : Reader ErrorDocument :=
  Reader.record "ErrorDocument" (fun _ => listReader) (fun _ => objectReader) allowed

/-- The error document that a text holds. -/
def parse (text : String) : Except Json.Fault ErrorDocument :=
  Reader.run (Reader.whole reader) (Text.Utf8.ofString text)

end ErrorDocument

end PushRegistry
