/-!
# `PushRegistry.Http.MediaType`: content types

A content type is a type, a subtype and named parameters. Only the parameters are of interest:
one of them names the encoding of a text.
-/

set_option autoImplicit false

namespace PushRegistry.Http

/-- A parameter of a content type. -/
structure Parameter where
  name : List Char
  value : List Char
  deriving DecidableEq, Repr

namespace MediaType

/-- The characters of tokens. -/
def isToken (c : Char) : Bool :=
  c.isAlphanum || "!#$%&'*+-.^_|~".toList.contains c || c == '\x60'

/-- The characters between quotes. -/
def isQuoted (c : Char) : Bool := 0x1f < c.toNat && c.toNat != 0x7f

/-- The text up to the closing quote, which cannot be the first character, and what follows
it. -/
def quotedValue : List Char → List Char → Option (List Char × List Char)
  | _, [] => none
  | acc, '\\' :: c :: rest =>
    if isQuoted c then quotedValue (c :: '\\' :: acc) rest else none
  | acc, c :: rest =>
    if c = '"' ∧ !acc.isEmpty then some (acc.reverse, rest)
    else if c = '\\' then none
    else if isQuoted c then quotedValue (c :: acc) rest
    else none

/-- What follows a quoted value: blanks and then a semicolon or the end. -/
def afterQuoted (cs : List Char) : Option (List Char) :=
  match cs.dropWhile (· = ' ') with
  | [] => some []
  | ';' :: rest => some rest
  | _ => none

/-- The value of a parameter and what follows its semicolon. A value without quotes may be
empty only at the end. -/
def value? (cs : List Char) : Option (List Char × List Char) :=
  match cs with
  | '"' :: rest => do
    let (value, after) ← quotedValue [] rest
    return (value, ← afterQuoted after)
  | _ =>
    match cs.dropWhile isToken with
    | [] => some (cs, [])
    | ';' :: rest =>
      let value := cs.takeWhile isToken
      if value.isEmpty then none else some (value, rest)
    | _ => none

/-- The parameters of a text whose length is below the first argument. -/
def parameters? : Nat → List Char → Option (List Parameter)
  | 0, _ => none
  | fuel + 1, cs =>
    match cs.dropWhile (· = ' ') with
    | [] => some []
    | cs =>
      let name := cs.takeWhile isToken
      match cs.dropWhile isToken with
      | '=' :: rest =>
        if name.isEmpty then none
        else do
          let (value, after) ← value? rest
          return ⟨name, value⟩ :: (← parameters? fuel after)
      | _ => none

/-- The parameters of a content type; none if it is not well-formed. -/
def parse? (cs : List Char) : Option (List Parameter) :=
  if cs = ['*', '/', '*'] then some []
  else
    let main := cs.takeWhile isToken
    match cs.dropWhile isToken with
    | '/' :: rest =>
      let sub := rest.takeWhile isToken
      if main.isEmpty then none
      else match rest.dropWhile isToken with
        | [] => some []
        | ';' :: params => if sub.isEmpty then none else parameters? (params.length + 1) params
        | _ => none
    | _ => none

/-- The value of the first parameter with a name, in any case. -/
def parameter? (params : List Parameter) (name : String) : Option (List Char) :=
  (params.find? fun p => String.ofList (p.name.map Char.toLower) = name).map Parameter.value

end MediaType

end PushRegistry.Http
