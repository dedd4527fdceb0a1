import PushRegistry.Config.Environment
import PushRegistry.Text.Alphanumeric
import PushRegistry.Text.Blank
import PushRegistry.Text.Utf8

/-!
# `PushRegistry.Config.Dotenv`: variables from a file

A file may add variables to the environment, but never changes one that is there. Quoted
values may span lines, values may refer to variables, and the first line that cannot be read
ends the file. No environment can hold a value with a NUL character: the attempt to set one stops
the program.
-/

set_option autoImplicit false

namespace PushRegistry.Config.Dotenv

open PushRegistry.Config.Environment (Variable)
open PushRegistry.Text

/-! ### Logical lines -/

/-- Where a line stands between its quotes. -/
inductive Place where
  | plain
  | escape
  | blank
  | double
  | doubleEscape
  | single
  | singleEscape
  | comment
  deriving DecidableEq, Repr

/-- The place after a character. -/
def Place.next (p : Place) (c : Char) : Place :=
  match p with
  | .plain =>
    if isBlank c ∧ c ≠ '\n' ∧ c ≠ '\r' then .blank
    else if c = '\\' then .escape
    else if c = '"' then .double
    else if c = '\'' then .single
    else .plain
  | .blank =>
    if c = '#' then .comment
    else if c = '\\' then .escape
    else if c = '"' then .double
    else if c = '\'' then .single
    else .plain
  | .escape => .plain
  | .double => if c = '\\' then .doubleEscape else if c = '"' then .plain else .double
  | .doubleEscape => .double
  | .single => if c = '\\' then .singleEscape else if c = '\'' then .plain else .single
  | .singleEscape => .single
  | .comment => .comment

/-- The characters of a line before a comment, and the place after them. -/
def walk : Place → List Char → List Char × Place
  | p, [] => ([], p)
  | p, c :: rest =>
    match p.next c with
    | .comment => ([], .comment)
    | q =>
      let (kept, final) := walk q rest
      (c :: kept, final)

/-- A text without the line break at its end. -/
def dropBreak (cs : List Char) : List Char :=
  match cs.reverse with
  | '\n' :: '\r' :: rest => rest.reverse
  | '\n' :: rest => rest.reverse
  | _ => cs

/-- Joins physical lines, with their line breaks, to logical ones. A physical line that is no
text, and a logical line that never ends, are none and end the list. -/
def logicalLines : Place → List Char → List (Option (List Char)) → List (Option (List Char))
  | .plain, _, [] => []
  | _, _, [] => [none]
  | _, _, none :: _ => [none]
  | p, acc, some line :: rest =>
    -- A comment line is passed whole: a quote in it opens nothing.
    if ((acc ++ line).dropWhile isBlank).head? = some '#' then
      some [] :: logicalLines .plain [] rest
    else
      match walk p line with
      | (kept, .comment) => some (acc ++ kept) :: logicalLines .plain [] rest
      | (_, .plain) => some (dropBreak (acc ++ line)) :: logicalLines .plain [] rest
      | (_, q) => logicalLines q (acc ++ line) rest

/-- The physical lines of a file, with their line breaks. -/
def physicalLines : List UInt8 → List UInt8 → List (List UInt8)
  | acc, [] => if acc.isEmpty then [] else [acc.reverse]
  | acc, b :: rest =>
    if b = 0x0a then (b :: acc).reverse :: physicalLines [] rest
    else physicalLines (b :: acc) rest

/-! ### Values -/

/-- Looks variables up: the environment wins over earlier lines. -/
structure Scope where
  environment : List Variable
  earlier : List Variable
  deriving DecidableEq, Repr

/-- The text that stands for a variable; nothing if there is none. -/
def Scope.substitute (scope : Scope) (name : List Char) : List Char :=
  let key := String.ofList name
  match scope.environment.lookup key with
  | some v => v.toList
  | none => ((scope.earlier.lookup key).getD "").toList

/-- What is being read inside a value. -/
inductive Mode where
  | plain
  /-- After a blank: only a comment may follow. -/
  | ended
  | single
  | double
  /-- After a backslash, inside double quotes or not. -/
  | escape (quoted : Bool)
  /-- In the name of a variable, last character first. -/
  | name (quoted : Bool) (acc : List Char)
  /-- In the name of a variable between braces. -/
  | braced (quoted : Bool) (acc : List Char)
  deriving DecidableEq, Repr

/-- The mode outside of names and escapes. -/
def Mode.base (quoted : Bool) : Mode := if quoted then .double else .plain

/-- Reads a value; the second argument is what was read so far, last character first. -/
def readValue (scope : Scope) : Mode → List Char → List Char → Option (List Char)
  | .plain, out, [] => some out.reverse
  | .ended, out, [] => some out.reverse
  | .escape false, out, [] => some out.reverse
  | .name false acc, out, [] => some (out.reverse ++ scope.substitute acc.reverse)
  | _, _, [] => none
  | mode, out, c :: rest =>
    match mode with
    | .ended =>
      if c = ' ' ∨ c = '\t' then readValue scope .ended out rest
      else if c = '#' then some out.reverse
      else none
    | .escape quoted =>
      if c = 'n' then readValue scope (.base quoted) ('\n' :: out) rest
      else if ['\\', '\'', '"', '$', ' '].contains c then
        readValue scope (.base quoted) (c :: out) rest
      else none
    | .single =>
      if c = '\'' then readValue scope .plain out rest else readValue scope .single (c :: out) rest
    | .name quoted acc =>
      if isAlphanumeric c then readValue scope (.name quoted (c :: acc)) out rest
      else if c = '\x7b' ∧ acc.isEmpty then readValue scope (.braced quoted []) out rest
      else
        let out := (scope.substitute acc.reverse).reverse ++ out
        if c = '$' then readValue scope (.name quoted []) out rest
        else readValue scope (.base quoted) (c :: out) rest
    | .braced quoted acc =>
      if isAlphanumeric c then readValue scope (.braced quoted (c :: acc)) out rest
      else if c = '\x7d' then
        readValue scope (.base quoted) ((scope.substitute acc.reverse).reverse ++ out) rest
      else readValue scope (.braced quoted (c :: acc)) out rest
    | .double =>
      if c = '$' then readValue scope (.name true []) out rest
      else if c = '"' then readValue scope .plain out rest
      else if c = '\\' then readValue scope (.escape true) out rest
      else readValue scope .double (c :: out) rest
    | .plain =>
      if c = '$' then readValue scope (.name false []) out rest
      else if c = '\'' then readValue scope .single out rest
      else if c = '"' then readValue scope .double out rest
      else if c = '\\' then readValue scope (.escape false) out rest
      else if c = ' ' ∨ c = '\t' then readValue scope .ended out rest
      else readValue scope .plain (c :: out) rest

/-! ### Assignments -/

/-- The characters of names after the first. -/
def isNameChar (c : Char) : Bool := c.isAlphanum || c = '_' || c = '.'

/-- The name at the front of a line, and what follows it and the blanks behind it. -/
def name? (cs : List Char) : Option (String × List Char) :=
  match cs with
  | c :: _ =>
    if c.isAlpha ∨ c = '_' then
      some (String.ofList (cs.takeWhile isNameChar), (cs.dropWhile isNameChar).dropWhile isBlank)
    else none
  | [] => none

/-- The name that a line assigns to, and the text of the value. -/
def target? (cs : List Char) : Option (String × List Char) := do
  let (name, rest) ← name? cs
  match rest with
  | '=' :: value => some (name, value.dropWhile isBlank)
  | _ =>
    if name = "export" then
      match ← name? rest with
      | (name, '=' :: value) => some (name, value.dropWhile isBlank)
      | _ => none
    else none

/-- What a line does. -/
inductive Line where
  | empty
  | assign (v : Variable)
  | bad
  deriving DecidableEq, Repr

/-- Reads a logical line. -/
def Line.read (scope : Scope) (line : List Char) : Line :=
  let cs := (trimEnd line).dropWhile isBlank
  if cs.isEmpty ∨ cs.head? = some '#' then .empty
  else match target? cs with
    | none => .bad
    | some (name, value) =>
      if value.isEmpty ∨ value.head? = some '#' then .assign (name, "")
      else match readValue scope .plain [] value with
        | some text => .assign (name, String.ofList text)
        | none => .bad

/-- Adds a variable unless there is one with its name. -/
def addVariable (environment : List Variable) (v : Variable) : List Variable :=
  if (environment.lookup v.1).isSome then environment else environment ++ [v]

/-- Whether a variable can be in an environment. -/
def isSettable (v : Variable) : Bool := !v.2.toList.contains '\x00'

/-- Runs logical lines until one cannot be read; none if a variable cannot be set. -/
def run (scope : Scope) : List (Option (List Char)) → Option (List Variable)
  | [] => some scope.environment
  | none :: _ => some scope.environment
  | some line :: rest =>
    match Line.read scope line with
    | .empty => run scope rest
    | .bad => some scope.environment
    | .assign v =>
      -- A variable that is there is not set, and its value is not looked at.
      if (scope.environment.lookup v.1).isSome ∨ isSettable v then
        run ⟨addVariable scope.environment v, v :: scope.earlier⟩ rest
      else none

/-- The bytes of a file without a byte order mark. -/
def dropMark (bytes : List UInt8) : List UInt8 :=
  match bytes with
  | 0xef :: 0xbb :: 0xbf :: rest => rest
  | _ => bytes

/-- The environment after reading a file; none if a variable cannot be set. -/
def load (environment : List Variable) (file : List UInt8) : Option (List Variable) :=
  run ⟨environment, []⟩
    (logicalLines .plain [] ((physicalLines [] (dropMark file)).map Utf8.decode?))

end PushRegistry.Config.Dotenv
