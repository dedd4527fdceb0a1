import PushRegistry.Config.Document
import PushRegistry.Text.Blank
import PushRegistry.Text.Hex

/-!
# `PushRegistry.Config.Ini`: INI files

A file holds keys with values, in sections or before the first one. All values are texts;
quotes around a value and escapes inside it are removed. Comments take whole lines.
-/

set_option autoImplicit false

namespace PushRegistry.Config.Ini

open PushRegistry.Text

/-- What a character means after a backslash; a line break means nothing. -/
def escaped (c : Char) : List Char :=
  match c with
  | '0' => ['\x00']
  | 'a' => ['\x07']
  | 'b' => ['\x08']
  | 't' => ['\t']
  | 'r' => ['\r']
  | 'n' => ['\n']
  | '\n' => []
  | c => [c]

/-- The character with a code in four hexadecimal digits. -/
def codePoint? (digits : List Char) : Option Char := do
  let n ← Hex.number? digits
  if 0xd800 ≤ n ∧ n ≤ 0xdfff then none else some (Char.ofNat n)

/-- The text up to a character that satisfies `stop`, and what follows from there on. The
end of the file stops it too if `endStops`. -/
def readUntil (stop : Char → Bool) (endStops : Bool) : List Char → Option (List Char × List Char)
  | [] => if endStops then some ([], []) else none
  | '\\' :: 'x' :: a :: b :: c :: d :: rest =>
    if stop '\\' then some ([], '\\' :: 'x' :: a :: b :: c :: d :: rest)
    else do
      let ch ← codePoint? [a, b, c, d]
      let (text, after) ← readUntil stop endStops rest
      return (ch :: text, after)
  | '\\' :: c :: rest =>
    if c = 'x' then none
    else do
      let (text, after) ← readUntil stop endStops rest
      return (escaped c ++ text, after)
  | c :: rest =>
    if stop c then some ([], c :: rest)
    else if c = '\\' then none
    else do
      let (text, after) ← readUntil stop endStops rest
      return (c :: text, after)

/-- Whether a character ends a line. -/
def isLineEnd (c : Char) : Bool := c = '\n' || c = '\r'

/-- The value in front of the end of a line. -/
def value? (cs : List Char) : Option (List Char × List Char) :=
  let rest := cs.dropWhile fun c => c = '\t' || (isBlank c && !isLineEnd c)
  let quoted (quote : Char) (inner : List Char) : Option (List Char × List Char) := do
    let (text, after) ← readUntil (· = quote) false inner
    let (tail, after) ← readUntil isLineEnd true (after.drop 1)
    return (text ++ tail, after)
  match rest with
  | '"' :: inner => quoted '"' inner
  | '\'' :: inner => quoted '\'' inner
  | _ => readUntil isLineEnd true rest

/-- A file that has been read in part. -/
structure Progress where
  /-- The keys before the first section. -/
  general : List (String × Document)
  /-- The sections before the last one. -/
  sections : List (String × Document)
  /-- The last section and its keys. -/
  current : Option (String × List (String × Document))
  /-- The key whose value comes next. -/
  key : String

/-- The progress after a value. -/
def Progress.assign (p : Progress) (value : String) : Progress :=
  match p.current with
  | none => { p with general := Document.bind p.key (.text value) p.general, key := "" }
  | some (name, entries) =>
    { p with current := some (name, Document.bind p.key (.text value) entries), key := "" }

/-- All sections. -/
def Progress.closed (p : Progress) : List (String × Document) :=
  match p.current with
  | none => p.sections
  | some (name, entries) => Document.bind name (.table entries) p.sections

/-- The progress after the header of a section. -/
def Progress.start (p : Progress) (name : String) : Progress :=
  { p with sections := p.closed, current := some (name, []) }

/-- The entries of the whole file. -/
def Progress.entries (p : Progress) : List (String × Document) :=
  p.closed.foldl (fun acc e => Document.bind e.1 e.2 acc) p.general

/-- A text as a trimmed string. -/
def trimmed (cs : List Char) : String := String.ofList (trim cs)

/-- Reads a text whose length is below the first argument. `lineStart` says whether it starts
at the beginning of a line. -/
def read : Nat → Bool → Progress → List Char → Option Progress
  | 0, _, _, _ => none
  | fuel + 1, lineStart, p, cs =>
    let blanks := cs.takeWhile isBlank
    let lineStart := if blanks.isEmpty then lineStart else blanks.getLast? == some '\n'
    match cs.dropWhile isBlank with
    | [] => some p
    | c :: rest =>
      if c = ';' ∨ c = '#' then
        if lineStart then read fuel false p (rest.dropWhile (· ≠ '\n')) else none
      else if c = '[' then do
        let (name, after) ← readUntil (· = ']') false rest
        read fuel false (p.start (trimmed name)) (after.drop 1)
      else if c = '=' ∨ c = ':' then
        if p.key.isEmpty then none
        else do
          let (value, after) ← value? rest
          read fuel false (p.assign (trimmed value)) after
      else do
        let (key, after) ← readUntil (fun d => d = '=' || d = ':') false (c :: rest)
        read fuel false { p with key := trimmed key } after

/-- The entries of a file. -/
def parse? (cs : List Char) : Option (List (String × Document)) :=
  (read (2 * cs.length + 2) true ⟨[], [], none, ""⟩ cs).map Progress.entries

end PushRegistry.Config.Ini
