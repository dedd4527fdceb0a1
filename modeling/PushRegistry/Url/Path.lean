import PushRegistry.Text.Percent

/-!
# `PushRegistry.Url.Path`: segments

The path of a URL is the list of the texts between its slashes. Dot segments are resolved
when a path is read; when single segments are appended the same rule applies to each of them
after blanks that have no place in URLs were dropped.
-/

set_option autoImplicit false

namespace PushRegistry.Url

open PushRegistry.Text

/-- The text between two slashes of a path. -/
abbrev Segment := List Char

/-- A tab, a line feed or a carriage return. URLs are read as if these were not there. -/
def isIgnored (c : Char) : Bool := c = '\t' || c = '\n' || c = '\r'

/-- A text without the characters that are ignored. -/
def strip (cs : List Char) : List Char := cs.filter (!isIgnored ·)

namespace Path

/-- The spellings of `.` in a path. -/
def isSingleDot (s : Segment) : Bool :=
  s == ['.'] || s.map Char.toLower == ['%', '2', 'e']

/-- The spellings of `..` in a path. -/
def isDoubleDot (s : Segment) : Bool :=
  let dot := ['%', '2', 'e']
  let lower := s.map Char.toLower
  lower == ['.', '.'] || lower == '.' :: dot || lower == dot ++ ['.'] || lower == dot ++ dot

/-- A letter followed by a colon or a bar. -/
def isDriveLetter (s : Segment) : Bool :=
  match s with
  | [c, d] => c.isAlpha && (d == ':' || d == '|')
  | _ => false

/-- The segments above. A drive letter cannot be left. -/
def parent (segments : List Segment) : List Segment :=
  match segments.getLast? with
  | some last => if isDriveLetter last then segments else segments.dropLast
  | none => []

/-- The path after reading one more segment; `last` says that no slash follows it. -/
def step (segments : List Segment) (segment : Segment) (last : Bool) : List Segment :=
  let close (ss : List Segment) := if last then ss ++ [[]] else ss
  if isDoubleDot segment then close (parent segments)
  else if isSingleDot segment then close segments
  else segments ++ [segment]

/-- Reads segments one after the other. -/
def resolve (segments : List Segment) : List Segment → List Segment
  | [] => segments
  | [s] => step segments s true
  | s :: rest => resolve (step segments s false) rest

/-- The text of a path that starts with a slash. -/
def text (segments : List Segment) : List Char := segments.flatMap ('/' :: ·)

/-- The path without the empty segment at its end, unless it is the only one. -/
def dropTrailingEmpty (segments : List Segment) : List Segment :=
  if 2 ≤ segments.length ∧ segments.getLast? = some [] then segments.dropLast else segments

/-- The path with one more segment, which is taken literally except that a dot segment that
only shows after stripping is resolved. -/
def push (segments : List Segment) (segment : List Char) : List Segment :=
  if segment = ['.'] ∨ segment = ['.', '.'] then segments
  else
    let base := if segments = [[]] then [] else segments
    let stripped := strip segment
    if stripped = ['.', '.'] then parent base ++ [[]]
    else if stripped = ['.'] then base ++ [[]]
    else base ++ [Percent.encode Percent.segmentSet stripped]

/-- The path with several more segments. -/
def extend (segments : List Segment) (more : List (List Char)) : List Segment :=
  more.foldl push segments

end Path

end PushRegistry.Url
