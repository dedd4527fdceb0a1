import PushRegistry.Decimal.Numeral
import PushRegistry.Url.Host
import PushRegistry.Url.Path

/-!
# `PushRegistry.Url`: web addresses

URLs with the schemes `http` and `https`, as structured values: `parseAfterScheme` reads one from
any text after its scheme, `join?` follows a reference from one to another and `text` writes it. The
path always has at least one segment, because every such path starts with a slash. URLs of other
schemes are kept as they are written. HTTP clients differ in which references they follow, so
`References` stands for their rules; `join?` is a choice of them.
-/

set_option autoImplicit false

namespace PushRegistry

open PushRegistry.Text

/-- The schemes of web addresses. -/
inductive Url.Scheme where
  | http
  | https
  deriving DecidableEq, Repr

/-- A web address. User name, password, query and fragment are kept encoded. -/
structure Url where
  scheme : Url.Scheme
  username : List Char
  password : List Char
  host : Url.Host
  /-- The port, unless it is the usual one. -/
  port : Option Nat
  path : List Url.Segment
  query : Option (List Char)
  fragment : Option (List Char)
  deriving DecidableEq, Repr

namespace Url

namespace Scheme

/-- The name of a scheme in a URL. -/
def name : Scheme → List Char
  | .http => "http".toList
  | .https => "https".toList

/-- The scheme with a name. -/
def ofName? (cs : List Char) : Option Scheme := [http, https].find? (·.name = cs)

/-- The usual port of a scheme. -/
def usualPort : Scheme → Nat
  | .http => 80
  | .https => 443

end Scheme

/-- The port that is contacted. -/
def effectivePort (u : Url) : Nat := u.port.getD u.scheme.usualPort

/-! ### Reading -/

/-- Whether a character ends the part with user, host and port. -/
def endsAuthority (c : Char) : Bool := c = '/' || c = '\\' || c = '?' || c = '#'

/-- The part before the last `@`, if there is one, and the part after it. -/
def splitUserinfo (cs : List Char) : Option (List Char) × List Char :=
  match cs.reverse.span (· ≠ '@') with
  | (_, []) => (none, cs)
  | (afterReversed, _ :: beforeReversed) => (some beforeReversed.reverse, afterReversed.reverse)

/-- The host and what follows it. A colon inside brackets belongs to the host. -/
def splitHost : Bool → List Char → List Char × List Char
  | _, [] => ([], [])
  | inside, c :: rest =>
    if c = ':' ∧ !inside then ([], c :: rest)
    else
      let (host, after) := splitHost (if c = '[' then true else if c = ']' then false else inside) rest
      (c :: host, after)

/-- The port after a colon; none if it is not written or the usual one. -/
def parsePort (scheme : Scheme) (cs : List Char) : Except UrlFault (Option Nat) :=
  if cs.isEmpty then .ok none
  else match Decimal.Numeral.natural? 10 cs with
    | none => .error .invalidPort
    | some n =>
      if 65535 < n then .error .invalidPort
      else .ok (if n = scheme.usualPort then none else some n)

/-- User, password, host and port. -/
structure Authority where
  username : List Char
  password : List Char
  host : Host
  port : Option Nat
  deriving DecidableEq, Repr

/-- User name and password, divided at the first colon. -/
def parseUserinfo (cs : List Char) : List Char × List Char :=
  let encode := Percent.encode Percent.userinfoSet
  (encode (cs.takeWhile (· ≠ ':')), encode ((cs.dropWhile (· ≠ ':')).drop 1))

/-- Reads the part between the slashes and the path. -/
def parseAuthority [Idna] (scheme : Scheme) (cs : List Char) : Except UrlFault Authority := do
  let (userinfo, rest) := splitUserinfo cs
  let (username, password) := parseUserinfo (userinfo.getD [])
  let (hostText, portText) := splitHost false rest
  if hostText.isEmpty then .error .emptyHost
  else
    let host ← Host.parse hostText
    let port ← parsePort scheme (portText.drop 1)
    return ⟨username, password, host, port⟩

/-- A text cut before the first character that satisfies a condition; that character itself is
dropped. -/
def cut (stop : Char → Bool) (cs : List Char) : List Char × Option (List Char) :=
  match cs.span (!stop ·) with
  | (before, []) => (before, none)
  | (before, _ :: after) => (before, some after)

/-- Path, query and fragment. -/
structure Target where
  path : List Char
  query : Option (List Char)
  fragment : Option (List Char)
  deriving DecidableEq, Repr

/-- Divides a text at the marks of query and fragment. -/
def Target.parse (cs : List Char) : Target :=
  let (main, fragment) := cut (· == '#') cs
  let (path, query) := cut (· == '?') main
  ⟨path, query.map (Percent.encode Percent.querySet),
    fragment.map (Percent.encode Percent.fragmentSet)⟩

/-- Whether a character divides segments. -/
def isSlash (c : Char) : Bool := c = '/' || c = '\\'

/-- The segments of a text, encoded, before dot segments are resolved. -/
def rawSegments (cs : List Char) : List Segment :=
  (cs.splitOnP isSlash).map (Percent.encode Percent.pathSet)

/-- The path that a text stands for; a slash at its front is not needed. -/
def parsePath (cs : List Char) : List Segment :=
  Path.resolve [] (rawSegments (match cs with
    | c :: rest => if isSlash c then rest else cs
    | [] => []))

/-- Reads a URL from the text after its scheme. Any number of slashes may stand in front. -/
def parseAfterScheme [Idna] (scheme : Scheme) (cs : List Char) : Except UrlFault Url := do
  let rest := cs.dropWhile isSlash
  let authority ← parseAuthority scheme (rest.takeWhile (!endsAuthority ·))
  let target := Target.parse (rest.dropWhile (!endsAuthority ·))
  return ⟨scheme, authority.username, authority.password, authority.host, authority.port,
    parsePath target.path, target.query, target.fragment⟩

/-! ### Writing -/

/-- User name and password with their marks, or nothing. -/
def userinfoText (u : Url) : List Char :=
  if u.username.isEmpty ∧ u.password.isEmpty then []
  else u.username ++ (if u.password.isEmpty then [] else ':' :: u.password) ++ ['@']

/-- The host, and the port unless it is the usual one. -/
def hostText (u : Url) : List Char :=
  u.host.text ++ (match u.port with
    | some n => ':' :: Nat.toDigits 10 n
    | none => [])

/-- The path. -/
def pathText (u : Url) : List Char := Path.text u.path

/-- The query with its mark. -/
def queryText (u : Url) : List Char :=
  match u.query with
  | some q => '?' :: q
  | none => []

/-- The fragment with its mark. -/
def fragmentText (u : Url) : List Char :=
  match u.fragment with
  | some f => '#' :: f
  | none => []

/-- The whole URL. -/
def text (u : Url) : String :=
  String.ofList (u.scheme.name ++ "://".toList ++ u.userinfoText ++ u.hostText ++ u.pathText ++
    u.queryText ++ u.fragmentText)

/-- The URL without user name and password. -/
def withoutUserinfo (u : Url) : Url := { u with username := [], password := [] }

/-- The URL without its fragment. -/
def withoutFragment (u : Url) : Url := { u with fragment := none }

/-- How long a URL in a request can be. It is ASCII, so that characters are bytes. -/
def maxLength : Nat := 65534

/-- Whether a host name can be put into a request: with a quote, a back quote or a brace it can be
written but not sent. -/
def hasSendableHost (u : Url) : Bool :=
  !u.host.text.any (['"', '\x60', '\x7b', '\x7d'].contains ·)

/-- Whether a request can be addressed to the URL. -/
def isSendable (u : Url) : Bool := u.hasSendableHost && u.text.length ≤ maxLength

theorem isSendable_iff {u : Url} :
    u.isSendable = true ↔ u.hasSendableHost = true ∧ u.text.length ≤ maxLength := by
  rw [isSendable, Bool.and_eq_true, decide_eq_true_iff]

/-- The path is a part of the text. -/
theorem length_pathText_le (u : Url) : u.pathText.length ≤ u.text.length := by
  rw [text, String.length_ofList]
  simp only [List.length_append]
  omega

/-! ### References -/

/-- The scheme in front of a text, in lower case, and what follows its colon. -/
def splitScheme (cs : List Char) : Option (List Char × List Char) :=
  match cs with
  | c :: _ =>
    if c.isAlpha then
      match cs.span fun d => d.isAlphanum || d = '+' || d = '-' || d = '.' with
      | (scheme, ':' :: rest) => some (scheme.map Char.toLower, rest)
      | _ => none
    else none
  | [] => none

/-- Whether two slashes in front of a text introduce an authority. -/
def startsAuthority : List Char → Bool
  | a :: b :: _ => isSlash a && isSlash b
  | _ => false

/-- A reference without a scheme, seen from a URL. -/
def joinRelative [Idna] (base : Url) (cs : List Char) : Option Url :=
  if startsAuthority cs then (parseAfterScheme base.scheme cs).toOption
  else
    let target := Target.parse cs
    match target.path with
    | [] => some { base with
        query := if target.query.isSome then target.query else base.query
        fragment := target.fragment }
    | c :: rest =>
      let path := if isSlash c then Path.resolve [] (rawSegments rest)
        else Path.resolve (Path.parent base.path) (rawSegments (c :: rest))
      some { base with path := path, query := target.query, fragment := target.fragment }

/-- Where a reference leads. -/
inductive Destination where
  | url (u : Url)
  /-- To a URL of another scheme, as it is written. -/
  | foreign (text : String)
  deriving DecidableEq, Repr

/-- The rules for references. -/
class References where
  /-- Where a reference leads, seen from a URL; none if it is malformed. -/
  destination? : Url → List Char → Option Destination

/-- The URL that a reference leads to; none if it is malformed or has another scheme. -/
def join? [Idna] (base : Url) (reference : List Char) : Option Url :=
  let isEdge (c : Char) := c.toNat ≤ 0x20
  let trimmed := ((reference.dropWhile isEdge).reverse.dropWhile isEdge).reverse
  let cs := strip trimmed
  match splitScheme cs with
  | some (name, rest) =>
    match Scheme.ofName? name with
    | some scheme =>
      -- The scheme of the base without slashes is idle: a relative reference follows.
      if scheme = base.scheme ∧ !startsAuthority rest then joinRelative base rest
      else (parseAfterScheme scheme rest).toOption
    | none => none
  | none => joinRelative base cs

/-- The rules by which plain ASCII names and no other schemes are known. -/
@[reducible] def References.withoutTables : References :=
  ⟨fun base reference => (@join? .withoutTables base reference).map .url⟩

end Url

end PushRegistry
