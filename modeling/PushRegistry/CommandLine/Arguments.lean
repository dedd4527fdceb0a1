import PushRegistry.CommandLine.Command

/-!
# `PushRegistry.CommandLine.Arguments`: reading the command line

The words before the verb and those after it are read in the same way, each with the options
that may stand there. The value of an option may be the next word or a part of the same one.
A value in a word of its own is checked only when the next option begins or the words end, so
a word that belongs nowhere is reported before it.
-/

set_option autoImplicit false

namespace PushRegistry.CommandLine

/-- What is wrong with a command line. -/
inductive UsageFault where
  /-- There is nothing on it. -/
  | nothing
  | verbMissing
  | unknownVerb (word : String)
  | unexpected (word : String)
  /-- A value for the request for help, which takes none. -/
  | unexpectedValue (value : String)
  | valueMissing (f : Flag)
  | invalidValue (f : Flag) (raw : String) (fault : ValueFault)
  | repeated (f : Flag)
  | requiredMissing (fs : List Flag)
  deriving DecidableEq, Repr

/-- What help can be about. -/
inductive Topic where
  | program
  | verb (v : Verb)
  /-- The help itself. -/
  | help
  deriving DecidableEq, Repr

/-- Why there is no command. -/
inductive Stop where
  | help (topic : Topic)
  | usage (fault : UsageFault)
  deriving DecidableEq, Repr

/-! ### Words -/

/-- A word by its dashes. -/
inductive Word where
  /-- Two dashes alone: no options follow. -/
  | separator
  | long (name : String) (value : Option String)
  | short (c : Char) (value : Option String)
  | plain
  deriving DecidableEq, Repr

namespace Word

/-- The value behind a short name, with or without an equals sign. -/
def attached? : List Char → Option String
  | [] => none
  | '=' :: value => some (String.ofList value)
  | value => some (String.ofList value)

/-- The value behind a long name, after an equals sign. -/
def assigned? : List Char → Option String
  | '=' :: value => some (String.ofList value)
  | _ => none

/-- The kind of a word. A single dash alone is a plain word. -/
def ofString (w : String) : Word :=
  match w.toList with
  | ['-', '-'] => .separator
  | '-' :: '-' :: rest =>
    .long (String.ofList (rest.takeWhile (· ≠ '='))) (assigned? (rest.dropWhile (· ≠ '=')))
  | '-' :: c :: rest => .short c (attached? rest)
  | _ => .plain

end Word

/-- The place of a word: before the verb, or after it. -/
abbrev Scope := Option Verb

namespace Scope

/-- The options that all commands have. They may stand in both places. -/
def common : List Flag := [.host, .port]

/-- The options that may stand in a place. -/
def flags (scope : Scope) : List Flag := scope.elim [] Verb.flags ++ common

/-- What a request for help in a place is about. -/
def topic (scope : Scope) : Topic := scope.elim .program .verb

/-- The word that asks for help. -/
def helpWord : String := "help"

/-- The fault of a word in a place where only options can stand. -/
def stray (scope : Scope) (word : String) : UsageFault :=
  match scope with
  | none => .unknownVerb word
  | some _ => .unexpected word

/-- The fault of a word after two dashes. -/
def afterSeparator (scope : Scope) (word : String) : UsageFault :=
  if word = helpWord ∨ (Verb.ofName? word).isSome then .unexpected word else scope.stray word

end Scope

/-! ### Options -/

/-- What has been read in one place. -/
structure Level where
  bound : List Binding
  /-- The last option if its value is missing or has not been checked. -/
  last : Option (Flag × Option String)

namespace Level

/-- Nothing has been read. -/
def start : Level := ⟨[], none⟩

/-- Gives an option a value. -/
def bind (bound : List Binding) (f : Flag) (raw : String) :
    Except UsageFault (List Binding) :=
  if !f.isRepeatable ∧ !(valuesOf f bound).isEmpty then .error (.repeated f)
  else match f.read raw with
    | .ok value => .ok (bound ++ [⟨f, value⟩])
    | .error fault => .error (.invalidValue f raw fault)

/-- The options once the last one has been checked. -/
def settle (l : Level) : Except UsageFault (List Binding) :=
  match l.last with
  | none => .ok l.bound
  | some (f, none) => .error (.valueMissing f)
  | some (f, some raw) => bind l.bound f raw

/-- Begins an option, with its value or in front of it. -/
def begin (l : Level) (f : Flag) (value : Option String) : Except UsageFault Level := do
  let bound ← l.settle
  match value with
  | none => return ⟨bound, some (f, none)⟩
  | some raw => return ⟨← bind bound f raw, none⟩

/-- Whether the next plain word is a value. -/
def waits (l : Level) : Bool :=
  match l.last with
  | some (_, none) => true
  | _ => false

/-- The request for help in a place. -/
def askHelp (l : Level) (scope : Scope) : Stop :=
  match l.settle with
  | .ok _ => .help scope.topic
  | .error fault => .usage fault

/-- Reads a word with a long name. -/
def long (l : Level) (scope : Scope) (name : String) (value : Option String) :
    Except Stop Level :=
  if name = Scope.helpWord then
    match value with
    | some v => .error (.usage (.unexpectedValue v))
    | none => .error (l.askHelp scope)
  else match scope.flags.find? (·.long = name) with
    | some f => (l.begin f value).mapError .usage
    | none => .error (.usage (.unexpected ("--" ++ name)))

/-- Reads a word with a short name. -/
def short (l : Level) (scope : Scope) (c : Char) (value : Option String) : Except Stop Level :=
  if c = 'h' then .error (l.askHelp scope)
  else match scope.flags.find? (·.short = c) with
    | some f => (l.begin f value).mapError .usage
    | none => .error (.usage (.unexpected (String.ofList ['-', c])))

/-- Reads a word without dashes. -/
def plain (l : Level) (scope : Scope) (w : String) : Except Stop Level :=
  match l.last with
  | some (f, none) => .ok { l with last := some (f, some w) }
  | _ => .error (.usage (scope.stray w))

end Level

/-! ### The whole command line -/

/-- What help is asked for by the words after `help`. -/
def helpTopic : List String → Stop
  | [] => .help .program
  | w :: rest =>
    let further (topic : Topic) : Stop :=
      match rest with
      | [] => .help topic
      | x :: _ => .usage (.unknownVerb x)
    if w = Scope.helpWord then further .help
    else match Verb.ofName? w with
      | some v => further (.verb v)
      | none => .usage (.unknownVerb w)

/-- The verb that a word in front of all verbs is, unless it is the value of an option. -/
def Level.verb? (l : Level) (scope : Scope) (w : String) : Option Verb :=
  if scope.isNone && !l.waits then Verb.ofName? w else none

/-- Reads the words of one place, up to the verb or to the end. Returns the verb and the words
after it. -/
def readWords (scope : Scope) :
    Level → List String → Except Stop (Level × Option (Verb × List String))
  | l, [] => .ok (l, none)
  | l, w :: rest =>
    match l.verb? scope w with
    -- The last option before the verb stays unchecked: faults after the verb come first.
    | some v => .ok (l, some (v, rest))
    | none =>
      if scope.isNone ∧ !l.waits ∧ w = Scope.helpWord then .error (helpTopic rest)
      else match Word.ofString w with
        | .separator =>
          -- No command takes plain words, so nothing can follow.
          match rest with
          | [] => .ok (l, none)
          | x :: _ => .error (.usage (scope.afterSeparator x))
        | .long name value => do readWords scope (← l.long scope name value) rest
        | .short c value => do readWords scope (← l.short scope c value) rest
        | .plain => do readWords scope (← l.plain scope w) rest

/-- The value of an option that must be given. -/
def Verb.require (v : Verb) (f : Flag) (bound : List Binding) : Except UsageFault f.Value :=
  match valueOf? f bound with
  | some value => .ok value
  | none => .error (.requiredMissing (v.required.filter fun g => (valuesOf g bound).isEmpty))

/-- The command that a verb and its options make. -/
def Verb.command (v : Verb) (bound : List Binding) : Except UsageFault Command :=
  match v with
  | .add => do
    return .add ⟨← v.require .user bound, ← v.require .deviceToken bound,
      ← v.require .deviceType bound⟩
  | .remove => do return .remove (← v.require .user bound) (← v.require .deviceToken bound)
  | .get => do return .get (← v.require .user bound) (← v.require .deviceToken bound)
  | .list => do return .list (← v.require .user bound)
  | .notify => .ok (.notify (.ofBindings bound))
  | .status => .ok .status

namespace Invocation

/-- What is asked for by a verb, its options and the options in front of it, which count only
where they are not given again. The words after the verb are checked first. -/
def assemble (outer : Level) (v : Verb) (inner : Level) : Except UsageFault Invocation := do
  let own ← inner.settle
  let command ← v.command own
  let before ← outer.settle
  return ⟨valueOf? .host own <|> valueOf? .host before,
    valueOf? .port own <|> valueOf? .port before, command⟩

/-- The fault of a command line without a verb. -/
def withoutVerb (outer : Level) : UsageFault :=
  match outer.settle with
  | .error fault => fault
  | .ok [] => .nothing
  | .ok _ => .verbMissing

/-- What a command line asks for. -/
def parse (args : List String) : Except Stop Invocation := do
  match ← readWords none Level.start args with
  | (outer, none) => .error (.usage (withoutVerb outer))
  | (outer, some (v, rest)) =>
    let (inner, _) ← readWords (some v) Level.start rest
    (assemble outer v inner).mapError .usage

end Invocation

end PushRegistry.CommandLine
