import PushRegistry.Proofs.CommandLine.Delegation

/-!
# `PushRegistry.Proofs.CommandLine.OptionOrder`: the order of options

A command line is a sequence of words, and the words are read from left to right. What they ask for
is a set of options all the same: `run_notify_perm` says that the options of a notification can be
given in any order, as long as the users stay in their order and the devices in theirs.

An `Occurrence` is an option as it is written, with its value, in one of the five ways to write it.
Reading the words of occurrences is gathering their values one after the other
(`readWords_occurrences`), and what is gathered depends only on the values that each option was
given, in their order (`gather_congr`).
-/

set_option autoImplicit false

namespace PushRegistry.CommandLine

open PushRegistry.Config (File)
open PushRegistry.Config.Environment (Variable)
open PushRegistry.Http (Peer)

variable {σ : Type}

/-! ### Occurrences -/

/-- How an option is written. -/
inductive Spelling where
  /-- The long name and the value in words of their own. -/
  | long
  /-- The long name, an equals sign and the value. -/
  | longAssigned
  /-- The short name and the value in words of their own. -/
  | short
  /-- The short name with the value behind it. -/
  | shortAttached
  /-- The short name, an equals sign and the value. -/
  | shortAssigned
  deriving DecidableEq, Repr

/-- Whether a value can be written in a way: as a word of its own it must not look like an option,
and right behind a short name it must neither be empty nor begin with an equals sign. -/
def Spelling.Fits : Spelling → String → Prop
  | .long, value => Word.ofString value = .plain
  | .longAssigned, _ => True
  | .short, value => Word.ofString value = .plain
  | .shortAttached, value => value ≠ "" ∧ value.toList.head? ≠ some '='
  | .shortAssigned, _ => True

/-- An option as it is written in a place, with its value. -/
structure Occurrence (scope : Scope) where
  flag : Flag
  spelling : Spelling
  value : String
  known : flag ∈ scope.flags
  fits : spelling.Fits value

namespace Occurrence

variable {scope : Scope}

/-- The words of an occurrence. -/
def words (o : Occurrence scope) : List String :=
  match o.spelling with
  | .long => ["--" ++ o.flag.long, o.value]
  | .longAssigned => ["--" ++ o.flag.long ++ "=" ++ o.value]
  | .short => [String.ofList ['-', o.flag.short], o.value]
  | .shortAttached => [String.ofList ('-' :: o.flag.short :: o.value.toList)]
  | .shortAssigned => [String.ofList ('-' :: o.flag.short :: '=' :: o.value.toList)]

/-- Where the occurrence leads, given the options before it. A value in a word of its own is not
checked yet. -/
def next (o : Occurrence scope) (bound : List Binding) : Except UsageFault Level :=
  match o.spelling with
  | .long => .ok ⟨bound, some (o.flag, some o.value)⟩
  | .short => .ok ⟨bound, some (o.flag, some o.value)⟩
  | _ => (Level.bind bound o.flag o.value).map fun bound => ⟨bound, none⟩

/-- Once it is checked, every spelling binds the value in the same way. -/
theorem settle_next (o : Occurrence scope) (bound : List Binding) :
    (o.next bound >>= Level.settle) = Level.bind bound o.flag o.value := by
  unfold next
  split
  · rfl
  · rfl
  · cases Level.bind bound o.flag o.value with
    | ok bound' => rfl
    | error fault => rfl

/-- No occurrence leaves an option without a value. -/
theorem waits_of_next {o : Occurrence scope} {bound : List Binding} {l : Level}
    (h : o.next bound = .ok l) : l.waits = false := by
  unfold next at h
  split at h
  · cases h; rfl
  · cases h; rfl
  · cases hbind : Level.bind bound o.flag o.value with
    | ok bound' =>
        rw [hbind] at h
        cases h
        rfl
    | error fault =>
        rw [hbind] at h
        cases h

end Occurrence

/-- The values of occurrences, one after the other. -/
def gather {scope : Scope} (os : List (Occurrence scope)) (bound : List Binding) :
    Except UsageFault (List Binding) :=
  os.foldlM (fun bound o => Level.bind bound o.flag o.value) bound

/-! ### Words of options -/

/-- Names are unambiguous among the options of a place. -/
theorem find?_long {scope : Scope} {f : Flag} (hf : f ∈ scope.flags) :
    scope.flags.find? (·.long = f.long) = some f := by
  revert f
  cases scope with
  | none => decide
  | some v => cases v <;> decide

theorem find?_short {scope : Scope} {f : Flag} (hf : f ∈ scope.flags) :
    scope.flags.find? (·.short = f.short) = some f := by
  revert f
  cases scope with
  | none => decide
  | some v => cases v <;> decide

theorem long_ne_help (f : Flag) : f.long ≠ Scope.helpWord := by
  cases f <;> decide

theorem short_ne_help (f : Flag) : f.short ≠ 'h' := by
  cases f <;> decide

theorem ofString_long (f : Flag) : Word.ofString ("--" ++ f.long) = .long f.long none := by
  cases f <;> rfl

theorem ofString_longAssigned (f : Flag) (value : String) :
    Word.ofString ("--" ++ f.long ++ "=" ++ value) = .long f.long (some value) := by
  cases f <;> simp [Word.ofString, Flag.long, Word.assigned?]

theorem ofString_short (f : Flag) (rest : List Char) :
    Word.ofString (String.ofList ('-' :: f.short :: rest)) = .short f.short (Word.attached? rest) := by
  cases f <;> simp [Word.ofString, Flag.short]

/-- A word that begins an option is neither a verb nor the word that asks for help. -/
theorem not_keyword_of_ofString_ne_plain {w : String} (hw : Word.ofString w ≠ .plain) :
    Verb.ofName? w = none ∧ w ≠ Scope.helpWord := by
  constructor
  · cases hverb : Verb.ofName? w with
    | none => rfl
    | some v =>
        have hname : v.name = w := by simpa using List.find?_some hverb
        refine absurd ?_ hw
        rw [← hname]
        cases v <;> rfl
  · rintro rfl
    exact hw rfl

section Reading

variable {scope : Scope} {l : Level} {f : Flag} {w : String} {rest : List String}

theorem verb?_eq_none (h : Verb.ofName? w = none) : l.verb? scope w = none := by
  rw [Level.verb?, h, ite_self]

/-- A word with a long name begins its option. -/
theorem readWords_long {value : Option String} (hf : f ∈ scope.flags)
    (hw : Word.ofString w = .long f.long value) :
    readWords scope l (w :: rest)
      = (do readWords scope (← (l.begin f value).mapError .usage) rest) := by
  obtain ⟨hverb, hhelp⟩ := not_keyword_of_ofString_ne_plain (w := w) (by rw [hw]; exact nofun)
  have hlong : l.long scope f.long value = (l.begin f value).mapError .usage := by
    rw [Level.long.eq_def, if_neg (long_ne_help f), find?_long hf]
  rw [readWords.eq_def]
  dsimp only
  rw [verb?_eq_none hverb]
  simp only [hhelp, and_false, if_false, hw, hlong]

/-- A word with a short name begins its option. -/
theorem readWords_short {value : Option String} (hf : f ∈ scope.flags)
    (hw : Word.ofString w = .short f.short value) :
    readWords scope l (w :: rest)
      = (do readWords scope (← (l.begin f value).mapError .usage) rest) := by
  obtain ⟨hverb, hhelp⟩ := not_keyword_of_ofString_ne_plain (w := w) (by rw [hw]; exact nofun)
  have hshort : l.short scope f.short value = (l.begin f value).mapError .usage := by
    rw [Level.short, if_neg (short_ne_help f), find?_short hf]
  rw [readWords.eq_def]
  dsimp only
  rw [verb?_eq_none hverb]
  simp only [hhelp, and_false, if_false, hw, hshort]

/-- A plain word behind an option without a value is its value, even if it could be a verb. -/
theorem readWords_value {bound : List Binding} (hw : Word.ofString w = .plain) :
    readWords scope ⟨bound, some (f, none)⟩ (w :: rest)
      = readWords scope ⟨bound, some (f, some w)⟩ rest := by
  have hverb : Level.verb? ⟨bound, some (f, none)⟩ scope w = none := by
    rw [Level.verb?, Level.waits, Bool.not_true, Bool.and_false]
    rfl
  rw [readWords.eq_def]
  dsimp only
  rw [hverb]
  simp only [Level.waits, Bool.not_true, Bool.false_eq_true, false_and, and_false, if_false, hw]
  rfl

/-- An option with its value is checked at once. -/
theorem begin_some (raw : String) : l.begin f (some raw)
    = l.settle >>= fun bound => (Level.bind bound f raw).map fun bound => ⟨bound, none⟩ := by
  rw [Level.begin]
  cases l.settle with
  | error fault => rfl
  | ok bound =>
      show (Level.bind bound f raw >>= fun bound => (.ok ⟨bound, none⟩ : Except _ Level))
        = (Level.bind bound f raw).map _
      cases Level.bind bound f raw with
      | error fault => rfl
      | ok bound' => rfl

/-- The value right behind a short name is the rest of the word. -/
theorem attached?_eq {value : String} (hne : value ≠ "") (hhead : value.toList.head? ≠ some '=') :
    Word.attached? value.toList = some value := by
  unfold Word.attached?
  split
  · next h => exact absurd (String.toList_inj.mp h) hne
  · next h => exact absurd (by rw [h]; rfl) hhead
  · rw [String.ofList_toList]

/-- Reading an occurrence settles the option before it and goes on where the occurrence leads. -/
theorem readWords_words (o : Occurrence scope) (l : Level) (rest : List String) :
    readWords scope l (o.words ++ rest)
      = ((l.settle >>= o.next).mapError .usage >>= fun l => readWords scope l rest) := by
  obtain ⟨f, spelling, value, hf, hfits⟩ := o
  -- A value in a word of its own is left for the next option to check; the others are bound at once.
  cases spelling with
  | long =>
      show readWords scope l (("--" ++ f.long) :: value :: rest) = _
      rw [readWords_long hf (ofString_long f), Level.begin]
      cases l.settle with
      | error fault => rfl
      | ok bound => exact readWords_value hfits
  | longAssigned =>
      show readWords scope l (("--" ++ f.long ++ "=" ++ value) :: rest) = _
      rw [readWords_long hf (ofString_longAssigned f value), begin_some]
      rfl
  | short =>
      show readWords scope l (String.ofList ['-', f.short] :: value :: rest) = _
      rw [readWords_short hf (ofString_short f []), Level.begin]
      cases l.settle with
      | error fault => rfl
      | ok bound => exact readWords_value hfits
  | shortAttached =>
      have hvalue : Word.attached? value.toList = some value := attached?_eq hfits.1 hfits.2
      show readWords scope l (String.ofList ('-' :: f.short :: value.toList) :: rest) = _
      rw [readWords_short hf (ofString_short f value.toList), hvalue, begin_some]
      rfl
  | shortAssigned =>
      have hvalue : Word.attached? ('=' :: value.toList) = some value := by
        rw [Word.attached?, String.ofList_toList]
      show readWords scope l (String.ofList ('-' :: f.short :: '=' :: value.toList) :: rest) = _
      rw [readWords_short hf (ofString_short f ('=' :: value.toList)), hvalue, begin_some]
      rfl

/-- Reading occurrences is gathering their values, if nothing but them comes before the verb or the
end. The induction carries the level at which the occurrences begin. -/
theorem readWords_occurrences (os : List (Occurrence scope)) {tail : List String}
    {verb? : Option (Verb × List String)}
    (htail : ∀ l : Level, l.waits = false → readWords scope l tail = .ok (l, verb?)) {l : Level}
    (hl : l.waits = false) (bound : List Binding) (read : Option (Verb × List String)) :
    (∃ last, readWords scope l (os.flatMap Occurrence.words ++ tail) = .ok (last, read) ∧
        last.settle = .ok bound) ↔
      (l.settle >>= gather os) = .ok bound ∧ read = verb? := by
  induction os generalizing l with
  | nil =>
      have hgather : (l.settle >>= gather ([] : List (Occurrence scope))) = l.settle :=
        bind_pure l.settle
      rw [List.flatMap_nil, List.nil_append, htail l hl, hgather]
      constructor
      · rintro ⟨last, hread, hsettle⟩
        cases hread
        exact ⟨hsettle, rfl⟩
      · rintro ⟨hsettle, rfl⟩
        exact ⟨l, rfl, hsettle⟩
  | cons o os ih =>
      rw [List.flatMap_cons, List.append_assoc, readWords_words]
      cases l.settle with
      | error fault => exact iff_of_false (fun ⟨_, h, _⟩ => nomatch h) (fun h => nomatch h.1)
      | ok own =>
          have hgather : ((.ok own : Except UsageFault _) >>= gather (o :: os))
              = o.next own >>= Level.settle >>= gather os := by
            rw [o.settle_next]
            rfl
          rw [hgather]
          show (∃ last, ((o.next own).mapError Stop.usage >>= fun l => readWords scope l _)
            = .ok (last, read) ∧ _) ↔ _
          cases hnext : o.next own with
          | error fault => exact iff_of_false (fun ⟨_, h, _⟩ => nomatch h) (fun h => nomatch h.1)
          | ok l' => exact ih (Occurrence.waits_of_next hnext)

end Reading

/-! ### The whole command line -/

/-- What it takes for the options to be put together. -/
theorem assemble_eq_ok_iff (outer : Level) (v : Verb) (inner : Level) (i : Invocation) :
    Invocation.assemble outer v inner = .ok i ↔
      ∃ own command before, inner.settle = .ok own ∧ v.command own = .ok command ∧
        outer.settle = .ok before ∧ i = ⟨valueOf? .host own <|> valueOf? .host before,
          valueOf? .port own <|> valueOf? .port before, command⟩ := by
  unfold Invocation.assemble
  cases inner.settle with
  | error fault => simp [bind, Except.bind]
  | ok own =>
      cases hcommand : v.command own with
      | error fault => simp [hcommand, bind, Except.bind]
      | ok command =>
          cases outer.settle with
          | error fault => simp [hcommand, bind, Except.bind]
          | ok before =>
              simp [hcommand, bind, Except.bind, pure, Except.pure, @eq_comm _ i]

/-- What it takes for a command line to be read to the end. -/
theorem parse_eq_ok_iff (args : List String) (i : Invocation) :
    Invocation.parse args = .ok i ↔
      ∃ outer v rest inner read, readWords none Level.start args = .ok (outer, some (v, rest)) ∧
        readWords (some v) Level.start rest = .ok (inner, read) ∧
        Invocation.assemble outer v inner = .ok i := by
  unfold Invocation.parse
  cases readWords none Level.start args with
  | error stop => simp [bind, Except.bind]
  | ok found =>
      obtain ⟨outer, _ | ⟨v, rest⟩⟩ := found
      · simp [bind, Except.bind]
      · cases hinner : readWords (some v) Level.start rest with
        | error stop => simp [hinner, bind, Except.bind]
        | ok found =>
            obtain ⟨inner, read⟩ := found
            cases hassemble : Invocation.assemble outer v inner with
            | error fault => simp [hinner, hassemble, bind, Except.bind, Except.mapError]
            | ok i' => simp [hinner, hassemble, bind, Except.bind, Except.mapError]

/-- A command line with a notification: options, the verb and further options. -/
def notifyLine (before : List (Occurrence none)) (after : List (Occurrence (some .notify))) :
    List String :=
  before.flatMap Occurrence.words ++ Verb.notify.name :: after.flatMap Occurrence.words

/-- What is asked for by a notification is what its options say. -/
theorem parse_notifyLine_iff (before : List (Occurrence none))
    (after : List (Occurrence (some .notify))) (i : Invocation) :
    Invocation.parse (notifyLine before after) = .ok i ↔
      ∃ outer own, gather before [] = .ok outer ∧ gather after [] = .ok own ∧
        i = ⟨valueOf? .host own <|> valueOf? .host outer,
          valueOf? .port own <|> valueOf? .port outer, .notify (.ofBindings own)⟩ := by
  have hverb : ∀ l : Level, l.waits = false →
      readWords none l (Verb.notify.name :: after.flatMap Occurrence.words)
        = .ok (l, some (.notify, after.flatMap Occurrence.words)) := by
    intro l hl
    have hnotify : l.verb? none Verb.notify.name = some .notify := by
      rw [Level.verb?, hl]
      rfl
    rw [readWords.eq_def]
    dsimp only
    rw [hnotify]
  have hend : ∀ l : Level, l.waits = false → readWords (some .notify) l [] = .ok (l, none) :=
    fun _ _ => rfl
  have houter := readWords_occurrences before hverb (l := Level.start) rfl
  have hown := readWords_occurrences after hend (l := Level.start) rfl
  rw [List.append_nil] at hown
  rw [parse_eq_ok_iff]
  constructor
  · -- The words in front lead to the verb, so what is read behind it is fixed.
    rintro ⟨outer, v, rest, inner, read, hreadOuter, hreadInner, hassemble⟩
    obtain ⟨own, command, bound, hsettle, hcommand, hbound, rfl⟩ :=
      (assemble_eq_ok_iff outer v inner i).mp hassemble
    obtain ⟨hgather, hfound⟩ := (houter bound _).mp ⟨outer, hreadOuter, hbound⟩
    cases hfound
    cases hcommand
    exact ⟨bound, own, hgather, ((hown own _).mp ⟨inner, hreadInner, hsettle⟩).1, rfl⟩
  · rintro ⟨bound, own, hbound, hgather, rfl⟩
    obtain ⟨outer, hreadOuter, hsettleOuter⟩ := (houter bound _).mpr ⟨hbound, rfl⟩
    obtain ⟨inner, hreadInner, hsettleInner⟩ := (hown own _).mpr ⟨hgather, rfl⟩
    exact ⟨outer, .notify, _, inner, none, hreadOuter, hreadInner,
      (assemble_eq_ok_iff outer .notify inner _).mpr
        ⟨own, _, bound, hsettleInner, rfl, hsettleOuter, rfl⟩⟩

/-! ### What is gathered -/

section Gathering

variable {scope : Scope}

/-- The values that an option is given by occurrences, in their order. -/
def given (f : Flag) (os : List (Occurrence scope)) : List f.Value :=
  (os.filter (·.flag = f)).filterMap fun o => (f.read o.value).toOption

theorem bind_eq_ok_iff (bound : List Binding) (f : Flag) (raw : String) (bound' : List Binding) :
    Level.bind bound f raw = .ok bound' ↔
      (f.isRepeatable = false → valuesOf f bound = []) ∧
        ∃ value, f.read raw = .ok value ∧ bound' = bound ++ [⟨f, value⟩] := by
  unfold Level.bind
  by_cases hrepeated : !f.isRepeatable ∧ !(valuesOf f bound).isEmpty
  · rw [if_pos hrepeated]
    refine iff_of_false nofun fun h => ?_
    simp [h.1 (by simpa using hrepeated.1)] at hrepeated
  · rw [if_neg hrepeated]
    have hfree : f.isRepeatable = false → valuesOf f bound = [] := by
      intro hf
      simpa [hf] using hrepeated
    cases f.read raw with
    | ok value => simpa [@eq_comm _ bound'] using fun _ => hfree
    | error fault => simp

theorem valuesOf_append (f : Flag) (bound bound' : List Binding) :
    valuesOf f (bound ++ bound') = valuesOf f bound ++ valuesOf f bound' :=
  List.filterMap_append

theorem valuesOf_self {f : Flag} (value : f.Value) : valuesOf f [⟨f, value⟩] = [value] := by
  simp [valuesOf]

theorem valuesOf_other {f g : Flag} (h : g ≠ f) (value : g.Value) : valuesOf f [⟨g, value⟩] = [] := by
  simp [valuesOf, h]

/-- One more value for an option counts as much as one more occurrence of it. -/
theorem length_valuesOf_append (o : Occurrence scope) (os : List (Occurrence scope))
    (bound : List Binding) (value : o.flag.Value) (f : Flag) :
    (valuesOf f (bound ++ [⟨o.flag, value⟩])).length + (os.filter (·.flag = f)).length
      = (valuesOf f bound).length + ((o :: os).filter (·.flag = f)).length := by
  rw [valuesOf_append, List.length_append]
  by_cases hflag : o.flag = f
  · subst hflag
    rw [valuesOf_self, List.filter_cons_of_pos (by simp)]
    simp only [List.length_cons, List.length_nil]
    omega
  · rw [valuesOf_other hflag, List.filter_cons_of_neg (by simpa using hflag)]
    rfl

/-- The options that must not have a second value have none. -/
def Single (bound : List Binding) : Prop :=
  ∀ f, f.isRepeatable = false → (valuesOf f bound).length ≤ 1

theorem single_nil : Single [] := fun _ _ => Nat.zero_le 1

/-- An option gets a value only where it may have one. -/
theorem single_bind {bound bound' : List Binding} {f : Flag} {raw : String} (h : Single bound)
    (hbind : Level.bind bound f raw = .ok bound') : Single bound' := by
  obtain ⟨hfree, value, -, rfl⟩ := (bind_eq_ok_iff _ _ _ _).mp hbind
  intro g hg
  rw [valuesOf_append, List.length_append]
  by_cases hflag : f = g
  · subst hflag
    rw [hfree hg, valuesOf_self]
    exact le_rfl
  · rw [valuesOf_other hflag]
    exact h g hg

/-- Each option has the values that it had before and those that it is given. -/
theorem valuesOf_gather {os : List (Occurrence scope)} {bound own : List Binding}
    (h : gather os bound = .ok own) (f : Flag) :
    valuesOf f own = valuesOf f bound ++ given f os := by
  induction os generalizing bound with
  | nil =>
      cases h
      exact (List.append_nil _).symm
  | cons o os ih =>
      change (Level.bind bound o.flag o.value >>= gather os) = .ok own at h
      cases hbind : Level.bind bound o.flag o.value with
      | error fault =>
          rw [hbind] at h
          cases h
      | ok bound' =>
          rw [hbind] at h
          obtain ⟨-, value, hread, rfl⟩ := (bind_eq_ok_iff _ _ _ _).mp hbind
          rw [ih h, valuesOf_append, List.append_assoc]
          -- The value just bound is the first of those that are given, if it is one of this option.
          congr 1
          by_cases hflag : o.flag = f
          · subst hflag
            rw [valuesOf_self]
            simp [given, hread, Except.toOption]
          · rw [valuesOf_other hflag]
            simp [given, hflag]

/-- Gathering succeeds exactly if every value can be read and no option gets a second value that
must not have one. -/
theorem exists_gather_iff (os : List (Occurrence scope)) {bound : List Binding}
    (hbound : Single bound) :
    (∃ own, gather os bound = .ok own) ↔
      (∀ o ∈ os, ∃ value, o.flag.read o.value = .ok value) ∧
        ∀ f, f.isRepeatable = false →
          (valuesOf f bound).length + (os.filter (·.flag = f)).length ≤ 1 := by
  induction os generalizing bound with
  | nil => exact iff_of_true ⟨bound, rfl⟩ ⟨nofun, hbound⟩
  | cons o os ih =>
      have hgather : gather (o :: os) bound = (Level.bind bound o.flag o.value >>= gather os) := rfl
      rw [hgather, List.forall_mem_cons]
      constructor
      · rintro ⟨own, hown⟩
        cases hbind : Level.bind bound o.flag o.value with
        | error fault =>
            rw [hbind] at hown
            cases hown
        | ok bound' =>
            rw [hbind] at hown
            obtain ⟨hreads, hcounts⟩ := (ih (single_bind hbound hbind)).mp ⟨own, hown⟩
            obtain ⟨-, value, hread, rfl⟩ := (bind_eq_ok_iff _ _ _ _).mp hbind
            refine ⟨⟨⟨value, hread⟩, hreads⟩, fun f hf => ?_⟩
            rw [← length_valuesOf_append o os bound value f]
            exact hcounts f hf
      · rintro ⟨⟨⟨value, hread⟩, hreads⟩, hcounts⟩
        -- The first occurrence takes the only place there is, so nothing was bound before.
        have hfree : o.flag.isRepeatable = false → valuesOf o.flag bound = [] := by
          intro hflag
          have hcount := hcounts o.flag hflag
          rw [List.filter_cons_of_pos (by simp), List.length_cons] at hcount
          exact List.length_eq_zero_iff.mp (by omega)
        have hbind : Level.bind bound o.flag o.value = .ok (bound ++ [⟨o.flag, value⟩]) :=
          (bind_eq_ok_iff _ _ _ _).mpr ⟨hfree, value, hread, rfl⟩
        rw [hbind]
        refine (ih (single_bind hbound hbind)).mpr ⟨hreads, fun f hf => ?_⟩
        rw [length_valuesOf_append o os bound value f]
        exact hcounts f hf

/-- What is gathered depends only on the occurrences of each option, in their order. -/
theorem gather_congr {os os' : List (Occurrence scope)}
    (h : ∀ f, os.filter (·.flag = f) = os'.filter (·.flag = f)) {own : List Binding}
    (hown : gather os [] = .ok own) :
    ∃ own', gather os' [] = .ok own' ∧ ∀ f, valuesOf f own' = valuesOf f own := by
  obtain ⟨hreads, hcounts⟩ := (exists_gather_iff os single_nil).mp ⟨own, hown⟩
  have hreads' : ∀ o ∈ os', ∃ value, o.flag.read o.value = .ok value := by
    intro o ho
    have hmem : o ∈ os'.filter (·.flag = o.flag) := List.mem_filter.mpr ⟨ho, by simp⟩
    rw [← h] at hmem
    exact hreads o (List.mem_filter.mp hmem).1
  obtain ⟨own', hown'⟩ := (exists_gather_iff os' single_nil).mpr
    ⟨hreads', fun f hf => by rw [← h]; exact hcounts f hf⟩
  refine ⟨own', hown', fun f => ?_⟩
  rw [valuesOf_gather hown' f, valuesOf_gather hown f, given, given, h]

/-- A list with one item at most has one order. -/
theorem eq_of_perm_of_length_le_one {α : Type} {l l' : List α} (h : l.Perm l')
    (hl : l.length ≤ 1) : l = l' := by
  match l with
  | [] => exact (List.nil_perm.mp h).symm
  | [a] => exact List.singleton_perm.mp h
  | a :: b :: rest =>
      simp only [List.length_cons] at hl
      omega

/-- Another order leaves the occurrences of each option as they are, if those of repeatable options
stay in their order: of the others there is one at most. -/
theorem filter_eq_of_perm {os os' : List (Occurrence scope)} (hperm : os.Perm os')
    (hrepeated : ∀ f, f.isRepeatable = true → os.filter (·.flag = f) = os'.filter (·.flag = f))
    {own : List Binding} (hown : gather os [] = .ok own) (f : Flag) :
    os.filter (·.flag = f) = os'.filter (·.flag = f) := by
  cases hf : f.isRepeatable with
  | true => exact hrepeated f hf
  | false =>
      -- That gathering succeeded bounds the occurrences.
      have hcount := ((exists_gather_iff os single_nil).mp ⟨own, hown⟩).2 f hf
      exact eq_of_perm_of_length_le_one (hperm.filter _) (le_trans (Nat.le_add_left _ _) hcount)

/-- No option in front of the verb can be given twice. -/
theorem filter_eq_nil_of_isRepeatable {f : Flag} (hf : f.isRepeatable = true)
    (os : List (Occurrence none)) : os.filter (·.flag = f) = [] := by
  refine List.filter_eq_nil_iff.mpr fun o _ hflag => ?_
  have hsingle : ∀ g ∈ Scope.flags none, g.isRepeatable = false := by decide
  have hflag' : o.flag = f := by simpa using hflag
  rw [← hflag', hsingle o.flag o.known] at hf
  cases hf

end Gathering

/-! ### Any order -/

/-- The options of a notification can be given in any order, as long as the users stay in their
order and the devices in theirs: the same is asked for, and every run ends in the same way, with the
same requests on the way. -/
theorem run_notify_perm [Http.Web] {before before' : List (Occurrence none)}
    {after after' : List (Occurrence (some .notify))} (hbefore : before.Perm before')
    (hafter : after.Perm after')
    (husers : after.filter (·.flag = .recipient) = after'.filter (·.flag = .recipient))
    (hdevices : after.filter (·.flag = .device) = after'.filter (·.flag = .device))
    {i : Invocation} (hparse : Invocation.parse (notifyLine before after) = .ok i)
    (peer : Peer σ) (files : List File) (given : List Variable) (s : σ) :
    Invocation.parse (notifyLine before' after') = .ok i ∧
      run peer files given (notifyLine before' after') s
        = run peer files given (notifyLine before after) s ∧
      sent peer files given (notifyLine before' after') s
        = sent peer files given (notifyLine before after) s := by
  obtain ⟨outer, own, houter, hown, rfl⟩ := (parse_notifyLine_iff before after i).mp hparse
  have hrepeatedOuter : ∀ f, f.isRepeatable = true →
      before.filter (·.flag = f) = before'.filter (·.flag = f) := by
    intro f hf
    rw [filter_eq_nil_of_isRepeatable hf, filter_eq_nil_of_isRepeatable hf]
  have hrepeatedOwn : ∀ f, f.isRepeatable = true →
      after.filter (·.flag = f) = after'.filter (·.flag = f) := by
    have hcases : ∀ f : Flag, f.isRepeatable = true → f = .recipient ∨ f = .device := by
      intro f hf
      cases f <;> simp_all [Flag.isRepeatable]
    intro f hf
    obtain rfl | rfl := hcases f hf
    · exact husers
    · exact hdevices
  obtain ⟨outer', houter', hsameOuter⟩ :=
    gather_congr (filter_eq_of_perm hbefore hrepeatedOuter houter) houter
  obtain ⟨own', hown', hsameOwn⟩ := gather_congr (filter_eq_of_perm hafter hrepeatedOwn hown) hown
  have hparse' : Invocation.parse (notifyLine before' after')
      = .ok ⟨valueOf? .host own <|> valueOf? .host outer,
        valueOf? .port own <|> valueOf? .port outer, .notify (.ofBindings own)⟩ := by
    refine (parse_notifyLine_iff before' after' _).mpr ⟨outer', own', houter', hown', ?_⟩
    simp only [valueOf?, Announcement.ofBindings, hsameOuter, hsameOwn]
  refine ⟨hparse', ?_, ?_⟩
  · rw [run, run, hparse, hparse']
  · rw [sent, sent, run, run, hparse, hparse']

section Local

attribute [local instance] Http.Web.withoutTables

/-- A badge that is moved in front of two users, a device and a port. -/
theorem run_notify_perm_badge :
    let host : Occurrence none := ⟨.host, .short, "example.org", by decide, rfl⟩
    let badge : Occurrence (some .notify) := ⟨.badge, .longAssigned, "3", by decide, trivial⟩
    let alice : Occurrence (some .notify) := ⟨.recipient, .short, "alice", by decide, rfl⟩
    let token : Occurrence (some .notify) := ⟨.device, .long, "status", by decide, rfl⟩
    let bob : Occurrence (some .notify) :=
      ⟨.recipient, .shortAttached, "bob", by decide, by decide, by decide⟩
    let port : Occurrence (some .notify) := ⟨.port, .shortAssigned, "80", by decide, trivial⟩
    let line := ["-H", "example.org", "notify", "-u", "alice", "--device", "status", "-ubob", "-p=80",
      "--badge=3"]
    let other := ["-H", "example.org", "notify", "--badge=3", "-u", "alice", "--device", "status",
      "-ubob", "-p=80"]
    notifyLine [host] [alice, token, bob, port, badge] = line ∧
      notifyLine [host] [badge, alice, token, bob, port] = other ∧
      run Peer.scripted [] [] other ⟨[], []⟩ = run Peer.scripted [] [] line ⟨[], []⟩ := by
  have hparse : Invocation.parse ["-H", "example.org", "notify", "-u", "alice", "--device",
      "status", "-ubob", "-p=80", "--badge=3"]
      = .ok ⟨some "example.org", some 80,
        .notify ⟨["alice", "bob"], ["status"], none, some 3, none, none⟩⟩ := rfl
  intro host badge alice token bob port line other
  have hperm := List.perm_append_singleton badge [alice, token, bob, port]
  have hline : notifyLine [host] [alice, token, bob, port, badge] = line := by decide
  have hother : notifyLine [host] [badge, alice, token, bob, port] = other := by decide
  refine ⟨hline, hother, ?_⟩
  change Invocation.parse line = _ at hparse
  rw [← hline] at hparse
  rw [← hline, ← hother]
  exact (run_notify_perm (List.Perm.refl [host]) hperm rfl rfl hparse Peer.scripted [] []
    ⟨[], []⟩).2.1

end Local

end PushRegistry.CommandLine
