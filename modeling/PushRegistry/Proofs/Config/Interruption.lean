import PushRegistry.Proofs.Config.Layering

/-!
# `PushRegistry.Proofs.Config.Interruption`: a file of variables that breaks off

A file of variables is read line by line, and nobody hears of a line that cannot be read: reading
ends there, and the variables of the lines above stay. Whether a line can be read does not depend on
any variable (`isSome_readValue`), so `Readable` is a property of the line alone.

Take a line that assigns a value by itself. `Sources.load_line` says what it is worth:

* if all lines above can be read, the line is in force: settings are the same as if the variable had
  been in the environment from the start;
* if a line above cannot be read, neither this line nor any other below has a say in the settings,
  and no error tells of it.

The first part needs that the lines above are `Apart` from the variable. A line that refers to it
sees it only if it is in the environment, and a line that sets the same field under another name is
laid over it or under it, as the variables stand.
-/

set_option autoImplicit false

namespace PushRegistry.Config.Dotenv

open PushRegistry.Config.Environment (Variable)
open PushRegistry.Text

/-! ### Lines that can be read -/

/-- Whether a value can be read is decided by its text: neither the variables nor what was read
before has a say in it. -/
theorem isSome_readValue (scope other : Scope) {mode : Mode} {cs : List Char}
    (out out' : List Char) :
    (readValue scope mode out cs).isSome = (readValue other mode out' cs).isSome := by
  induction cs generalizing mode out out' with
  | nil =>
      cases mode with
      | name quoted acc => cases quoted <;> simp [readValue]
      | escape quoted => cases quoted <;> simp [readValue]
      | plain | ended | single | double | braced quoted acc => simp [readValue]
  | cons c rest ih =>
      -- Both take the same branch at each character.
      cases mode with
      | plain | ended | single | double =>
          simp only [readValue]
          split_ifs <;> first | rfl | exact ih _ _
      | escape quoted =>
          simp only [readValue]
          split_ifs <;> first | rfl | exact ih _ _
      | name quoted acc =>
          simp only [readValue]
          split_ifs <;> exact ih _ _
      | braced quoted acc =>
          simp only [readValue]
          split_ifs <;> exact ih _ _

theorem Line.read_eq_bad_iff (scope other : Scope) (line : List Char) :
    Line.read scope line = .bad ↔ Line.read other line = .bad := by
  simp only [Line.read]
  split
  · exact Iff.rfl
  · cases target? ((trimEnd line).dropWhile isBlank) with
    | none => exact Iff.rfl
    | some w =>
        obtain ⟨name, text⟩ := w
        dsimp only
        split
        · exact Iff.rfl
        · have hsame : (readValue scope .plain [] text).isSome
              = (readValue other .plain [] text).isSome := isSome_readValue scope other [] []
          -- Either both values can be read, or neither.
          cases hscope : readValue scope .plain [] text with
          | none =>
              rw [hscope, Option.isSome_none, eq_comm, Option.isSome_eq_false_iff,
                Option.isNone_iff_eq_none] at hsame
              rw [hsame]
          | some value =>
              rw [hscope, Option.isSome_some, eq_comm, Option.isSome_iff_exists] at hsame
              obtain ⟨value', hother⟩ := hsame
              rw [hother]
              exact iff_of_false Line.noConfusion Line.noConfusion

/-- What a line does depends on the variables that its value refers to, and on no others. -/
theorem Line.read_eq_of_references {scope other : Scope} {line : List Char}
    (h : ∀ w ∈ written? line, ∀ r ∈ references .plain w.2,
      scope.substitute r = other.substitute r) :
    Line.read scope line = Line.read other line := by
  simp only [Line.read, written?] at h ⊢
  split
  · rfl
  next hcs =>
    rw [if_neg hcs] at h
    cases htarget : target? ((trimEnd line).dropWhile isBlank) with
    | none => rfl
    | some w =>
        obtain ⟨name, text⟩ := w
        dsimp only
        rw [readValue_eq_of_references (h (name, text) htarget)]

/-- A line that is a text and not malformed. -/
def Readable (line? : Option (List Char)) : Prop :=
  ∃ line ∈ line?, Line.read ⟨[], []⟩ line ≠ .bad

instance (line? : Option (List Char)) : Decidable (Readable line?) :=
  match line? with
  | none => .isFalse (by simp [Readable])
  | some line => decidable_of_iff (Line.read ⟨[], []⟩ line ≠ .bad) (by simp [Readable])

/-- The name that a line assigns to, and the text of the value. -/
def assigned? (line? : Option (List Char)) : Option (String × List Char) := line?.bind written?

/-- A line that assigns a value by itself, whatever the variables are. -/
def Assigns (line : List Char) (name value : String) : Prop :=
  ∀ scope, Line.read scope line = .assign (name, value)

/-- A line without references assigns the same value everywhere. -/
theorem assigns_of_references {line : List Char} {name value : String}
    (hread : Line.read ⟨[], []⟩ line = .assign (name, value))
    (h : ∀ w ∈ written? line, references .plain w.2 = []) : Assigns line name value := by
  intro scope
  rw [← hread]
  refine Line.read_eq_of_references fun w hw r hr => ?_
  rw [h w hw] at hr
  cases hr

/-! ### Where a file ends -/

/-- A line that cannot be read ends the file. -/
theorem run_cons_of_not_readable {line? : Option (List Char)} (h : ¬ Readable line?)
    (scope : Scope) (rest : List (Option (List Char))) :
    run scope (line? :: rest) = some scope.environment := by
  cases line? with
  | none => rfl
  | some line =>
      have hbad : Line.read ⟨[], []⟩ line = .bad := by
        by_contra hread
        exact h ⟨line, rfl, hread⟩
      rw [run, (Line.read_eq_bad_iff scope ⟨[], []⟩ line).mpr hbad]

/-- Nothing below a line that cannot be read has a say in what is read. -/
theorem run_append_of_not_readable {lines : List (Option (List Char))}
    (h : ∃ l ∈ lines, ¬ Readable l) (scope : Scope) (rest rest' : List (Option (List Char))) :
    run scope (lines ++ rest) = run scope (lines ++ rest') := by
  induction lines generalizing scope with
  | nil =>
      obtain ⟨l, hl, -⟩ := h
      cases hl
  | cons line? lines ih =>
      by_cases hreadable : Readable line?
      · have hlater : ∃ l ∈ lines, ¬ Readable l := by
          obtain ⟨l, hl, hbad⟩ := h
          rcases List.mem_cons.mp hl with rfl | hl
          · exact absurd hreadable hbad
          · exact ⟨l, hl, hbad⟩
        obtain ⟨line, rfl, hread⟩ := hreadable
        simp only [List.cons_append, run]
        split
        · exact ih hlater _
        · rfl
        · rw [ih hlater]
      · rw [List.cons_append, List.cons_append, run_cons_of_not_readable hreadable,
          run_cons_of_not_readable hreadable]

/-- A file is read up to the first line that cannot be read. -/
theorem exists_readable_append (lines : List (Option (List Char))) :
    ∃ front tail, lines = front ++ tail ∧ (∀ l ∈ front, Readable l) ∧
      ∀ scope, run scope tail = some scope.environment := by
  induction lines with
  | nil => exact ⟨[], [], rfl, List.forall_mem_nil _, fun scope => rfl⟩
  | cons line? lines ih =>
      by_cases hreadable : Readable line?
      · obtain ⟨front, tail, rfl, hfront, htail⟩ := ih
        exact ⟨line? :: front, tail, rfl, List.forall_mem_cons.mpr ⟨hreadable, hfront⟩, htail⟩
      · exact ⟨[], line? :: lines, rfl, List.forall_mem_nil _, fun scope =>
          run_cons_of_not_readable hreadable scope lines⟩

/-! ### One variable more -/

/-- Two scopes came through the same lines, and the variables with a property have the same values
in their environments. -/
structure Scope.AgreesOn (p : String → Prop) (scope other : Scope) : Prop where
  earlier : scope.earlier = other.earlier
  lookup : ∀ name, p name → scope.environment.lookup name = other.environment.lookup name

/-- All variables that a line refers to or assigns have a property. -/
def UsesOnly (p : String → Prop) (line? : Option (List Char)) : Prop :=
  ∀ w ∈ assigned? line?, p w.1 ∧ ∀ r ∈ references .plain w.2, p (String.ofList r)

theorem Scope.AgreesOn.read_eq {p : String → Prop} {scope other : Scope}
    (h : scope.AgreesOn p other) {line : List Char} (hline : UsesOnly p (some line)) :
    Line.read scope line = Line.read other line := by
  refine Line.read_eq_of_references fun w hw r hr => ?_
  have hlookup := h.lookup _ ((hline w hw).2 r hr)
  rw [Scope.substitute, Scope.substitute, hlookup, h.earlier]

/-- What an assignment does that does not stop the program. -/
theorem run_cons_of_assign {scope : Scope} {line : List Char} {v : Variable}
    (hread : Line.read scope line = .assign v) {rest : List (Option (List Char))}
    (hruns : run scope (some line :: rest) ≠ none) :
    ((scope.environment.lookup v.1).isSome ∨ isSettable v) ∧
      run scope (some line :: rest)
        = run ⟨addVariable scope.environment v, v :: scope.earlier⟩ rest := by
  rw [run, hread] at hruns ⊢
  dsimp only at hruns ⊢
  by_cases hset : (scope.environment.lookup v.1).isSome ∨ isSettable v
  · exact ⟨hset, if_pos hset⟩
  · rw [if_neg hset] at hruns
    exact absurd rfl hruns

/-- Scopes that agree on what the lines use get the same variables from them. -/
theorem run_append_of_agreesOn {p : String → Prop} {scope other : Scope}
    (h : scope.AgreesOn p other) {lines rest : List (Option (List Char))}
    (hlines : ∀ l ∈ lines, Readable l ∧ UsesOnly p l) (hruns : run scope (lines ++ rest) ≠ none) :
    ∃ added earlier, (∀ v ∈ added, ∃ l ∈ lines, ∃ w ∈ assigned? l, w.1 = v.1) ∧
      run scope (lines ++ rest) = run ⟨scope.environment ++ added, earlier⟩ rest ∧
      run other (lines ++ rest) = run ⟨other.environment ++ added, earlier⟩ rest := by
  induction lines generalizing scope other with
  | nil =>
      refine ⟨[], scope.earlier, List.forall_mem_nil _, ?_, ?_⟩
      · rw [List.nil_append, List.append_nil]
      · rw [List.nil_append, List.append_nil, h.earlier]
  | cons line? lines ih =>
      obtain ⟨⟨⟨line, rfl, hread⟩, huses⟩, hrest⟩ := List.forall_mem_cons.mp hlines
      have hsame := h.read_eq huses
      have hwiden : ∀ {added : List Variable},
          (∀ v ∈ added, ∃ l ∈ lines, ∃ w ∈ assigned? l, w.1 = v.1) →
          ∀ v ∈ added, ∃ l ∈ some line :: lines, ∃ w ∈ assigned? l, w.1 = v.1 := by
        intro added hadded v hv
        obtain ⟨l, hl, hw⟩ := hadded v hv
        exact ⟨l, List.mem_cons_of_mem _ hl, hw⟩
      rw [List.cons_append] at hruns ⊢
      cases hscope : Line.read scope line with
      | bad => exact absurd ((Line.read_eq_bad_iff scope ⟨[], []⟩ line).mp hscope) hread
      | empty =>
          rw [run, hscope] at hruns ⊢
          obtain ⟨added, earlier, hadded, hboth⟩ := ih h hrest hruns
          refine ⟨added, earlier, hwiden hadded, ?_⟩
          rw [run, ← hsame, hscope]
          exact hboth
      | assign v =>
          obtain ⟨text, hwritten, -⟩ := Line.read_eq_assign hscope
          have hname : p v.1 := (huses (v.1, text) hwritten).1
          obtain ⟨hset, hrun⟩ := run_cons_of_assign hscope hruns
          have hagrees : Scope.AgreesOn p ⟨addVariable scope.environment v, v :: scope.earlier⟩
              ⟨addVariable other.environment v, v :: other.earlier⟩ := by
            refine ⟨by rw [h.earlier], fun name hp => ?_⟩
            rw [lookup_addVariable, lookup_addVariable, h.lookup name hp]
          obtain ⟨added, earlier, hadded, hboth⟩ := ih hagrees hrest (hrun ▸ hruns)
          -- The variable is new in both environments or in neither.
          have hnew : ∃ new, (∀ w ∈ new, w = v) ∧
              addVariable scope.environment v = scope.environment ++ new ∧
              addVariable other.environment v = other.environment ++ new := by
            rw [addVariable, addVariable, h.lookup _ hname]
            split
            · exact ⟨[], List.forall_mem_nil _, by simp, by simp⟩
            · exact ⟨[v], fun w hw => List.mem_singleton.mp hw, rfl, rfl⟩
          obtain ⟨new, hall, hscope', hother'⟩ := hnew
          have hrun' : run other (some line :: (lines ++ rest))
              = run ⟨addVariable other.environment v, v :: other.earlier⟩ (lines ++ rest) := by
            rw [h.lookup _ hname] at hset
            rw [run, ← hsame, hscope]
            exact if_pos hset
          refine ⟨new ++ added, earlier, ?_, ?_⟩
          · intro w hw
            rcases List.mem_append.mp hw with hw | hw
            · rw [hall w hw]
              exact ⟨some line, List.mem_cons_self, _, hwritten, rfl⟩
            · exact hwiden hadded w hw
          · rw [hrun, hrun', ← List.append_assoc, ← List.append_assoc, ← hscope', ← hother']
            exact hboth

/-- The same from scopes that agree on everything, up to the end of the file. -/
theorem run_of_agreesOn {scope other : Scope} (h : scope.AgreesOn (fun _ => True) other)
    {lines : List (Option (List Char))} (hruns : run scope lines ≠ none) :
    ∃ added, run scope lines = some (scope.environment ++ added) ∧
      run other lines = some (other.environment ++ added) := by
  obtain ⟨front, tail, rfl, hfront, htail⟩ := exists_readable_append lines
  obtain ⟨added, earlier, -, hscope, hother⟩ := run_append_of_agreesOn h
    (fun l hl => ⟨hfront l hl, fun w _ => ⟨trivial, fun r _ => trivial⟩⟩) hruns
  exact ⟨added, by rw [hscope, htail], by rw [hother, htail]⟩

/-- A variable that a line assigns, put into the environment beforehand, comes before what the lines
above assign. Nothing else changes. -/
theorem run_given_append {given : List Variable} {name value : String}
    {before : List (Option (List Char))} {line : List Char}
    (hline : Assigns line name value) (hgiven : given.lookup name = none)
    (hbefore : ∀ l ∈ before, Readable l ∧ UsesOnly (· ≠ name) l)
    {after : List (Option (List Char))}
    (hruns : run ⟨given, []⟩ (before ++ some line :: after) ≠ none) :
    ∃ front back, (∀ v ∈ front, ∃ l ∈ before, ∃ w ∈ assigned? l, w.1 = v.1) ∧
      run ⟨given, []⟩ (before ++ some line :: after)
        = some (given ++ front ++ [(name, value)] ++ back) ∧
      run ⟨given ++ [(name, value)], []⟩ (before ++ some line :: after)
        = some (given ++ [(name, value)] ++ front ++ back) := by
  have hsingle : ∀ other, other ≠ name → [(name, value)].lookup other = none := by
    intro other hne
    simp [hne]
  have hagrees : Scope.AgreesOn (· ≠ name) ⟨given, []⟩ ⟨given ++ [(name, value)], []⟩ := by
    refine ⟨rfl, fun other hne => ?_⟩
    rw [List.lookup_append, hsingle other hne, Option.or_none]
  obtain ⟨front, earlier, hfront, hrun, hrun'⟩ := run_append_of_agreesOn hagrees hbefore hruns
  have hunset : (given ++ front).lookup name = none := by
    rw [List.lookup_append, hgiven, Option.none_or, List.lookup_eq_none_iff]
    intro v hv
    obtain ⟨l, hl, w, hw, hname⟩ := hfront v hv
    have hne := ((hbefore l hl).2 w hw).1
    rw [hname] at hne
    simpa using hne.symm
  -- Behind the line both environments hold the same variables, in another order.
  have hlater : Scope.AgreesOn (fun _ => True)
      ⟨given ++ front ++ [(name, value)], (name, value) :: earlier⟩
      ⟨given ++ [(name, value)] ++ front, (name, value) :: earlier⟩ := by
    refine ⟨rfl, fun other _ => ?_⟩
    rw [List.lookup_append, List.lookup_append, List.lookup_append, List.lookup_append]
    by_cases hother : other = name
    · subst hother
      rw [List.lookup_append] at hunset
      obtain ⟨-, hnone⟩ := Option.or_eq_none_iff.mp hunset
      rw [hgiven, hnone]
      simp
    · rw [hsingle other hother]
      simp
  have hadd : addVariable (given ++ front) (name, value) = given ++ front ++ [(name, value)] := by
    rw [addVariable, hunset]
    rfl
  have hset : (given ++ [(name, value)] ++ front).lookup name = some value := by
    rw [List.lookup_append, List.lookup_append, hgiven]
    simp
  have hadd' : addVariable (given ++ [(name, value)] ++ front) (name, value)
      = given ++ [(name, value)] ++ front := by
    rw [addVariable, hset]
    rfl
  rw [hrun] at hruns
  obtain ⟨-, hline'⟩ := run_cons_of_assign (hline _) hruns
  rw [hline'] at hruns
  dsimp only at hline' hruns
  rw [hadd] at hline' hruns
  obtain ⟨back, hback, hback'⟩ := run_of_agreesOn hlater hruns
  refine ⟨front, back, hfront, ?_, ?_⟩
  · rw [hrun, hline', hback]
  · rw [hrun', run, hline]
    dsimp only
    rw [if_pos (.inl (by rw [hset]; rfl)), hadd', hback']

end PushRegistry.Config.Dotenv

namespace PushRegistry.Config

open PushRegistry.Config.Environment (Variable)
open PushRegistry.Text

/-! ### The settings -/

theorem Field.filter_source_of_not_namedBy {f : Field} {vs : List Variable}
    (h : ∀ v ∈ vs, ¬ f.NamedBy v.1) :
    (Environment.source vs).filter (fun e => f.Names e.1) = [] := by
  rw [Field.filter_source fun v hv hnamed => absurd hnamed (h v hv), List.map_eq_nil_iff,
    List.filter_eq_nil_iff]
  intro v hv hname
  exact h v hv ⟨f.key, by rw [of_decide_eq_true hname, f.key?_variableName]; rfl, f.names_key⟩

/-- Variables that are not about one field can change places. -/
theorem Field.filter_source_swap {f : Field} {vs ws : List Variable}
    (h : (∀ v ∈ vs, ¬ f.NamedBy v.1) ∨ ∀ w ∈ ws, ¬ f.NamedBy w.1) (front back : List Variable) :
    (Environment.source (front ++ vs ++ ws ++ back)).filter (fun e => f.Names e.1)
      = (Environment.source (front ++ ws ++ vs ++ back)).filter fun e => f.Names e.1 := by
  have happend : ∀ xs ys : List Variable,
      Environment.source (xs ++ ys) = Environment.source xs ++ Environment.source ys :=
    fun xs ys => List.filterMap_append
  simp only [happend, List.filter_append]
  rcases h with h | h
  · simp [filter_source_of_not_namedBy h]
  · simp [filter_source_of_not_namedBy h]

/-- Settings depend on the environment by what it says about each field. -/
theorem ofLayers_congr {files other : List File} {environment environment' : List Variable}
    (hlayer : Settings.fileLayer files = Settings.fileLayer other)
    (h : ∀ f : Field, (Environment.source environment).filter (fun e => f.Names e.1)
      = (Environment.source environment').filter fun e => f.Names e.1) :
    Settings.ofLayers files environment = Settings.ofLayers other environment' := by
  unfold Settings.ofLayers Settings.layered
  rw [hlayer]
  cases Settings.fileLayer other with
  | error fault => rfl
  | ok layer =>
      obtain ⟨ds, hds⟩ := Setting.exists_overlay_eq_table [] Settings.defaults
      obtain ⟨es, hes⟩ := Setting.exists_overlay_eq_table ds layer
      have hroot : (Setting.empty.overlay Settings.defaults).overlay layer = .table es := by
        rw [← hes, ← hds]
        rfl
      show (Settings.ofSetting _).mapError _ = (Settings.ofSetting _).mapError _
      rw [hroot, Settings.ofSetting_congr fun f => Field.get?_overlay_congr (h f) es]

namespace Sources

/-- The logical lines of the file that adds to the environment. -/
def lines (c : Sources) : List (Option (List Char)) :=
  match Settings.content? c.files ".env" with
  | some bytes => Dotenv.lines bytes
  | none => []

theorem load_eq_run (c : Sources) (given : List Variable) :
    Settings.load c.files given
      = (Dotenv.run ⟨given, []⟩ c.lines).map (Settings.ofLayers c.files) := by
  rw [Settings.load, Settings.environment?, lines]
  cases Settings.content? c.files ".env" with
  | none => rfl
  | some bytes => rfl

/-- A line has nothing to do with a variable: its value does not refer to it, and it sets no field
that the variable sets. -/
def Apart (name : String) (line? : Option (List Char)) : Prop :=
  ∀ w ∈ Dotenv.assigned? line?, name.toList ∉ Dotenv.references .plain w.2 ∧
    ∀ f : Field, f.NamedBy name → ¬ f.NamedBy w.1

instance (name : String) (line? : Option (List Char)) : Decidable (Apart name line?) :=
  inferInstanceAs (Decidable (∀ w ∈ Dotenv.assigned? line?,
    name.toList ∉ Dotenv.references .plain w.2 ∧ ∀ f : Field, f.NamedBy name → ¬ f.NamedBy w.1))

/-- What a line of the file of variables is worth that assigns a new variable by itself. It is in
force if the file does not stop the program and all lines above can be read and are apart from it:
the settings are the same, or missing for the same reason, as if the variable had been given. It is
worth nothing if a line above cannot be read: files that begin with these lines and go on in any
other way lead to the same settings. -/
theorem load_line {c : Sources} {before after : List (Option (List Char))} {line : List Char}
    {name value : String} (hlines : c.lines = before ++ some line :: after)
    (hline : Dotenv.Assigns line name value) (hgiven : c.given.lookup name = none)
    (hearlier : ∀ l ∈ before, ∀ w ∈ Dotenv.assigned? l, w.1 ≠ name) :
    (Settings.load c.files c.given ≠ none →
      (∀ l ∈ before, Dotenv.Readable l) → (∀ l ∈ before, Apart name l) →
      Settings.load c.files (c.given ++ [(name, value)]) = Settings.load c.files c.given) ∧
    ((∃ l ∈ before, ¬ Dotenv.Readable l) → ∀ other : Sources, other.given = c.given →
      Settings.fileLayer other.files = Settings.fileLayer c.files →
      (∃ rest, other.lines = before ++ rest) →
      Settings.load other.files other.given = Settings.load c.files c.given) := by
  constructor
  · intro hload hreadable hapart
    have hbefore : ∀ l ∈ before, Dotenv.Readable l ∧ Dotenv.UsesOnly (· ≠ name) l := by
      intro l hl
      refine ⟨hreadable l hl, fun w hw => ⟨hearlier l hl w hw, fun r hr => ?_⟩⟩
      rintro rfl
      exact (hapart l hl w hw).1 (by rwa [String.toList_ofList])
    have hruns : Dotenv.run ⟨c.given, []⟩ (before ++ some line :: after) ≠ none := by
      intro hnone
      rw [load_eq_run, hlines, hnone] at hload
      exact hload rfl
    obtain ⟨front, back, hfront, hrun, hrun'⟩ :=
      Dotenv.run_given_append hline hgiven hbefore hruns
    rw [load_eq_run, load_eq_run, hlines, hrun, hrun']
    refine congrArg some (ofLayers_congr rfl fun f => ?_).symm
    -- Either the variable is not about the field, or none of the lines above is.
    refine (Field.filter_source_swap ?_ c.given back).symm
    by_cases hnamed : f.NamedBy name
    · right
      intro v hv
      obtain ⟨l, hl, w, hw, hname⟩ := hfront v hv
      rw [← hname]
      exact (hapart l hl w hw).2 f hnamed
    · left
      intro v hv
      rw [List.mem_singleton.mp hv]
      exact hnamed
  · rintro hbad other hother hlayer ⟨rest, hrest⟩
    have hlayers : Settings.ofLayers other.files = Settings.ofLayers c.files :=
      funext fun environment => ofLayers_congr hlayer fun f => rfl
    rw [load_eq_run, load_eq_run, hlines, hrest, hother, hlayers,
      Dotenv.run_append_of_not_readable hbad _ rest (some line :: after)]

/-- A port between a host and a line that cannot be read is in force. With that line above it the
file might as well end there. -/
theorem load_line_port :
    let line : List Char := "POSTAL_PORT=81".toList
    let host : Option (List Char) := some "POSTAL_HOST=push".toList
    let bad : Option (List Char) := some "BAD LINE".toList
    let c : Sources :=
      ⟨[⟨".env", Utf8.ofString "POSTAL_HOST=push\nPOSTAL_PORT=81\nBAD LINE\n"⟩], []⟩
    let d : Sources := ⟨[⟨".env", Utf8.ofString "BAD LINE\nPOSTAL_PORT=81\n"⟩], []⟩
    let cut : Sources := ⟨[⟨".env", Utf8.ofString "BAD LINE\n"⟩], []⟩
    Dotenv.Assigns line "POSTAL_PORT" "81" ∧
    (c.lines = [host] ++ some line :: [bad] ∧ c.given.lookup "POSTAL_PORT" = none ∧
      (∀ l ∈ [host], ∀ w ∈ Dotenv.assigned? l, w.1 ≠ "POSTAL_PORT") ∧
      (∀ l ∈ [host], Dotenv.Readable l) ∧ (∀ l ∈ [host], Apart "POSTAL_PORT" l)) ∧
    (d.lines = [bad] ++ some line :: [] ∧ d.given.lookup "POSTAL_PORT" = none ∧
      (∀ l ∈ [bad], ∀ w ∈ Dotenv.assigned? l, w.1 ≠ "POSTAL_PORT") ∧
      (∃ l ∈ [bad], ¬ Dotenv.Readable l) ∧ ∃ rest, cut.lines = [bad] ++ rest) ∧
    Settings.load c.files c.given ≠ none ∧
    Settings.load c.files (c.given ++ [("POSTAL_PORT", "81")]) = Settings.load c.files c.given ∧
    Settings.load cut.files cut.given = Settings.load d.files d.given := by
  intro line host bad c d cut
  have hline : Dotenv.Assigns line "POSTAL_PORT" "81" :=
    Dotenv.assigns_of_references (by decide +kernel) (by decide +kernel)
  have hc : c.lines = [host] ++ some line :: [bad] := by decide +kernel
  have hd : d.lines = [bad] ++ some line :: [] := by decide +kernel
  have hhost : ∀ l ∈ [host], ∀ w ∈ Dotenv.assigned? l, w.1 ≠ "POSTAL_PORT" := by decide +kernel
  have hbad : ∀ l ∈ [bad], ∀ w ∈ Dotenv.assigned? l, w.1 ≠ "POSTAL_PORT" := by decide +kernel
  have hreadable : ∀ l ∈ [host], Dotenv.Readable l := by decide +kernel
  have hapart : ∀ l ∈ [host], Apart "POSTAL_PORT" l := by decide +kernel
  have hbroken : ∃ l ∈ [bad], ¬ Dotenv.Readable l := ⟨bad, List.mem_cons_self, by decide +kernel⟩
  have hcut : ∃ rest, cut.lines = [bad] ++ rest := ⟨[], by decide +kernel⟩
  have hload : Settings.load c.files c.given ≠ none := by
    rw [ne_eq, load_eq_none_iff, not_not]
    decide +kernel
  refine ⟨hline, ⟨hc, rfl, hhost, hreadable, hapart⟩, ⟨hd, rfl, hbad, hbroken, hcut⟩, hload, ?_, ?_⟩
  · exact (load_line hc hline rfl hhost).1 hload hreadable hapart
  · exact (load_line hd hline rfl hbad).2 hbroken cut rfl rfl hcut

/-- Not every line is in force when settings are found: a line that cannot be read drops the port
below it, and the default takes its place. -/
theorem not_forall_in_force :
    ¬ ∀ (c : Sources) (before after : List (Option (List Char))) (line : List Char)
      (name value : String), c.lines = before ++ some line :: after →
      Dotenv.Assigns line name value → c.given.lookup name = none →
      (∀ l ∈ before, ∀ w ∈ Dotenv.assigned? l, w.1 ≠ name) →
      ∀ s, Settings.load c.files c.given = some (.ok s) →
        Settings.load c.files (c.given ++ [(name, value)]) = some (.ok s) := by
  intro h
  let c : Sources := ⟨[⟨".env", Utf8.ofString "BAD LINE\nPOSTAL_PORT=81\n"⟩], []⟩
  let d : Sources := ⟨c.files, [("POSTAL_PORT", "81")]⟩
  have hc : c.Regular := by decide +kernel
  have hd : d.Regular := by decide +kernel
  have hline : Dotenv.Assigns "POSTAL_PORT=81".toList "POSTAL_PORT" "81" :=
    Dotenv.assigns_of_references (by decide +kernel) (by decide +kernel)
  have hlines : c.lines = [some "BAD LINE".toList] ++ some "POSTAL_PORT=81".toList :: [] := by
    decide +kernel
  obtain ⟨s, hs⟩ := exists_load_eq_ok hc
  have hs' : Settings.load d.files d.given = some (.ok s) :=
    h c _ _ _ _ _ hlines hline rfl (by decide +kernel) s hs
  have hport : c.value? .port = some (5300 : Nat) := by decide +kernel
  have hport' : d.value? .port = some (81 : Nat) := by decide +kernel
  rw [(load_eq_ok_iff hc.assignable hc.parsable hc.plain s).mp hs] at hport
  rw [(load_eq_ok_iff hd.assignable hd.parsable hd.plain s).mp hs', hport] at hport'
  exact absurd hport' (by decide)

end Sources

end PushRegistry.Config
