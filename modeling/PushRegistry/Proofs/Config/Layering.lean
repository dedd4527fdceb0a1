import PushRegistry.Proofs.Config.Assignments
import PushRegistry.Proofs.Config.Fields

/-!
# `PushRegistry.Proofs.Config.Layering`: where each setting comes from

A field is set by its variable in the environment, by the assignment of that variable in a file, by
an entry of the settings file, or by default. `Sources.Regular` demands that each layer names each
field at most once and without a longer path, and that what it says suits the field. Every field
then has the value of the topmost layer that names it, and what the layers say about other fields,
about other keys and about other variables has no say in it: this is `Sources.load_layered`. It
holds for settings files of every format, and in the file of variables whatever follows the first
line that cannot be read.

One door is left open on purpose. A value in the file of variables may refer to variables, and
these need no name that sets anything. So `Sources.Agrees` asks that the variables that the
assignment of a field refers to are the same, and `Sources.not_forall_load_eq_of_same_prefixed`
shows that this cannot be left out.

The work is in one statement, `Sources.load_eq_ok_iff`: settings are found exactly if the value that
the topmost layers give suits every field. It needs no `Sources.Regular`, so it also serves where a
value is refused.
-/

set_option autoImplicit false

namespace PushRegistry.Config

open PushRegistry.Config.Environment (Variable)
open PushRegistry.Config.Dotenv (Assignment)
open PushRegistry.Text

/-! ### The environment as a layer -/

/-- The first entry of a name. -/
theorem lookup_eq_find? {α : Type} (es : List (String × α)) (name : String) :
    es.lookup name = (es.find? fun e => e.1 = name).map Prod.snd := by
  induction es with
  | nil => rfl
  | cons e rest ih =>
      obtain ⟨k, a⟩ := e
      by_cases hname : k = name
      · simp [hname]
      · have hother : (name == k) = false := by simpa using fun h => hname h.symm
        simp [List.lookup_cons, hother, hname, ih]

namespace Field

/-- The name of a variable that sets a field, or something below it. -/
def NamedBy (f : Field) (name : String) : Prop := ∃ key ∈ Environment.key? name, f.Names key

instance (f : Field) (name : String) : Decidable (f.NamedBy name) :=
  inferInstanceAs (Decidable (∃ key ∈ Environment.key? name, f.Names key))

theorem key?_variableName (f : Field) : Environment.key? f.variableName = some f.key := by
  cases f <;> decide

theorem normalize_key (f : Field) : Setting.normalize f.key = f.key := by
  cases f <;> decide

theorem names_key (f : Field) : f.Names f.key := by
  rw [Names, ofString_of_normalize f.normalize_key, Key.root, normalize_key]

/-- The setting that the text of a variable makes. -/
def ofText (text : String) : Setting := .scalar (some .environment) (Environment.value text)

theorem source_cons (v : Variable) (rest : List Variable) :
    Environment.source (v :: rest) =
      ((Environment.key? v.1).map fun key => (key, ofText v.2)).toList ++
        Environment.source rest := by
  rw [Environment.source, List.filterMap_cons]
  cases Environment.key? v.1 <;> rfl

/-- If a field goes by its own name only, the environment says about it what its variable says. -/
theorem filter_source {f : Field} {vs : List Variable}
    (h : ∀ v ∈ vs, f.NamedBy v.1 → v.1 = f.variableName) :
    ((Environment.source vs).filter fun e => f.Names e.1) =
      (vs.filter fun v => v.1 = f.variableName).map fun v => (f.key, ofText v.2) := by
  induction vs with
  | nil => rfl
  | cons v rest ih =>
      rw [source_cons, List.filter_append, ih fun w hw => h w (List.mem_cons_of_mem v hw)]
      by_cases hname : v.1 = f.variableName
      · simp [hname, key?_variableName, names_key]
      · cases hkey : Environment.key? v.1 with
        | none => simp [hname]
        | some key =>
            have hnot : ¬ f.Names key := fun hnames =>
              hname (h v List.mem_cons_self ⟨key, hkey, hnames⟩)
            simp [hname, hnot]

theorem plain_source {f : Field} {vs : List Variable}
    (h : ∀ v ∈ vs, f.NamedBy v.1 → v.1 = f.variableName)
    (honce : (vs.filter fun v => v.1 = f.variableName).length ≤ 1) :
    f.Plain (Environment.source vs) := by
  have hentry : ∀ e ∈ Environment.source vs, f.Names e.1 → ∃ text, e = (f.key, ofText text) := by
    intro e he hnames
    have hmem : e ∈ (Environment.source vs).filter fun e => f.Names e.1 :=
      List.mem_filter.mpr ⟨he, decide_eq_true hnames⟩
    rw [filter_source h] at hmem
    obtain ⟨v, -, rfl⟩ := List.mem_map.mp hmem
    exact ⟨v.2, rfl⟩
  refine ⟨?_, fun e he hnames => ?_, fun e he hnames => ?_⟩
  · rwa [filter_source h, List.length_map]
  · obtain ⟨text, rfl⟩ := hentry e he hnames
    exact f.normalize_key
  · obtain ⟨text, rfl⟩ := hentry e he hnames
    rfl

theorem setting?_source {f : Field} {vs : List Variable}
    (h : ∀ v ∈ vs, f.NamedBy v.1 → v.1 = f.variableName) :
    f.setting? (Environment.source vs) = (vs.lookup f.variableName).map ofText := by
  rw [setting?, ← List.head?_filter, filter_source h, lookup_eq_find?, ← List.head?_filter,
    List.head?_map, Option.map_map, Option.map_map]
  rfl

end Field

/-! ### Sources -/

/-- Everything that settings are read from: the files of a directory and an environment. -/
structure Sources where
  files : List File
  given : List Variable

namespace Sources

/-- The assignments of the file that adds to the environment. -/
def assignments (c : Sources) : List Assignment :=
  match Settings.content? c.files ".env" with
  | some bytes => Dotenv.assignments ⟨c.given, []⟩ (Dotenv.lines bytes)
  | none => []

/-- The environment with what the file adds to it. -/
def extended (c : Sources) : List Variable :=
  Dotenv.addVariables c.given (c.assignments.map Assignment.toVariable)

/-- None of the assignments stops the program. -/
def Assignable (c : Sources) : Prop := ∀ a ∈ c.assignments, a.Settable

instance (c : Sources) : Decidable c.Assignable :=
  inferInstanceAs (Decidable (∀ a ∈ c.assignments, a.Settable))

theorem environment?_eq (c : Sources) :
    Settings.environment? c.files c.given = if c.Assignable then some c.extended else none := by
  cases hfile : Settings.content? c.files ".env" with
  | none =>
      have hnone : c.assignments = [] := by rw [assignments, hfile]
      have hassignable : c.Assignable := by
        rw [Assignable, hnone]
        exact List.forall_mem_nil _
      rw [Settings.environment?, hfile, if_pos hassignable, extended, hnone]
      rfl
  | some bytes =>
      have hassignments : c.assignments = Dotenv.assignments ⟨c.given, []⟩ (Dotenv.lines bytes) := by
        rw [assignments, hfile]
      have hrun := Dotenv.run_eq ⟨c.given, []⟩ (Dotenv.lines bytes)
      rw [← hassignments] at hrun
      rw [Settings.environment?, hfile]
      exact hrun

theorem load_of_assignable {c : Sources} (h : c.Assignable) :
    Settings.load c.files c.given = some (Settings.ofLayers c.files c.extended) := by
  rw [Settings.load, environment?_eq, if_pos h, Option.map_some]

/-- There is no result if an assignment stops the program. -/
theorem load_eq_none_iff {c : Sources} :
    Settings.load c.files c.given = none ↔ ¬ c.Assignable := by
  rw [Settings.load, environment?_eq, Option.map_eq_none_iff]
  split
  next h => exact iff_of_false nofun fun hnot => hnot h
  next h => exact iff_of_true rfl h

/-- The settings file can be read, if there is one. -/
def Parsable (c : Sources) : Prop := ∃ layer, Settings.fileLayer c.files = .ok layer

theorem parsable_iff (c : Sources) :
    c.Parsable ↔ (Settings.fileLayer c.files).toOption.isSome := by
  rw [Parsable]
  cases Settings.fileLayer c.files <;> simp [Except.toOption]

instance (c : Sources) : Decidable c.Parsable := decidable_of_iff _ (parsable_iff c).symm

/-- The entries of the settings file; none if it cannot be read. -/
def entries (c : Sources) : List (String × Setting) :=
  match Settings.fileLayer c.files with
  | .ok layer => layer
  | .error _ => []

/-- What the environment says about a field. -/
def given? (c : Sources) (f : Field) : Option String := c.given.lookup f.variableName

/-- The assignment of a field. -/
def assignment? (c : Sources) (f : Field) : Option Assignment :=
  c.assignments.find? fun a => a.name = f.variableName

/-- What the settings file says about a field. -/
def setting? (c : Sources) (f : Field) : Option Scalar :=
  (f.setting? c.entries).bind Setting.scalar?

/-- What the topmost layer that names a field says about it. -/
def said? (c : Sources) (f : Field) : Option Scalar :=
  (((c.given? f).or ((c.assignment? f).map Assignment.value)).map Environment.value).or
    (c.setting? f)

/-- The value that the layers give a field, if what they say suits it. -/
def value? (c : Sources) (f : Field) : Option f.Value :=
  match c.said? f with
  | some s => f.ofScalar? s
  | none => some (f.get Settings.default)

/-- A field is named at most once in each layer: by its own variable in the environment and the
file that adds to it, and by its own name in the settings file, with a scalar. -/
@[mk_iff]
structure Plain (c : Sources) (f : Field) : Prop where
  given : ∀ v ∈ c.given, f.NamedBy v.1 → v.1 = f.variableName
  once : (c.given.filter fun v => v.1 = f.variableName).length ≤ 1
  assignments : ∀ a ∈ c.assignments, f.NamedBy a.name → a.name = f.variableName
  entries : f.Plain c.entries

instance (c : Sources) (f : Field) : Decidable (c.Plain f) :=
  decidable_of_iff _ (plain_iff c f).symm

theorem lookup_extended (c : Sources) (f : Field) :
    c.extended.lookup f.variableName =
      (c.given? f).or ((c.assignment? f).map Assignment.value) := by
  rw [extended, Dotenv.lookup_addVariables, given?, assignment?,
    lookup_eq_find? (c.assignments.map _), List.find?_map, Option.map_map]
  rfl

theorem plain_source_extended {c : Sources} {f : Field} (h : c.Plain f) :
    f.Plain (Environment.source c.extended) ∧
      f.setting? (Environment.source c.extended) =
        (c.extended.lookup f.variableName).map Field.ofText := by
  have hname : ∀ v ∈ c.extended, f.NamedBy v.1 → v.1 = f.variableName := by
    intro v hv hnamed
    rcases Dotenv.mem_of_mem_addVariables hv with hgiven | hassigned
    · exact h.given v hgiven hnamed
    · obtain ⟨a, ha, rfl⟩ := List.mem_map.mp hassigned
      exact h.assignments a ha hnamed
  exact ⟨Field.plain_source hname (Dotenv.once_addVariables h.once _), Field.setting?_source hname⟩

/-- The layers of a directory and an environment, laid over each other. -/
def root (c : Sources) : Setting :=
  ((Setting.empty.overlay Settings.defaults).overlay c.entries).overlay
    (Environment.source c.extended)

theorem layered_eq_root {c : Sources} (h : c.Parsable) :
    Settings.layered c.files c.extended = .ok c.root := by
  obtain ⟨layer, hlayer⟩ := h
  simp only [Settings.layered, root, entries, hlayer]
  rfl

/-- Every field has a default, and it suits the field. -/
theorem convert_defaults (f : Field) : ∃ s,
    (Setting.empty.overlay Settings.defaults).get? f.key = some s ∧
      f.convert s = .ok (f.get Settings.default) := by
  cases f <;> exact ⟨_, rfl, rfl⟩

/-- The layered value of a field is what the topmost layer says that names it. -/
theorem convert_root_eq_ok_iff {c : Sources} {f : Field} (h : c.Plain f) (v : f.Value) :
    f.convert (Settings.lookup c.root f.key) = .ok v ↔ c.value? f = some v := by
  obtain ⟨hplain, henvironment⟩ := plain_source_extended h
  rw [Settings.lookup, root, Field.get?_overlay hplain, Field.get?_overlay h.entries, henvironment,
    lookup_extended, value?, said?, setting?]
  cases (c.given? f).or ((c.assignment? f).map Assignment.value) with
  | some text => exact f.convert_scalar_eq_ok_iff _ _ v
  | none =>
      cases hentry : f.setting? c.entries with
      | some e =>
          obtain ⟨origin, s, rfl⟩ := h.entries.scalar_of_setting? hentry
          exact f.convert_scalar_eq_ok_iff origin s v
      | none =>
          obtain ⟨s, hs, hdefault⟩ := convert_defaults f
          simp [hs, hdefault]

/-- Settings are found exactly if what the topmost layers say suits every field. -/
theorem load_eq_ok_iff {c : Sources} (hassignable : c.Assignable) (hparsable : c.Parsable)
    (hplain : ∀ f, c.Plain f) (s : Settings) :
    Settings.load c.files c.given = some (.ok s) ↔ ∀ f : Field, c.value? f = some (f.get s) := by
  have hload : Settings.load c.files c.given =
      some ((Settings.ofSetting c.root).mapError .mismatch) := by
    rw [load_of_assignable hassignable, Settings.ofLayers, layered_eq_root hparsable]
    rfl
  simp only [← convert_root_eq_ok_iff (hplain _), ← Settings.ofSetting_eq_ok_iff, hload,
    Option.some.injEq]
  cases Settings.ofSetting c.root <;> simp [Except.mapError]

/-! ### The layering -/

/-- Each field is named at most once in each layer, plainly, and what a layer says suits it. -/
@[mk_iff]
structure Regular (c : Sources) : Prop where
  assignable : c.Assignable
  parsable : c.Parsable
  plain : ∀ f, c.Plain f
  given : ∀ f, ∀ text ∈ c.given? f, (f.ofScalar? (Environment.value text)).isSome
  assignment : ∀ f, ∀ a ∈ c.assignment? f, (f.ofScalar? (Environment.value a.value)).isSome
  entry : ∀ f, ∀ s ∈ c.setting? f, (f.ofScalar? s).isSome

instance (c : Sources) : Decidable c.Regular := decidable_of_iff _ (regular_iff c).symm

/-- The layers give a field a value: the environment, else the file that adds to it, else the
settings file, else the defaults. -/
structure Gives (c : Sources) (f : Field) (v : f.Value) : Prop where
  given : ∀ text ∈ c.given? f, f.ofScalar? (Environment.value text) = some v
  assignment : c.given? f = none →
    ∀ a ∈ c.assignment? f, f.ofScalar? (Environment.value a.value) = some v
  entry : c.given? f = none → c.assignment? f = none →
    ∀ s ∈ c.setting? f, f.ofScalar? s = some v
  default : c.given? f = none → c.assignment? f = none → c.setting? f = none →
    v = f.get Settings.default

/-- Two sources say the same about a field. An assignment says the same if it has the same text
and the variables that this text refers to have the same values. -/
structure Agrees (c other : Sources) (f : Field) : Prop where
  given : c.given? f = other.given? f
  assignment : Option.Rel Assignment.Same (c.assignment? f) (other.assignment? f)
  entry : c.setting? f = other.setting? f

theorem gives_iff (c : Sources) (f : Field) (v : f.Value) :
    c.Gives f v ↔ c.value? f = some v := by
  constructor
  · rintro ⟨hgiven, hassignment, hentry, hdefault⟩
    rw [value?, said?]
    cases hg : c.given? f with
    | some text => exact hgiven text hg
    | none =>
        cases ha : c.assignment? f with
        | some a => exact hassignment hg a ha
        | none =>
            cases he : c.setting? f with
            | some s => exact hentry hg ha s he
            | none => exact congrArg some (hdefault hg ha he).symm
  · intro hvalue
    rw [value?, said?] at hvalue
    refine ⟨fun text hg => ?_, fun hg a ha => ?_, fun hg ha s he => ?_, fun hg ha he => ?_⟩
    · rwa [Option.mem_def.mp hg] at hvalue
    · rwa [hg, Option.mem_def.mp ha] at hvalue
    · rwa [hg, ha, Option.mem_def.mp he] at hvalue
    · rw [hg, ha, he] at hvalue
      exact (Option.some.inj hvalue).symm

theorem isSome_value? {c : Sources} (h : c.Regular) (f : Field) : (c.value? f).isSome := by
  rw [value?, said?]
  cases hgiven : c.given? f with
  | some text => exact h.given f text hgiven
  | none =>
      cases hassignment : c.assignment? f with
      | some a => exact h.assignment f a hassignment
      | none =>
          cases hentry : c.setting? f with
          | some s => exact h.entry f s hentry
          | none => rfl

/-- Settings are found if what the layers say suits every field. -/
theorem exists_load_of_isSome {c : Sources} (hassignable : c.Assignable)
    (hparsable : c.Parsable) (hplain : ∀ f, c.Plain f) (h : ∀ f, (c.value? f).isSome) :
    ∃ s, Settings.load c.files c.given = some (.ok s) := by
  refine ⟨⟨(c.value? .host).get (h .host), (c.value? .port).get (h .port),
    (c.value? .timeout).get (h .timeout), (c.value? .connectTimeout).get (h .connectTimeout)⟩, ?_⟩
  refine (load_eq_ok_iff hassignable hparsable hplain _).mpr fun f => ?_
  cases f <;> exact (Option.some_get _).symm

theorem exists_load_eq_ok {c : Sources} (h : c.Regular) :
    ∃ s, Settings.load c.files c.given = some (.ok s) :=
  exists_load_of_isSome h.assignable h.parsable h.plain (isSome_value? h)

/-- The value of an assignment is what its text means where it stands. -/
theorem resolve?_assignment {c : Sources} {f : Field} {a : Assignment}
    (h : c.assignment? f = some a) : Dotenv.resolve? a.scope a.text = some a.value := by
  have hmem : a ∈ c.assignments := List.mem_of_find?_eq_some h
  rw [assignments] at hmem
  cases hfile : Settings.content? c.files ".env" with
  | none =>
      rw [hfile] at hmem
      cases hmem
  | some bytes =>
      rw [hfile] at hmem
      exact Dotenv.resolve?_of_mem_assignments hmem

/-- The value of a field depends on nothing but what the layers say about it. -/
theorem value?_eq_of_agrees {c other : Sources} {f : Field} (h : c.Agrees other f) :
    c.value? f = other.value? f := by
  have hassigned : (c.assignment? f).map Assignment.value =
      (other.assignment? f).map Assignment.value := by
    have hrel := h.assignment
    have hc := fun a => resolve?_assignment (c := c) (f := f) (a := a)
    have hother := fun b => resolve?_assignment (c := other) (f := f) (a := b)
    generalize c.assignment? f = a? at hrel hc
    generalize other.assignment? f = b? at hrel hother
    cases hrel with
    | none => rfl
    | some hsame =>
        exact congrArg some (Assignment.value_eq_of_same hsame (hc _ rfl) (hother _ rfl))
  rw [value?, value?, said?, said?, h.given, hassigned, h.entry]

/-- Settings are found, and each field has the value of the topmost layer that names it. Nothing
else has a say in it: sources that agree on what the layers say about a field give it the same
value, whatever else they hold. Agreement looks at other variables only where the assignment of
the field refers to them. -/
theorem load_layered {c : Sources} (h : c.Regular) :
    ∃ s, Settings.load c.files c.given = some (.ok s) ∧
      (∀ f, c.Gives f (f.get s)) ∧
      ∀ other : Sources, other.Regular → ∀ f, c.Agrees other f →
        ∃ s', Settings.load other.files other.given = some (.ok s') ∧ f.get s' = f.get s := by
  obtain ⟨s, hs⟩ := exists_load_eq_ok h
  have hvalue := (load_eq_ok_iff h.assignable h.parsable h.plain s).mp hs
  refine ⟨s, hs, fun f => (gives_iff c f _).mpr (hvalue f), fun other hother f hagrees => ?_⟩
  obtain ⟨s', hs'⟩ := exists_load_eq_ok hother
  refine ⟨s', hs', Option.some.inj ?_⟩
  rw [← hvalue f, ← (load_eq_ok_iff hother.assignable hother.parsable hother.plain s').mp hs' f,
    value?_eq_of_agrees hagrees]

/-- Sources with one field from each layer. The port is in three of them, and the assignment of
the host refers to a variable. -/
def fourLayers : Sources where
  files := [⟨".env", Utf8.ofString "POSTAL_HOST=$X\nPOSTAL_PORT=1\n"⟩,
    ⟨"postal.toml", Utf8.ofString "Timeout_Secs = 9\nport = 2\nx = 1\n"⟩]
  given := [("X", "push"), ("POSTAL_PORT", "81"), ("OTHER_PORT", "1")]

/-- Sources that agree with those on the host and on nothing else. -/
def hostAlone : Sources where
  files := [⟨".env", Utf8.ofString "POSTAL_TIMEOUT_SECS=3\nPOSTAL_HOST=$X\n"⟩]
  given := [("POSTAL_PORT", "82"), ("X", "push")]

theorem agrees_hostAlone : fourLayers.Agrees hostAlone .host := by
  have ha : fourLayers.assignment? .host =
      some ⟨⟨fourLayers.given, []⟩, "POSTAL_HOST", "$X".toList, "push"⟩ := by decide +kernel
  have hb : hostAlone.assignment? .host =
      some ⟨⟨hostAlone.given ++ [("POSTAL_TIMEOUT_SECS", "3")], [("POSTAL_TIMEOUT_SECS", "3")]⟩,
        "POSTAL_HOST", "$X".toList, "push"⟩ := by decide +kernel
  refine ⟨by decide +kernel, ?_, by decide +kernel⟩
  rw [ha, hb]
  exact .some ⟨rfl, by decide +kernel⟩

theorem load_layered_fourLayers :
    fourLayers.Regular ∧ hostAlone.Regular ∧
      ∃ s s', Settings.load fourLayers.files fourLayers.given = some (.ok s) ∧
        s = ⟨"push", 81, 9, 5⟩ ∧
        Settings.load hostAlone.files hostAlone.given = some (.ok s') ∧ s'.host = s.host := by
  have hregular : fourLayers.Regular := by decide +kernel
  have hother : hostAlone.Regular := by decide +kernel
  obtain ⟨s, hs, hgives, hagrees⟩ := load_layered hregular
  obtain ⟨s', hs', hhost'⟩ := hagrees hostAlone hother .host agrees_hostAlone
  refine ⟨hregular, hother, s, s', hs, ?_, hs', hhost'⟩
  have hvalue : ∀ f, fourLayers.value? f = some (f.get s) := fun f =>
    (gives_iff _ f _).mp (hgives f)
  have hhost : fourLayers.value? .host = some "push" := by decide +kernel
  have hport : fourLayers.value? .port = some (81 : Nat) := by decide +kernel
  have htimeout : fourLayers.value? .timeout = some (9 : Nat) := by decide +kernel
  have hconnect : fourLayers.value? .connectTimeout = some (5 : Nat) := by decide +kernel
  rw [hvalue] at hhost hport htimeout hconnect
  obtain ⟨host, port, timeout, connectTimeout⟩ := s
  cases hhost
  cases hport
  cases htimeout
  cases hconnect
  rfl

/-- A variable that sets nothing may still decide a field: an assignment can refer to it. -/
theorem not_forall_load_eq_of_same_prefixed :
    ¬ ∀ c other : Sources, c.Regular → other.Regular → c.files = other.files →
      c.given.filter (fun v => (Environment.key? v.1).isSome) =
        other.given.filter (fun v => (Environment.key? v.1).isSome) →
      ∀ s s', Settings.load c.files c.given = some (.ok s) →
        Settings.load other.files other.given = some (.ok s') → s = s' := by
  intro hall
  let c : Sources := ⟨[⟨".env", Utf8.ofString "POSTAL_HOST=$X"⟩], []⟩
  let other : Sources := ⟨c.files, [("X", "a")]⟩
  have hc : c.Regular := by decide +kernel
  have hother : other.Regular := by decide +kernel
  obtain ⟨s, hs⟩ := exists_load_eq_ok hc
  obtain ⟨s', hs'⟩ := exists_load_eq_ok hother
  have hhost : c.value? .host = some "" := by decide +kernel
  have hhost' : other.value? .host = some "a" := by decide +kernel
  rw [(load_eq_ok_iff hc.assignable hc.parsable hc.plain s).mp hs] at hhost
  rw [(load_eq_ok_iff hother.assignable hother.parsable hother.plain s').mp hs'] at hhost'
  rw [hall c other hc hother rfl (by decide) s s' hs hs', hhost'] at hhost
  exact absurd hhost (by decide)

end Sources

end PushRegistry.Config
