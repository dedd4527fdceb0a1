import PushRegistry.Proofs.Config.Layering
import PushRegistry.Proofs.Text.Utf8

/-!
# `PushRegistry.Proofs.Config.OneField`: a single field that is set

Sources where one field is set and nothing else (`Sources.Sets`): the field has the value that its
scalar means, if it means any (`Sources.Sets.load`), and all others have their defaults. A variable
alone is such a source (`Sources.sets_ofVariable`), and so is a settings file whose only entry is a
scalar (`Sources.sets_ofFile`).
-/

set_option autoImplicit false

namespace PushRegistry.Config

open PushRegistry.Text

namespace Sources

/-- Nothing is set but one field. -/
structure Sets (c : Sources) (f : Field) (s : Scalar) : Prop where
  assignable : c.Assignable
  parsable : c.Parsable
  plain : ∀ g, c.Plain g
  said : c.said? f = some s
  rest : ∀ g, g ≠ f → c.said? g = none

/-- A field whose scalar suits it has its value, and the others have their defaults. -/
theorem Sets.load {c : Sources} {f : Field} {s : Scalar} (h : c.Sets f s) {t : Settings}
    (ht : f.ofScalar? s = some (f.get t)) (hrest : ∀ g, g ≠ f → g.get t = g.get Settings.default) :
    Settings.load c.files c.given = some (.ok t) := by
  refine (load_eq_ok_iff h.assignable h.parsable h.plain _).mpr fun g => ?_
  by_cases hg : g = f
  · subst hg
    rw [value?, h.said]
    exact ht
  · rw [value?, h.rest g hg, hrest g hg]

theorem Sets.load_error {c : Sources} {f : Field} {s : Scalar} (h : c.Sets f s)
    (hs : f.ofScalar? s = none) :
    ∃ fault, Settings.load c.files c.given = some (.error fault) := by
  have hload := load_of_assignable h.assignable
  cases hlayers : Settings.ofLayers c.files c.extended with
  | error fault => exact ⟨fault, by rw [hload, hlayers]⟩
  | ok t =>
      rw [hlayers] at hload
      have hvalue : f.ofScalar? s = some (f.get t) := by
        rw [← (load_eq_ok_iff h.assignable h.parsable h.plain t).mp hload f, value?, h.said]
      rw [hs] at hvalue
      cases hvalue

/-- A variable of the environment and nothing else. -/
def ofVariable (f : Field) (text : String) : Sources := ⟨[], [(f.variableName, text)]⟩

/-- A settings file and nothing else. -/
def ofFile (content : String) : Sources := ⟨[⟨"postal.toml", Utf8.ofString content⟩], []⟩

theorem eq_of_namedBy : ∀ f g : Field, g.NamedBy f.variableName → f = g := by decide

theorem variableName_injective : ∀ f g : Field, f.variableName = g.variableName → f = g := by decide

theorem eq_of_names : ∀ f g : Field, g.Names f.key → f = g := by decide

theorem fileLayer_nil : Settings.fileLayer [] = .ok [] := rfl

theorem sets_ofVariable (f : Field) (text : String) :
    (ofVariable f text).Sets f (Environment.value text) := by
  have hentries : (ofVariable f text).entries = [] := by
    rw [entries, ofVariable, fileLayer_nil]
  have hassignments : (ofVariable f text).assignments = [] := rfl
  have hentry : ∀ g, (ofVariable f text).setting? g = none := fun g => by
    rw [setting?, hentries]
    rfl
  have hassignment : ∀ g, (ofVariable f text).assignment? g = none := fun g => by
    rw [assignment?, hassignments]
    rfl
  have hassignable : (ofVariable f text).Assignable := by
    rw [Assignable, hassignments]
    exact List.forall_mem_nil _
  refine ⟨hassignable, ⟨[], fileLayer_nil⟩, fun g => ⟨?_, ?_, ?_, ?_⟩, ?_, fun g hg => ?_⟩
  · intro v hv hnamed
    rw [List.mem_singleton.mp hv] at hnamed ⊢
    rw [eq_of_namedBy f g hnamed]
  · exact List.length_filter_le _ _
  · rw [hassignments]
    exact List.forall_mem_nil _
  · rw [hentries]
    exact ⟨Nat.zero_le _, List.forall_mem_nil _, List.forall_mem_nil _⟩
  · rw [said?, hentry, hassignment, given?, ofVariable, List.lookup_cons_self]
    rfl
  · have hother : (g.variableName == f.variableName) = false :=
      beq_eq_false_iff_ne.mpr fun heq => hg (variableName_injective g f heq)
    rw [said?, hentry, hassignment, given?, ofVariable, List.lookup_cons, hother]
    rfl

theorem content?_ofFile (content name : String) :
    Settings.content? (ofFile content).files name =
      if name = "postal.toml" then some (Utf8.ofString content) else none := by
  by_cases hname : name = "postal.toml" <;> simp [Settings.content?, ofFile, hname, eq_comm]

theorem assignments_ofFile (content : String) : (ofFile content).assignments = [] := by
  rw [assignments, content?_ofFile, if_neg (by decide)]

theorem assignable_ofFile (content : String) : (ofFile content).Assignable := by
  rw [Assignable, assignments_ofFile]
  exact List.forall_mem_nil _

theorem file?_ofFile (content : String) :
    Settings.file? (ofFile content).files = some ("postal.toml", .toml, content.toList) := by
  have hbase : ¬ (Settings.content? (ofFile content).files Settings.fileBase).isSome := by
    rw [content?_ofFile, if_neg (by decide)]
    decide
  have hfound : Format.extensions.find? (fun e =>
      (Settings.content? (ofFile content).files (Settings.fileBase ++ "." ++ e.1)).isSome) =
        some ("toml", .toml) := by
    refine List.find?_cons_of_pos ?_
    rw [content?_ofFile, if_pos (by decide)]
    rfl
  rw [Settings.file?, if_neg hbase, hfound]
  have hname : Settings.fileBase ++ "." ++ "toml" = "postal.toml" := by decide
  simp [content?_ofFile, hname, Utf8.ofString]

theorem table_toml (cs : List Char) :
    Format.table .toml cs =
      match Toml.parse? cs with
      | some es => .ok es
      | none => .error .malformed := by
  have hdocument : Format.document .toml cs =
      match Toml.parse? cs with
      | some es => .ok (.table es)
      | none => .error .malformed := by
    unfold Format.document
    cases Toml.parse? cs <;> rfl
  unfold Format.table
  rw [hdocument]
  cases Toml.parse? cs <;> rfl

theorem fileLayer_ofFile (content : String) :
    Settings.fileLayer (ofFile content).files =
      match Toml.parse? content.toList with
      | some es => .ok (Setting.ofEntries (.file "postal.toml") es)
      | none => .error (.unparsable "postal.toml" .malformed) := by
  rw [Settings.fileLayer, file?_ofFile]
  dsimp only
  rw [table_toml]
  cases Toml.parse? content.toList <;> rfl

/-- A settings file with one entry, which is the name of a field and a scalar. -/
theorem sets_ofFile {f : Field} {content : String} {s : Scalar}
    (h : Toml.parse? content.toList = some [(f.key, .scalar s)]) :
    (ofFile content).Sets f s := by
  let entry : String × Setting := (f.key, .scalar (some (.file "postal.toml")) s)
  have hlayer : Settings.fileLayer (ofFile content).files = .ok [entry] := by
    rw [fileLayer_ofFile, h]
    rfl
  have hentries : (ofFile content).entries = [entry] := by rw [entries, hlayer]
  have hassignments := assignments_ofFile content
  have hassignment : ∀ g, (ofFile content).assignment? g = none := fun g => by
    rw [assignment?, hassignments]
    rfl
  have hsaid : ∀ g, (ofFile content).said? g = (ofFile content).setting? g := fun g => by
    rw [said?, hassignment]
    rfl
  have hsingle : ∀ g : Field,
      g.setting? [entry] = if g.Names entry.1 then some entry.2 else none := by
    intro g
    by_cases hnames : g.Names entry.1 <;> simp [Field.setting?, hnames]
  refine ⟨assignable_ofFile content, ⟨_, hlayer⟩,
    fun g => ⟨List.forall_mem_nil _, Nat.zero_le _, ?_, ?_⟩, ?_, fun g hg => ?_⟩
  · rw [hassignments]
    exact List.forall_mem_nil _
  · rw [hentries]
    refine ⟨List.length_filter_le _ _, fun e he hnames => ?_, fun e he _ => ?_⟩
    · rw [List.mem_singleton.mp he] at hnames ⊢
      rw [← eq_of_names f g hnames]
      exact f.normalize_key
    · rw [List.mem_singleton.mp he]
      rfl
  · rw [hsaid, setting?, hentries, hsingle, if_pos f.names_key]
    rfl
  · have hnot : ¬ g.Names f.key := fun hnames => hg (eq_of_names f g hnames).symm
    rw [hsaid, setting?, hentries, hsingle, if_neg hnot]
    rfl

end Sources

end PushRegistry.Config
