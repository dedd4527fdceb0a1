import Mathlib.Data.List.TakeWhile
import Mathlib.Tactic.MkIffOfInductiveProp
import PushRegistry.Config.Load

/-!
# `PushRegistry.Proofs.Config.Fields`: fields of the settings in a layer

A layer is a list of entries, and the key of an entry is a path. Which field an entry is about is
decided by the first name of its path alone: `get?_set_of_root_ne` says that laying an entry over
some settings leaves every other name as it was, whatever the path and the value are. A layer that
names a field once, plainly and with a scalar therefore decides it, and no other entry has a say
in it (`get?_overlay`).
-/

set_option autoImplicit false

namespace PushRegistry.Config

open PushRegistry.Decimal

/-- A field of the settings. -/
inductive Field where
  | host
  | port
  | timeout
  | connectTimeout
  deriving DecidableEq, Repr

namespace Field

theorem forall_iff {p : Field → Prop} :
    (∀ f, p f) ↔ p .host ∧ p .port ∧ p .timeout ∧ p .connectTimeout := by
  refine ⟨fun h => ⟨h .host, h .port, h .timeout, h .connectTimeout⟩, fun h f => ?_⟩
  cases f with
  | host => exact h.1
  | port => exact h.2.1
  | timeout => exact h.2.2.1
  | connectTimeout => exact h.2.2.2

instance {p : Field → Prop} [DecidablePred p] : Decidable (∀ f, p f) :=
  decidable_of_iff _ forall_iff.symm

/-- The name of a field in layers. -/
def key : Field → String
  | .host => "host"
  | .port => "port"
  | .timeout => "timeout_secs"
  | .connectTimeout => "connect_timeout_secs"

/-- The name of a field in the environment. -/
def variableName : Field → String
  | .host => "POSTAL_HOST"
  | .port => "POSTAL_PORT"
  | .timeout => "POSTAL_TIMEOUT_SECS"
  | .connectTimeout => "POSTAL_CONNECT_TIMEOUT_SECS"

/-- What a field holds. -/
abbrev Value : Field → Type
  | .host => String
  | .port | .timeout | .connectTimeout => Nat

/-- The value of a field. -/
def get : (f : Field) → Settings → f.Value
  | .host, s => s.host
  | .port, s => s.port
  | .timeout, s => s.timeout
  | .connectTimeout, s => s.connectTimeout

/-- A layered value as the value of a field. -/
def convert : (f : Field) → Setting → Except Mismatch f.Value
  | .host => toText (key .host)
  | .port => toPort (key .port)
  | .timeout => toWord (key .timeout)
  | .connectTimeout => toWord (key .connectTimeout)

/-- A scalar as the value of a field, if it suits it. -/
def ofScalar? (f : Field) (s : Scalar) : Option f.Value := (f.convert (.scalar none s)).toOption

end Field

/-! ### Values of fields -/

namespace Settings

/-- Settings are found exactly if the value of every field suits it. -/
theorem ofSetting_eq_ok_iff (root : Setting) (s : Settings) :
    ofSetting root = .ok s ↔ ∀ f : Field, f.convert (lookup root f.key) = .ok (f.get s) := by
  rw [Field.forall_iff, ofSetting]
  simp only [Field.convert, Field.key, Field.get]
  obtain ⟨host, port, timeout, connectTimeout⟩ := s
  generalize toText "host" (lookup root "host") = host?
  generalize toPort "port" (lookup root "port") = port?
  generalize toWord "timeout_secs" (lookup root "timeout_secs") = timeout?
  generalize toWord "connect_timeout_secs" (lookup root "connect_timeout_secs") = connectTimeout?
  cases host? <;> cases port? <;> cases timeout? <;> cases connectTimeout? <;>
    simp [bind, Except.bind, pure, Except.pure]

/-- The settings depend on nothing but the values of the fields. -/
theorem ofSetting_congr {root other : Setting}
    (h : ∀ f : Field, root.get? f.key = other.get? f.key) : ofSetting root = ofSetting other := by
  have hlookup : ∀ f : Field, lookup root f.key = lookup other f.key := fun f => by
    rw [lookup, lookup, h f]
  have hhost := hlookup .host
  have hport := hlookup .port
  have htimeout := hlookup .timeout
  have hconnect := hlookup .connectTimeout
  simp only [Field.key] at hhost hport htimeout hconnect
  rw [ofSetting, ofSetting, hhost, hport, htimeout, hconnect]

end Settings

namespace Field

/-- A port is a number below 65536. -/
theorem toOption_toPort (key : String) (s : Setting) :
    (toPort key s).toOption = (toWord key s).toOption.filter (· < 65536) := by
  rw [toPort]
  cases toWord key s with
  | error m => rfl
  | ok n =>
      by_cases hn : n < 65536 <;>
        simp [bind, Except.bind, Except.toOption, Option.filter, hn]

theorem toOption_toWord_scalar (key : String) (origin : Option Origin) (s : Scalar) :
    (toWord key (.scalar origin s)).toOption = (toWord key (.scalar none s)).toOption := by
  cases s with
  | null | bool b | float x => rfl
  | int n =>
      simp only [toWord]
      split <;> rfl
  | text t =>
      simp only [toWord]
      split <;> rfl

/-- What a scalar means for a field does not depend on where it was set. -/
theorem convert_scalar_eq_ok_iff (f : Field) (origin : Option Origin) (s : Scalar) (v : f.Value) :
    f.convert (.scalar origin s) = .ok v ↔ f.ofScalar? s = some v := by
  have hsame : (f.convert (.scalar origin s)).toOption = f.ofScalar? s := by
    cases f with
    | host => cases s <;> rfl
    | port =>
        rw [ofScalar?, convert, toOption_toPort, toOption_toPort, toOption_toWord_scalar]
    | timeout | connectTimeout => exact toOption_toWord_scalar _ origin s
  rw [← hsame]
  cases f.convert (.scalar origin s) <;> simp [Except.toOption]

end Field

/-! ### Names and paths -/

/-- The first name of a path. -/
def Key.root : Key → String
  | .name s => s
  | .entry parent _ => parent.root
  | .item parent _ => parent.root

namespace Setting

/-- A single value, without where it was set. -/
def scalar? : Setting → Option Scalar
  | .scalar _ s => some s
  | _ => none

theorem exists_eq_scalar {value : Setting} (h : value.scalar?.isSome) :
    ∃ origin s, value = .scalar origin s := by
  cases value with
  | scalar origin s => exact ⟨origin, s, rfl⟩
  | list origin items => cases h
  | table entries => cases h

theorem lookup_update_of_ne {name other : String} (h : name ≠ other)
    (change : Option Setting → Setting) (es : List (String × Setting)) :
    (update name change es).lookup other = es.lookup other := by
  have hother : (other == name) = false := by simpa using fun h' => h h'.symm
  induction es with
  | nil => simp [update, List.lookup_cons, hother]
  | cons e rest ih =>
      obtain ⟨k, v⟩ := e
      rw [update]
      split
      next hk => simp [List.lookup_cons, hk, hother]
      next hk => simp [List.lookup_cons, ih]

theorem lookup_update_self (name : String) (change : Option Setting → Setting)
    (es : List (String × Setting)) :
    (update name change es).lookup name = some (change (es.lookup name)) := by
  induction es with
  | nil => simp [update]
  | cons e rest ih =>
      obtain ⟨k, v⟩ := e
      rw [update]
      split
      next hk => simp [hk]
      next hk =>
        have : (name == k) = false := by simpa using fun h => hk h.symm
        simp [List.lookup_cons, this, ih]

/-- A value is laid over one name only. -/
theorem get?_place_of_ne {name other : String} (h : normalize name ≠ other) (value root : Setting) :
    (place value name root).get? other = root.get? other := by
  cases value <;> simp [place, get?, entries, lookup_update_of_ne h]

theorem get?_place_scalar (origin : Option Origin) (s : Scalar) (name : String) (root : Setting) :
    (place (.scalar origin s) name root).get? (normalize name) = some (.scalar origin s) := by
  simp [place, get?, entries, lookup_update_self]

/-- A change at a path concerns its first name only. -/
theorem get?_change_of_root_ne {key : Key} {other : String} (h : normalize key.root ≠ other)
    (f : Setting → Setting) (root : Setting) :
    (change f key root).get? other = root.get? other := by
  induction key generalizing f with
  | name s =>
      cases root with
      | scalar origin s => rfl
      | list origin items => rfl
      | table es => exact lookup_update_of_ne h _ es
  | entry parent s ih => exact ih h _
  | item parent i ih => exact ih h _

/-- A value at a path is laid over its first name only. -/
theorem get?_set_of_root_ne {key : Key} {other : String} (h : normalize key.root ≠ other)
    (value root : Setting) : (set key value root).get? other = root.get? other := by
  cases key with
  | name s =>
      rw [set]
      exact get?_place_of_ne h value root
  | entry parent s =>
      have hparent : normalize parent.root ≠ other := h
      rw [set]
      exact get?_change_of_root_ne hparent _ root
  | item parent i =>
      have hparent : normalize parent.root ≠ other := h
      rw [set]
      exact get?_change_of_root_ne hparent _ root

/-- A change at a path is an update of its first name, whatever else a table holds. -/
theorem exists_change_eq_update (f : Setting → Setting) (key : Key) :
    ∃ g, ∀ es, change f key (.table es) = .table (update (normalize key.root) g es) := by
  induction key generalizing f with
  | name s => exact ⟨fun old => f (old.getD unset), fun es => rfl⟩
  | entry parent s ih => exact ih _
  | item parent i ih => exact ih _

theorem exists_set_eq_update (key : Key) (value : Setting) :
    ∃ g, ∀ es, set key value (.table es) = .table (update (normalize key.root) g es) := by
  cases key with
  | name s => cases value <;> exact ⟨_, fun es => rfl⟩
  | entry parent s => exact exists_change_eq_update _ parent
  | item parent i => exact exists_change_eq_update _ parent

theorem exists_overlay_eq_table (es : List (String × Setting)) (layer : List (String × Setting)) :
    ∃ es', overlay (.table es) layer = .table es' := by
  induction layer generalizing es with
  | nil => exact ⟨es, rfl⟩
  | cons e rest ih =>
      obtain ⟨g, hg⟩ := exists_set_eq_update (Key.ofString e.1) e.2
      rw [overlay, List.foldl_cons, hg]
      exact ih _

end Setting

/-- A text of name characters is a name, whatever case they have. -/
theorem Key.ofString_of_isNameChar {s : String} (h : ∀ c ∈ s.toList, Key.isNameChar c = true) :
    Key.ofString s = .name s := by
  have htake : s.toList.takeWhile Key.isNameChar = s.toList := List.takeWhile_eq_self_iff.mpr h
  have hdrop : s.toList.dropWhile Key.isNameChar = [] := List.dropWhile_eq_nil_iff.mpr h
  rw [Key.ofString, Key.parse?, htake, hdrop]
  cases hempty : s.toList.isEmpty <;> simp [Key.extend?]

theorem Key.isNameChar_of_toLower {c : Char} (h : Key.isNameChar c.toLower = true) :
    Key.isNameChar c = true := by
  by_cases hupper : c.isUpper = true
  · have halpha : c.isAlpha = true := Bool.or_eq_true_iff.mpr (.inl hupper)
    simp [Key.isNameChar, Char.isAlphanum, halpha]
  · have hsame : c.toLower = c := dif_neg fun hrange => hupper (decide_eq_true hrange)
    rwa [hsame] at h

/-! ### Entries about a field -/

namespace Field

/-- A key whose path starts at a field. -/
def Names (f : Field) (key : String) : Prop :=
  Setting.normalize (Key.ofString key).root = f.key

instance (f : Field) (key : String) : Decidable (f.Names key) :=
  inferInstanceAs (Decidable (_ = _))

/-- A key that is the name of a field, in any case, is no longer path. -/
theorem ofString_of_normalize {f : Field} {key : String} (h : Setting.normalize key = f.key) :
    Key.ofString key = .name key := by
  refine Key.ofString_of_isNameChar fun c hc => Key.isNameChar_of_toLower ?_
  have hlower : key.toList.map Char.toLower = f.key.toList := by
    rw [← h, Setting.normalize, String.toList_ofList]
  have hmem : c.toLower ∈ f.key.toList := hlower ▸ List.mem_map_of_mem hc
  have hkey : f.key.toList.all Key.isNameChar = true := by
    cases f <;> decide
  exact List.all_eq_true.mp hkey _ hmem

/-- What a layer says about a field. -/
def setting? (f : Field) (layer : List (String × Setting)) : Option Setting :=
  (layer.find? fun e => f.Names e.1).map Prod.snd

/-- A layer names a field at most once. If it does, the key is nothing but the name, in any case,
and the value is a scalar. -/
@[mk_iff]
structure Plain (f : Field) (layer : List (String × Setting)) : Prop where
  once : (layer.filter fun e => f.Names e.1).length ≤ 1
  name : ∀ e ∈ layer, f.Names e.1 → Setting.normalize e.1 = f.key
  scalar : ∀ e ∈ layer, f.Names e.1 → e.2.scalar?.isSome

instance (f : Field) (layer : List (String × Setting)) : Decidable (f.Plain layer) :=
  decidable_of_iff _ (plain_iff f layer).symm

theorem Plain.tail {f : Field} {e : String × Setting} {rest : List (String × Setting)}
    (h : f.Plain (e :: rest)) : f.Plain rest where
  once := ((List.sublist_cons_self e rest).filter _).length_le.trans h.once
  name := fun e' he' => h.name e' (List.mem_cons_of_mem e he')
  scalar := fun e' he' => h.scalar e' (List.mem_cons_of_mem e he')

theorem Plain.scalar_of_setting? {f : Field} {layer : List (String × Setting)} (h : f.Plain layer)
    {e : Setting} (he : f.setting? layer = some e) : ∃ origin s, e = .scalar origin s := by
  obtain ⟨found, hfound, rfl⟩ := Option.map_eq_some_iff.mp he
  have hnames := List.find?_some hfound
  exact Setting.exists_eq_scalar
    (h.scalar found (List.mem_of_find?_eq_some hfound) (of_decide_eq_true hnames))

/-- Entries that do not name a field have no say in it. -/
theorem get?_overlay_of_not_names {f : Field} {layer : List (String × Setting)}
    (h : ∀ e ∈ layer, ¬ f.Names e.1) (root : Setting) :
    (root.overlay layer).get? f.key = root.get? f.key := by
  induction layer generalizing root with
  | nil => rfl
  | cons e rest ih =>
      rw [Setting.overlay, List.foldl_cons]
      refine (ih (fun e' he' => h e' (List.mem_cons_of_mem e he')) _).trans ?_
      exact Setting.get?_set_of_root_ne (h e List.mem_cons_self) _ _

/-- A layer decides a field that it names, and leaves it as it was otherwise. -/
theorem get?_overlay {f : Field} {layer : List (String × Setting)} (h : f.Plain layer)
    (root : Setting) :
    (root.overlay layer).get? f.key = (f.setting? layer).or (root.get? f.key) := by
  induction layer generalizing root with
  | nil => rfl
  | cons e rest ih =>
      rw [Setting.overlay, List.foldl_cons]
      by_cases hnames : f.Names e.1
      · have hrest : ∀ e' ∈ rest, ¬ f.Names e'.1 := by
          have := h.once
          simpa [hnames] using this
        obtain ⟨origin, s, hs⟩ :=
          Setting.exists_eq_scalar (h.scalar e List.mem_cons_self hnames)
        have hname := h.name e List.mem_cons_self hnames
        refine (get?_overlay_of_not_names hrest _).trans ?_
        rw [ofString_of_normalize hname, hs, Setting.set, ← hname, Setting.get?_place_scalar, hname]
        simp [setting?, hnames, hs]
      · refine (ih h.tail _).trans ?_
        rw [Setting.get?_set_of_root_ne hnames]
        simp [setting?, hnames]

/-- What a layer makes of a field depends on what the field was before and on the entries that name
it, in their order. -/
theorem get?_overlay_filter (f : Field) {es es' : List (String × Setting)}
    (h : es.lookup f.key = es'.lookup f.key) (layer : List (String × Setting)) :
    (Setting.overlay (.table es) layer).get? f.key
      = (Setting.overlay (.table es') (layer.filter fun e => f.Names e.1)).get? f.key := by
  induction layer generalizing es es' with
  | nil => exact h
  | cons e rest ih =>
      obtain ⟨g, hg⟩ := Setting.exists_set_eq_update (Key.ofString e.1) e.2
      by_cases hnames : f.Names e.1
      · have hroot : Setting.normalize (Key.ofString e.1).root = f.key := hnames
        rw [List.filter_cons_of_pos (by simpa using hnames), Setting.overlay, Setting.overlay,
          List.foldl_cons, List.foldl_cons, hg, hg, hroot]
        refine ih ?_
        rw [Setting.lookup_update_self, Setting.lookup_update_self, h]
      · rw [List.filter_cons_of_neg (by simpa using hnames), Setting.overlay, List.foldl_cons, hg]
        refine ih ?_
        rw [Setting.lookup_update_of_ne hnames, h]

/-- Layers with the same entries about a field make the same of it. -/
theorem get?_overlay_congr {f : Field} {layer other : List (String × Setting)}
    (h : (layer.filter fun e => f.Names e.1) = other.filter fun e => f.Names e.1)
    (es : List (String × Setting)) :
    (Setting.overlay (.table es) layer).get? f.key
      = (Setting.overlay (.table es) other).get? f.key := by
  rw [get?_overlay_filter f rfl layer, get?_overlay_filter f rfl other, h]

end Field

end PushRegistry.Config
