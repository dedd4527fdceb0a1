import Mathlib.Tactic.SplitIfs
import PushRegistry.Config.Dotenv

/-!
# `PushRegistry.Proofs.Config.Assignments`: what a file adds to the environment

A file of variables is the list of the assignments that it makes, each in the scope of those above
it. They are added to the environment one after the other, if every new one can be set (`run_eq`).
This changes nothing that is there: a variable has the value of the environment and otherwise that
of its first assignment (`lookup_addVariables`).

The text of a value may refer to variables. `references` lists their names, and the value depends
on nothing else: scopes that agree on them read the same (`Assignment.value_eq_of_same`).
-/

set_option autoImplicit false

namespace PushRegistry.Config.Dotenv

open PushRegistry.Config.Environment (Variable)
open PushRegistry.Text

/-! ### References -/

/-- The names of the variables that a value refers to, in the order of its text. -/
def references : Mode → List Char → List (List Char)
  | .name _ acc, [] => [acc.reverse]
  | _, [] => []
  | mode, c :: rest =>
    match mode with
    | .ended => if c = ' ' ∨ c = '\t' then references .ended rest else []
    | .escape quoted => references (.base quoted) rest
    | .single => if c = '\'' then references .plain rest else references .single rest
    | .name quoted acc =>
      if isAlphanumeric c then references (.name quoted (c :: acc)) rest
      else if c = '\x7b' ∧ acc.isEmpty then references (.braced quoted []) rest
      else acc.reverse ::
        (if c = '$' then references (.name quoted []) rest else references (.base quoted) rest)
    | .braced quoted acc =>
      if isAlphanumeric c then references (.braced quoted (c :: acc)) rest
      else if c = '\x7d' then acc.reverse :: references (.base quoted) rest
      else references (.braced quoted (c :: acc)) rest
    | .double =>
      if c = '$' then references (.name true []) rest
      else if c = '"' then references .plain rest
      else if c = '\\' then references (.escape true) rest
      else references .double rest
    | .plain =>
      if c = '$' then references (.name false []) rest
      else if c = '\'' then references .single rest
      else if c = '"' then references .double rest
      else if c = '\\' then references (.escape false) rest
      else if c = ' ' ∨ c = '\t' then references .ended rest
      else references .plain rest

/-- A value depends on the variables that it refers to, and on no others. -/
theorem readValue_eq_of_references {scope other : Scope} {mode : Mode} {cs : List Char}
    (h : ∀ name ∈ references mode cs, scope.substitute name = other.substitute name)
    (out : List Char) : readValue scope mode out cs = readValue other mode out cs := by
  induction cs generalizing mode out with
  | nil =>
      cases mode with
      | name quoted acc =>
          have hname := h acc.reverse (by simp [references])
          cases quoted <;> simp [readValue, hname]
      | escape quoted => cases quoted <;> simp [readValue]
      | plain | ended | single | double | braced quoted acc => simp [readValue]
  | cons c rest ih =>
      -- Both walk the text in the same modes, so each character is one case for all three.
      cases mode with
      | plain | ended | single | double =>
          simp only [readValue, references] at h ⊢
          split_ifs at h ⊢ <;> first | rfl | exact ih h _
      | escape quoted =>
          simp only [readValue, references] at h ⊢
          split_ifs <;> first | rfl | exact ih h _
      | name quoted acc =>
          simp only [readValue, references] at h ⊢
          split_ifs at h ⊢
          · exact ih h _
          · exact ih h _
          all_goals
            rw [h acc.reverse List.mem_cons_self]
            exact ih (fun name hname => h name (List.mem_cons_of_mem _ hname)) _
      | braced quoted acc =>
          simp only [readValue, references] at h ⊢
          split_ifs at h ⊢
          · exact ih h _
          · rw [h acc.reverse List.mem_cons_self]
            exact ih (fun name hname => h name (List.mem_cons_of_mem _ hname)) _
          · exact ih h _

/-! ### Lines -/

/-- The name that a line assigns to, and the text of the value. -/
def written? (line : List Char) : Option (String × List Char) :=
  let cs := (trimEnd line).dropWhile isBlank
  if cs.isEmpty ∨ cs.head? = some '#' then none else target? cs

/-- What the text of a value means. A comment may stand in place of a value. -/
def resolve? (scope : Scope) (text : List Char) : Option String :=
  if text.isEmpty ∨ text.head? = some '#' then some ""
  else (readValue scope .plain [] text).map String.ofList

theorem Line.read_eq_assign {scope : Scope} {line : List Char} {v : Variable}
    (h : Line.read scope line = .assign v) :
    ∃ text, written? line = some (v.1, text) ∧ resolve? scope text = some v.2 := by
  simp only [Line.read, written?] at h ⊢
  split at h
  · cases h
  next hcs =>
    rw [if_neg hcs]
    split at h
    · cases h
    next name text htarget =>
      rw [htarget]
      split at h
      next hempty =>
        cases h
        exact ⟨text, rfl, if_pos hempty⟩
      next hempty =>
        split at h
        next value hread =>
          cases h
          exact ⟨text, rfl, by rw [resolve?, if_neg hempty, hread]; rfl⟩
        · cases h

/-- An assignment: the scope in which it is made, its name, the text of its value, and the value
that the text means there. -/
structure Assignment where
  scope : Scope
  name : String
  text : List Char
  value : String
  deriving DecidableEq, Repr

/-- The variable that an assignment makes. -/
def Assignment.toVariable (a : Assignment) : Variable := (a.name, a.value)

/-- The logical lines of a file. -/
def lines (file : List UInt8) : List (Option (List Char)) :=
  logicalLines .plain [] ((physicalLines [] (dropMark file)).map Utf8.decode?)

/-- The scope below an assignment. -/
def Scope.assign (scope : Scope) (v : Variable) : Scope :=
  ⟨addVariable scope.environment v, v :: scope.earlier⟩

/-- The assignments that logical lines make until one cannot be read. -/
def assignments (scope : Scope) : List (Option (List Char)) → List Assignment
  | [] => []
  | none :: _ => []
  | some line :: rest =>
    match Line.read scope line, written? line with
    | .empty, _ => assignments scope rest
    | .assign v, some (name, text) => ⟨scope, name, text, v.2⟩ :: assignments (scope.assign v) rest
    | _, _ => []

/-- Adds variables one after the other. -/
def addVariables (environment : List Variable) (vs : List Variable) : List Variable :=
  vs.foldl addVariable environment

/-- An assignment does not stop the program: its variable is there already, or can be set. -/
def Assignment.Settable (a : Assignment) : Prop :=
  (a.scope.environment.lookup a.name).isSome ∨ isSettable a.toVariable

instance (a : Assignment) : Decidable a.Settable :=
  inferInstanceAs (Decidable (_ ∨ _))

theorem assignments_of_read {scope : Scope} {line : List Char} {v : Variable}
    (h : Line.read scope line = .assign v) (rest : List (Option (List Char))) :
    ∃ text, assignments scope (some line :: rest)
      = ⟨scope, v.1, text, v.2⟩ :: assignments (scope.assign v) rest := by
  obtain ⟨text, hwritten, -⟩ := Line.read_eq_assign h
  exact ⟨text, by rw [assignments, h, hwritten]⟩

/-- A file adds the variables that it assigns, unless one of them cannot be set. -/
theorem run_eq (scope : Scope) (lines : List (Option (List Char))) :
    run scope lines =
      if ∀ a ∈ assignments scope lines, a.Settable then
        some (addVariables scope.environment ((assignments scope lines).map Assignment.toVariable))
      else none := by
  induction lines generalizing scope with
  | nil => rfl
  | cons line? rest ih =>
      cases line? with
      | none => rfl
      | some line =>
          cases hread : Line.read scope line with
          | empty =>
              have hassignments : assignments scope (some line :: rest) = assignments scope rest := by
                rw [assignments, hread]
              rw [run, hread, hassignments]
              exact ih scope
          | bad =>
              have hassignments : assignments scope (some line :: rest) = [] := by
                rw [assignments, hread]
              rw [run, hread, hassignments]
              rfl
          | assign v =>
              obtain ⟨text, hassignments⟩ := assignments_of_read hread rest
              have hhead : Assignment.Settable ⟨scope, v.1, text, v.2⟩ ↔
                  (scope.environment.lookup v.1).isSome ∨ isSettable v := Iff.rfl
              rw [run, hread, hassignments]
              simp only [List.forall_mem_cons, hhead]
              by_cases hset : (scope.environment.lookup v.1).isSome ∨ isSettable v
              · simp only [hset, true_and, if_true]
                exact ih _
              · simp only [hset, false_and, if_false]

/-- The value of an assignment is what its text means in its scope. -/
theorem resolve?_of_mem_assignments {scope : Scope} {lines : List (Option (List Char))}
    {a : Assignment} (h : a ∈ assignments scope lines) :
    resolve? a.scope a.text = some a.value := by
  induction lines generalizing scope with
  | nil => cases h
  | cons line? rest ih =>
      cases line? with
      | none => cases h
      | some line =>
          rw [assignments] at h
          cases hread : Line.read scope line with
          | empty =>
              rw [hread] at h
              exact ih h
          | bad =>
              rw [hread] at h
              cases h
          | assign v =>
              obtain ⟨text, hwritten, hvalue⟩ := Line.read_eq_assign hread
              rw [hread, hwritten] at h
              rcases List.mem_cons.mp h with rfl | hrest
              · exact hvalue
              · exact ih hrest

/-- Two assignments have one text, and the variables that it refers to have one value for both. -/
structure Assignment.Same (a b : Assignment) : Prop where
  text : a.text = b.text
  references : ∀ name ∈ references .plain a.text,
    a.scope.substitute name = b.scope.substitute name

theorem Assignment.value_eq_of_same {a b : Assignment} (h : a.Same b)
    (ha : resolve? a.scope a.text = some a.value) (hb : resolve? b.scope b.text = some b.value) :
    a.value = b.value := by
  rw [← h.text, resolve?, ← readValue_eq_of_references h.references, ← resolve?, ha] at hb
  exact Option.some.inj hb

/-! ### Variables -/

/-- A variable keeps its first value. -/
theorem lookup_addVariable (environment : List Variable) (v : Variable) (name : String) :
    (addVariable environment v).lookup name = (environment.lookup name).or ([v].lookup name) := by
  rw [addVariable]
  split
  next hset =>
    by_cases hname : name = v.1
    · subst hname
      obtain ⟨value, hvalue⟩ := Option.isSome_iff_exists.mp hset
      rw [hvalue, Option.some_or]
    · have : [v].lookup name = none := by simp [hname]
      rw [this, Option.or_none]
  next => exact List.lookup_append

theorem lookup_addVariables (environment vs : List Variable) (name : String) :
    (addVariables environment vs).lookup name = (environment.lookup name).or (vs.lookup name) := by
  induction vs generalizing environment with
  | nil => simp [addVariables]
  | cons v rest ih =>
      rw [addVariables, List.foldl_cons]
      refine (ih _).trans ?_
      rw [lookup_addVariable, Option.or_assoc, ← List.lookup_append, List.singleton_append]

theorem mem_of_mem_addVariables {environment vs : List Variable} {v : Variable}
    (h : v ∈ addVariables environment vs) : v ∈ environment ∨ v ∈ vs := by
  induction vs generalizing environment with
  | nil => exact Or.inl h
  | cons w rest ih =>
      rcases ih h with hadded | hrest
      · rw [addVariable] at hadded
        split at hadded
        · exact Or.inl hadded
        · rcases List.mem_append.mp hadded with hold | hnew
          · exact Or.inl hold
          · exact Or.inr (List.mem_cons.mpr (Or.inl (List.mem_singleton.mp hnew)))
      · exact Or.inr (List.mem_cons_of_mem w hrest)

/-- A variable that is there at most once stays so. -/
theorem once_addVariables {environment : List Variable} {name : String}
    (h : (environment.filter fun v => v.1 = name).length ≤ 1) (vs : List Variable) :
    ((addVariables environment vs).filter fun v => v.1 = name).length ≤ 1 := by
  induction vs generalizing environment with
  | nil => exact h
  | cons v rest ih =>
      refine ih ?_
      rw [addVariable]
      split
      · exact h
      next hunset =>
        by_cases hname : v.1 = name
        · have hlookup : environment.lookup v.1 = none := Option.not_isSome_iff_eq_none.mp hunset
          have hnone : environment.filter (fun w => w.1 = name) = [] := by
            refine List.filter_eq_nil_iff.mpr fun w hw hsame => ?_
            have hne := List.lookup_eq_none_iff.mp hlookup w hw
            rw [hname, ← of_decide_eq_true hsame] at hne
            simp at hne
          simp [List.filter_append, hnone, hname]
        · simpa [List.filter_append, hname] using h

end PushRegistry.Config.Dotenv
