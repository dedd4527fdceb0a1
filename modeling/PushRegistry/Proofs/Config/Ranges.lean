import PushRegistry.Proofs.Config.OneField
import PushRegistry.Proofs.Config.TomlInteger
import PushRegistry.Proofs.Decimal.Rounding

/-!
# `PushRegistry.Proofs.Config.Ranges`: integers that do not fit

The port and the two times are numbers with a bound, and they can be written in decimal in a
variable or in a settings file. `NumberField.Keeps` is what one hopes for: an integer that fits the
field is its value, and any other is refused. `NumberField.load_integer` says for every integer what
becomes of it.

Files keep that promise as far as they can be read at all: an integer that does not fit 64 bits with
a sign makes a file malformed. Variables keep it for the integers that do fit 64 bits with a sign.
The others are still numerals, so they are read as doubles, and doubles are rounded into the range
of words and never refused. `NumberField.not_forall_kept` gives an integer that is accepted as zero.
-/

set_option autoImplicit false

namespace PushRegistry.Config

open PushRegistry.Decimal
open PushRegistry.Decimal.Binary64
open PushRegistry.Text

/-! ### Fields that are numbers -/

/-- A field that holds a number. -/
inductive NumberField where
  | port
  | timeout
  | connectTimeout
  deriving DecidableEq, Repr

namespace NumberField

/-- The field among all fields. -/
def field : NumberField → Field
  | .port => .port
  | .timeout => .timeout
  | .connectTimeout => .connectTimeout

/-- What the numbers of a field are below. -/
def bound : NumberField → Nat
  | .port => 65536
  | .timeout | .connectTimeout => UInt64.size

/-- The settings where nothing but one field is set. -/
def only : NumberField → Nat → Settings
  | .port, n => { Settings.default with port := n }
  | .timeout, n => { Settings.default with timeout := n }
  | .connectTimeout, n => { Settings.default with connectTimeout := n }

/-- A scalar as the number of a field, if it suits it. -/
def ofScalar? : NumberField → Scalar → Option Nat
  | .port, s => Field.port.ofScalar? s
  | .timeout, s => Field.timeout.ofScalar? s
  | .connectTimeout, s => Field.connectTimeout.ofScalar? s

theorem field_ofScalar?_of_none {f : NumberField} {s : Scalar} (h : f.ofScalar? s = none) :
    f.field.ofScalar? s = none := by
  cases f <;> exact h

theorem field_ofScalar?_of_some {f : NumberField} {s : Scalar} {n : Nat}
    (h : f.ofScalar? s = some n) : f.field.ofScalar? s = some (f.field.get (f.only n)) := by
  cases f <;> exact h

theorem get_only_of_ne {f : NumberField} {g : Field} (h : g ≠ f.field) (n : Nat) :
    g.get (f.only n) = g.get Settings.default := by
  cases f <;> cases g <;> first | rfl | exact absurd rfl h

/-- A number is taken if it is below the bound, where words always are. -/
theorem ofScalar?_of_toWord (f : NumberField) {s : Scalar} {n : Nat} (hn : n < UInt64.size)
    (h : ∀ key, toWord key (.scalar none s) = .ok n) :
    f.ofScalar? s = if n < f.bound then some n else none := by
  cases f with
  | port =>
      rw [ofScalar?, Field.ofScalar?, Field.convert, Field.toOption_toPort, h]
      by_cases hport : n < 65536 <;> simp [Except.toOption, Option.filter, bound, hport]
  | timeout =>
      rw [ofScalar?, Field.ofScalar?, Field.convert, h, bound, if_pos hn]
      rfl
  | connectTimeout =>
      rw [ofScalar?, Field.ofScalar?, Field.convert, h, bound, if_pos hn]
      rfl

/-- An integer is accepted if it fits the field, and as itself. -/
theorem ofScalar?_int (f : NumberField) {n : Int} (h : Numeral.FitsInt64 n) :
    f.ofScalar? (.int n) = if 0 ≤ n ∧ n < f.bound then some n.toNat else none := by
  have hsize : UInt64.size = 0x10000000000000000 := rfl
  by_cases hn : 0 ≤ n
  · have hword : ∀ key, toWord key (.scalar none (.int n)) = .ok n.toNat := by
      intro key
      rw [toWord, if_pos hn]
    rw [ofScalar?_of_toWord f (by omega) hword]
    have hiff : n.toNat < f.bound ↔ 0 ≤ n ∧ n < f.bound := by omega
    simp only [hiff]
  · rw [if_neg fun h' => hn h'.1]
    have hrefused : ∀ key, (toWord key (.scalar none (.int n))).toOption = none := by
      intro key
      rw [toWord, if_neg hn]
      rfl
    cases f with
    | port => rw [ofScalar?, Field.ofScalar?, Field.convert, Field.toOption_toPort, hrefused]; rfl
    | timeout => exact hrefused _
    | connectTimeout => exact hrefused _

/-- A double is rounded to a word first. -/
theorem ofScalar?_float (f : NumberField) {x : Binary64} {n : Nat} (hn : n < UInt64.size)
    (h : roundToWord x = n) :
    f.ofScalar? (.float x) = if n < f.bound then some n else none :=
  ofScalar?_of_toWord f hn fun _ => by rw [toWord, h]

end NumberField

namespace Sources

theorem load_of_sets {c : Sources} {f : NumberField} {s : Scalar} (h : c.Sets f.field s) {n : Nat}
    (hn : f.ofScalar? s = some n) : Settings.load c.files c.given = some (.ok (f.only n)) :=
  h.load (NumberField.field_ofScalar?_of_some hn) fun _ hg => NumberField.get_only_of_ne hg n

theorem load_error_of_sets {c : Sources} {f : NumberField} {s : Scalar} (h : c.Sets f.field s)
    (hn : f.ofScalar? s = none) :
    ∃ fault, Settings.load c.files c.given = some (.error fault) :=
  h.load_error (NumberField.field_ofScalar?_of_none hn)

theorem parse?_integerFile (f : NumberField) {text : String} {n : Int}
    (h : Numeral.integer? 10 text.toList = some n) :
    Toml.parse? (f.field.key ++ " = " ++ text ++ "\n").toList =
      if Toml.Canonical text.toList ∧ Numeral.FitsInt64 n then
        some [(f.field.key, .scalar (.int n))]
      else none := by
  have hbare : Toml.Bare f.field.key.toList := by
    cases f <;> exact ⟨by decide, List.all_eq_true.mp (by decide)⟩
  have hcontent : (f.field.key ++ " = " ++ text ++ "\n").toList =
      Toml.integerFile f.field.key.toList text.toList := by
    simp [Toml.integerFile]
  rw [hcontent, Toml.parse?_integerFile hbare h, String.ofList_toList]

end Sources

namespace NumberField

/-- An integer is accepted as itself if it fits the field, and refused otherwise. -/
def Keeps (f : NumberField) (n : Int) (outcome : Option (Except LoadFault Settings)) : Prop :=
  if 0 ≤ n ∧ n < f.bound then outcome = some (.ok (f.only n.toNat))
  else ∃ fault, outcome = some (.error fault)

theorem keeps_load {f : NumberField} {c : Sources} {n : Int} (hfits : Numeral.FitsInt64 n)
    (h : c.Sets f.field (.int n)) : f.Keeps n (Settings.load c.files c.given) := by
  have hread := ofScalar?_int f hfits
  rw [Keeps]
  split
  next hn => exact Sources.load_of_sets h (by rw [hread, if_pos hn])
  next hn => exact Sources.load_error_of_sets h (by rw [hread, if_neg hn])

/-- The settings when only the variable of a field is set. -/
def byVariable (f : NumberField) (text : String) : Option (Except LoadFault Settings) :=
  Settings.load [] [(f.field.variableName, text)]

/-- The settings when only a settings file with one entry is there. -/
def byFile (f : NumberField) (text : String) : Option (Except LoadFault Settings) :=
  Settings.load [⟨"postal.toml", Utf8.ofString (f.field.key ++ " = " ++ text ++ "\n")⟩] []

theorem byVariable_eq (f : NumberField) (text : String) :
    f.byVariable text = Settings.load (Sources.ofVariable f.field text).files
      (Sources.ofVariable f.field text).given := by
  rw [byVariable, Sources.ofVariable]

theorem byFile_eq (f : NumberField) (text : String) :
    f.byFile text =
      Settings.load (Sources.ofFile (f.field.key ++ " = " ++ text ++ "\n")).files
        (Sources.ofFile (f.field.key ++ " = " ++ text ++ "\n")).given := by
  rw [byFile, Sources.ofFile]

/-- A variable with an integer that does not fit 64 bits with a sign is read as a double. -/
theorem sets_float (f : NumberField) {text : String} {n : Int}
    (h : Numeral.integer? 10 text.toList = some n) (hfits : ¬ Numeral.FitsInt64 n) :
    (Sources.ofVariable f.field text).Sets f.field
      (.float (Binary64.ofDecimal (decide (n < 0)) n.natAbs 0)) := by
  have hsets := Sources.sets_ofVariable f.field text
  rwa [Environment.value_of_integer? h, if_neg hfits] at hsets

/-- What a variable with a large integer means for a field. -/
theorem ofScalar?_ofDecimal (f : NumberField) {n : Int} (h : 0x8000000000000000 ≤ n) :
    f.ofScalar? (.float (Binary64.ofDecimal (decide (n < 0)) n.natAbs 0)) =
      if f = .port then none else some (min maxWord (2048 * roundHalfEven n.toNat 2048)) := by
  have hword : maxWord = 0xffffffffffffffff := by decide
  have hsize : UInt64.size = 0x10000000000000000 := by decide
  have hround := roundToWord_ofDecimal (show 2 ^ 63 ≤ n.toNat by omega)
  have hlarge : 2 ^ 63 ≤ min maxWord (2048 * roundHalfEven n.toNat 2048) := by
    have hle := le_roundHalfEven n.toNat 2048
    omega
  rw [decide_eq_false (show ¬ n < 0 by omega), show n.natAbs = n.toNat by omega,
    ofScalar?_float f (by omega) hround]
  have hport : bound .port = 65536 := rfl
  have htimeout : bound .timeout = UInt64.size := rfl
  have hconnect : bound .connectTimeout = UInt64.size := rfl
  cases f with
  | port => rw [if_neg (by omega), if_pos rfl]
  | timeout => rw [if_pos (by omega), if_neg (by decide)]
  | connectTimeout => rw [if_pos (by omega), if_neg (by decide)]

/-- A variable with an integer below the range sets its field to zero. -/
theorem byVariable_of_lt (f : NumberField) {text : String} {n : Int}
    (h : Numeral.integer? 10 text.toList = some n) (hn : n < -0x8000000000000000) :
    f.byVariable text = some (.ok (f.only 0)) := by
  have hsets := sets_float f h (by omega)
  rw [decide_eq_true (show n < 0 by omega)] at hsets
  have hzero := roundToWord_of_isNegative (isNegative_ofDecimal n.natAbs)
  rw [byVariable_eq]
  refine Sources.load_of_sets hsets ?_
  rw [ofScalar?_float f (by decide) hzero, if_pos]
  cases f <;> decide

/-- What becomes of an integer that is written in decimal, as the text of the variable of a field
or as the entry of a settings file, when nothing else is set. A file keeps it or is refused. A
variable keeps it if it fits 64 bits with a sign. Beyond that the variable is read as a double: an
integer below the range is taken as zero by every field, and one above it is refused by the port,
whose bound is lower anyway, and rounded by the other fields. -/
theorem load_integer (f : NumberField) {text : String} {n : Int}
    (h : Numeral.integer? 10 text.toList = some n) :
    ((Numeral.FitsInt64 n → f.Keeps n (f.byVariable text)) ∧
      (n < -0x8000000000000000 → f.byVariable text = some (.ok (f.only 0))) ∧
      (0x8000000000000000 ≤ n → f = .port → ∃ fault, f.byVariable text = some (.error fault)) ∧
      (0x8000000000000000 ≤ n → f ≠ .port →
        f.byVariable text = some (.ok (f.only (min maxWord (2048 * roundHalfEven n.toNat 2048)))))) ∧
    (Toml.Canonical text.toList → Numeral.FitsInt64 n → f.Keeps n (f.byFile text)) ∧
    (¬ (Toml.Canonical text.toList ∧ Numeral.FitsInt64 n) →
      ∃ fault, f.byFile text = some (.error fault)) := by
  have hword : maxWord < UInt64.size := by decide
  refine ⟨⟨fun hfits => ?_, fun hlow => ?_, fun hhigh hport => ?_, fun hhigh hport => ?_⟩,
    fun hcanonical hfits => ?_, fun hnot => ?_⟩
  · have hsets := Sources.sets_ofVariable f.field text
    rw [Environment.value_of_integer? h, if_pos hfits] at hsets
    rw [byVariable_eq]
    exact keeps_load hfits hsets
  · exact byVariable_of_lt f h hlow
  · rw [byVariable_eq]
    exact Sources.load_error_of_sets (sets_float f h (by omega))
      (by rw [ofScalar?_ofDecimal f hhigh, if_pos hport])
  · rw [byVariable_eq]
    exact Sources.load_of_sets (sets_float f h (by omega))
      (by rw [ofScalar?_ofDecimal f hhigh, if_neg hport])
  · have hparse := Sources.parse?_integerFile f h
    rw [if_pos ⟨hcanonical, hfits⟩] at hparse
    rw [byFile_eq]
    exact keeps_load hfits (Sources.sets_ofFile hparse)
  · have hparse := Sources.parse?_integerFile f h
    rw [if_neg hnot] at hparse
    rw [byFile_eq, Sources.load_of_assignable (Sources.assignable_ofFile _), Settings.ofLayers,
      Settings.layered, Sources.fileLayer_ofFile, hparse]
    exact ⟨_, rfl⟩

theorem load_integer_rounded :
    Numeral.integer? 10 "9223372036854777857".toList = some 9223372036854777857 ∧
      timeout.byVariable "9223372036854777857" = some (.ok (timeout.only 9223372036854777856)) ∧
      ∃ fault, timeout.byFile "9223372036854777857" = some (.error fault) := by
  have h : Numeral.integer? 10 "9223372036854777857".toList = some 9223372036854777857 := by decide
  obtain ⟨⟨-, -, -, hround⟩, -, hrefused⟩ := load_integer timeout h
  refine ⟨h, ?_, hrefused fun hboth => absurd hboth.2 (by decide)⟩
  rw [hround (by decide) (by decide)]
  congr 2

/-- An integer that is too small for every field is accepted as zero. -/
theorem not_forall_kept :
    ¬ ∀ (f : NumberField) (text : String) (n : Int),
      Numeral.integer? 10 text.toList = some n →
      (0 ≤ n ∧ n < f.bound ∧ f.byVariable text = some (.ok (f.only n.toNat))) ∨
        ∃ fault, f.byVariable text = some (.error fault) := by
  intro hall
  have h : Numeral.integer? 10 "-9223372036854775809".toList = some (-9223372036854775809) := by
    decide
  have hload := byVariable_of_lt port h (by decide)
  rcases hall port _ _ h with ⟨hsign, -⟩ | ⟨fault, hfault⟩
  · exact absurd hsign (by decide)
  · rw [hload] at hfault
    cases hfault

end NumberField

end PushRegistry.Config
