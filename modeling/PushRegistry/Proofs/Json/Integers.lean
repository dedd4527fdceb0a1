import PushRegistry.Json.Scalar
import PushRegistry.Proofs.Decimal.Digits
import PushRegistry.Proofs.Json.Consumes
import PushRegistry.Proofs.Text.Utf8

/-!
# `PushRegistry.Proofs.Json.Integers`: integers and their numerals

The reader of numbers collects digits as long as they fit a 64-bit word. For the numeral of a
number that fits they all do (`accumulate_eq`), and nothing that may follow a value can continue
it, so `Consumes.number` gives back the number that was written.
-/

set_option autoImplicit false

namespace PushRegistry.Json

open PushRegistry.Decimal
open PushRegistry.Text

/-- The numeral of a number. -/
def decimal (n : Nat) : List UInt8 := Utf8.encode (Nat.toDigits 10 n)

/-- The byte of a decimal digit. -/
def digitByte (c : Char) : UInt8 := UInt8.ofNat c.toNat

theorem toNat_digitByte {c : Char} (h : c.isDigit = true) :
    (digitByte c).toNat = c.toNat ∧ 48 ≤ c.toNat ∧ c.toNat ≤ 57 := by
  have hlow : 48 ≤ c.toNat := (bounds_of_isDigit h).1
  have hhigh : c.toNat ≤ 57 := (bounds_of_isDigit h).2
  exact ⟨Utf8.toNat_ofNat_of_lt (by omega), hlow, hhigh⟩

theorem isDigit_digitByte {c : Char} (h : c.isDigit = true) :
    Reader.isDigit (digitByte c) = true := by
  obtain ⟨heq, hlow, hhigh⟩ := toNat_digitByte h
  simp only [Reader.isDigit, UInt8.le_iff_toNat_le, heq, UInt8.reduceToNat, Bool.and_eq_true,
    decide_eq_true_eq]
  exact ⟨hlow, hhigh⟩

theorem digitValue_digitByte {c : Char} (h : c.isDigit = true) :
    Reader.digitValue (digitByte c) = digitOf c := by
  rw [Reader.digitValue, (toNat_digitByte h).1]
  rfl

theorem map_digitValue {cs : List Char} (h : ∀ c ∈ cs, c.isDigit = true) :
    (cs.map digitByte).map Reader.digitValue = cs.map digitOf := by
  rw [List.map_map]
  exact List.map_congr_left fun c hc => digitValue_digitByte (h c hc)

theorem decimal_eq_map (n : Nat) : decimal n = (Nat.toDigits 10 n).map digitByte :=
  Utf8.encode_ascii fun c hc => by
    obtain ⟨-, -, hhigh⟩ := toNat_digitByte (isDigit_of_mem_toDigits hc)
    omega

/-- What may follow a value is no part of a number. -/
theorem Delimited.not_numeric {rest : List UInt8} (h : Delimited rest) {b : UInt8}
    (hb : b ∈ rest.head?) : Reader.isDigit b = false ∧ b ≠ 0x2e ∧ b ≠ 0x65 ∧ b ≠ 0x45 := by
  rcases h b hb with hblank | rfl | rfl | rfl
  · simp only [Reader.isBlank, Bool.or_eq_true, beq_iff_eq] at hblank
    rcases hblank with ((rfl | rfl) | rfl) | rfl <;> decide
  · decide
  · decide
  · decide

theorem le_foldl_digits (ds : List Nat) (n : Nat) :
    n ≤ ds.foldl (fun acc d => acc * 10 + d) n := by
  induction ds generalizing n with
  | nil => exact Nat.le_refl n
  | cons d ds ih =>
      have := ih (n * 10 + d)
      rw [List.foldl_cons]
      omega

/-- All digits are taken if the whole number is within the limit. -/
theorem accumulate_eq {limit : Nat} (ds : List Nat) (n : Nat)
    (h : ds.foldl (fun acc d => acc * 10 + d) n ≤ limit) :
    Reader.accumulate limit n ds = (ds.foldl (fun acc d => acc * 10 + d) n, []) := by
  induction ds generalizing n with
  | nil => rfl
  | cons d ds ih =>
      rw [List.foldl_cons] at h
      -- What was read so far never exceeds what is read in the end.
      have hstep : n * 10 + d ≤ limit := Nat.le_trans (le_foldl_digits ds _) h
      rw [Reader.accumulate, if_pos hstep]
      exact ih _ h

/-! ### Reading -/

namespace Consumes

variable {negative : Bool} {rest : List UInt8}

/-- Nothing that may follow a value continues a number. -/
theorem afterWhole {significand : Nat} {exponent : Int} {whole : Reader Number} {n : Number}
    (hrest : Delimited rest) (h : Consumes whole rest n rest) :
    Consumes (Reader.afterWhole negative significand exponent whole) rest n rest := by
  refine bind (peek rest) ?_
  cases hhead : rest.head? with
  | none => exact h
  | some b =>
      obtain ⟨-, hpoint, hsmall, hcapital⟩ := hrest.not_numeric hhead
      simp only [Option.some.injEq, hpoint, hsmall, hcapital, if_false, or_self]
      exact h

/-- The numeral of a number that fits an unsigned 64-bit word is read as that number, with the
sign that was read before. -/
theorem number (n : Nat) (hn : n ≤ Reader.maxWord) (hrest : Delimited rest) :
    Consumes (Reader.number negative) (decimal n ++ rest) (Reader.wholeNumber negative n) rest := by
  rw [decimal_eq_map]
  rcases toDigits_cases n with ⟨rfl, hdigits⟩ | ⟨c, cs, hdigits, hne⟩
  · -- A single zero, which no digit may follow.
    rw [hdigits]
    refine bind (next 0x30 rest) ?_
    simp only [if_pos]
    refine bind (peek rest) ?_
    have hzero : Consumes (Reader.number.afterZero negative) rest
        (Reader.wholeNumber negative 0) rest := afterWhole hrest (pure _ _)
    cases hhead : rest.head? with
    | none => exact hzero
    | some b =>
        simp only [(hrest.not_numeric hhead).1]
        exact hzero
  · -- A first digit that is no zero, and the digits behind it.
    have hall : ∀ d ∈ c :: cs, d.isDigit = true := fun d hd =>
      isDigit_of_mem_toDigits (hdigits ▸ hd)
    have hc : c.isDigit = true := hall c List.mem_cons_self
    have hcs : ∀ d ∈ cs, d.isDigit = true := fun d hd => hall d (List.mem_cons_of_mem c hd)
    have hvalue : ((cs.map digitByte).map Reader.digitValue).foldl (fun acc d => acc * 10 + d)
        (Reader.digitValue (digitByte c)) = n := by
      rw [map_digitValue hcs, List.foldl_map, digitValue_digitByte hc]
      have hfold := foldl_toDigits n
      rwa [hdigits, List.foldl_cons, Nat.zero_mul, Nat.zero_add] at hfold
    -- The reader tells a leading zero by its byte, the numeral by its character.
    have h30 : ¬ digitByte c = 0x30 := by
      intro h
      have := (toNat_digitByte hc).1
      rw [h] at this
      exact hne (Char.toNat_inj.mp this.symm)
    rw [hdigits, List.map_cons, List.cons_append]
    refine bind (next _ _) ?_
    simp only [if_neg h30, isDigit_digitByte hc, if_true]
    have hbytes : ∀ b ∈ cs.map digitByte, Reader.isDigit b = true := by
      intro b hb
      obtain ⟨d, hd, rfl⟩ := List.mem_map.mp hb
      exact isDigit_digitByte (hcs d hd)
    have hdigitsRead : Consumes Reader.digits (cs.map digitByte ++ rest)
        ((cs.map digitByte).map Reader.digitValue) rest :=
      bind (takeRun hbytes fun b hb => (hrest.not_numeric hb).1) (pure _ _)
    refine bind hdigitsRead ?_
    rw [accumulate_eq _ _ (by rw [hvalue]; exact hn), hvalue]
    exact afterWhole hrest (pure _ _)

end Consumes

end PushRegistry.Json
