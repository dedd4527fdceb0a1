import PushRegistry.Decimal.Numeral

/-!
# `PushRegistry.Proofs.Decimal.Digits`: decimal digits and back

What `Nat.toDigits 10` writes: digits only, no zero in front of other digits
(`toDigits_cases`), and a numeral that reads as the number again (`natural?_toDigits`).
-/

set_option autoImplicit false

namespace PushRegistry.Decimal

/-- The value of a character that is a decimal digit. -/
def digitOf (c : Char) : Nat := c.toNat - 48

theorem bounds_of_isDigit {c : Char} (h : c.isDigit = true) : '0' ≤ c ∧ c ≤ '9' := by
  simp only [Char.isDigit, ge_iff_le, Bool.and_eq_true, decide_eq_true_eq] at h
  exact h

/-- The digits of a number, read as a number. -/
theorem foldl_toDigits (n : Nat) :
    (Nat.toDigits 10 n).foldl (fun acc c => acc * 10 + digitOf c) 0 = n := by
  have h := Nat.ofDigitChars_ten_toDigits (n := n)
  rw [Nat.ofDigitChars_eq_foldl] at h
  simpa only [digitOf, Nat.mul_comm, Char.reduceToNat] using h

/-- Only zero has a numeral that starts with a zero, and that is the whole of it. -/
theorem toDigits_cases (n : Nat) :
    (n = 0 ∧ Nat.toDigits 10 n = ['0']) ∨
      ∃ c cs, Nat.toDigits 10 n = c :: cs ∧ c ≠ '0' := by
  induction n using Nat.strongRecOn with
  | ind n ih =>
      by_cases hn : n < 10
      · rw [Nat.toDigits_of_lt_base hn]
        have hdigit : ∀ d < 10, d = 0 ∨ d.digitChar ≠ '0' := by decide
        rcases hdigit n hn with rfl | hne
        · exact Or.inl ⟨rfl, rfl⟩
        · exact Or.inr ⟨_, _, rfl, hne⟩
      · -- The first digit is the one of the number without its last digit.
        rw [Nat.toDigits_of_base_le (by omega) (by omega)]
        rcases ih (n / 10) (by omega) with ⟨hzero, -⟩ | ⟨c, cs, hdigits, hne⟩
        · omega
        · exact Or.inr ⟨c, cs ++ [_], by rw [hdigits, List.cons_append], hne⟩

theorem isDigit_of_mem_toDigits {n : Nat} {c : Char} (h : c ∈ Nat.toDigits 10 n) :
    c.isDigit = true := Nat.isDigit_of_mem_toDigits (by omega) (by omega) h

theorem digitValue?_of_isDigit {c : Char} (h : c.isDigit = true) :
    Numeral.digitValue? 10 c = some (digitOf c) := by
  have hbounds := bounds_of_isDigit h
  have hle : c.toNat ≤ 57 := hbounds.2
  rw [Numeral.digitValue?, if_pos hbounds, digitOf]
  -- The base only filters out digits that are too large.
  exact Option.filter_some_pos (by simp; omega)

/-- A numeral is read as the number that it was written for. -/
theorem natural?_toDigits (n : Nat) : Numeral.natural? 10 (Nat.toDigits 10 n) = some n := by
  have hfold : ∀ (cs : List Char) (acc : Nat), (∀ c ∈ cs, c.isDigit = true) →
      cs.foldlM (fun acc c => (Numeral.digitValue? 10 c).map (acc * 10 + ·)) acc
        = some (cs.foldl (fun acc c => acc * 10 + digitOf c) acc) := by
    intro cs
    induction cs with
    | nil => intro acc _; rfl
    | cons c cs ih =>
        intro acc hdigits
        rw [List.foldlM_cons, digitValue?_of_isDigit (hdigits c List.mem_cons_self)]
        exact ih _ fun d hd => hdigits d (List.mem_cons_of_mem c hd)
  have hread := hfold (Nat.toDigits 10 n) 0 fun c hc => isDigit_of_mem_toDigits hc
  -- A numeral is never empty, which is the one thing that `natural?` refuses before it reads.
  rw [foldl_toDigits] at hread
  unfold Numeral.natural?
  cases hdigits : Nat.toDigits 10 n with
  | nil => exact absurd hdigits Nat.toDigits_ne_nil
  | cons c cs =>
      rw [hdigits] at hread
      exact hread

end PushRegistry.Decimal
