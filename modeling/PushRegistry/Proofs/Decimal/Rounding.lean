import Mathlib.Data.Nat.Digits.Defs
import Mathlib.Tactic.Ring
import PushRegistry.Config.Conversion

/-!
# `PushRegistry.Proofs.Decimal.Rounding`: large integers as doubles

An integer of at least `2 ^ 52` has a nearest double, and its value is that integer rounded to 53
binary digits (`toRatio?_ofRatio`): if rounding carries into one more digit, the carry moves into
the exponent field and the value is still the rounded integer. The unsigned 64-bit number that such
a double means is `roundToWord_ofDecimal`: from `2 ^ 63` on it is a multiple of 2048, and no larger
than the largest one.
-/

set_option autoImplicit false

namespace PushRegistry.Decimal

open PushRegistry.Config (maxWord roundToWord)

theorem le_roundHalfEven (num den : Nat) : num / den ≤ roundHalfEven num den := by
  simp only [roundHalfEven]
  split
  · exact Nat.le_refl _
  · split <;> omega

theorem roundHalfEven_le (num den : Nat) : roundHalfEven num den ≤ num / den + 1 := by
  simp only [roundHalfEven]
  split
  · omega
  · split <;> omega

namespace Binary64

/-! ### Bit patterns -/

theorem toNat_ofMagnitude {negative : Bool} {m : Nat} (h : m < signBit) :
    (ofMagnitude negative m).bits.toNat = if negative then signBit + m else m := by
  have hsign : signBit = 2 ^ 63 := by decide
  cases negative <;> simp only [ofMagnitude, UInt64.toNat_ofNat'] <;> simp <;> omega

theorem isNegative_ofMagnitude {negative : Bool} {m : Nat} (h : m < signBit) :
    (ofMagnitude negative m).isNegative = negative := by
  rw [isNegative, toNat_ofMagnitude h]
  cases negative <;> simp [h]

theorem magnitude_ofMagnitude {negative : Bool} {m : Nat} (h : m < signBit) :
    (ofMagnitude negative m).magnitude = m := by
  rw [magnitude, toNat_ofMagnitude h]
  cases negative <;> simp [Nat.mod_eq_of_lt h]

/-- A pattern by its fields: the significand without its first digit, and the exponent. -/
theorem toRatio?_of_fields {s e : Nat} (hs : s < fullSignificand)
    (hfinite : s + (e + 1075) * fullSignificand < infinityBits) :
    (ofMagnitude false (s + (e + 1075) * fullSignificand)).toRatio? =
      some (false, (s + fullSignificand) * 2 ^ e, 1) := by
  have hinfinity : infinityBits < signBit := by decide
  have hbits := Nat.lt_trans hfinite hinfinity
  have hpositive : 0 < fullSignificand := by decide
  have hnormal : ¬ s + (e + 1075) * fullSignificand < fullSignificand := by
    have := Nat.mul_le_mul_right fullSignificand (show 1 ≤ e + 1075 by omega)
    omega
  have hexponent : Int.ofNat (e + 1075) - 1075 = Int.ofNat e := by
    simp only [Int.ofNat_eq_natCast]
    omega
  have hmeaning : (ofMagnitude false (s + (e + 1075) * fullSignificand)).meaning =
      .finite false (s + fullSignificand) (Int.ofNat e) := by
    simp only [meaning, magnitude_ofMagnitude hbits, isNegative_ofMagnitude hbits]
    rw [if_neg hnormal, if_pos hfinite, Nat.add_mul_mod_self_right, Nat.mod_eq_of_lt hs,
      Nat.add_mul_div_right _ _ hpositive, Nat.div_eq_of_lt hs, Nat.zero_add, hexponent]
  rw [toRatio?, hmeaning]
  rfl

/-- A full significand stands for itself, also if it has carried into the exponent field. -/
theorem toRatio?_ofMagnitude {m q : Nat} (hlow : fullSignificand ≤ m)
    (hhigh : m ≤ 2 * fullSignificand) (hfinite : m + (q + 1074) * fullSignificand < infinityBits) :
    (ofMagnitude false (m + (q + 1074) * fullSignificand)).toRatio? =
      some (false, m * 2 ^ q, 1) := by
  obtain ⟨s, rfl⟩ := Nat.exists_eq_add_of_le hlow
  by_cases hs : s < fullSignificand
  · have hfields : fullSignificand + s + (q + 1074) * fullSignificand =
        s + (q + 1075) * fullSignificand := by ring
    rw [hfields] at hfinite ⊢
    rw [toRatio?_of_fields hs hfinite, Nat.add_comm s]
  · obtain rfl : s = fullSignificand := by omega
    have hfields : fullSignificand + fullSignificand + (q + 1074) * fullSignificand =
        0 + (q + 1 + 1075) * fullSignificand := by ring
    have hvalue : (0 + fullSignificand) * 2 ^ (q + 1) =
        (fullSignificand + fullSignificand) * 2 ^ q := by ring
    rw [hfields] at hfinite ⊢
    rw [toRatio?_of_fields (by decide) hfinite, hvalue]

/-! ### The nearest double -/

section
variable {n q : Nat}

/-- The last place of an integer that has more digits than a significand. -/
theorem lastPlace_natural (hlog : n.log2 = q + 52) (hq : 0 < q) : lastPlace n 1 = q := by
  have hn : n ≠ 0 := by
    rintro rfl
    simp at hlog
  have hpow : 2 ^ (q + 52) ≤ n := hlog ▸ Nat.log2_self_le hn
  obtain ⟨p, rfl⟩ : ∃ p, q = p + 1 := ⟨q - 1, by omega⟩
  have hguess : Int.ofNat (p + 1 + 52) - Int.ofNat (Nat.log2 1) - 53 = Int.ofNat p := by
    have hone : Nat.log2 1 = 0 := by decide
    simp only [Int.ofNat_eq_natCast, hone]
    omega
  have hlong : ¬ n * 1 < 1 * 2 ^ p * (2 * fullSignificand) := by
    have hscale : 1 * 2 ^ p * (2 * fullSignificand) = 2 ^ (p + 1 + 52) := by
      rw [show fullSignificand = 2 ^ 52 from by decide]
      ring
    omega
  simp only [lastPlace, hlog, hguess, powerOfTwo, Nat.pow_eq, if_neg hlong]
  simp only [Int.ofNat_eq_natCast]
  omega

/-- An integer of `q + 53` digits has 53 digits or, by a carry, 54 in front of its last `q`. -/
theorem rounded_bounds (hlog : n.log2 = q + 52) :
    fullSignificand ≤ roundHalfEven n (2 ^ q) ∧ roundHalfEven n (2 ^ q) ≤ 2 * fullSignificand := by
  have hn : n ≠ 0 := by
    rintro rfl
    simp at hlog
  have hfull : fullSignificand = 2 ^ 52 := by decide
  have hlow : 2 ^ 52 ≤ n / 2 ^ q := by
    rw [Nat.le_div_iff_mul_le (Nat.two_pow_pos q), ← Nat.pow_add, Nat.add_comm, ← hlog]
    exact Nat.log2_self_le hn
  have hhigh : n / 2 ^ q < 2 ^ 53 := by
    rw [Nat.div_lt_iff_lt_mul (Nat.two_pow_pos q), ← Nat.pow_add,
      show 53 + q = n.log2 + 1 from by omega]
    exact Nat.lt_log2_self
  have hle := le_roundHalfEven n (2 ^ q)
  have hge := roundHalfEven_le n (2 ^ q)
  omega

theorem ofRatio_natural (hlog : n.log2 = q + 52) (hq : 0 < q) (negative : Bool) :
    ofRatio negative n 1 = ofMagnitude negative
      (min infinityBits (roundHalfEven n (2 ^ q) + (q + 1074) * fullSignificand)) := by
  have hn : n ≠ 0 := by
    rintro rfl
    simp at hlog
  have hplace : ((q : Int) + 1074).toNat = q + 1074 := by omega
  rw [ofRatio, if_neg hn, nearestMagnitude, lastPlace_natural hlog hq]
  simp only [hplace, quantize, powerOfTwo, Nat.pow_eq, Nat.mul_one, Nat.one_mul]

end

/-! ### Doubles as words -/

theorem roundToWord_of_isNegative {x : Binary64} (h : x.isNegative = true) : roundToWord x = 0 := by
  simp only [roundToWord, meaning, h]
  split_ifs <;> rfl

theorem roundToWord_of_toRatio? {x : Binary64} {n : Nat} (h : x.toRatio? = some (false, n, 1)) :
    roundToWord x = min maxWord n := by
  cases hmeaning : x.meaning with
  | finite negative m q =>
      have hnegative : negative = false := by
        rw [toRatio?, hmeaning] at h
        exact congrArg Prod.fst (Option.some.inj h)
      have hwhole : roundHalfUp n 1 = n := by
        rw [roundHalfUp]
        omega
      simp only [roundToWord, hmeaning, hnegative, h, hwhole]
  | infinite negative =>
      rw [toRatio?, hmeaning] at h
      cases h
  | notANumber =>
      rw [toRatio?, hmeaning] at h
      cases h

theorem roundToWord_infinity : roundToWord (ofMagnitude false infinityBits) = maxWord := by decide

/-- The double nearest to a large integer with a minus sign is negative. -/
theorem isNegative_ofDecimal (n : Nat) : (ofDecimal true n 0).isNegative = true := by
  have hinfinity : infinityBits < signBit := by decide
  simp only [ofDecimal, ofRatio]
  split_ifs
  · exact isNegative_ofMagnitude (by decide)
  · exact isNegative_ofMagnitude hinfinity
  · exact isNegative_ofMagnitude (by decide)
  · exact isNegative_ofMagnitude (Nat.lt_of_le_of_lt (Nat.min_le_left _ _) hinfinity)

/-- A large integer becomes the nearest one with 53 digits, unless no word or no double is as
large. -/
theorem roundToWord_ofRatio {n q : Nat} (hlog : n.log2 = q + 52) (hq : 0 < q) :
    roundToWord (ofRatio false n 1) =
      if roundHalfEven n (2 ^ q) + (q + 1074) * fullSignificand < infinityBits then
        min maxWord (roundHalfEven n (2 ^ q) * 2 ^ q)
      else maxWord := by
  obtain ⟨hlow, hhigh⟩ := rounded_bounds hlog
  rw [ofRatio_natural hlog hq]
  split
  next hfinite =>
    rw [Nat.min_eq_right (Nat.le_of_lt hfinite)]
    exact roundToWord_of_toRatio? (toRatio?_ofMagnitude hlow hhigh hfinite)
  next hinfinite =>
    rw [Nat.min_eq_left (Nat.le_of_not_lt hinfinite)]
    exact roundToWord_infinity

/-- From `2 ^ 64` on every double is too large for a word. -/
theorem roundToWord_ofRatio_of_le {n : Nat} (hn : 2 ^ 64 ≤ n) :
    roundToWord (ofRatio false n 1) = maxWord := by
  have hlog : 64 ≤ n.log2 := (Nat.le_log2 (by omega)).mpr hn
  obtain ⟨q, hq⟩ : ∃ q, n.log2 = q + 52 := ⟨n.log2 - 52, by omega⟩
  rw [roundToWord_ofRatio hq (by omega)]
  split
  · refine Nat.min_eq_left ?_
    calc maxWord ≤ 2 ^ 52 * 2 ^ 12 := by decide
      _ ≤ fullSignificand * 2 ^ q :=
        Nat.mul_le_mul (by decide) (Nat.pow_le_pow_right (by decide) (by omega))
      _ ≤ roundHalfEven n (2 ^ q) * 2 ^ q := Nat.mul_le_mul_right _ (rounded_bounds hq).1
  · rfl

/-- Between `2 ^ 63` and `2 ^ 64` doubles are the multiples of 2048. -/
theorem roundToWord_ofRatio_of_lt {n : Nat} (hlow : 2 ^ 63 ≤ n) (hhigh : n < 2 ^ 64) :
    roundToWord (ofRatio false n 1) = min maxWord (2048 * roundHalfEven n 2048) := by
  have hlog : n.log2 = 11 + 52 := by
    have hle : 63 ≤ n.log2 := (Nat.le_log2 (by omega)).mpr hlow
    have hlt : n.log2 < 64 := (Nat.log2_lt (by omega)).mpr hhigh
    omega
  have hfinite : roundHalfEven n (2 ^ 11) + (11 + 1074) * fullSignificand < infinityBits := by
    refine Nat.lt_of_le_of_lt (Nat.add_le_add_right (rounded_bounds hlog).2 _) ?_
    decide
  rw [roundToWord_ofRatio hlog (by decide), if_pos hfinite, Nat.mul_comm]
  norm_num

/-- The word that an integer becomes on its way through a double: the nearest multiple of 2048,
of two the even one, or the largest word. -/
theorem roundToWord_ofDecimal {n : Nat} (hn : 2 ^ 63 ≤ n) :
    roundToWord (ofDecimal false n 0) = min maxWord (2048 * roundHalfEven n 2048) := by
  have hlarge : 2 ^ 64 ≤ n → min maxWord (2048 * roundHalfEven n 2048) = maxWord := by
    intro h
    have hle := le_roundHalfEven n 2048
    have hword : maxWord = 2 ^ 64 - 1 := by decide
    omega
  have hsmall : ¬ (n = 0 ∨ Int.ofNat (digitCount n) + 0 < -330) := by
    simp only [Int.ofNat_eq_natCast]
    omega
  rw [ofDecimal, if_neg hsmall]
  by_cases hdigits : 310 < Int.ofNat (digitCount n) + 0
  · have : 2 ^ 64 ≤ n := by
      by_contra hlt
      have hcount : digitCount n ≤ 20 := Nat.toDigits_length 10 n 20 (by decide) (by omega)
      simp only [Int.ofNat_eq_natCast] at hdigits
      omega
    rw [if_pos hdigits, hlarge this, roundToWord_infinity]
  · rw [if_neg hdigits]
    have hone : ofRatio false (n * (powerOfTen 0).1) (powerOfTen 0).2 = ofRatio false n 1 :=
      congrArg (ofRatio false · 1) (Nat.mul_one n)
    refine (congrArg roundToWord hone).trans ?_
    by_cases hlt : n < 2 ^ 64
    · exact roundToWord_ofRatio_of_lt hn hlt
    · rw [roundToWord_ofRatio_of_le (Nat.le_of_not_lt hlt), hlarge (Nat.le_of_not_lt hlt)]

end Binary64

end PushRegistry.Decimal
