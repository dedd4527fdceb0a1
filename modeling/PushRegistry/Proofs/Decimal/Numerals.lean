import Mathlib.Data.List.TakeWhile
import PushRegistry.Config.Environment
import PushRegistry.Proofs.Decimal.Digits

/-!
# `PushRegistry.Proofs.Decimal.Numerals`: texts that are integers

An integer is a sign or none and then digits (`integer?_eq_some`), so it is no word, and it is also
a decimal numeral for the same number (`binary64?_of_splitSign`). The value of a variable whose
text is an integer is therefore that integer if a 64-bit word with a sign holds it, and otherwise
the nearest double (`value_of_integer?`).

Printed again, an integer has the text that it was read from exactly if that text is `Tidy`
(`toList_toString_eq_iff`).
-/

set_option autoImplicit false

namespace PushRegistry.Decimal.Numeral

theorem isDigit_of_digitValue? {c : Char} {v : Nat} (h : digitValue? 10 c = some v) :
    c.isDigit = true := by
  simp only [digitValue?, Option.filter_eq_some_iff, decide_eq_true_eq] at h
  obtain ⟨hvalue, hlt⟩ := h
  split_ifs at hvalue with hdigit hlower hupper
  · rw [Char.isDigit, Bool.and_eq_true, decide_eq_true_eq, decide_eq_true_eq]
    exact hdigit
  · have hle : 97 ≤ c.toNat := hlower.1
    cases hvalue
    omega
  · have hle : 65 ≤ c.toNat := hupper.1
    cases hvalue
    omega

theorem natural?_eq_some {cs : List Char} {k : Nat} (h : natural? 10 cs = some k) :
    cs ≠ [] ∧ ∀ c ∈ cs, c.isDigit = true := by
  have hdigits : ∀ (cs : List Char) (acc : Nat),
      cs.foldlM (fun acc c => (digitValue? 10 c).map (acc * 10 + ·)) acc = some k →
        ∀ c ∈ cs, c.isDigit = true := by
    intro cs
    induction cs with
    | nil => intro acc _ c hc; cases hc
    | cons c rest ih =>
        intro acc hread
        rw [List.foldlM_cons] at hread
        obtain ⟨next, hnext, hrest⟩ := Option.bind_eq_some_iff.mp hread
        obtain ⟨v, hv, -⟩ := Option.map_eq_some_iff.mp hnext
        exact List.forall_mem_cons.mpr ⟨isDigit_of_digitValue? hv, ih next hrest⟩
  cases cs with
  | nil => cases h
  | cons c rest => exact ⟨List.cons_ne_nil c rest, hdigits (c :: rest) 0 h⟩

/-- The parts of an integer. -/
theorem integer?_eq_some {cs : List Char} {n : Int} (h : integer? 10 cs = some n) :
    ∃ sign digits k, splitSign cs = (sign, digits) ∧ natural? 10 digits = some k ∧
      n = if sign = some true then -(Int.ofNat k) else Int.ofNat k := by
  rw [integer?] at h
  obtain ⟨k, hk, rfl⟩ := Option.map_eq_some_iff.mp h
  exact ⟨(splitSign cs).1, (splitSign cs).2, k, rfl, hk, rfl⟩

/-- A text of digits is a decimal numeral. -/
theorem decimal?_of_natural? {digits : List Char} {k : Nat} (h : natural? 10 digits = some k)
    (negative : Bool) : decimal? negative digits = some (Binary64.ofDecimal negative k 0) := by
  obtain ⟨-, hdigits⟩ := natural?_eq_some h
  have htake : digits.takeWhile Char.isDigit = digits := List.takeWhile_eq_self_iff.mpr hdigits
  have hdrop : digits.dropWhile Char.isDigit = [] := List.dropWhile_eq_nil_iff.mpr hdigits
  simp only [decimal?, htake, hdrop, List.append_nil, h, exponent?]
  rfl

/-! ### No word is an integer -/

theorem not_isAlpha_of_isDigit {c : Char} (h : c.isDigit = true) : c.isAlpha = false := by
  have hhigh : c.toNat ≤ 57 := (bounds_of_isDigit h).2
  have hnotUpper : c.isUpper = false := decide_eq_false fun hupper => by
    have hlow : 65 ≤ c.toNat := hupper.1
    omega
  have hnotLower : c.isLower = false :=
    Bool.and_eq_false_iff.mpr <| .inl <| decide_eq_false fun hlower => by
      have hlow : 97 ≤ c.toNat := hlower
      omega
  exact Bool.or_eq_false_iff.mpr ⟨hnotUpper, hnotLower⟩

theorem not_isAlpha_of_integer? {cs : List Char} {n : Int} (h : integer? 10 cs = some n) :
    ∀ c ∈ cs, c.isAlpha = false := by
  obtain ⟨sign, digits, k, hsplit, hk, -⟩ := integer?_eq_some h
  have hdigits : ∀ c ∈ digits, c.isAlpha = false := fun c hc =>
    not_isAlpha_of_isDigit ((natural?_eq_some hk).2 c hc)
  unfold splitSign at hsplit
  split at hsplit <;> cases hsplit
  · exact List.forall_mem_cons.mpr ⟨by decide, hdigits⟩
  · exact List.forall_mem_cons.mpr ⟨by decide, hdigits⟩
  · exact hdigits

/-- What is no letter is the same in lower case. -/
theorem map_toLower_of_not_isAlpha {cs : List Char} (h : ∀ c ∈ cs, c.isAlpha = false) :
    cs.map Char.toLower = cs := by
  refine (List.map_congr_left fun c hc => ?_).trans (List.map_id cs)
  obtain ⟨hupper, -⟩ := Bool.or_eq_false_iff.mp (h c hc)
  exact dif_neg (of_decide_eq_false hupper)

theorem ofList_ne_of_not_isAlpha {cs : List Char} (h : ∀ c ∈ cs, c.isAlpha = false) {word : String}
    (hword : word.toList.any Char.isAlpha = true) : String.ofList cs ≠ word := by
  rintro rfl
  obtain ⟨c, hc, halpha⟩ := List.any_eq_true.mp hword
  rw [String.toList_ofList] at hc
  rw [h c hc] at halpha
  cases halpha

/-- An integer is also a decimal numeral. -/
theorem binary64?_of_splitSign {cs digits : List Char} {sign : Option Bool} {k : Nat}
    (hsplit : splitSign cs = (sign, digits)) (h : natural? 10 digits = some k) :
    binary64? cs = some (Binary64.ofDecimal (sign == some true) k 0) := by
  have hdigits : ∀ c ∈ digits, c.isAlpha = false := fun c hc =>
    not_isAlpha_of_isDigit ((natural?_eq_some h).2 c hc)
  simp only [binary64?, hsplit, lowerAscii, map_toLower_of_not_isAlpha hdigits]
  -- The words that are numerals are not made of digits.
  split
  next hword => exact absurd hword (ofList_ne_of_not_isAlpha hdigits (by decide))
  next hword => exact absurd hword (ofList_ne_of_not_isAlpha hdigits (by decide))
  next hword => exact absurd hword (ofList_ne_of_not_isAlpha hdigits (by decide))
  next => exact decimal?_of_natural? h _

/-! ### Printed integers -/

theorem digitOf_lt {c : Char} (h : c.isDigit = true) : digitOf c < 10 := by
  have hhigh : c.toNat ≤ 57 := (bounds_of_isDigit h).2
  rw [digitOf]
  omega

/-- A digit is the numeral of its value. -/
theorem toDigits_digitOf {c : Char} (h : c.isDigit = true) : Nat.toDigits 10 (digitOf c) = [c] := by
  obtain ⟨hlow, hhigh⟩ := bounds_of_isDigit h
  have hlow' : 48 ≤ c.toNat := hlow
  have hhigh' : c.toNat ≤ 57 := hhigh
  have hall : ∀ n < 10, Nat.toDigits 10 n = [Char.ofNat (n + 48)] := by decide
  rw [hall (digitOf c) (digitOf_lt h), digitOf, show c.toNat - 48 + 48 = c.toNat by omega,
    Char.ofNat_toNat]

/-- Digits that are read behind a number are written behind its numeral. -/
theorem toDigits_append_of_foldlM {cs : List Char} {acc k : Nat} (hacc : 0 < acc)
    (h : cs.foldlM (fun acc c => (digitValue? 10 c).map (acc * 10 + ·)) acc = some k) :
    Nat.toDigits 10 acc ++ cs = Nat.toDigits 10 k := by
  induction cs generalizing acc with
  | nil =>
      obtain rfl : acc = k := Option.some.inj h
      exact List.append_nil _
  | cons c cs ih =>
      rw [List.foldlM_cons] at h
      obtain ⟨next, hnext, hrest⟩ := Option.bind_eq_some_iff.mp h
      obtain ⟨v, hv, rfl⟩ := Option.map_eq_some_iff.mp hnext
      have hdigit := isDigit_of_digitValue? hv
      obtain rfl : digitOf c = v := by
        rw [digitValue?_of_isDigit hdigit] at hv
        exact Option.some.inj hv
      have hconcat := Nat.toDigits_append_toDigits (b := 10) (n := acc) (d := digitOf c)
        (by decide) hacc (digitOf_lt hdigit)
      rw [← ih (by omega) hrest, Nat.mul_comm acc 10, ← hconcat, toDigits_digitOf hdigit,
        List.append_assoc]
      rfl

/-- Digits are the numeral of what they are read as unless a zero stands in front of others. -/
theorem toDigits_eq_iff {digits : List Char} {k : Nat} (h : natural? 10 digits = some k) :
    Nat.toDigits 10 k = digits ↔ (digits.head? = some '0' → digits = ['0']) := by
  constructor
  · rintro rfl hzero
    rcases toDigits_cases k with ⟨-, hlone⟩ | ⟨c, cs, hcons, hne⟩
    · exact hlone
    · rw [hcons] at hzero
      exact absurd (Option.some.inj hzero) hne
  · intro hzero
    cases digits with
    | nil => cases h
    | cons c cs =>
        by_cases hc : c = '0'
        · rw [hzero (congrArg some hc)] at h ⊢
          obtain rfl : 0 = k := Option.some.inj h
          rfl
        · -- The first digit is a number of its own, and it is not zero.
          have hread : (c :: cs).foldlM
              (fun acc c => (digitValue? 10 c).map (acc * 10 + ·)) 0 = some k := h
          rw [List.foldlM_cons] at hread
          obtain ⟨first, hfirst, hrest⟩ := Option.bind_eq_some_iff.mp hread
          have hdigit := (natural?_eq_some h).2 c List.mem_cons_self
          rw [digitValue?_of_isDigit hdigit] at hfirst
          obtain rfl : digitOf c = first := by simpa using hfirst
          have hpos : 0 < digitOf c := by
            refine Nat.pos_of_ne_zero fun hvalue => hc ?_
            have hwritten := toDigits_digitOf hdigit
            rw [hvalue] at hwritten
            exact (List.singleton_inj.mp hwritten).symm
          rw [← toDigits_append_of_foldlM hpos hrest, toDigits_digitOf hdigit]
          rfl

theorem toList_toString (n : Int) :
    (toString n).toList
      = if n < 0 then '-' :: Nat.toDigits 10 n.natAbs else Nat.toDigits 10 n.natAbs := by
  cases n with
  | ofNat k =>
      show (Nat.repr k).toList = _
      rw [Nat.toList_repr, if_neg (by simp)]
      rfl
  | negSucc k =>
      show ("-" ++ Nat.repr (k + 1)).toList = _
      rw [String.toList_append, Nat.toList_repr, if_pos (by omega)]
      rfl

/-- An integer without a plus in front and without a zero in front, unless it is zero itself. -/
def Tidy (cs : List Char) : Prop :=
  (splitSign cs).1 ≠ some false ∧ ((splitSign cs).2.head? = some '0' → cs = ['0'])

instance (cs : List Char) : Decidable (Tidy cs) :=
  inferInstanceAs (Decidable (_ ∧ (_ → _)))

/-- Exactly the tidy integers are printed as they were written. -/
theorem toList_toString_eq_iff {cs : List Char} {n : Int} (h : integer? 10 cs = some n) :
    (toString n).toList = cs ↔ Tidy cs := by
  obtain ⟨sign, digits, k, hsplit, hk, rfl⟩ := integer?_eq_some h
  have hwritten := toDigits_eq_iff hk
  have hdigits := (natural?_eq_some hk).2
  have hzero : k = 0 → digits.head? = some '0' := by
    rintro rfl
    by_contra hne
    rw [← hwritten.mpr fun hhead => absurd hhead hne] at hne
    exact hne rfl
  rw [toList_toString, Tidy, hsplit]
  unfold splitSign at hsplit
  split at hsplit <;> cases hsplit
  · -- Behind a minus a zero is never in its place.
    simp only [reduceIte, ne_eq, Option.some.injEq, Bool.true_eq_false, not_false_eq_true,
      List.cons.injEq, Char.reduceEq, false_and, true_and, Int.natAbs_neg, Int.natAbs_natCast,
      Int.ofNat_eq_natCast, imp_false]
    by_cases hk0 : k = 0
    · subst hk0
      simp [hzero rfl]
    · rw [if_pos (by omega), List.cons_inj_right, hwritten]
      constructor
      · intro hlone hhead
        rw [hlone hhead] at hk
        exact hk0 (Option.some.inj hk).symm
      · intro hhead hhead'
        exact absurd hhead' hhead
  · -- A plus is never printed.
    have hplus : '+' ∉ Nat.toDigits 10 k := fun hmem => by
      have hdigit := isDigit_of_mem_toDigits hmem
      cases hdigit
    refine iff_of_false (fun heq => hplus ?_) (fun htidy => htidy.1 rfl)
    simp only [Option.some.injEq, Bool.false_eq_true, reduceIte] at heq
    rw [if_neg (by simp)] at heq
    have hnat : (Int.ofNat k).natAbs = k := rfl
    rw [hnat] at heq
    rw [heq]
    exact List.mem_cons_self
  · have hnat : (Int.ofNat k).natAbs = k := rfl
    simp only [reduceCtorEq, reduceIte, ne_eq, not_false_eq_true, true_and]
    rw [if_neg (by simp), hnat, hwritten]

end PushRegistry.Decimal.Numeral

namespace PushRegistry.Config.Environment

open PushRegistry.Decimal

/-- The value of a variable whose text is an integer. -/
theorem value_of_integer? {text : String} {n : Int}
    (h : Numeral.integer? 10 text.toList = some n) :
    value text = if Numeral.FitsInt64 n then .int n
      else .float (Binary64.ofDecimal (decide (n < 0)) n.natAbs 0) := by
  have hplain := Numeral.not_isAlpha_of_integer? h
  have hnormalize : Setting.normalize text = String.ofList text.toList := by
    rw [Setting.normalize, Numeral.map_toLower_of_not_isAlpha hplain]
  simp only [value, hnormalize]
  split
  next hword => exact absurd hword (Numeral.ofList_ne_of_not_isAlpha hplain (by decide))
  next hword => exact absurd hword (Numeral.ofList_ne_of_not_isAlpha hplain (by decide))
  next =>
    rw [Numeral.int64?, h]
    by_cases hfits : Numeral.FitsInt64 n
    · simp [Option.filter, hfits]
    · obtain ⟨sign, digits, k, hsplit, hk, hn⟩ := Numeral.integer?_eq_some h
      have habs : n.natAbs = k := by
        rw [hn]
        split <;> simp
      -- Zero has no sign, but it fits.
      have hsign : (sign == some true) = decide (n < 0) := by
        by_cases hminus : sign = some true
        · rw [if_pos hminus] at hn
          have : n < 0 := by
            simp only [Int.ofNat_eq_natCast] at hn
            omega
          simp [hminus, this]
        · rw [if_neg hminus] at hn
          have : ¬ n < 0 := by
            simp only [Int.ofNat_eq_natCast] at hn
            omega
          simp [hminus, this]
      simp [Option.filter, hfits, Numeral.binary64?_of_splitSign hsplit hk, hsign, habs]

end PushRegistry.Config.Environment
