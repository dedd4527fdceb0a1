import PushRegistry.Proofs.Json.Returns
import PushRegistry.Proofs.Json.Skip

/-!
# `PushRegistry.Proofs.Json.Numerals`: all numerals and their numbers

`Integers` follows the numerals of integers that fit. Here a `Numeral` has any number of digits in
front of the point and behind it, and an exponent in any form. `Numeral.number?` is the number that
it stands for, which is none if it is out of the range of doubles. The reader of numbers takes
exactly the texts of these numerals and returns their numbers: `consumes_number` and
`exists_numeral_of_returns` are the two directions, put together from one lemma in each direction for
each part of a numeral.
-/

set_option autoImplicit false

namespace PushRegistry.Json

open PushRegistry.Decimal (Binary64)

/-! ### Numerals -/

/-- The double of a sign, a significand and a power of ten, if it is in range. -/
def float? (negative : Bool) (significand : Nat) (power : Int) : Option Number :=
  (Reader.scale? significand power).map fun x => .float (if negative then x.negate else x)

/-- An exponent: its mark, its sign if it has one, and its digits. -/
structure Exponent where
  mark : UInt8
  sign : Option UInt8
  digits : List UInt8

namespace Exponent

/-- The bytes that an exponent may be made of. -/
structure WellFormed (e : Exponent) : Prop where
  mark : e.mark = 0x65 ∨ e.mark = 0x45
  sign : e.sign = none ∨ e.sign = some 0x2b ∨ e.sign = some 0x2d
  digits : IsDigits e.digits

/-- The text of an exponent. -/
def text (e : Exponent) : List UInt8 := e.mark :: (e.sign.toList ++ e.digits)

/-- Whether the exponent is negative. -/
def below (e : Exponent) : Bool := e.sign == some 0x2d

/-- The double of a significand and a power of ten with the digits of an exponent. An exponent that
does not fit 31 bits makes the number zero or puts it out of range. -/
def float? (negative : Bool) (significand : Nat) (power : Int) (below : Bool)
    (digits : List UInt8) : Option Number :=
  match Reader.accumulate 0x7fffffff 0 (digits.map Reader.digitValue) with
  | (e, []) =>
    Json.float? negative significand (if below then power - Int.ofNat e else power + Int.ofNat e)
  | (_, _ :: _) =>
    if significand ≠ 0 ∧ !below then none else some (.float (Binary64.ofMagnitude negative 0))

end Exponent

/-- A numeral without its sign: the digits in front of the point, the digits behind it, of which
there are none without a point, and the exponent. -/
structure Numeral where
  whole : List UInt8
  fraction : List UInt8
  exponent : Option Exponent

namespace Numeral

/-- The bytes that a numeral may be made of. -/
structure WellFormed (n : Numeral) : Prop where
  whole : IsWhole n.whole
  fraction : ∀ b ∈ n.fraction, Reader.isDigit b = true
  exponent : ∀ e ∈ n.exponent, e.WellFormed

/-- The text of a fraction: a point and its digits, if there are any. -/
def fractionText (digits : List UInt8) : List UInt8 :=
  if digits = [] then [] else 0x2e :: digits

/-- The text of an exponent, if there is one. -/
def exponentText (exponent : Option Exponent) : List UInt8 := exponent.elim [] Exponent.text

/-- The text of a numeral. -/
def text (n : Numeral) : List UInt8 :=
  n.whole ++ (fractionText n.fraction ++ exponentText n.exponent)

/-- The double of a significand and a power of ten with an exponent, if there is one. -/
def float? (negative : Bool) (significand : Nat) (power : Int) (exponent : Option Exponent) :
    Option Number :=
  exponent.elim (Json.float? negative significand power) fun e =>
    Exponent.float? negative significand power e.below e.digits

/-- The number of a significand that a fraction and an exponent follow. Of the digits behind the point
those that fit an unsigned word lower the power of ten, and the others are dropped. If nothing
follows, the number is as given. -/
def continued? (negative : Bool) (significand : Nat) (power : Int) (alone : Option Number)
    (fraction : List UInt8) (exponent : Option Exponent) : Option Number :=
  if fraction = [] ∧ exponent = none then alone
  else
    let (more, dropped) :=
      Reader.accumulate Reader.maxWord significand (fraction.map Reader.digitValue)
    float? negative more (power - Int.ofNat (fraction.length - dropped.length)) exponent

/-- The number of a numeral with the given sign. Digits in front of the point that do not fit an
unsigned word raise the power of ten. -/
def number? (negative : Bool) (n : Numeral) : Option Number :=
  let (whole, excess) := Reader.accumulate Reader.maxWord 0 (n.whole.map Reader.digitValue)
  continued? negative whole (Int.ofNat excess.length)
    (if excess = [] then some (Reader.wholeNumber negative whole)
      else Json.float? negative whole (Int.ofNat excess.length))
    n.fraction n.exponent

end Numeral

/-! ### Digits -/

/-- The first digit always fits. -/
theorem accumulate_cons_zero {limit : Nat} (hlimit : 0x7fffffff ≤ limit) (d : UInt8) (ds : List Nat) :
    Reader.accumulate limit 0 (Reader.digitValue d :: ds)
      = Reader.accumulate limit (Reader.digitValue d) ds := by
  have hd : d.toNat < 256 := d.toNat_lt
  rw [Reader.accumulate, Nat.zero_mul, Nat.zero_add, if_pos]
  unfold Reader.digitValue
  omega

theorem Consumes.digits (t : List UInt8) :
    Consumes Reader.digits t ((t.takeWhile Reader.isDigit).map Reader.digitValue)
      (t.dropWhile Reader.isDigit) :=
  .bind (.takeWhile Reader.isDigit t) (.pure _ _)

/-- Digits up to what does not belong to them. -/
theorem takeWhile_isDigit {ds rest : List UInt8} (hds : ∀ b ∈ ds, Reader.isDigit b = true)
    (hrest : ∀ b ∈ rest.head?, Reader.isDigit b = false) :
    (ds ++ rest).takeWhile Reader.isDigit = ds ∧ (ds ++ rest).dropWhile Reader.isDigit = rest := by
  have hread := (Consumes.takeRun hds hrest).returns.eq_of_consumes (.takeWhile Reader.isDigit _)
  exact ⟨hread.1.symm, hread.2.symm⟩

/-! ### Exponents -/

namespace Reader

/-- The digits of an exponent, behind its mark and its sign. -/
def exponentDigits (negative : Bool) (significand : Nat) (power : Int) (below : Bool) :
    Reader Number := do
  match ← next with
  | none => fail .eofInValue
  | some b =>
    if isDigit b then
      let run := ((← get).rest.takeWhile isDigit).map digitValue
      match accumulate 0x7fffffff (digitValue b) run with
      | (e, []) =>
        let _ ← digits
        float negative significand (if below then power - Int.ofNat e else power + Int.ofNat e)
      | (_, excess) =>
        if significand ≠ 0 ∧ !below then
          modify (Cursor.advanceBy (run.length - excess.length + 1))
          fail .numberOutOfRange
        else
          let _ ← digits
          return .float (Decimal.Binary64.ofMagnitude negative 0)
    else fail .invalidNumber

theorem exponentPart_eq (negative : Bool) (significand : Nat) (power : Int) :
    exponentPart negative significand power = (do
      skip
      let sign ← peek
      if (sign == some 0x2d || sign == some 0x2b) = true then
        skip
        exponentDigits negative significand power (sign == some 0x2d)
      else exponentDigits negative significand power (sign == some 0x2d)) := rfl

end Reader

section Exponent

variable {negative : Bool} {significand : Nat} {power : Int} {below : Bool}
  {input rest ds : List UInt8} {k : Number}

theorem consumes_float (h : float? negative significand power = some k) :
    Consumes (Reader.float negative significand power) input k input := by
  obtain ⟨x, hx, rfl⟩ := Option.map_eq_some_iff.mp h
  rw [Reader.float, hx]
  exact .pure _ _

theorem Returns.float (h : Returns (Reader.float negative significand power) input k rest) :
    float? negative significand power = some k ∧ rest = input := by
  rw [Reader.float] at h
  cases hx : Reader.scale? significand power with
  | none =>
      rw [hx] at h
      exact (Ensures.fail _).elim h
  | some x =>
      rw [hx] at h
      obtain ⟨rfl, rfl⟩ := h.pure
      exact ⟨by rw [float?, hx]; rfl, rfl⟩

theorem consumes_exponentDigits (hds : IsDigits ds)
    (hk : Exponent.float? negative significand power below ds = some k)
    (hrest : ∀ b ∈ rest.head?, Reader.isDigit b = false) :
    Consumes (Reader.exponentDigits negative significand power below) (ds ++ rest) k rest := by
  obtain ⟨d, ds, rfl⟩ := List.exists_cons_of_ne_nil hds.1
  obtain ⟨hd, htail⟩ := List.forall_mem_cons.mp hds.2
  obtain ⟨htake, hdrop⟩ := takeWhile_isDigit htail hrest
  have hdigits := Consumes.digits (ds ++ rest)
  rw [htake, hdrop] at hdigits
  rw [Exponent.float?, List.map_cons, accumulate_cons_zero (Nat.le_refl _)] at hk
  rw [List.cons_append]
  refine .bind (.next d _) ?_
  simp only [hd, if_true]
  refine .get fun c hc => ?_
  rw [hc, htake]
  -- The exponent fits or does not, and in both cases its digits are passed.
  generalize Reader.accumulate 0x7fffffff (Reader.digitValue d) (ds.map Reader.digitValue) = result at hk ⊢
  obtain ⟨e, excess⟩ := result
  cases excess with
  | nil => exact .bind hdigits (consumes_float hk)
  | cons x excess =>
      dsimp only at hk ⊢
      split at hk
      · cases hk
      · next hzero =>
        rw [if_neg hzero]
        obtain rfl := Option.some.inj hk
        exact .bind hdigits (.pure _ _)

theorem exists_digits_of_returns
    (h : Returns (Reader.exponentDigits negative significand power below) input k rest) :
    ∃ ds, IsDigits ds ∧ Exponent.float? negative significand power below ds = some k ∧
      input = ds ++ rest := by
  obtain ⟨d, t, rfl, hfirst⟩ := h.next_bind (.fail _)
  obtain ⟨hd, hget⟩ | ⟨-, hfault⟩ := hfirst.ite
  swap
  · exact (Ensures.fail _).elim hfault
  obtain ⟨c, hc, hrun⟩ := hget.get
  have hds : IsDigits (d :: t.takeWhile Reader.isDigit) :=
    ⟨List.cons_ne_nil _ _, List.forall_mem_cons.mpr ⟨hd, fun b hb => List.mem_takeWhile_imp hb⟩⟩
  refine ⟨_, hds, ?_⟩
  have htext : d :: t = d :: t.takeWhile Reader.isDigit ++ t.dropWhile Reader.isDigit := by
    rw [List.cons_append, List.takeWhile_append_dropWhile]
  rw [Exponent.float?, List.map_cons, accumulate_cons_zero (Nat.le_refl _)]
  rw [hc] at hrun
  dsimp only at hrun
  generalize Reader.accumulate 0x7fffffff (Reader.digitValue d)
    ((t.takeWhile Reader.isDigit).map Reader.digitValue) = result at hrun ⊢
  obtain ⟨e, excess⟩ := result
  cases excess with
  | nil =>
      obtain ⟨hk, rfl⟩ := (hrun.after (.digits t)).float
      exact ⟨hk, htext⟩
  | cons x excess =>
      obtain ⟨-, hfault⟩ | ⟨hzero, hpass⟩ := hrun.ite
      · exact (Ensures.andThen (.fail _)).elim hfault
      · obtain ⟨rfl, rfl⟩ := (hpass.after (.digits t)).pure
        exact ⟨if_neg hzero, htext⟩

theorem consumes_exponentPart {e : Exponent} (he : e.WellFormed)
    (hk : Exponent.float? negative significand power e.below e.digits = some k)
    (hrest : ∀ b ∈ rest.head?, Reader.isDigit b = false) :
    Consumes (Reader.exponentPart negative significand power) (e.text ++ rest) k rest := by
  obtain ⟨mark, sign, ds⟩ := e
  obtain ⟨-, hsign, hds⟩ := he
  have hdigits := consumes_exponentDigits hds hk hrest
  rw [Reader.exponentPart_eq, Exponent.text, List.cons_append, List.append_assoc]
  refine .bind (.skip _ _) (.bind (.peek _) ?_)
  obtain rfl | rfl | rfl := hsign
  · -- The first digit is seen, and it is no sign.
    obtain ⟨d, ds, rfl⟩ := List.exists_cons_of_ne_nil hds.1
    have hd : Reader.isDigit d = true := hds.2 d List.mem_cons_self
    have hplus : d ≠ 0x2b := by
      rintro rfl
      exact absurd hd (by decide)
    have hminus : (d == 0x2d) = false := beq_eq_false_iff_ne.mpr (ne_of_isDigit hd).2.2.2.1
    have hbelow : Exponent.below ⟨mark, none, d :: ds⟩ = false := rfl
    rw [hbelow] at hdigits
    simpa [hplus, hminus] using hdigits
  · exact .bind (.skip _ _) hdigits
  · exact .bind (.skip _ _) hdigits

theorem exists_exponent_of_returns {mark : UInt8} (hmark : mark = 0x65 ∨ mark = 0x45)
    (h : Returns (Reader.exponentPart negative significand power) (mark :: input) k rest) :
    ∃ e : Exponent, e.WellFormed ∧
      Exponent.float? negative significand power e.below e.digits = some k ∧
      mark :: input = e.text ++ rest := by
  rw [Reader.exponentPart_eq] at h
  obtain ⟨hsign, hskip⟩ | ⟨hsign, hdigits⟩ := (h.skip_bind.after (.peek _)).ite
  · -- A sign is passed. The reader remembers which of the two it was.
    rw [Bool.or_eq_true, beq_iff_eq, beq_iff_eq] at hsign
    cases input with
    | nil => rcases hsign with hsign | hsign <;> cases hsign
    | cons sign t =>
        obtain ⟨ds, hds, hk, rfl⟩ := exists_digits_of_returns hskip.skip_bind
        refine ⟨⟨mark, some sign, ds⟩, ⟨hmark, ?_, hds⟩, hk, rfl⟩
        exact .inr hsign.symm
  · obtain ⟨ds, hds, hk, rfl⟩ := exists_digits_of_returns hdigits
    rw [Bool.or_eq_true, not_or, Bool.not_eq_true, Bool.not_eq_true] at hsign
    rw [hsign.1] at hk
    exact ⟨⟨mark, none, ds⟩, ⟨hmark, .inl rfl, hds⟩, hk, rfl⟩

/-- An exponent, if there is one. -/
theorem consumes_exponentOrEnd {e : Option Exponent} (he : ∀ x ∈ e, x.WellFormed)
    (hk : Numeral.float? negative significand power e = some k) (hrest : Delimited rest) :
    Consumes (Reader.exponentOrEnd negative significand power)
      (Numeral.exponentText e ++ rest) k rest := by
  refine .bind (.peek _) ?_
  cases e with
  | none =>
      rw [if_neg]
      · exact consumes_float hk
      · rintro (hb | hb)
        · exact (hrest.not_numeric hb).2.2.1 rfl
        · exact (hrest.not_numeric hb).2.2.2 rfl
  | some e =>
      have hmark := (he e rfl).mark
      rw [if_pos]
      · exact consumes_exponentPart (he e rfl) hk fun b hb => (hrest.not_numeric hb).1
      · exact hmark.imp (congrArg some) (congrArg some)

theorem exists_exponentText_of_returns
    (h : Returns (Reader.exponentOrEnd negative significand power) input k rest) :
    ∃ e : Option Exponent, (∀ x ∈ e, x.WellFormed) ∧
      Numeral.float? negative significand power e = some k ∧
      input = Numeral.exponentText e ++ rest := by
  obtain ⟨hmark, hpart⟩ | ⟨-, hend⟩ := (h.after (.peek input)).ite
  · cases input with
    | nil => rcases hmark with hmark | hmark <;> cases hmark
    | cons mark t =>
        obtain ⟨e, he, hk, htext⟩ :=
          exists_exponent_of_returns (hmark.imp Option.some.inj Option.some.inj) hpart
        exact ⟨some e, by rintro x ⟨⟩; exact he, hk, htext⟩
  · obtain ⟨hk, rfl⟩ := hend.float
    exact ⟨none, by rintro x ⟨⟩, hk, rfl⟩

end Exponent

/-! ### Fractions -/

section Fraction

variable {negative : Bool} {significand : Nat} {power : Int} {input rest fraction : List UInt8}
  {exponent : Option Exponent} {alone : Option Number} {whole : Reader Number} {k : Number}

/-- What may follow the digits in front of the point. -/
theorem isExponent_exponentText (he : ∀ x ∈ exponent, x.WellFormed) :
    IsExponent (Numeral.exponentText exponent) := by
  cases exponent with
  | none => exact .inl rfl
  | some e =>
      obtain ⟨hmark, hsign, hdigits⟩ := he e rfl
      refine .inr ⟨e.mark, e.sign.toList, e.digits, hmark, ?_, hdigits, rfl⟩
      rcases hsign with h | h | h
      · exact .inl (congrArg Option.toList h)
      · exact .inr (.inl (congrArg Option.toList h))
      · exact .inr (.inr (congrArg Option.toList h))

theorem isFraction_fractionText (hds : ∀ b ∈ fraction, Reader.isDigit b = true) :
    IsFraction (Numeral.fractionText fraction) := by
  rw [Numeral.fractionText]
  split
  · exact .inl rfl
  · next hne => exact .inr ⟨fraction, ⟨hne, hds⟩, rfl⟩

theorem consumes_fractionPart (hds : IsDigits fraction) (he : ∀ x ∈ exponent, x.WellFormed)
    (hk : Numeral.continued? negative significand power alone fraction exponent = some k)
    (hrest : Delimited rest) :
    Consumes (Reader.fractionPart negative significand power)
      (0x2e :: (fraction ++ (Numeral.exponentText exponent ++ rest))) k rest := by
  have hstop : ∀ b ∈ (Numeral.exponentText exponent ++ rest).head?, Reader.isDigit b = false :=
    fun b hb => ((isExponent_exponentText he).head_append hrest b hb).1
  obtain ⟨htake, hdrop⟩ := takeWhile_isDigit hds.2 hstop
  have hdigits := Consumes.digits (fraction ++ (Numeral.exponentText exponent ++ rest))
  rw [htake, hdrop] at hdigits
  rw [Numeral.continued?, if_neg fun h => hds.1 h.1] at hk
  refine .bind (.skip _ _) (.bind hdigits ?_)
  simp only [List.isEmpty_iff, List.map_eq_nil_iff, hds.1, if_false, List.length_map]
  exact consumes_exponentOrEnd he hk hrest

theorem exists_fraction_of_returns (alone : Option Number)
    (h : Returns (Reader.fractionPart negative significand power) (0x2e :: input) k rest) :
    ∃ fraction exponent, IsDigits fraction ∧ (∀ x ∈ exponent, x.WellFormed) ∧
      Numeral.continued? negative significand power alone fraction exponent = some k ∧
      input = fraction ++ (Numeral.exponentText exponent ++ rest) := by
  have hdigits := h.skip_bind.after (.digits input)
  obtain ⟨-, hfault⟩ | ⟨hne, hexponent⟩ := hdigits.ite
  · refine (Ensures.seq fun b => ?_).elim hfault
    cases b with
    | none => exact .failAhead _
    | some b => exact .failAhead _
  · obtain ⟨e, he, hk, htext⟩ := exists_exponentText_of_returns hexponent
    rw [List.isEmpty_iff, List.map_eq_nil_iff] at hne
    refine ⟨input.takeWhile Reader.isDigit, e, ⟨hne, fun b hb => List.mem_takeWhile_imp hb⟩, he,
      ?_, ?_⟩
    · rw [Numeral.continued?, if_neg fun h => hne h.1]
      rwa [List.length_map] at hk
    · rw [← htext, List.takeWhile_append_dropWhile]

/-- What may follow the digits in front of the point, if the number without it is known. -/
theorem consumes_afterWhole (hds : ∀ b ∈ fraction, Reader.isDigit b = true)
    (he : ∀ x ∈ exponent, x.WellFormed)
    (hwhole : ∀ k input, alone = some k → Consumes whole input k input)
    (hk : Numeral.continued? negative significand power alone fraction exponent = some k)
    (hrest : Delimited rest) :
    Consumes (Reader.afterWhole negative significand power whole)
      (Numeral.fractionText fraction ++ (Numeral.exponentText exponent ++ rest)) k rest := by
  refine .bind (.peek _) ?_
  by_cases hfraction : fraction = []
  · subst hfraction
    have hhead := (isExponent_exponentText he).head_append hrest
    have hpoint : ¬ (Numeral.exponentText exponent ++ rest).head? = some 0x2e :=
      fun hb => (hhead _ hb).2 rfl
    rw [Numeral.fractionText, if_pos rfl, List.nil_append, if_neg hpoint]
    cases exponent with
    | none =>
        -- Nothing follows.
        rw [if_neg]
        · exact hwhole k rest hk
        · rintro (hb | hb)
          · exact (hrest.not_numeric hb).2.2.1 rfl
          · exact (hrest.not_numeric hb).2.2.2 rfl
    | some e =>
        have hmark := (he e rfl).mark
        rw [if_pos]
        · refine consumes_exponentPart (he e rfl) ?_ fun b hb => (hrest.not_numeric hb).1
          simpa [Numeral.continued?, Numeral.float?, Reader.accumulate] using hk
        · exact hmark.imp (congrArg some) (congrArg some)
  · rw [Numeral.fractionText, if_neg hfraction]
    exact consumes_fractionPart ⟨hfraction, hds⟩ he hk hrest

theorem exists_continuation_of_returns
    (hwhole : ∀ {input rest k}, Returns whole input k rest → alone = some k ∧ rest = input)
    (h : Returns (Reader.afterWhole negative significand power whole) input k rest) :
    ∃ fraction exponent, (∀ b ∈ fraction, Reader.isDigit b = true) ∧
      (∀ x ∈ exponent, x.WellFormed) ∧
      Numeral.continued? negative significand power alone fraction exponent = some k ∧
      input = Numeral.fractionText fraction ++ (Numeral.exponentText exponent ++ rest) := by
  have hseen := h.after (.peek input)
  cases input with
  | nil =>
      obtain ⟨hk, rfl⟩ := hwhole hseen
      exact ⟨[], none, by simp, by simp, hk, rfl⟩
  | cons b t =>
      obtain ⟨hpoint, hfraction⟩ | ⟨-, hnone⟩ := hseen.ite
      · obtain rfl : b = 0x2e := Option.some.inj hpoint
        obtain ⟨fraction, exponent, hds, he, hk, rfl⟩ :=
          exists_fraction_of_returns alone hfraction
        refine ⟨fraction, exponent, hds.2, he, hk, ?_⟩
        rw [Numeral.fractionText, if_neg hds.1]
        rfl
      obtain ⟨hmark, hexponent⟩ | ⟨-, hend⟩ := hnone.ite
      · obtain ⟨e, he, hk, htext⟩ :=
          exists_exponent_of_returns (hmark.imp Option.some.inj Option.some.inj) hexponent
        refine ⟨[], some e, by simp, by rintro x ⟨⟩; exact he, ?_, htext⟩
        simpa [Numeral.continued?, Numeral.float?, Reader.accumulate] using hk
      · obtain ⟨hk, rfl⟩ := hwhole hend
        exact ⟨[], none, by simp, by simp, hk, rfl⟩

end Fraction

/-! ### Numbers -/

section Number

variable {negative : Bool} {input rest : List UInt8} {k : Number}

theorem number?_zero (fraction : List UInt8) (exponent : Option Exponent) :
    Numeral.number? negative ⟨[0x30], fraction, exponent⟩
      = Numeral.continued? negative 0 0 (some (Reader.wholeNumber negative 0)) fraction exponent := by
  have hzero : Reader.accumulate Reader.maxWord 0 [Reader.digitValue 0x30] = (0, []) := by decide
  simp only [Numeral.number?, List.map_cons, List.map_nil, hzero, if_true, List.length_nil]
  rfl

theorem number?_cons (d : UInt8) (ds fraction : List UInt8) (exponent : Option Exponent) :
    Numeral.number? negative ⟨d :: ds, fraction, exponent⟩
      = (let (whole, excess) := Reader.accumulate Reader.maxWord (Reader.digitValue d)
          (ds.map Reader.digitValue)
        Numeral.continued? negative whole (Int.ofNat excess.length)
          (if excess = [] then some (Reader.wholeNumber negative whole)
            else float? negative whole (Int.ofNat excess.length)) fraction exponent) := by
  have hlimit : 0x7fffffff ≤ Reader.maxWord := by decide
  rw [Numeral.number?, List.map_cons, accumulate_cons_zero hlimit]

/-- Every numeral is read as its number. -/
theorem consumes_number {n : Numeral} (hn : n.WellFormed) (hk : n.number? negative = some k)
    (hrest : Delimited rest) : Consumes (Reader.number negative) (n.text ++ rest) k rest := by
  obtain ⟨whole, fraction, exponent⟩ := n
  obtain ⟨hwhole, hds, he⟩ := hn
  have hstop := (isFraction_fractionText hds).head_append fun b hb =>
    ((isExponent_exponentText he).head_append hrest b hb).1
  rw [Numeral.text, List.append_assoc, List.append_assoc]
  obtain rfl | ⟨⟨hne, hall⟩, hzero⟩ := hwhole
  · -- A zero, which no digit may follow.
    rw [number?_zero] at hk
    have hafter : Consumes (Reader.number.afterZero negative) _ k rest :=
      consumes_afterWhole hds he (fun k input hk => Option.some.inj hk ▸ .pure _ _) hk hrest
    rw [List.cons_append, List.nil_append]
    refine .bind (.next 0x30 _) (.bind (.peek _) ?_)
    cases hhead : (Numeral.fractionText fraction ++
      (Numeral.exponentText exponent ++ rest)).head? with
    | none => exact hafter
    | some b =>
        simp only [hstop b hhead]
        exact hafter
  · obtain ⟨d, ds, rfl⟩ := List.exists_cons_of_ne_nil hne
    obtain ⟨hd, htail⟩ := List.forall_mem_cons.mp hall
    have hd30 : ¬ d = 0x30 := fun h => hzero (congrArg some h)
    obtain ⟨htake, hdrop⟩ := takeWhile_isDigit htail hstop
    have hdigits := Consumes.digits (ds ++ (Numeral.fractionText fraction ++
      (Numeral.exponentText exponent ++ rest)))
    rw [htake, hdrop] at hdigits
    rw [number?_cons] at hk
    rw [List.cons_append]
    refine .bind (.next d _) ?_
    simp only [if_neg hd30, hd, if_true]
    refine .bind hdigits ?_
    generalize Reader.accumulate Reader.maxWord (Reader.digitValue d)
      (ds.map Reader.digitValue) = result at hk ⊢
    obtain ⟨significand, excess⟩ := result
    cases excess with
    | nil => exact consumes_afterWhole hds he (fun k input hk => Option.some.inj hk ▸ .pure _ _) hk hrest
    | cons x excess => exact consumes_afterWhole hds he (fun k input hk => consumes_float hk) hk hrest

/-- Every number that is read stands there as a numeral. -/
theorem exists_numeral_of_returns (h : Returns (Reader.number negative) input k rest) :
    ∃ n : Numeral, n.WellFormed ∧ n.number? negative = some k ∧ input = n.text ++ rest := by
  obtain ⟨d, t, rfl, hfirst⟩ := h.next_bind (.fail _)
  obtain ⟨rfl, hzero⟩ | ⟨hd30, hdigit⟩ := hfirst.ite
  · -- A zero, and behind it no digit.
    have hafter : Returns (Reader.number.afterZero negative) t k rest := by
      have hseen := hzero.after (.peek t)
      cases t with
      | nil => exact hseen
      | cons b t =>
          obtain ⟨-, hfault⟩ | ⟨-, hafter⟩ := hseen.ite
          · exact (Ensures.failAhead _).elim hfault
          · exact hafter
    obtain ⟨fraction, exponent, hds, he, hk, rfl⟩ := exists_continuation_of_returns
      (fun hr => ⟨congrArg some hr.pure.1.symm, hr.pure.2⟩) hafter
    refine ⟨⟨[0x30], fraction, exponent⟩, ⟨.inl rfl, hds, he⟩, ?_, ?_⟩
    · rw [number?_zero]
      exact hk
    · simp [Numeral.text]
  obtain ⟨hd, hwhole⟩ | ⟨-, hfault⟩ := hdigit.ite
  swap
  · exact (Ensures.fail _).elim hfault
  have hafter := hwhole.after (.digits t)
  have hall : ∀ b ∈ d :: t.takeWhile Reader.isDigit, Reader.isDigit b = true :=
    List.forall_mem_cons.mpr ⟨hd, fun b hb => List.mem_takeWhile_imp hb⟩
  have hisWhole : IsWhole (d :: t.takeWhile Reader.isDigit) :=
    .inr ⟨⟨List.cons_ne_nil _ _, hall⟩, fun h => hd30 (Option.some.inj h)⟩
  -- Whether or not all digits fit, the same may follow them.
  have hnumeral : ∃ fraction exponent, (∀ b ∈ fraction, Reader.isDigit b = true) ∧
      (∀ x ∈ exponent, x.WellFormed) ∧
      Numeral.number? negative ⟨d :: t.takeWhile Reader.isDigit, fraction, exponent⟩ = some k ∧
      t.dropWhile Reader.isDigit
        = Numeral.fractionText fraction ++ (Numeral.exponentText exponent ++ rest) := by
    simp only [number?_cons]
    generalize Reader.accumulate Reader.maxWord (Reader.digitValue d)
      ((t.takeWhile Reader.isDigit).map Reader.digitValue) = result at hafter ⊢
    obtain ⟨significand, excess⟩ := result
    cases excess with
    | nil =>
        exact exists_continuation_of_returns
          (fun hr => ⟨congrArg some hr.pure.1.symm, hr.pure.2⟩) hafter
    | cons x excess => exact exists_continuation_of_returns (fun hr => hr.float) hafter
  obtain ⟨fraction, exponent, hds, he, hk, htext⟩ := hnumeral
  refine ⟨⟨_, fraction, exponent⟩, ⟨hisWhole, hds, he⟩, hk, ?_⟩
  rw [Numeral.text, List.append_assoc, List.append_assoc, ← htext, List.cons_append,
    List.takeWhile_append_dropWhile]

end Number

end PushRegistry.Json
