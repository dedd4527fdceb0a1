import PushRegistry.Json.Skip
import PushRegistry.Proofs.Json.Documents

/-!
# `PushRegistry.Proofs.Json.Skip`: values of any shape are passed

`IsValue` is the grammar of values as such. It asks for less than `Spells`, because nothing is made
of a value that is only passed: numbers may have a point, an exponent and any size, the bytes of a
string need not form characters, escapes may be halves of surrogate pairs, and brackets may be open
inside each other without limit. `consumes_skipValue` says that every value is passed as a whole.

The reader has fuel for one round more than the text has bytes, both for the rounds of a list and
for the brackets inside each other. The induction is therefore on the grammar, with the length of
the text as a bound for the fuel.
-/

set_option autoImplicit false

namespace PushRegistry.Json

open PushRegistry.Text

/-! ### The grammar -/

/-- Digits, one at least. -/
def IsDigits (t : List UInt8) : Prop := t ≠ [] ∧ ∀ b ∈ t, Reader.isDigit b = true

/-- The digits in front of the point. A zero stands alone. -/
def IsWhole (t : List UInt8) : Prop := t = [0x30] ∨ IsDigits t ∧ t.head? ≠ some 0x30

/-- A point with digits, or nothing. -/
def IsFraction (t : List UInt8) : Prop := t = [] ∨ ∃ ds, IsDigits ds ∧ t = 0x2e :: ds

/-- An exponent with or without a sign, or nothing. -/
def IsExponent (t : List UInt8) : Prop :=
  t = [] ∨ ∃ mark sign ds, (mark = 0x65 ∨ mark = 0x45) ∧
    (sign = [] ∨ sign = [0x2b] ∨ sign = [0x2d]) ∧ IsDigits ds ∧ t = mark :: (sign ++ ds)

/-- A number of any size, without its sign. -/
def IsMagnitude (t : List UInt8) : Prop :=
  ∃ whole fraction exponent, IsWhole whole ∧ IsFraction fraction ∧ IsExponent exponent ∧
    t = whole ++ (fraction ++ exponent)

/-- What may stand between quotes. -/
inductive IsPassage : List UInt8 → Prop where
  | nil : IsPassage []
  | byte {b : UInt8} {t : List UInt8} (hcontrol : ¬ b < 0x20) (hquote : b ≠ 0x22)
      (hbackslash : b ≠ 0x5c) (ht : IsPassage t) : IsPassage (b :: t)
  | short {b : UInt8} {t : List UInt8} (hb : b ∈ shortEscapes.map Prod.fst) (ht : IsPassage t) :
      IsPassage (0x5c :: b :: t)
  | unicode {w x y z : UInt8} {values : List Nat} {t : List UInt8}
      (hdigits : [w, x, y, z].mapM Hex.byteValue? = some values) (ht : IsPassage t) :
      IsPassage (0x5c :: 0x75 :: w :: x :: y :: z :: t)

/-- What stands in front of the value of a member: its name and the colon. -/
def IsLabel (t : List UInt8) : Prop :=
  ∃ name before after, IsPassage name ∧ Blank before ∧ Blank after ∧
    t = 0x22 :: (name ++ 0x22 :: (before ++ 0x3a :: after))

/-- The texts of values. -/
inductive IsValue : List UInt8 → Prop where
  | null : IsValue [0x6e, 0x75, 0x6c, 0x6c]
  | yes : IsValue [0x74, 0x72, 0x75, 0x65]
  | no : IsValue [0x66, 0x61, 0x6c, 0x73, 0x65]
  | positive {t : List UInt8} (h : IsMagnitude t) : IsValue t
  | negative {t : List UInt8} (h : IsMagnitude t) : IsValue (0x2d :: t)
  | quoted {t : List UInt8} (h : IsPassage t) : IsValue (0x22 :: (t ++ [0x22]))
  | list {ts : List (List UInt8)} {u : List UInt8} (hts : ∀ t ∈ ts, IsValue t)
      (hu : Separated ts u) : IsValue (0x5b :: (u ++ [0x5d]))
  | object {ms : List (List UInt8 × List UInt8)} {u : List UInt8} (hlabels : ∀ m ∈ ms, IsLabel m.1)
      (hvalues : ∀ m ∈ ms, IsValue m.2) (hu : Separated (ms.map fun m => m.1 ++ m.2) u) :
      IsValue (0x7b :: (u ++ [0x7d]))

/-! ### Numbers -/

/-- What follows the digits in front of an exponent is neither a digit nor a point. -/
theorem IsExponent.head_append {exponent rest : List UInt8} (h : IsExponent exponent)
    (hrest : Delimited rest) :
    ∀ b ∈ (exponent ++ rest).head?, Reader.isDigit b = false ∧ b ≠ 0x2e := by
  intro b hb
  -- The byte is the mark, or, without an exponent, what follows the whole number.
  obtain rfl | ⟨mark, sign, ds, hmark, -, -, rfl⟩ := h
  · obtain ⟨hdigit, hpoint, -⟩ := hrest.not_numeric hb
    exact ⟨hdigit, hpoint⟩
  · obtain rfl : mark = b := by simpa using hb
    rcases hmark with rfl | rfl <;> decide

/-- What follows the digits in front of a point is no digit. -/
theorem IsFraction.head_append {fraction rest : List UInt8} (h : IsFraction fraction)
    (hrest : ∀ b ∈ rest.head?, Reader.isDigit b = false) :
    ∀ b ∈ (fraction ++ rest).head?, Reader.isDigit b = false := by
  intro b hb
  obtain rfl | ⟨ds, -, rfl⟩ := h
  · exact hrest b hb
  · obtain rfl : 0x2e = b := by simpa using hb
    decide

namespace Consumes

variable {rest : List UInt8}

/-- Digits behind a first one that has been read. -/
theorem digits_tail {d : UInt8} {ds : List UInt8} (h : IsDigits (d :: ds))
    (hrest : ∀ b ∈ rest.head?, Reader.isDigit b = false) :
    Consumes (Reader.takeWhile Reader.isDigit) (ds ++ rest) ds rest :=
  takeRun (fun b hb => h.2 b (List.mem_cons_of_mem d hb)) hrest

/-- Digits that are read one after the first. What is done with the first is a parameter, because it
stands behind a sign or without one. -/
theorem next_digits {f : Option UInt8 → Reader Unit} {d : UInt8} {ds : List UInt8}
    (hf : f (some d) = (do let _ ← Reader.takeWhile Reader.isDigit)) (hds : IsDigits (d :: ds))
    (hrest : Delimited rest) : Consumes (Reader.next >>= f) (d :: (ds ++ rest)) () rest := by
  refine bind (next d _) ?_
  rw [hf]
  exact bind (digits_tail hds fun b hb => (hrest.not_numeric hb).1) (pure _ _)

theorem skipExponent {mark : UInt8} {sign ds : List UInt8}
    (hsign : sign = [] ∨ sign = [0x2b] ∨ sign = [0x2d]) (hds : IsDigits ds)
    (hrest : Delimited rest) :
    Consumes Reader.skipExponent (mark :: (sign ++ (ds ++ rest))) () rest := by
  obtain ⟨d, ds, rfl⟩ := List.exists_cons_of_ne_nil hds.1
  have hd : Reader.isDigit d = true := hds.2 d List.mem_cons_self
  unfold Reader.skipExponent
  refine bind (skip _ _) (bind (peek _) ?_)
  rcases hsign with rfl | rfl | rfl
  · -- A digit is no sign.
    have hplus : d ≠ 0x2b := by
      rintro rfl
      exact absurd hd (by decide)
    have hminus : d ≠ 0x2d := (ne_of_isDigit hd).2.2.2.1
    simp only [List.nil_append, List.cons_append, List.head?_cons, Option.some.injEq, hplus, hminus,
      or_self, if_false]
    exact next_digits (if_pos hd) hds hrest
  · exact bind (skip _ _) (next_digits (if_pos hd) hds hrest)
  · exact bind (skip _ _) (next_digits (if_pos hd) hds hrest)

/-- The exponent, if the byte that was seen is its mark. -/
theorem skipExponentOrEnd {exponent : List UInt8} (h : IsExponent exponent)
    (hrest : Delimited rest) :
    Consumes (if (exponent ++ rest).head? = some 0x65 ∨ (exponent ++ rest).head? = some 0x45 then
      Reader.skipExponent else Pure.pure ()) (exponent ++ rest) () rest := by
  obtain rfl | ⟨mark, sign, ds, hmark, hsign, hds, rfl⟩ := h
  · rw [List.nil_append, if_neg]
    · exact pure _ _
    · rintro (hb | hb)
      · exact (hrest.not_numeric hb).2.2.1 rfl
      · exact (hrest.not_numeric hb).2.2.2 rfl
  · simp only [List.cons_append, List.append_assoc, List.head?_cons, Option.some.injEq, hmark,
      if_true]
    exact skipExponent hsign hds hrest

/-- What may follow the digits in front of the point. -/
theorem skipFractionOrEnd {fraction exponent : List UInt8} (hfraction : IsFraction fraction)
    (hexponent : IsExponent exponent) (hrest : Delimited rest) :
    Consumes (do
      let after ← Reader.peek
      if after = some 0x2e then Reader.skipFraction
      else if after = some 0x65 ∨ after = some 0x45 then Reader.skipExponent)
      (fraction ++ (exponent ++ rest)) () rest := by
  have hhead := hexponent.head_append hrest
  refine bind (peek _) ?_
  obtain rfl | ⟨ds, hds, rfl⟩ := hfraction
  · -- The byte that was seen is no point, and it decides about the exponent as well.
    have hpoint : ¬ (exponent ++ rest).head? = some 0x2e := fun hb => (hhead _ hb).2 rfl
    rw [List.nil_append, if_neg hpoint]
    exact skipExponentOrEnd hexponent hrest
  · -- Behind the digits of the fraction the reader looks again.
    refine bind (skip _ _) ?_
    refine bind (takeRun hds.2 fun b hb => (hhead b hb).1) ?_
    simp only [List.isEmpty_iff, hds.1, if_false]
    exact bind (peek _) (skipExponentOrEnd hexponent hrest)

/-- A number, after its sign. -/
theorem skipNumber {t : List UInt8} (h : IsMagnitude t) (hrest : Delimited rest) :
    Consumes Reader.skipNumber (t ++ rest) () rest := by
  obtain ⟨whole, fraction, exponent, hwhole, hfraction, hexponent, rfl⟩ := h
  have hstop := hfraction.head_append fun b hb => (hexponent.head_append hrest b hb).1
  have hafter := skipFractionOrEnd hfraction hexponent hrest
  rw [List.append_assoc, List.append_assoc]
  unfold Reader.skipNumber
  obtain rfl | ⟨⟨hne, hall⟩, hzero⟩ := hwhole
  · -- A zero, which no digit may follow.
    refine bind (next 0x30 _) (bind (peek _) ?_)
    rw [if_neg]
    · exact hafter
    · rw [Option.any_eq_true]
      rintro ⟨b, hb, hdigit⟩
      rw [hstop b hb] at hdigit
      cases hdigit
  · -- A first digit that is no zero, and all others.
    obtain ⟨d, ds, rfl⟩ := List.exists_cons_of_ne_nil hne
    have hd : Reader.isDigit d = true := hall d List.mem_cons_self
    have hd30 : ¬ d = 0x30 := fun h => hzero (congrArg some h)
    refine bind (next d _) ?_
    simp only [if_neg hd30, hd, if_true]
    exact bind (digits_tail ⟨hne, hall⟩ hstop) hafter

/-! ### Strings -/

theorem skipEscape_short {b : UInt8} (hb : b ∈ shortEscapes.map Prod.fst) :
    Consumes Reader.skipEscape (b :: rest) () rest := by
  refine bind (bind (next b rest) (pure _ _)) ?_
  simp only [shortEscapes, List.map_cons, List.map_nil, List.mem_cons, List.not_mem_nil,
    or_false] at hb
  rcases hb with rfl | rfl | rfl | rfl | rfl | rfl | rfl | rfl <;> exact pure _ _

theorem skipEscape_unicode {w x y z : UInt8} {values : List Nat}
    (hdigits : [w, x, y, z].mapM Hex.byteValue? = some values) :
    Consumes Reader.skipEscape (0x75 :: w :: x :: y :: z :: rest) () rest :=
  bind (bind (next 0x75 _) (pure _ _)) (bind (hexEscape hdigits) (pure _ _))

/-- A string up to its closing quote. Induction on its parts, each of which has a byte to pay the
fuel for. -/
theorem skipStringRest {t : List UInt8} (h : IsPassage t) {n : Nat} (hn : t.length ≤ n) :
    Consumes (Reader.skipStringRest (n + 1)) (t ++ 0x22 :: rest) () rest := by
  induction h generalizing n with
  | nil => exact bind (peek _) (skip _ _)
  | @byte b t hcontrol hquote hbackslash _ ih =>
      obtain ⟨n, rfl⟩ := Nat.exists_eq_add_of_lt hn
      refine bind (peek _) ?_
      simp only [List.cons_append, List.head?_cons, if_neg hquote, if_neg hbackslash,
        if_neg hcontrol]
      exact bind (skip _ _) (ih (Nat.le_add_right _ _))
  | @short b t hb _ ih =>
      obtain ⟨n, rfl⟩ := Nat.exists_eq_add_of_lt hn
      refine bind (peek _) (bind (skip _ _) (bind (skipEscape_short hb) (ih ?_)))
      rw [List.length_cons]
      omega
  | @unicode w x y z values t hdigits _ ih =>
      obtain ⟨n, rfl⟩ := Nat.exists_eq_add_of_lt hn
      refine bind (peek _) (bind (skip _ _) (bind (skipEscape_unicode hdigits) (ih ?_)))
      simp only [List.length_cons]
      omega

/-- A string, after its opening quote. -/
theorem skipString {t : List UInt8} (h : IsPassage t) :
    Consumes Reader.skipString (t ++ 0x22 :: rest) () rest := by
  refine get fun c hc => skipStringRest h ?_
  rw [hc, List.length_append]
  omega

end Consumes

/-! ### Lists and objects -/

/-- The reader passes a text behind any blanks. The text starts a token, which is not the closing
byte. -/
structure Passes (item : Reader Unit) (close : UInt8) (t : List UInt8) : Prop where
  opens : ∃ b u, t = b :: u ∧ Reader.isBlank b = false ∧ b ≠ close
  consumes : ∀ {ws rest : List UInt8}, Blank ws → Delimited rest →
    Consumes item (ws ++ (t ++ rest)) () rest

section List

variable {item : Reader Unit} {close : UInt8} {unfinished expectedComma : Cause}
  {ts : List (List UInt8)} {u : List UInt8} {fuel : Nat}

theorem isBlank_of_closes (hclose : close = 0x5d ∨ close = 0x7d) :
    Reader.isBlank close = false := by
  rcases hclose with rfl | rfl <;> decide

/-- The loop behind the first item. Induction on the items. -/
theorem consumes_skipList_tail (hclose : close = 0x5d ∨ close = 0x7d) (hu : SeparatedTail ts u)
    (hitems : ∀ t ∈ ts, Passes item close t) (hfuel : ts.length < fuel) (rest : List UInt8) :
    Consumes (Reader.skipList close unfinished expectedComma item fuel false) (u ++ close :: rest)
      () rest := by
  have hblank := isBlank_of_closes hclose
  induction hu generalizing fuel with
  | nil hws =>
      obtain ⟨n, rfl⟩ := Nat.exists_eq_add_of_lt hfuel
      refine Consumes.bind (Consumes.token hws hblank rest) ?_
      simp only [if_true]
      exact Consumes.skip _ _
  | @cons ts before after t u hbefore hafter hu ih =>
      obtain ⟨n, rfl⟩ := Nat.exists_eq_add_of_lt hfuel
      obtain ⟨ht, hts⟩ := List.forall_mem_cons.mp hitems
      -- A comma closes nothing, and behind it an item must follow, blanks in front of it included.
      have hcomma : ¬ (0x2c : UInt8) = close := by rcases hclose with rfl | rfl <;> decide
      simp only [List.append_assoc, List.cons_append]
      refine Consumes.bind (Consumes.token hbefore (by decide) _) ?_
      simp only [if_neg hcomma, Bool.false_eq_true, if_false, if_true]
      refine Consumes.bind (Consumes.skip _ _) ?_
      refine Consumes.bind (ht.consumes hafter (hu.delimited hclose rest)) ?_
      exact ih hts (by rw [List.length_cons]; omega)

/-- The whole loop. -/
theorem consumes_skipList (hclose : close = 0x5d ∨ close = 0x7d) (hu : Separated ts u)
    (hitems : ∀ t ∈ ts, Passes item close t) (hfuel : ts.length < fuel) (rest : List UInt8) :
    Consumes (Reader.skipList close unfinished expectedComma item fuel true) (u ++ close :: rest)
      () rest := by
  obtain ⟨n, rfl⟩ := Nat.exists_eq_add_of_lt hfuel
  cases hu with
  | nil hws =>
      refine Consumes.bind (Consumes.token hws (isBlank_of_closes hclose) rest) ?_
      simp only [if_true]
      exact Consumes.skip _ _
  | @cons ts before t u hbefore hu =>
      obtain ⟨ht, hts⟩ := List.forall_mem_cons.mp hitems
      obtain ⟨b, v, hcons, hblank, hb⟩ := ht.opens
      -- The token is only seen, so that the item starts at it.
      have hfirst := ht.consumes Blank.nil (hu.delimited hclose rest)
      rw [hcons] at hfirst
      rw [hcons]
      simp only [List.append_assoc, List.cons_append, List.nil_append] at hfirst ⊢
      refine Consumes.bind (Consumes.token hbefore hblank _) ?_
      simp only [if_neg hb, if_true]
      refine Consumes.bind hfirst ?_
      exact consumes_skipList_tail hclose hu hts (by rw [List.length_cons]; omega) rest

end List

/-- A member, if its value is passed. -/
theorem passes_skipMember {value : Reader Unit} {label v : List UInt8} (hlabel : IsLabel label)
    (hv : Passes value 0x5d v) : Passes (Reader.skipMember value) 0x7d (label ++ v) := by
  obtain ⟨name, before, after, hname, hbefore, hafter, rfl⟩ := hlabel
  refine ⟨⟨0x22, _, rfl, by decide, by decide⟩, fun {ws rest} hws hrest => ?_⟩
  simp only [List.append_assoc, List.cons_append]
  refine Consumes.bind (Consumes.token hws (by decide) _) ?_
  refine Consumes.bind (Consumes.skip _ _) ?_
  -- The quote is passed; the rest of the name and the colon are next, and then the value.
  refine Consumes.bind (Consumes.skipString hname) ?_
  refine Consumes.bind (Consumes.token hbefore (by decide) _) ?_
  exact Consumes.bind (Consumes.skip _ _) (hv.consumes hafter hrest)

/-! ### Lengths -/

/-- Items are not longer than the text that they stand in, and behind the first one there are not
more of them than it has bytes. -/
theorem SeparatedTail.bounds {ts : List (List UInt8)} {u : List UInt8} (h : SeparatedTail ts u) :
    ts.length ≤ u.length ∧ ∀ t ∈ ts, t.length ≤ u.length := by
  refine ⟨h.length_le, ?_⟩
  induction h with
  | nil => exact fun t ht => absurd ht List.not_mem_nil
  | cons _ _ _ ih =>
      intro t ht
      simp only [List.length_append, List.length_cons]
      rcases List.mem_cons.mp ht with rfl | ht
      · omega
      · have := ih t ht
        omega

theorem Separated.bounds {ts : List (List UInt8)} {u : List UInt8} (h : Separated ts u) :
    ts.length ≤ u.length + 1 ∧ ∀ t ∈ ts, t.length ≤ u.length := by
  cases h with
  | nil => exact ⟨Nat.zero_le _, fun t ht => absurd ht List.not_mem_nil⟩
  | cons _ htail =>
      obtain ⟨hcount, hlengths⟩ := htail.bounds
      simp only [List.length_append, List.length_cons]
      refine ⟨by omega, fun t ht => ?_⟩
      rcases List.mem_cons.mp ht with rfl | ht
      · omega
      · have := hlengths t ht
        omega

/-! ### Values -/

/-- A number starts with a digit. -/
theorem IsMagnitude.exists_cons {t : List UInt8} (h : IsMagnitude t) :
    ∃ b u, t = b :: u ∧ Reader.isDigit b = true := by
  obtain ⟨whole, fraction, exponent, hwhole, -, -, rfl⟩ := h
  obtain rfl | ⟨⟨hne, hall⟩, -⟩ := hwhole
  · exact ⟨0x30, _, rfl, by decide⟩
  · obtain ⟨d, ds, rfl⟩ := List.exists_cons_of_ne_nil hne
    exact ⟨d, _, rfl, hall d List.mem_cons_self⟩

/-- Every value starts a token. -/
theorem IsValue.exists_cons {t : List UInt8} (h : IsValue t) :
    ∃ b u, t = b :: u ∧ Reader.isBlank b = false ∧ b ≠ 0x5d := by
  cases h with
  | null => exact ⟨_, _, rfl, by decide, by decide⟩
  | yes => exact ⟨_, _, rfl, by decide, by decide⟩
  | no => exact ⟨_, _, rfl, by decide, by decide⟩
  | positive h =>
      obtain ⟨b, u, rfl, hb⟩ := h.exists_cons
      exact ⟨b, u, rfl, (ne_of_isDigit hb).2.2.2.2⟩
  | negative => exact ⟨_, _, rfl, by decide, by decide⟩
  | quoted => exact ⟨_, _, rfl, by decide, by decide⟩
  | list => exact ⟨_, _, rfl, by decide, by decide⟩
  | object => exact ⟨_, _, rfl, by decide, by decide⟩

section Value

variable {ws rest : List UInt8} {fuel : Nat}

theorem consumes_skipWord {first : UInt8} {word : List UInt8}
    (h : first :: word ∈ ([[0x6e, 0x75, 0x6c, 0x6c], [0x74, 0x72, 0x75, 0x65],
      [0x66, 0x61, 0x6c, 0x73, 0x65]] : List (List UInt8))) (hws : Blank ws) :
    Consumes (Reader.skipValueWith (fuel + 1)) (ws ++ (first :: word ++ rest)) () rest := by
  simp only [List.mem_cons, List.cons.injEq, List.not_mem_nil, or_false] at h
  rcases h with ⟨rfl, rfl⟩ | ⟨rfl, rfl⟩ | ⟨rfl, rfl⟩
  · refine Consumes.bind (Consumes.token hws (by decide) _) ?_
    exact Consumes.bind (Consumes.skip _ _) (consumes_ident _ rest)
  · refine Consumes.bind (Consumes.token hws (by decide) _) ?_
    exact Consumes.bind (Consumes.skip _ _) (consumes_ident _ rest)
  · refine Consumes.bind (Consumes.token hws (by decide) _) ?_
    exact Consumes.bind (Consumes.skip _ _) (consumes_ident _ rest)

theorem consumes_skipPositive {t : List UInt8} (h : IsMagnitude t) (hws : Blank ws)
    (hrest : Delimited rest) :
    Consumes (Reader.skipValueWith (fuel + 1)) (ws ++ (t ++ rest)) () rest := by
  have hread := Consumes.skipNumber h hrest
  obtain ⟨b, u, rfl, hb⟩ := h.exists_cons
  obtain ⟨hn, ht, hf, hminus, hopens⟩ := ne_of_isDigit hb
  refine Consumes.bind (Consumes.token hws hopens.1 _) ?_
  -- A digit starts no word and is no sign. It is only seen, so the number still starts at it.
  simp only [if_neg hn, if_neg ht, if_neg hf, if_neg hminus, if_pos hb]
  exact hread

theorem consumes_skipNegative {t : List UInt8} (h : IsMagnitude t) (hws : Blank ws)
    (hrest : Delimited rest) :
    Consumes (Reader.skipValueWith (fuel + 1)) (ws ++ (0x2d :: t ++ rest)) () rest := by
  refine Consumes.bind (Consumes.token hws (by decide) _) ?_
  exact Consumes.bind (Consumes.skip _ _) (Consumes.skipNumber h hrest)

theorem consumes_skipQuoted {t : List UInt8} (h : IsPassage t) (hws : Blank ws) :
    Consumes (Reader.skipValueWith (fuel + 1)) (ws ++ (0x22 :: (t ++ [0x22]) ++ rest)) () rest := by
  simp only [List.cons_append, List.append_assoc, List.nil_append]
  refine Consumes.bind (Consumes.token hws (by decide) _) ?_
  exact Consumes.bind (Consumes.skip _ _) (Consumes.skipString h)

theorem consumes_skipArray {ts : List (List UInt8)} {u : List UInt8} (hu : Separated ts u)
    (hitems : ∀ t ∈ ts, Passes (Reader.skipValueWith fuel) 0x5d t) (hfuel : ts.length ≤ fuel)
    (hws : Blank ws) :
    Consumes (Reader.skipValueWith (fuel + 1)) (ws ++ (0x5b :: (u ++ [0x5d]) ++ rest)) () rest := by
  simp only [List.cons_append, List.append_assoc, List.nil_append]
  refine Consumes.bind (Consumes.token hws (by decide) _) ?_
  refine Consumes.bind (Consumes.skip _ _) ?_
  exact consumes_skipList (.inl rfl) hu hitems (Nat.lt_succ_of_le hfuel) rest

theorem consumes_skipObject {ts : List (List UInt8)} {u : List UInt8} (hu : Separated ts u)
    (hitems : ∀ t ∈ ts, Passes (Reader.skipMember (Reader.skipValueWith fuel)) 0x7d t)
    (hfuel : ts.length ≤ fuel) (hws : Blank ws) :
    Consumes (Reader.skipValueWith (fuel + 1)) (ws ++ (0x7b :: (u ++ [0x7d]) ++ rest)) () rest := by
  simp only [List.cons_append, List.append_assoc, List.nil_append]
  refine Consumes.bind (Consumes.token hws (by decide) _) ?_
  refine Consumes.bind (Consumes.skip _ _) ?_
  exact consumes_skipList (.inr rfl) hu hitems (Nat.lt_succ_of_le hfuel) rest

end Value

/-- A value is passed with more fuel than it has bytes. Induction on the grammar: what stands
between brackets is shorter by these brackets, which pay for the level. -/
theorem passes_skipValueWith {t : List UInt8} (h : IsValue t) {n : Nat} (hn : t.length ≤ n) :
    Passes (Reader.skipValueWith (n + 1)) 0x5d t := by
  refine ⟨h.exists_cons, fun {ws rest} hws hrest => ?_⟩
  induction h generalizing n ws rest with
  | null => exact consumes_skipWord (by simp) hws
  | yes => exact consumes_skipWord (by simp) hws
  | no => exact consumes_skipWord (by simp) hws
  | positive h => exact consumes_skipPositive h hws hrest
  | negative h => exact consumes_skipNegative h hws hrest
  | quoted h => exact consumes_skipQuoted h hws
  | @list ts u hts hu ih =>
      obtain ⟨hcount, hlengths⟩ := hu.bounds
      simp only [List.length_cons, List.length_append, List.length_nil] at hn
      -- The opening bracket pays for this level, and what is left is enough for every item.
      obtain ⟨n, rfl⟩ := Nat.exists_eq_add_of_lt hn
      refine consumes_skipArray hu (fun t ht => ⟨(hts t ht).exists_cons, fun hws hrest => ?_⟩)
        (by omega) hws
      have hlength : t.length ≤ u.length := hlengths t ht
      exact ih t ht (by omega) hws hrest
  | @object ms u hlabels hvalues hu ih =>
      obtain ⟨hcount, hlengths⟩ := hu.bounds
      rw [List.length_map] at hcount
      simp only [List.length_cons, List.length_append, List.length_nil] at hn
      obtain ⟨n, rfl⟩ := Nat.exists_eq_add_of_lt hn
      refine consumes_skipObject hu (fun t ht => ?_) (by rw [List.length_map]; omega) hws
      obtain ⟨m, hm, rfl⟩ := List.mem_map.mp ht
      refine passes_skipMember (hlabels m hm) ⟨(hvalues m hm).exists_cons, fun hws hrest => ?_⟩
      -- The label only adds to the length.
      have hlength : (m.1 ++ m.2).length ≤ u.length := hlengths _ ht
      rw [List.length_append] at hlength
      exact ih m hm (by omega) hws hrest

/-- A value is passed, whatever its shape. -/
theorem consumes_skipValue {t ws rest : List UInt8} (h : IsValue t) (hws : Blank ws)
    (hrest : Delimited rest) : Consumes Reader.skipValue (ws ++ (t ++ rest)) () rest := by
  refine Consumes.get fun c hc => ?_
  have hlength : t.length ≤ c.rest.length := by
    rw [hc, List.length_append, List.length_append]
    omega
  exact (passes_skipValueWith h hlength).consumes hws hrest

/-- A member that a record does not have, in front of others. The state stays as it is. -/
theorem Steps.unknown {σ : Type} {member : String → σ → Reader σ} {s s' : σ} {name : String}
    {value : List UInt8 → Prop} {t : List UInt8} {ts : List (List UInt8)}
    (hmember : member name s = Reader.unknownField s) (hvalue : ∀ v, value v → IsValue v)
    (ht : DenotesMember value name t) (hts : Steps OpensMember (memberStep member) s ts s') :
    Steps OpensMember (memberStep member) s (t :: ts) s' := by
  refine Steps.member ht ?_ hts
  intro before after v rest hbefore hafter hv hrest
  rw [hmember]
  refine Consumes.bind (consumes_colon hbefore _) ?_
  exact Consumes.bind (consumes_skipValue (hvalue v hv) hafter hrest) (Consumes.pure _ _)

end PushRegistry.Json
