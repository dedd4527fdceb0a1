import PushRegistry.Json.Scalar
import PushRegistry.Proofs.Json.Consumes
import PushRegistry.Proofs.Text.Utf8

/-!
# `PushRegistry.Proofs.Json.Strings`: strings and their texts

`SpellsChar` lists the ways to write a character between quotes: as it is, with a short escape
or by its number. `DenotesChar` adds the pairs of surrogates. `consumes_string` says that the reader
of strings takes every text that is made of these, and `spellsString_stringText` that the printer
makes its texts without pairs.
-/

set_option autoImplicit false

namespace PushRegistry.Json

open PushRegistry.Text

/-- The short escapes: the byte behind the backslash and the character it stands for. -/
def shortEscapes : List (UInt8 × Char) :=
  [(0x22, '"'), (0x5c, '\\'), (0x2f, '/'), (0x62, '\x08'), (0x66, '\x0c'), (0x6e, '\n'),
    (0x72, '\r'), (0x74, '\t')]

/-- The number that four hexadecimal digits write. -/
def hexNumber (values : List Nat) : Nat := values.foldl (fun acc v => acc * 16 + v) 0

/-- The ways to write one character inside a string. -/
inductive SpellsChar : Char → List UInt8 → Prop where
  | plain {c : Char} (hcontrol : 0x20 ≤ c.toNat) (hquote : c ≠ '"') (hbackslash : c ≠ '\\') :
      SpellsChar c (String.utf8EncodeChar c)
  | short {c : Char} {b : UInt8} (h : (b, c) ∈ shortEscapes) : SpellsChar c [0x5c, b]
  | unicode {c : Char} {w x y z : UInt8} {values : List Nat}
      (hdigits : [w, x, y, z].mapM Hex.byteValue? = some values)
      (hnumber : hexNumber values = c.toNat) : SpellsChar c [0x5c, 0x75, w, x, y, z]

/-- The texts between the quotes of a string. -/
inductive SpellsChars : List Char → List UInt8 → Prop where
  | nil : SpellsChars [] []
  | cons {c : Char} {cs : List Char} {t u : List UInt8} (hc : SpellsChar c t)
      (hcs : SpellsChars cs u) : SpellsChars (c :: cs) (t ++ u)

/-- The texts of a string. -/
def SpellsString (s : String) (t : List UInt8) : Prop :=
  ∃ u, SpellsChars s.toList u ∧ t = 0x22 :: (u ++ [0x22])

/-- All ways to write one character inside a string. A character beyond 16 bits has no escape of its
own, but the escapes of the two surrogates of its UTF-16 form, one behind the other, stand for
it. -/
inductive DenotesChar : Char → List UInt8 → Prop where
  | spelled {c : Char} {t : List UInt8} (h : SpellsChar c t) : DenotesChar c t
  | pair {c : Char} {w x y z w' x' y' z' : UInt8} {high low : List Nat}
      (hhigh : [w, x, y, z].mapM Hex.byteValue? = some high)
      (hlow : [w', x', y', z'].mapM Hex.byteValue? = some low)
      (hhigh' : 0xd800 ≤ hexNumber high ∧ hexNumber high ≤ 0xdbff)
      (hlow' : 0xdc00 ≤ hexNumber low ∧ hexNumber low ≤ 0xdfff)
      (hnumber : c.toNat
        = 0x10000 + (hexNumber high - 0xd800) * 0x400 + (hexNumber low - 0xdc00)) :
      DenotesChar c [0x5c, 0x75, w, x, y, z, 0x5c, 0x75, w', x', y', z']

/-- All texts between the quotes of a string. -/
inductive DenotesChars : List Char → List UInt8 → Prop where
  | nil : DenotesChars [] []
  | cons {c : Char} {cs : List Char} {t u : List UInt8} (hc : DenotesChar c t)
      (hcs : DenotesChars cs u) : DenotesChars (c :: cs) (t ++ u)

/-- All texts of a string. -/
def DenotesString (s : String) (t : List UInt8) : Prop :=
  ∃ u, DenotesChars s.toList u ∧ t = 0x22 :: (u ++ [0x22])

theorem SpellsChars.denotes {cs : List Char} {t : List UInt8} (h : SpellsChars cs t) :
    DenotesChars cs t := by
  induction h with
  | nil => exact .nil
  | cons hc _ ih => exact .cons (.spelled hc) ih

theorem SpellsString.denotes {s : String} {t : List UInt8} (h : SpellsString s t) :
    DenotesString s t := by
  obtain ⟨u, hu, ht⟩ := h
  exact ⟨u, hu.denotes, ht⟩

/-! ### Reading -/

namespace Consumes

variable {fuel : Nat} {acc : List Char} {rest : List UInt8}

/-- The closing quote. -/
theorem stringRest_quote :
    Consumes (Reader.stringRest (fuel + 1) none acc) (0x22 :: rest) (String.ofList acc.reverse)
      rest := by
  unfold Reader.stringRest
  refine get fun c hc => ?_
  simp only [hc, if_pos]
  exact bind (skip _ _) (pure _ _)

/-- An escape, after its backslash. -/
theorem escapedChar_short {b : UInt8} {c : Char} (h : (b, c) ∈ shortEscapes) :
    Consumes Reader.escapedChar (b :: rest) c rest := by
  have hnext : Consumes Reader.nextInString (b :: rest) b rest :=
    bind (next b rest) (pure _ _)
  refine bind hnext ?_
  simp only [shortEscapes, List.mem_cons, Prod.mk.injEq, List.not_mem_nil, or_false] at h
  rcases h with ⟨rfl, rfl⟩ | ⟨rfl, rfl⟩ | ⟨rfl, rfl⟩ | ⟨rfl, rfl⟩ | ⟨rfl, rfl⟩ | ⟨rfl, rfl⟩ |
    ⟨rfl, rfl⟩ | ⟨rfl, rfl⟩ <;> exact pure _ _

/-- The four digits of an escape. -/
theorem hexEscape {w x y z : UInt8} {values : List Nat}
    (h : [w, x, y, z].mapM Hex.byteValue? = some values) :
    Consumes Reader.hexEscape (w :: x :: y :: z :: rest) (hexNumber values) rest := by
  have hpass : Consumes (MonadStateOf.modifyGet fun c => ((), Cursor.advanceBy 4 c))
      (w :: x :: y :: z :: rest) () rest :=
    modify fun c hc => by rw [Cursor.rest_advanceBy, hc]; rfl
  unfold Reader.hexEscape
  refine get fun c hc => ?_
  simp only [hc]
  refine bind hpass ?_
  rw [h]
  exact pure _ _

/-- A character that is no surrogate is written by its number alone. -/
theorem escapedChar_unicode {c : Char} {w x y z : UInt8} {values : List Nat}
    (hdigits : [w, x, y, z].mapM Hex.byteValue? = some values)
    (hnumber : hexNumber values = c.toNat) :
    Consumes Reader.escapedChar (0x75 :: w :: x :: y :: z :: rest) c rest := by
  -- A number between the surrogates would make the reader look for a second escape.
  have hvalid : c.toNat < 0xd800 ∨ 0xdfff < c.toNat ∧ c.toNat < 0x110000 := c.valid
  refine bind (bind (next 0x75 _) (pure _ _)) ?_
  show Consumes Reader.unicodeEscape _ c rest
  refine bind (hexEscape hdigits) ?_
  rw [hnumber, if_neg (by omega), if_pos (by omega), Char.ofNat_toNat]
  exact pure _ _

/-- A character beyond 16 bits is written by its two surrogates. -/
theorem escapedChar_pair {c : Char} {w x y z w' x' y' z' : UInt8} {high low : List Nat}
    (hhigh : [w, x, y, z].mapM Hex.byteValue? = some high)
    (hlow : [w', x', y', z'].mapM Hex.byteValue? = some low)
    (hhigh' : 0xd800 ≤ hexNumber high ∧ hexNumber high ≤ 0xdbff)
    (hlow' : 0xdc00 ≤ hexNumber low ∧ hexNumber low ≤ 0xdfff)
    (hnumber : c.toNat
      = 0x10000 + (hexNumber high - 0xd800) * 0x400 + (hexNumber low - 0xdc00)) :
    Consumes Reader.escapedChar
      (0x75 :: w :: x :: y :: z :: 0x5c :: 0x75 :: w' :: x' :: y' :: z' :: rest) c rest := by
  have hmark : ∀ (b : UInt8) (t : List UInt8), Consumes (Reader.pairMark b) (b :: t) () t := by
    intro b t
    refine bind (peek _) (bind (skip b t) ?_)
    rw [if_pos rfl]
    exact pure _ _
  refine bind (bind (next 0x75 _) (pure _ _)) ?_
  show Consumes Reader.unicodeEscape _ c rest
  refine bind (hexEscape hhigh) ?_
  -- The first number is a high surrogate, so a second escape must follow.
  rw [if_neg (by omega), if_neg (by omega)]
  refine bind (hmark 0x5c _) (bind (hmark 0x75 _) (bind (hexEscape hlow) ?_))
  rw [if_neg (by omega), ← hnumber, Char.ofNat_toNat]
  exact pure _ _

/-- One character of a string that is not written as a pair. -/
theorem stringRest_spelled {c : Char} {t : List UInt8} {s : String} {after : List UInt8}
    (hc : SpellsChar c t)
    (h : Consumes (Reader.stringRest fuel none (c :: acc)) rest s after) :
    Consumes (Reader.stringRest (fuel + 1) none acc) (t ++ rest) s after := by
  unfold Reader.stringRest
  refine get fun cursor hcursor => ?_
  cases hc with
  | plain hcontrol hquote hbackslash =>
      -- The first byte is neither a quote nor a backslash nor a control character.
      obtain ⟨b, t, hbytes, hascii⟩ := Utf8.exists_head_utf8EncodeChar c
      have hb : ∀ k < 0x80, b.toNat = k → c.toNat = k := by
        intro k hk hbk
        rw [← hbk]
        exact hascii (hbk ▸ hk)
      have h22 : ¬ b = 0x22 := fun h => hquote (Char.toNat_inj.mp (hb 0x22 (by omega) (h ▸ rfl)))
      have h5c : ¬ b = 0x5c :=
        fun h => hbackslash (Char.toNat_inj.mp (hb 0x5c (by omega) (h ▸ rfl)))
      have h20 : ¬ b < 0x20 := by
        intro h
        have hlt : b.toNat < 0x20 := UInt8.lt_iff_toNat_lt.mp h
        have := hascii (by omega)
        omega
      -- Behind these tests the reader takes the character from its bytes and passes as many.
      have hfirst := Utf8.first?_utf8EncodeChar c rest
      have hsize : t.length + 1 = c.utf8Size := by
        rw [← String.length_utf8EncodeChar c, hbytes, List.length_cons]
      rw [hbytes, List.cons_append] at hfirst hcursor
      simp only [hcursor, if_neg h22, if_neg h5c, if_neg h20, hfirst]
      rw [hbytes, List.cons_append]
      refine bind (modify fun c' hc' => ?_) h
      rw [Cursor.rest_advanceBy, hc', ← hsize]
      exact List.drop_left
  | short hshort =>
      simp only [List.cons_append, List.nil_append] at hcursor ⊢
      simp only [hcursor]
      exact bind (skip _ _) (bind (escapedChar_short hshort) h)
  | unicode hdigits hnumber =>
      simp only [List.cons_append, List.nil_append] at hcursor ⊢
      simp only [hcursor]
      exact bind (skip _ _) (bind (escapedChar_unicode hdigits hnumber) h)

/-- One character of a string, in any of its spellings. -/
theorem stringRest_char {c : Char} {t : List UInt8} {s : String} {after : List UInt8}
    (hc : DenotesChar c t)
    (h : Consumes (Reader.stringRest fuel none (c :: acc)) rest s after) :
    Consumes (Reader.stringRest (fuel + 1) none acc) (t ++ rest) s after := by
  cases hc with
  | spelled hc => exact stringRest_spelled hc h
  | pair hhigh hlow hhigh' hlow' hnumber =>
      unfold Reader.stringRest
      refine get fun cursor hcursor => ?_
      simp only [List.cons_append, List.nil_append] at hcursor ⊢
      simp only [hcursor]
      exact bind (skip _ _) (bind (escapedChar_pair hhigh hlow hhigh' hlow' hnumber) h)

/-- The characters of a string up to its closing quote, if there is enough fuel for each of them.
Induction on the spelling, for all characters read before. -/
theorem stringRest {cs : List Char} {t : List UInt8} (h : DenotesChars cs t)
    (hfuel : cs.length < fuel) :
    Consumes (Reader.stringRest fuel none acc) (t ++ 0x22 :: rest)
      (String.ofList (acc.reverse ++ cs)) rest := by
  induction h generalizing fuel acc with
  | nil =>
      obtain ⟨n, rfl⟩ := Nat.exists_eq_add_of_lt hfuel
      rw [List.append_nil]
      exact stringRest_quote
  | @cons c cs t u hc hcs ih =>
      cases fuel with
      | zero => exact absurd hfuel (Nat.not_lt_zero _)
      | succ n =>
          -- Each character costs one unit of fuel and joins the ones read before.
          rw [List.append_assoc]
          refine stringRest_char hc ?_
          have := @ih n (c :: acc) (by rw [List.length_cons] at hfuel; omega)
          rwa [List.reverse_cons, List.append_assoc, List.singleton_append] at this

end Consumes

theorem SpellsChar.length_pos {c : Char} {t : List UInt8} (h : SpellsChar c t) : 0 < t.length := by
  cases h with
  | plain =>
      rw [String.length_utf8EncodeChar]
      exact Char.utf8Size_pos c
  | short => simp
  | unicode => simp

theorem DenotesChar.length_pos {c : Char} {t : List UInt8} (h : DenotesChar c t) :
    0 < t.length := by
  cases h with
  | spelled h => exact h.length_pos
  | pair => simp

theorem DenotesChars.length_le {cs : List Char} {t : List UInt8} (h : DenotesChars cs t) :
    cs.length ≤ t.length := by
  induction h with
  | nil => exact Nat.le_refl _
  | cons hc _ ih =>
      have := hc.length_pos
      rw [List.length_cons, List.length_append]
      omega

/-- A string is read from each of its texts, after the opening quote. -/
theorem consumes_string {s : String} {t : List UInt8} (h : DenotesChars s.toList t)
    (rest : List UInt8) : Consumes Reader.string (t ++ 0x22 :: rest) s rest := by
  refine Consumes.get fun c hc => ?_
  -- The fuel is the length of the text, and no spelling of a character is empty.
  have hfuel : s.toList.length < c.rest.length + 1 := by
    have := h.length_le
    rw [hc, List.length_append]
    omega
  have hread : Consumes (Reader.stringRest _ none []) _ _ rest := Consumes.stringRest h hfuel
  rwa [List.reverse_nil, List.nil_append, String.ofList_toList] at hread

/-! ### Printing -/

theorem lowerDigit_lt {d : Nat} (hd : d < 16) : (Hex.lowerDigit d).toNat < 0x80 := by
  have h : ∀ d < 16, (Hex.lowerDigit d).toNat < 0x80 := by decide
  exact h d hd

theorem byteValue?_lowerDigit {d : Nat} (hd : d < 16) :
    Hex.byteValue? (UInt8.ofNat (Hex.lowerDigit d).toNat) = some d := by
  have h : ∀ d < 16, Hex.byteValue? (UInt8.ofNat (Hex.lowerDigit d).toNat) = some d := by decide
  exact h d hd

/-- A control character without a short escape is printed by its number. -/
theorem spellsChar_control {c : Char} (h : c.toNat < 0x20) :
    SpellsChar c (Utf8.encode ['\\', 'u', '0', '0', Hex.lowerDigit (c.toNat / 16),
      Hex.lowerDigit (c.toNat % 16)]) := by
  have hhigh : c.toNat / 16 < 16 := by omega
  have hlow : c.toNat % 16 < 16 := by omega
  have hzero : Hex.byteValue? 0x30 = some 0 := by decide
  have hbytes : Utf8.encode ['\\', 'u', '0', '0', Hex.lowerDigit (c.toNat / 16),
      Hex.lowerDigit (c.toNat % 16)] = [0x5c, 0x75, 0x30, 0x30,
        UInt8.ofNat (Hex.lowerDigit (c.toNat / 16)).toNat,
        UInt8.ofNat (Hex.lowerDigit (c.toNat % 16)).toNat] := by
    rw [Utf8.encode_ascii]
    · rfl
    · intro d hd
      simp only [List.mem_cons, List.not_mem_nil, or_false] at hd
      rcases hd with rfl | rfl | rfl | rfl | rfl | rfl
      · decide
      · decide
      · decide
      · decide
      · exact lowerDigit_lt hhigh
      · exact lowerDigit_lt hlow
  rw [hbytes]
  refine .unicode ?_ (show hexNumber [0, 0, c.toNat / 16, c.toNat % 16] = c.toNat from ?_)
  · simp only [List.mapM_cons, hzero, byteValue?_lowerDigit hhigh, byteValue?_lowerDigit hlow]
    rfl
  · show ((0 * 16 + 0) * 16 + c.toNat / 16) * 16 + c.toNat % 16 = c.toNat
    omega

/-- A character with a short escape is printed by it. -/
theorem spellsChar_short {c d : Char} (hd : d.toNat < 0x80)
    (h : (UInt8.ofNat d.toNat, c) ∈ shortEscapes) : SpellsChar c (Utf8.encode ['\\', d]) := by
  rw [Utf8.encode_cons, Utf8.encode_cons, Utf8.encode_nil, Utf8.utf8EncodeChar_ascii hd]
  exact .short h

/-- Every character is printed in one of its spellings. -/
theorem spellsChar_escape (c : Char) : SpellsChar c (Utf8.encode (escape c)) := by
  unfold escape
  split
  · next h => subst h; exact spellsChar_short (by decide) (by decide)
  split
  · next h => subst h; exact spellsChar_short (by decide) (by decide)
  split
  · next h => subst h; exact spellsChar_short (by decide) (by decide)
  split
  · next h => subst h; exact spellsChar_short (by decide) (by decide)
  split
  · next h => subst h; exact spellsChar_short (by decide) (by decide)
  split
  · next h => subst h; exact spellsChar_short (by decide) (by decide)
  split
  · next h => subst h; exact spellsChar_short (by decide) (by decide)
  split
  · next h => exact spellsChar_control h
  · next hquote hbackslash _ _ _ _ _ hcontrol =>
    rw [Utf8.encode_cons, Utf8.encode_nil, List.append_nil]
    exact .plain (Nat.le_of_not_lt hcontrol) hquote hbackslash

theorem escape_ne_nil (c : Char) : escape c ≠ [] := by
  unfold escape
  repeat' split
  all_goals exact List.cons_ne_nil _ _

/-- A text does not get shorter by escapes. -/
theorem length_le_length_flatMap_escape (cs : List Char) :
    cs.length ≤ (cs.flatMap escape).length := by
  induction cs with
  | nil => exact Nat.le_refl 0
  | cons c cs ih =>
      have hchar := List.length_pos_iff.mpr (escape_ne_nil c)
      rw [List.flatMap_cons, List.length_append, List.length_cons]
      omega

theorem spellsChars_flatMap_escape (cs : List Char) :
    SpellsChars cs (Utf8.encode (cs.flatMap escape)) := by
  induction cs with
  | nil => exact .nil
  | cons c cs ih =>
      rw [List.flatMap_cons, Utf8.encode_append]
      exact .cons (spellsChar_escape c) ih

/-- The printed text of a string is one of its texts. -/
theorem spellsString_stringText (s : String) : SpellsString s (Utf8.encode (stringText s)) := by
  refine ⟨_, spellsChars_flatMap_escape s.toList, ?_⟩
  rw [stringText, Utf8.encode_append, Utf8.encode_cons]
  rfl

end PushRegistry.Json
