import PushRegistry.Proofs.Json.Returns

/-!
# `PushRegistry.Proofs.Json.StringTexts`: strings have no other texts

`DenotesString` lists the texts of a string, and `consumes_string` says that all of them are read.
Here is the other direction: whatever the reader of strings takes is a text of the string that it
returns (`exists_denotesChars_of_returns`). It follows the reader byte by byte. A byte that leads no
character does not stop the reader, but it is never forgotten either, so a string that is returned had
none of them. An escape that is half of a surrogate pair is no character, so what is returned for it
comes from both halves.
-/

set_option autoImplicit false

namespace PushRegistry.Json

open PushRegistry.Text

variable {input rest : List UInt8} {c : Char}

/-! ### Hexadecimal digits -/

theorem lt_of_byteValue? {b : UInt8} {v : Nat} (h : Hex.byteValue? b = some v) : v < 16 := by
  have h9 : '9'.toNat = 57 := rfl
  have hf : 'f'.toNat = 102 := rfl
  have hF : 'F'.toNat = 70 := rfl
  simp only [Hex.byteValue?, Hex.value?, Char.le_def, UInt32.le_iff_toNat_le] at h
  split at h
  · next hrange =>
    obtain rfl := Option.some.inj h
    have hle : (Char.ofNat b.toNat).toNat ≤ '9'.toNat := hrange.2
    omega
  split at h
  · next hrange =>
    obtain rfl := Option.some.inj h
    have hle : (Char.ofNat b.toNat).toNat ≤ 'f'.toNat := hrange.2
    omega
  split at h
  · next hrange =>
    obtain rfl := Option.some.inj h
    have hle : (Char.ofNat b.toNat).toNat ≤ 'F'.toNat := hrange.2
    omega
  · cases h

/-- Four digits write a number of 16 bits. -/
theorem hexNumber_lt {w x y z : UInt8} {values : List Nat}
    (h : [w, x, y, z].mapM Hex.byteValue? = some values) : hexNumber values < 0x10000 := by
  simp only [List.mapM_cons, List.mapM_nil, Option.pure_def, Option.bind_eq_bind,
    Option.bind_eq_some_iff, Option.some.injEq] at h
  obtain ⟨a, ha, -, ⟨b, hb, -, ⟨c, hc, -, ⟨d, hd, -, rfl, rfl⟩, rfl⟩, rfl⟩, rfl⟩ := h
  have ha' := lt_of_byteValue? ha
  have hb' := lt_of_byteValue? hb
  have hc' := lt_of_byteValue? hc
  have hd' := lt_of_byteValue? hd
  show (((0 * 16 + a) * 16 + b) * 16 + c) * 16 + d < 0x10000
  omega

namespace Returns

theorem hexEscape {n : Nat} (h : Returns Reader.hexEscape input n rest) :
    ∃ w x y z values, [w, x, y, z].mapM Hex.byteValue? = some values ∧ n = hexNumber values ∧
      input = w :: x :: y :: z :: rest := by
  obtain ⟨cursor, hcursor, hdigits⟩ := h.get
  rw [hcursor] at hdigits
  -- Four bytes at least must be left.
  match input with
  | [] | [_] | [_, _] | [_, _, _] => exact (Ensures.andThen (.fail _)).elim hdigits
  | w :: x :: y :: z :: t =>
      have hpass : Consumes (MonadStateOf.modifyGet fun c => ((), Cursor.advanceBy 4 c))
          (w :: x :: y :: z :: t) () t :=
        .modify fun c hc => by rw [Cursor.rest_advanceBy, hc]; rfl
      have hvalues := hdigits.after hpass
      cases hmap : [w, x, y, z].mapM Hex.byteValue? with
      | none =>
          rw [hmap] at hvalues
          exact (Ensures.fail _).elim hvalues
      | some values =>
          rw [hmap] at hvalues
          obtain ⟨rfl, rfl⟩ := hvalues.pure
          exact ⟨w, x, y, z, values, hmap, rfl, rfl⟩

theorem pairMark {expected : UInt8} (h : Returns (Reader.pairMark expected) input () rest) :
    input = expected :: rest := by
  obtain ⟨b, t, rfl, hseen⟩ := h.peek_bind (.fail _)
  obtain ⟨rfl, hdone⟩ | ⟨-, hfault⟩ := hseen.skip_bind.ite
  · rw [hdone.pure.2]
  · exact (Ensures.fail _).elim hfault

theorem nextInString {b : UInt8} (h : Returns Reader.nextInString input b rest) :
    input = b :: rest := by
  obtain ⟨x, t, rfl, hfirst⟩ := h.next_bind (.fail _)
  obtain ⟨rfl, rfl⟩ := hfirst.pure
  rfl

/-- A character from its number, or from the numbers of two surrogates. -/
theorem unicodeEscape (h : Returns Reader.unicodeEscape input c rest) :
    ∃ t, DenotesChar c (0x5c :: 0x75 :: t) ∧ input = t ++ rest := by
  obtain ⟨high, middle, hhigh, hnumber⟩ := h.bind
  obtain ⟨w, x, y, z, values, hdigits, rfl, rfl⟩ := hhigh.hexEscape
  have hbound := hexNumber_lt hdigits
  obtain ⟨-, hfault⟩ | ⟨hlow, hnotLow⟩ := hnumber.ite
  · exact (Ensures.fail _).elim hfault
  obtain ⟨hplain, hdone⟩ | ⟨hhigh', hpair⟩ := hnotLow.ite
  · obtain ⟨rfl, rfl⟩ := hdone.pure
    have hvalid : (hexNumber values).isValidChar := by
      show hexNumber values < 0xd800 ∨ 0xdfff < hexNumber values ∧ hexNumber values < 0x110000
      omega
    refine ⟨[w, x, y, z], .spelled (.unicode hdigits ?_), rfl⟩
    exact (Utf8.toNat_ofNat_of_valid hvalid).symm
  · obtain ⟨_, m₁, hbackslash, hletterOn⟩ := hpair.bind
    obtain ⟨_, m₂, hletter, hlowOn⟩ := hletterOn.bind
    obtain ⟨low, m₃, hlowEscape, hrangeOn⟩ := hlowOn.bind
    obtain ⟨w', x', y', z', values', hdigits', rfl, rfl⟩ := hlowEscape.hexEscape
    obtain rfl := hletter.pairMark
    obtain rfl := hbackslash.pairMark
    obtain ⟨-, hfault⟩ | ⟨hrange, hdone⟩ := hrangeOn.ite
    · exact (Ensures.fail _).elim hfault
    obtain ⟨hc, hrest⟩ := hdone.pure
    subst hrest
    have hvalid : (0x10000 + (hexNumber values - 0xd800) * 0x400
        + (hexNumber values' - 0xdc00)).isValidChar := by
      refine Or.inr ⟨?_, ?_⟩ <;> omega
    refine ⟨[w, x, y, z, 0x5c, 0x75, w', x', y', z'], ?_, rfl⟩
    exact .pair hdigits hdigits' (by omega) (by omega)
      ((congrArg Char.toNat hc).trans (Utf8.toNat_ofNat_of_valid hvalid))

/-- A character from its escape, behind the backslash. -/
theorem escapedChar (h : Returns Reader.escapedChar input c rest) :
    ∃ t, DenotesChar c (0x5c :: t) ∧ input = t ++ rest := by
  obtain ⟨b, middle, hfirst, hkind⟩ := h.bind
  obtain rfl := hfirst.nextInString
  -- A short escape is its byte alone.
  have hshort : ∀ {d : Char}, (b, d) ∈ shortEscapes → Returns (Pure.pure d) middle c rest →
      ∃ t, DenotesChar c (0x5c :: t) ∧ b :: middle = t ++ rest := by
    intro d hd hdone
    obtain ⟨rfl, rfl⟩ := hdone.pure
    exact ⟨[b], .spelled (.short hd), rfl⟩
  obtain ⟨rfl, hunicode⟩ | ⟨-, hkind⟩ := hkind.ite
  · obtain ⟨t, ht, rfl⟩ := hunicode.unicodeEscape
    exact ⟨0x75 :: t, ht, rfl⟩
  obtain ⟨rfl, hdone⟩ | ⟨-, hkind⟩ := hkind.ite
  · exact hshort (by decide) hdone
  obtain ⟨rfl, hdone⟩ | ⟨-, hkind⟩ := hkind.ite
  · exact hshort (by decide) hdone
  obtain ⟨rfl, hdone⟩ | ⟨-, hkind⟩ := hkind.ite
  · exact hshort (by decide) hdone
  obtain ⟨rfl, hdone⟩ | ⟨-, hkind⟩ := hkind.ite
  · exact hshort (by decide) hdone
  obtain ⟨rfl, hdone⟩ | ⟨-, hkind⟩ := hkind.ite
  · exact hshort (by decide) hdone
  obtain ⟨rfl, hdone⟩ | ⟨-, hkind⟩ := hkind.ite
  · exact hshort (by decide) hdone
  obtain ⟨rfl, hdone⟩ | ⟨-, hkind⟩ := hkind.ite
  · exact hshort (by decide) hdone
  obtain ⟨rfl, hdone⟩ | ⟨-, hkind⟩ := hkind.ite
  · exact hshort (by decide) hdone
  · exact (Ensures.fail _).elim hkind

/-- A character that is written as it is. Its first byte tells that it may be. -/
theorem plain_of_head {b : UInt8} {t u : List UInt8} (hbytes : b :: t = String.utf8EncodeChar c ++ u)
    (hquote : b ≠ 0x22) (hbackslash : b ≠ 0x5c) (hcontrol : ¬ b < 0x20) :
    DenotesChar c (String.utf8EncodeChar c) := by
  have hascii : c.toNat < 0x80 → b.toNat = c.toNat := by
    intro h
    rw [Utf8.utf8EncodeChar_ascii h] at hbytes
    rw [(List.cons.inj hbytes).1, Utf8.toNat_ofNat_of_lt (by omega)]
  have hb : ∀ k : UInt8, k.toNat < 0x80 → c.toNat = k.toNat → b = k := by
    intro k hk hck
    exact UInt8.toNat_inj.mp ((hascii (by omega)).trans hck)
  refine .spelled (.plain ?_ ?_ ?_)
  · rw [UInt8.lt_iff_toNat_lt] at hcontrol
    have h20 : (0x20 : UInt8).toNat = 0x20 := rfl
    by_contra hlt
    have := hascii (by omega)
    omega
  · rintro rfl
    exact hquote (hb 0x22 (by decide) rfl)
  · rintro rfl
    exact hbackslash (hb 0x5c (by decide) rfl)

/-- The rest of a string. Induction on the fuel, for all characters that were read before. -/
theorem stringRest {fuel : Nat} {bad : Option Position} {acc : List Char} {s : String}
    (h : Returns (Reader.stringRest fuel bad acc) input s rest) :
    bad = none ∧ ∃ cs t, DenotesChars cs t ∧ s = String.ofList (acc.reverse ++ cs) ∧
      input = t ++ 0x22 :: rest := by
  induction fuel generalizing bad acc input with
  | zero => exact (Ensures.fail _).elim h
  | succ fuel ih =>
      unfold Reader.stringRest at h
      obtain ⟨cursor, hcursor, hread⟩ := h.get
      rw [hcursor] at hread
      cases input with
      | nil => exact (Ensures.fail _).elim hread
      | cons b t =>
          dsimp only at hread
          obtain ⟨rfl, hclose⟩ | ⟨hquote, hread⟩ := hread.ite
          · have hend := hclose.skip_bind
            cases bad with
            | some place => exact (Ensures.throw _).elim hend
            | none =>
                obtain ⟨rfl, rfl⟩ := hend.pure
                exact ⟨rfl, [], [], .nil, by rw [List.append_nil], rfl⟩
          obtain ⟨rfl, hescape⟩ | ⟨hbackslash, hread⟩ := hread.ite
          · obtain ⟨c, middle, hc, hrest⟩ := hescape.skip_bind.bind
            obtain ⟨hbad, cs, u, hcs, rfl, rfl⟩ := ih hrest
            obtain ⟨e, he, rfl⟩ := hc.escapedChar
            exact ⟨hbad, c :: cs, _, .cons he hcs, by simp, by simp⟩
          obtain ⟨-, hfault⟩ | ⟨hcontrol, hread⟩ := hread.ite
          · exact (Ensures.andThen (.fail _)).elim hfault
          cases hfirst : Utf8.first? (b :: t) with
          | some c =>
              rw [hfirst] at hread
              obtain ⟨u, hbytes⟩ := Utf8.exists_append_of_first? hfirst
              have hpass : Consumes (MonadStateOf.modifyGet fun cursor =>
                  ((), Cursor.advanceBy c.utf8Size cursor)) (b :: t) () u :=
                .modify fun cursor hc => by
                  rw [Cursor.rest_advanceBy, hc, hbytes, ← String.length_utf8EncodeChar c]
                  exact List.drop_left
              obtain ⟨hbad, cs, v, hcs, rfl, rfl⟩ := ih (hread.after hpass)
              have hplain := plain_of_head hbytes hquote hbackslash hcontrol
              exact ⟨hbad, c :: cs, _, .cons hplain hcs, by simp, by rw [hbytes]; simp⟩
          | none =>
              -- The place of the byte is remembered, so the string is never returned.
              rw [hfirst] at hread
              obtain ⟨hbad, -⟩ := ih hread.skip_bind
              cases bad <;> cases hbad

end Returns

/-- A string that is read has one of its texts, up to the closing quote. -/
theorem exists_denotesChars_of_returns {s : String} (h : Returns Reader.string input s rest) :
    ∃ t, DenotesChars s.toList t ∧ input = t ++ 0x22 :: rest := by
  obtain ⟨cursor, -, hread⟩ := h.get
  obtain ⟨-, cs, t, hcs, rfl, rfl⟩ := hread.stringRest
  refine ⟨t, ?_, rfl⟩
  rwa [List.reverse_nil, List.nil_append, String.toList_ofList]

end PushRegistry.Json
