import PushRegistry.Proofs.Text.Utf8
import PushRegistry.Text.Percent

/-!
# `PushRegistry.Proofs.Text.Percent`: percent-encoding can be undone

A set is reversible when every character it leaves alone is ASCII and not the escape mark.
For such a set the encoded text decodes to the bytes of the text (`decodeChars_encode`), so
two texts with one encoding are equal (`encode_injective`). `segmentSet` is reversible.

An encoded text consists of what the set leaves alone and of escapes (`escaped_encode`), so that no
encoded segment holds a slash (`slash_not_mem_encode`). It is never shorter than the text, and as
long only if nothing was encoded (`eq_false_of_length_encode`).
-/

set_option autoImplicit false

namespace PushRegistry.Text.Percent

/-! ### Two digits of a byte -/

theorem byteValue?_upperDigit {n : Nat} (h : n < 16) :
    Hex.byteValue? (UInt8.ofNat (Hex.upperDigit n).toNat) = some n := by
  have hall : ∀ n < 16, Hex.byteValue? (UInt8.ofNat (Hex.upperDigit n).toNat) = some n := by decide
  exact hall n h

theorem upperDigit_toNat_lt {n : Nat} (h : n < 16) : (Hex.upperDigit n).toNat < 0x80 := by
  have hall : ∀ n < 16, (Hex.upperDigit n).toNat < 0x80 := by decide
  exact hall n h

/-- The bytes of `%XX`. -/
theorem encode_encodeByte (b : UInt8) :
    Utf8.encode (encodeByte b) = [0x25, UInt8.ofNat (Hex.upperDigit (b.toNat / 16)).toNat,
      UInt8.ofNat (Hex.upperDigit (b.toNat % 16)).toNat] := by
  have hb : b.toNat < 256 := b.toNat_lt
  rw [Utf8.encode_ascii]
  · rfl
  · intro c hc
    simp only [encodeByte, Hex.upperByte, List.mem_cons, List.not_mem_nil, or_false] at hc
    rcases hc with rfl | rfl | rfl
    · decide
    · exact upperDigit_toNat_lt (by omega)
    · exact upperDigit_toNat_lt (by omega)

/-! ### Decoding -/

/-- A byte that is no escape mark stands for itself. -/
theorem decode_cons_of_ne {b : UInt8} (h : b ≠ 0x25) (rest : List UInt8) :
    decode (b :: rest) = b :: decode rest := by
  rw [decode.eq_def]
  split
  · next heq => exact absurd (List.cons.inj heq).1 h
  · next heq =>
    obtain ⟨rfl, rfl⟩ := List.cons.inj heq
    rfl
  · next heq => exact absurd heq (List.cons_ne_nil _ _)

/-- A byte that is neither an escape mark nor a digit stays when escapes are read. -/
theorem mem_decode {b : UInt8} (hmark : b ≠ 0x25) (hdigit : Hex.byteValue? b = none)
    {bytes : List UInt8} (hb : b ∈ bytes) : b ∈ decode bytes := by
  fun_induction decode bytes with
  | case1 high low rest hi lo hlow hhigh ih =>
      -- The three bytes of an escape are other ones.
      have hne : ∀ {d : UInt8} {n : Nat}, Hex.byteValue? d = some n → b ≠ d := by
        rintro d n hd rfl
        rw [hdigit] at hd
        cases hd
      simp only [List.mem_cons, hmark, hne hlow, hne hhigh, false_or] at hb
      exact List.mem_cons_of_mem _ (ih hb)
  | case2 high low rest hnone ih =>
      exact List.mem_cons_of_mem _ (ih ((List.mem_cons.mp hb).resolve_left hmark))
  | case3 a rest hne ih =>
      rcases List.mem_cons.mp hb with rfl | hb
      · exact List.mem_cons_self
      · exact List.mem_cons_of_mem _ (ih hb)
  | case4 => cases hb

/-- An escaped byte is read back. -/
theorem decode_encodeByte (b : UInt8) (rest : List UInt8) :
    decode (Utf8.encode (encodeByte b) ++ rest) = b :: decode rest := by
  have hb : b.toNat < 256 := b.toNat_lt
  have hvalue : b.toNat / 16 * 16 + b.toNat % 16 = b.toNat := by omega
  rw [encode_encodeByte]
  simp only [List.cons_append, List.nil_append, decode,
    byteValue?_upperDigit (show b.toNat / 16 < 16 by omega),
    byteValue?_upperDigit (show b.toNat % 16 < 16 by omega), hvalue, UInt8.ofNat_toNat]

/-- A run of escaped bytes is read back. -/
theorem decode_flatMap_encodeByte (bs rest : List UInt8) :
    decode (Utf8.encode (bs.flatMap encodeByte) ++ rest) = bs ++ decode rest := by
  induction bs with
  | nil => rfl
  | cons b bs ih =>
      rw [List.flatMap_cons, Utf8.encode_append, List.append_assoc, decode_encodeByte, ih]
      rfl

/-! ### Reversible sets -/

/-- What a set leaves alone is ASCII and no escape mark. -/
def Reversible (set : EncodeSet) : Prop := ∀ c, set c = false → c.toNat < 0x80 ∧ c ≠ '%'

/-- One encoded character is read back as its bytes. -/
theorem decode_encodeChar {set : EncodeSet} (hset : Reversible set) (c : Char)
    (rest : List UInt8) :
    decode (Utf8.encode (encodeChar set c) ++ rest) = String.utf8EncodeChar c ++ decode rest := by
  unfold encodeChar
  split
  · exact decode_flatMap_encodeByte _ rest
  · next hc =>
    obtain ⟨hascii, hne⟩ := hset c (Bool.eq_false_iff.mpr hc)
    -- The character stands for itself, and its byte is not taken for the escape mark.
    have hbyte : UInt8.ofNat c.toNat ≠ 0x25 := by
      intro h
      have hnat : c.toNat = 0x25 := by
        have h' := congrArg UInt8.toNat h
        rwa [Utf8.toNat_ofNat_of_lt (by omega)] at h'
      exact hne (by rw [← Char.ofNat_toNat c, hnat])
    rw [Utf8.encode_cons, Utf8.encode_nil, List.append_nil, Utf8.utf8EncodeChar_ascii hascii,
      List.cons_append, List.nil_append, decode_cons_of_ne hbyte]
    rfl

/-- An encoded text is read back as its bytes, whatever follows it. -/
theorem decode_encode_append {set : EncodeSet} (hset : Reversible set) (cs : List Char)
    (rest : List UInt8) :
    decode (Utf8.encode (encode set cs) ++ rest) = Utf8.encode cs ++ decode rest := by
  induction cs with
  | nil => rfl
  | cons c cs ih =>
      rw [encode, List.flatMap_cons, Utf8.encode_append, List.append_assoc,
        decode_encodeChar hset, ← encode, ih, Utf8.encode_cons, List.append_assoc]

theorem decodeChars_encode {set : EncodeSet} (hset : Reversible set) (cs : List Char) :
    decodeChars (encode set cs) = Utf8.encode cs := by
  have h := decode_encode_append hset cs []
  rwa [List.append_nil, decode, List.append_nil] at h

/-- An encoded text stands for the text. -/
theorem decodeString?_encode {set : EncodeSet} (hset : Reversible set) (cs : List Char) :
    decodeString? (encode set cs) = some (String.ofList cs) := by
  rw [decodeString?, decodeChars_encode hset, Utf8.toString?, Utf8.decode?_encode]
  rfl

theorem encode_injective {set : EncodeSet} (hset : Reversible set) {cs ds : List Char}
    (h : encode set cs = encode set ds) : cs = ds := by
  have hdecoded := decodeString?_encode hset cs
  rw [h, decodeString?_encode hset ds] at hdecoded
  exact (String.ofList_injective (Option.some.inj hdecoded)).symm

/-! ### Single segments -/

/-- What stands unescaped in a segment is ASCII, and not the mark of escapes. -/
theorem reversible_segmentSet : Reversible segmentSet := by
  intro c h
  simp only [segmentSet, pathSet, fragmentSet, controlSet, Bool.or_eq_false_iff,
    decide_eq_false_iff_not] at h
  obtain ⟨⟨⟨⟨-, hcontrol⟩, -⟩, -⟩, hmarks⟩ := h
  simp only [List.contains_cons, List.contains_nil, Bool.or_eq_false_iff, beq_eq_false_iff_ne,
    Bool.or_false] at hmarks
  exact ⟨by omega, hmarks.2.1⟩

/-- Only the empty text is encoded as nothing. -/
theorem encode_eq_nil_iff {set : EncodeSet} {cs : List Char} : encode set cs = [] ↔ cs = [] := by
  constructor
  · intro h
    cases cs with
    | nil => rfl
    | cons c cs =>
        rw [encode, List.flatMap_cons, List.append_eq_nil_iff] at h
        obtain ⟨hc, -⟩ := h
        unfold encodeChar at hc
        split at hc
        · rw [List.flatMap_eq_nil_iff] at hc
          cases hb : String.utf8EncodeChar c with
          | nil => exact absurd hb String.utf8EncodeChar_ne_nil
          | cons b bs => exact absurd (hc b (by rw [hb]; exact List.mem_cons_self)) (by simp [encodeByte])
        · exact absurd hc (List.cons_ne_nil _ _)
  · rintro rfl
    rfl

/-! ### What an encoded text looks like -/

/-- The digits of an escape. -/
def escapeDigits : List Char := "0123456789ABCDEF".toList

theorem upperDigit_mem_escapeDigits {n : Nat} (h : n < 16) : Hex.upperDigit n ∈ escapeDigits := by
  have hall : ∀ n < 16, Hex.upperDigit n ∈ escapeDigits := by decide
  exact hall n h

/-- A text of characters outside a set and of escapes, each with its two digits. If the escape mark
belongs to the set, then it stands nowhere else. -/
inductive Escaped (set : EncodeSet) : List Char → Prop where
  | nil : Escaped set []
  | plain {c : Char} {rest : List Char} (hc : set c = false) (hrest : Escaped set rest) :
      Escaped set (c :: rest)
  | escape {high low : Char} {rest : List Char} (hhigh : high ∈ escapeDigits)
      (hlow : low ∈ escapeDigits) (hrest : Escaped set rest) :
      Escaped set ('%' :: high :: low :: rest)

theorem Escaped.encodeChar_append {set : EncodeSet} {rest : List Char} (hrest : Escaped set rest)
    (c : Char) : Escaped set (encodeChar set c ++ rest) := by
  unfold encodeChar
  split
  · -- Every byte becomes an escape.
    induction String.utf8EncodeChar c with
    | nil => exact hrest
    | cons b bs ih =>
        have hb : b.toNat < 256 := b.toNat_lt
        exact .escape (upperDigit_mem_escapeDigits (by omega))
          (upperDigit_mem_escapeDigits (by omega)) ih
  · next hc => exact .plain (Bool.eq_false_iff.mpr hc) hrest

/-- What is encoded consists of characters outside the set and of escapes. -/
theorem escaped_encode (set : EncodeSet) (cs : List Char) : Escaped set (encode set cs) := by
  induction cs with
  | nil => exact .nil
  | cons c cs ih =>
      rw [encode, List.flatMap_cons]
      exact ih.encodeChar_append c

/-- The characters of an escaped text, if the set leaves the digits alone. -/
theorem Escaped.eq_false_or_eq_mark {set : EncodeSet} {cs : List Char} (h : Escaped set cs)
    (hdigits : ∀ d ∈ escapeDigits, set d = false) {c : Char} (hc : c ∈ cs) :
    set c = false ∨ c = '%' := by
  induction h with
  | nil => cases hc
  | plain hplain _ ih =>
      rcases List.mem_cons.mp hc with rfl | hc
      · exact .inl hplain
      · exact ih hc
  | escape hhigh hlow _ ih =>
      simp only [List.mem_cons] at hc
      rcases hc with rfl | rfl | rfl | hc
      · exact .inr rfl
      · exact .inl (hdigits _ hhigh)
      · exact .inl (hdigits _ hlow)
      · exact ih hc

/-- Digits stand in a segment as they are. -/
theorem segmentSet_of_mem_escapeDigits {d : Char} (h : d ∈ escapeDigits) :
    segmentSet d = false := by
  have hall : escapeDigits.all (!segmentSet ·) = true := rfl
  simpa using List.all_eq_true.mp hall d h

/-- No encoded segment holds a character that has to be encoded, the mark of escapes apart. -/
theorem not_mem_encode_segment {c : Char} (hset : segmentSet c = true) (hmark : c ≠ '%')
    (cs : List Char) : c ∉ encode segmentSet cs := by
  intro hc
  rcases (escaped_encode segmentSet cs).eq_false_or_eq_mark
    (fun _ => segmentSet_of_mem_escapeDigits) hc with hplain | hescape
  · rw [hset] at hplain
    cases hplain
  · exact hmark hescape

/-- No segment holds a slash. -/
theorem slash_not_mem_encode (cs : List Char) : '/' ∉ encode segmentSet cs :=
  not_mem_encode_segment (by decide) (by decide) cs

/-! ### How long an encoded text is -/

theorem encodeChar_of_not_mem {set : EncodeSet} {c : Char} (h : set c = false) :
    encodeChar set c = [c] := by
  rw [encodeChar, if_neg (Bool.eq_false_iff.mp h)]

/-- A character that the set holds takes at least three places. -/
theorem length_encodeChar_of_mem {set : EncodeSet} {c : Char} (h : set c = true) :
    3 ≤ (encodeChar set c).length := by
  rw [encodeChar, if_pos h]
  cases hb : String.utf8EncodeChar c with
  | nil => exact absurd hb String.utf8EncodeChar_ne_nil
  | cons b bs =>
      rw [List.flatMap_cons, List.length_append]
      show 3 ≤ 3 + (bs.flatMap encodeByte).length
      omega

theorem length_encode_cons (set : EncodeSet) (c : Char) (cs : List Char) :
    (encode set (c :: cs)).length = (encodeChar set c).length + (encode set cs).length := by
  rw [encode, List.flatMap_cons, List.length_append, ← encode]

/-- Nothing gets shorter. -/
theorem length_le_length_encode (set : EncodeSet) (cs : List Char) :
    cs.length ≤ (encode set cs).length := by
  induction cs with
  | nil => exact Nat.zero_le _
  | cons c cs ih =>
      have hchar : 1 ≤ (encodeChar set c).length := by
        cases hc : set c with
        | true =>
            have := length_encodeChar_of_mem hc
            omega
        | false =>
            rw [encodeChar_of_not_mem hc]
            exact Nat.le_refl 1
      rw [length_encode_cons, List.length_cons]
      omega

/-- A text without characters of the set stays as it is. -/
theorem encode_eq_self {set : EncodeSet} {cs : List Char} (h : ∀ c ∈ cs, set c = false) :
    encode set cs = cs := by
  induction cs with
  | nil => rfl
  | cons c cs ih =>
      rw [encode, List.flatMap_cons, encodeChar_of_not_mem (h c List.mem_cons_self), ← encode,
        ih fun d hd => h d (List.mem_cons_of_mem c hd), List.singleton_append]

/-- Only a text without characters of the set keeps its length. -/
theorem eq_false_of_length_encode {set : EncodeSet} {cs : List Char}
    (h : (encode set cs).length = cs.length) : ∀ c ∈ cs, set c = false := by
  induction cs with
  | nil => exact fun c hc => nomatch hc
  | cons c cs ih =>
      have hrest := length_le_length_encode set cs
      rw [length_encode_cons, List.length_cons] at h
      -- The rest does not get shorter, so nothing can make up for an escape.
      have hc : set c = false := by
        cases hc : set c with
        | true =>
            have := length_encodeChar_of_mem hc
            omega
        | false => rfl
      rw [encodeChar_of_not_mem hc, List.length_singleton] at h
      intro d hd
      rcases List.mem_cons.mp hd with rfl | hd
      · exact hc
      · exact ih (by omega) d hd

end PushRegistry.Text.Percent
