import PushRegistry.Text.Utf8

/-!
# `PushRegistry.Proofs.Text.Utf8`: decoding what was encoded

The bytes of a character lead the machine of `pieces` back to that character, whatever
follows them (`piecesFrom_utf8EncodeChar`). The round trips of whole texts follow by
induction over their characters:

* `decode?_encode`: the strict decoder returns the text;
* `fault?_encode`: no fault is found in it;
* `decodeLossy_encode`: the lenient decoder returns it as well;
* `first?_utf8EncodeChar`: the character at the front is found from four bytes.

Of bytes that nobody encoded, `mem_of_decode?` says that those in the ASCII range are never lost,
`exists_append_of_first?` that a character found at the front is there with exactly its bytes, and
`ofString_toStringLossy` that bytes without a fault are the encoding of their text.
-/

set_option autoImplicit false

namespace PushRegistry.Text.Utf8

/-! ### Single bytes -/

theorem toNat_ofNat_of_lt {n : Nat} (h : n < 256) : (UInt8.ofNat n).toNat = n := by
  rw [UInt8.toNat_ofNat', Nat.mod_eq_of_lt h]

theorem lead_ofNat_of_le {n : Nat} (h : n ≤ 0x7f) : lead (UInt8.ofNat n) = .ascii (Char.ofNat n) := by
  have hn : (UInt8.ofNat n).toNat = n := toNat_ofNat_of_lt (by omega)
  unfold lead
  rw [if_pos (by rw [UInt8.le_iff_toNat_le, hn]; exact h), hn]

/-- The first byte of a character of two bytes. -/
theorem lead_ofNat_two {n : Nat} (h : 0xc2 ≤ n) (h' : n ≤ 0xdf) :
    lead (UInt8.ofNat n) = .multi ⟨1, 1, 0x80, 0xbf, n - 0xc0⟩ := by
  have hn : (UInt8.ofNat n).toNat = n := toNat_ofNat_of_lt (by omega)
  simp only [lead, UInt8.le_iff_toNat_le, UInt8.lt_iff_toNat_lt, hn, UInt8.reduceToNat]
  rw [if_neg (by omega), if_neg (by omega), if_pos (by omega)]

/-- The first byte of a character of three bytes. Two of these bytes narrow the range of the
next one. -/
theorem lead_ofNat_three {n : Nat} (h : 0xe0 ≤ n) (h' : n ≤ 0xef) :
    lead (UInt8.ofNat n) = .multi ⟨1, 2, if n = 0xe0 then 0xa0 else 0x80,
      if n = 0xed then 0x9f else 0xbf, n - 0xe0⟩ := by
  have hn : (UInt8.ofNat n).toNat = n := toNat_ofNat_of_lt (by omega)
  simp only [lead, UInt8.le_iff_toNat_le, UInt8.lt_iff_toNat_lt, ← UInt8.toNat_inj, hn,
    UInt8.reduceToNat]
  rw [if_neg (by omega), if_neg (by omega), if_neg (by omega), if_pos (by omega)]

/-- The first byte of a character of four bytes. -/
theorem lead_ofNat_four {n : Nat} (h : 0xf0 ≤ n) (h' : n ≤ 0xf4) :
    lead (UInt8.ofNat n) = .multi ⟨1, 3, if n = 0xf0 then 0x90 else 0x80,
      if n = 0xf4 then 0x8f else 0xbf, n - 0xf0⟩ := by
  have hn : (UInt8.ofNat n).toNat = n := toNat_ofNat_of_lt (by omega)
  simp only [lead, UInt8.le_iff_toNat_le, UInt8.lt_iff_toNat_lt, ← UInt8.toNat_inj, hn,
    UInt8.reduceToNat]
  rw [if_neg (by omega), if_neg (by omega), if_neg (by omega), if_neg (by omega),
    if_pos (by omega)]

/-- A byte in the range of the state is admitted. -/
theorem admits_ofNat {p : Pending} {n : Nat} (hn : n < 256) (hlow : p.low.toNat ≤ n)
    (hhigh : n ≤ p.high.toNat) : p.admits (UInt8.ofNat n) = true := by
  simp only [Pending.admits, UInt8.le_iff_toNat_le, toNat_ofNat_of_lt hn, Bool.and_eq_true,
    decide_eq_true_eq]
  exact ⟨hlow, hhigh⟩

/-- A continuation byte that is not the last one. -/
theorem piecesFrom_more {read owed bits n : Nat} {low high : Byte} (hn : n < 256)
    (hlow : low.toNat ≤ n) (hhigh : n ≤ high.toNat) (rest : List Byte) :
    piecesFrom (some ⟨read, owed + 2, low, high, bits⟩) (UInt8.ofNat n :: rest)
      = piecesFrom (some ⟨read + 1, owed + 1, 0x80, 0xbf, bits * 64 + (n - 0x80)⟩) rest := by
  rw [piecesFrom, if_pos (admits_ofNat hn hlow hhigh), if_neg (by simp), Pending.next,
    toNat_ofNat_of_lt hn]
  rfl

/-- The last continuation byte. -/
theorem piecesFrom_last {read bits n : Nat} {low high : Byte} (hn : n < 256)
    (hlow : low.toNat ≤ n) (hhigh : n ≤ high.toNat) (rest : List Byte) :
    piecesFrom (some ⟨read, 1, low, high, bits⟩) (UInt8.ofNat n :: rest)
      = .scalar (Char.ofNat (bits * 64 + (n - 0x80))) :: piecesFrom .none rest := by
  rw [piecesFrom, if_pos (admits_ofNat hn hlow hhigh), if_pos (Nat.le_refl 1), Pending.next,
    toNat_ofNat_of_lt hn]

/-! ### One character -/

/-- The bytes of a character are read back as that character. -/
theorem piecesFrom_utf8EncodeChar (c : Char) (rest : List Byte) :
    piecesFrom .none (String.utf8EncodeChar c ++ rest) = .scalar c :: piecesFrom .none rest := by
  -- From here on the number of the character is all that counts: the bytes are made of its bits
  -- and lead back to it. That it is no surrogate keeps the second byte in its range.
  have hc : Char.ofNat c.val.toNat = c := Char.ofNat_toNat c
  have hvalid : c.val.toNat < 0xd800 ∨ 0xdfff < c.val.toNat ∧ c.val.toNat < 0x110000 := c.valid
  generalize hv : c.val.toNat = v at hc hvalid
  unfold String.utf8EncodeChar
  simp only [hv]
  split
  · -- One byte.
    next h1 =>
    rw [List.cons_append, List.nil_append, piecesFrom, lead_ofNat_of_le h1, hc]
  · next h1 =>
    split
    · -- Two bytes.
      next h2 =>
      rw [List.cons_append, piecesFrom, lead_ofNat_two (by omega) (by omega)]
      simp only [List.cons_append, List.nil_append]
      rw [piecesFrom_last (by omega) (by simp) (by simp; omega)]
      have hbits : (v / 64 % 32 + 192 - 192) * 64 + (v % 64 + 128 - 128) = v := by omega
      rw [hbits, hc]
    · next h2 =>
      split
      · -- Three bytes. The first one narrows the second for overlong forms and surrogates.
        next h3 =>
        rw [List.cons_append, piecesFrom, lead_ofNat_three (by omega) (by omega)]
        simp only [List.cons_append, List.nil_append]
        rw [piecesFrom_more (by omega) (by split <;> simp; omega) (by split <;> simp <;> omega),
          piecesFrom_last (by omega) (by simp) (by simp; omega)]
        have hbits : ((v / 4096 % 16 + 224 - 224) * 64 + (v / 64 % 64 + 128 - 128)) * 64
            + (v % 64 + 128 - 128) = v := by omega
        rw [hbits, hc]
      · -- Four bytes. The first one narrows the second for overlong forms and the last plane.
        next h3 =>
        rw [List.cons_append, piecesFrom, lead_ofNat_four (by omega) (by omega)]
        simp only [List.cons_append, List.nil_append]
        rw [piecesFrom_more (by omega) (by split <;> simp; omega) (by split <;> simp <;> omega),
          piecesFrom_more (by omega) (by simp) (by simp; omega),
          piecesFrom_last (by omega) (by simp) (by simp; omega)]
        have hbits : (((v / 262144 % 8 + 240 - 240) * 64 + (v / 4096 % 64 + 128 - 128)) * 64
            + (v / 64 % 64 + 128 - 128)) * 64 + (v % 64 + 128 - 128) = v := by omega
        rw [hbits, hc]

/-! ### Whole texts -/

@[simp] theorem encode_nil : encode [] = [] := rfl

theorem encode_cons (c : Char) (cs : List Char) :
    encode (c :: cs) = String.utf8EncodeChar c ++ encode cs := List.flatMap_cons

@[simp] theorem encode_append (cs ds : List Char) : encode (cs ++ ds) = encode cs ++ encode ds :=
  List.flatMap_append

/-- A text has no more characters than bytes. -/
theorem length_le_length_encode (cs : List Char) : cs.length ≤ (encode cs).length := by
  induction cs with
  | nil => exact Nat.le_refl 0
  | cons c cs ih =>
      have hchar := c.utf8Size_pos
      rw [encode_cons, List.length_append, String.length_utf8EncodeChar, List.length_cons]
      omega

/-- The pieces of an encoded text are its characters. -/
theorem piecesFrom_encode (cs : List Char) (rest : List Byte) :
    piecesFrom .none (encode cs ++ rest) = cs.map .scalar ++ piecesFrom .none rest := by
  induction cs with
  | nil => rfl
  | cons c cs ih =>
      rw [encode_cons, List.append_assoc, piecesFrom_utf8EncodeChar, ih]
      rfl

theorem pieces_encode (cs : List Char) : pieces (encode cs) = cs.map .scalar := by
  have h := piecesFrom_encode cs []
  rw [List.append_nil] at h
  rw [pieces, h, piecesFrom, List.append_nil]

/-- The strict decoder returns an encoded text. -/
@[simp] theorem decode?_encode (cs : List Char) : decode? (encode cs) = some cs := by
  rw [decode?, pieces_encode]
  induction cs with
  | nil => rfl
  | cons c cs ih => rw [List.map_cons, List.mapM_cons, ih]; rfl

/-- There is no fault in an encoded text. -/
@[simp] theorem fault?_encode (cs : List Char) : fault? (encode cs) = none := by
  have h : ∀ offset, faultFrom offset (cs.map .scalar) = none := by
    induction cs with
    | nil => intro offset; rfl
    | cons c cs ih => intro offset; exact ih (offset + c.utf8Size)
  rw [fault?, pieces_encode, h]

/-- The lenient decoder returns an encoded text. -/
@[simp] theorem decodeLossy_encode (cs : List Char) : decodeLossy (encode cs) = cs := by
  rw [decodeLossy, pieces_encode, List.map_map]
  exact List.map_id cs

/-- Four bytes are enough to find the character at the front. -/
theorem first?_utf8EncodeChar (c : Char) (rest : List Byte) :
    first? (String.utf8EncodeChar c ++ rest) = some c := by
  have hlen : (String.utf8EncodeChar c).length ≤ 4 := by
    rw [String.length_utf8EncodeChar]
    exact Char.utf8Size_le_four c
  -- The bytes of the character are not cut off, and what is left of the rest does not matter.
  have htake : (String.utf8EncodeChar c ++ rest).take 4
      = String.utf8EncodeChar c ++ rest.take (4 - (String.utf8EncodeChar c).length) := by
    rw [List.take_append, List.take_of_length_le hlen]
  rw [first?, htake, pieces, piecesFrom_utf8EncodeChar]
  rfl

/-! ### ASCII -/

/-- The byte of a character in the ASCII range. -/
theorem utf8EncodeChar_ascii {c : Char} (h : c.toNat < 0x80) :
    String.utf8EncodeChar c = [UInt8.ofNat c.toNat] := by
  unfold String.utf8EncodeChar
  exact if_pos (Nat.le_of_lt_succ h)

/-- A character starts with an ASCII byte only if it is that byte. -/
theorem exists_head_utf8EncodeChar (c : Char) :
    ∃ b t, String.utf8EncodeChar c = b :: t ∧ (b.toNat < 0x80 → c.toNat = b.toNat) := by
  by_cases hascii : c.toNat < 0x80
  · refine ⟨_, _, utf8EncodeChar_ascii hascii, fun _ => ?_⟩
    rw [toNat_ofNat_of_lt (by omega)]
  · -- All leading bytes of longer characters are at least 0xc0.
    have hc : ¬ c.val.toNat ≤ 0x7f := fun h => hascii (Nat.lt_succ_of_le h)
    have hhigh : ∀ n < 256, 0x80 ≤ n → ¬ (UInt8.ofNat n).toNat < 0x80 := by
      intro n hn hle
      rw [toNat_ofNat_of_lt hn]
      omega
    unfold String.utf8EncodeChar
    simp only [if_neg hc]
    split
    · exact ⟨_, _, rfl, fun h => absurd h (hhigh _ (by omega) (by omega))⟩
    · split
      · exact ⟨_, _, rfl, fun h => absurd h (hhigh _ (by omega) (by omega))⟩
      · exact ⟨_, _, rfl, fun h => absurd h (hhigh _ (by omega) (by omega))⟩

/-- Text in the ASCII range has one byte for each character. -/
theorem encode_ascii {cs : List Char} (h : ∀ c ∈ cs, c.toNat < 0x80) :
    encode cs = cs.map fun c => UInt8.ofNat c.toNat := by
  induction cs with
  | nil => rfl
  | cons c cs ih =>
      rw [encode_cons, utf8EncodeChar_ascii (h c List.mem_cons_self),
        ih fun d hd => h d (List.mem_cons_of_mem c hd)]
      rfl

/-- A byte that leads a longer character is followed by bytes outside ASCII only. -/
theorem le_low_of_lead {b : Byte} {p : Pending} (h : lead b = .multi p) : 0x80 ≤ p.low.toNat := by
  unfold lead at h
  repeat' split at h
  all_goals cases h
  all_goals dsimp only; decide

/-- A byte in the ASCII range always stands for its character: it ends whatever came before. -/
theorem scalar_mem_piecesFrom {b : Byte} (hascii : b.toNat < 0x80) {bytes : List Byte}
    (hb : b ∈ bytes) {state : Option Pending} (hstate : ∀ p ∈ state, 0x80 ≤ p.low.toNat) :
    Piece.scalar (Char.ofNat b.toNat) ∈ piecesFrom state bytes := by
  have hlead : lead b = .ascii (Char.ofNat b.toNat) := if_pos (Nat.le_of_lt_succ hascii)
  induction bytes generalizing state with
  | nil => cases hb
  | cons a rest ih =>
      -- What the other bytes lead to is a character's inside or the start of one.
      have hnone : b ∈ rest → Piece.scalar (Char.ofNat b.toNat) ∈ piecesFrom .none rest :=
        fun hrest => ih hrest (by intro p hp; cases hp)
      have hmulti : ∀ q, lead a = .multi q → b ∈ rest →
          Piece.scalar (Char.ofNat b.toNat) ∈ piecesFrom (some q) rest := by
        intro q hq hrest
        refine ih hrest ?_
        rintro p ⟨⟩
        exact le_low_of_lead hq
      have hstart : Piece.scalar (Char.ofNat b.toNat) ∈ piecesFrom .none (a :: rest) := by
        rw [piecesFrom]
        rcases List.mem_cons.mp hb with rfl | hrest
        · rw [hlead]
          exact List.mem_cons_self
        · split
          · exact List.mem_cons_of_mem _ (hnone hrest)
          · next q hq => exact hmulti q hq hrest
          · exact List.mem_cons_of_mem _ (hnone hrest)
      cases state with
      | none => exact hstart
      | some p =>
          rw [piecesFrom]
          split
          · next hadmits =>
            rcases List.mem_cons.mp hb with rfl | hrest
            · have hlow := hstate p rfl
              simp only [Pending.admits, Bool.and_eq_true, decide_eq_true_eq,
                UInt8.le_iff_toNat_le] at hadmits
              omega
            · split
              · exact List.mem_cons_of_mem _ (hnone hrest)
              · refine ih hrest ?_
                rintro q ⟨⟩
                exact Nat.le_refl 0x80
          · -- The character is given up, and the byte is read as the start of the next one.
            exact List.mem_cons_of_mem _ (by rw [piecesFrom] at hstart; exact hstart)

/-- Every ASCII byte of a well-formed text is one of its characters. -/
theorem mem_of_decode? {bytes : List Byte} {cs : List Char} (h : decode? bytes = some cs) {b : Byte}
    (hb : b ∈ bytes) (hascii : b.toNat < 0x80) : Char.ofNat b.toNat ∈ cs := by
  have hmem : ∀ {parts : List Piece} {cs : List Char}, parts.mapM Piece.char? = some cs →
      ∀ {c : Char}, Piece.scalar c ∈ parts → c ∈ cs := by
    intro parts
    induction parts with
    | nil => intro cs _ c hc; cases hc
    | cons part parts ih =>
        intro cs hread c hc
        rw [List.mapM_cons] at hread
        obtain ⟨d, hd, hread⟩ := Option.bind_eq_some_iff.mp hread
        obtain ⟨ds, hds, hread⟩ := Option.bind_eq_some_iff.mp hread
        obtain rfl : d :: ds = cs := Option.some.inj hread
        rcases List.mem_cons.mp hc with rfl | hc
        · obtain rfl : c = d := Option.some.inj hd
          exact List.mem_cons_self
        · exact List.mem_cons_of_mem d (ih hds hc)
  exact hmem h (scalar_mem_piecesFrom hascii hb (by intro p hp; cases hp))

/-! ### The character in front of other bytes -/

section Inside

variable {read owed bits : Nat} {low high : Byte} {bytes : List Byte} {c : Char}

/-- A byte that does not fit ends a character before it is whole. -/
theorem admits_of_head?_piecesFrom {p : Pending}
    (h : (piecesFrom (some p) bytes).head? = some (.scalar c)) :
    ∃ b rest, bytes = b :: rest ∧ p.admits b = true := by
  cases bytes with
  | nil => simp [piecesFrom] at h
  | cons b rest =>
      by_cases hadmits : p.admits b = true
      · exact ⟨b, rest, rfl, hadmits⟩
      · rw [piecesFrom, if_neg hadmits] at h
        simp at h

/-- What leads on inside a character that is read to its end. -/
theorem exists_of_head?_more
    (h : (piecesFrom (some ⟨read, owed + 2, low, high, bits⟩) bytes).head? = some (.scalar c)) :
    ∃ b rest, bytes = b :: rest ∧ low.toNat ≤ b.toNat ∧ b.toNat ≤ high.toNat ∧
      (piecesFrom (some ⟨read + 1, owed + 1, 0x80, 0xbf, bits * 64 + (b.toNat - 0x80)⟩) rest).head?
        = some (.scalar c) := by
  obtain ⟨b, rest, rfl, hadmits⟩ := admits_of_head?_piecesFrom h
  rw [piecesFrom, if_pos hadmits, if_neg (by simp)] at h
  simp only [Pending.admits, Bool.and_eq_true, decide_eq_true_eq, UInt8.le_iff_toNat_le] at hadmits
  exact ⟨b, rest, rfl, hadmits.1, hadmits.2, h⟩

/-- What ends a character. -/
theorem exists_of_head?_last
    (h : (piecesFrom (some ⟨read, 1, low, high, bits⟩) bytes).head? = some (.scalar c)) :
    ∃ b rest, bytes = b :: rest ∧ low.toNat ≤ b.toNat ∧ b.toNat ≤ high.toNat ∧
      c = Char.ofNat (bits * 64 + (b.toNat - 0x80)) := by
  obtain ⟨b, rest, rfl, hadmits⟩ := admits_of_head?_piecesFrom h
  rw [piecesFrom, if_pos hadmits, if_pos (Nat.le_refl 1)] at h
  simp only [Pending.admits, Bool.and_eq_true, decide_eq_true_eq, UInt8.le_iff_toNat_le] at hadmits
  simp only [List.head?_cons, Option.some.injEq, Piece.scalar.injEq] at h
  exact ⟨b, rest, rfl, hadmits.1, hadmits.2, h.symm⟩

end Inside

theorem toNat_ofNat_of_valid {v : Nat} (hv : v.isValidChar) : (Char.ofNat v).val.toNat = v := by
  rw [Char.ofNat, dif_pos hv]
  rfl

theorem lead_eq_ascii {b : Byte} {c : Char} (h : lead b = .ascii c) :
    b.toNat < 0x80 ∧ c = Char.ofNat b.toNat := by
  unfold lead at h
  split at h
  · next hle =>
    obtain rfl := Lead.ascii.inj h
    exact ⟨Nat.lt_succ_of_le (UInt8.le_iff_toNat_le.mp hle), rfl⟩
  · repeat' split at h
    all_goals cases h

/-- A byte that leads a longer character, by the number of bytes that it asks for. -/
theorem lead_eq_multi {b : Byte} {p : Pending} (h : lead b = .multi p) :
    (0xc2 ≤ b.toNat ∧ b.toNat ≤ 0xdf ∧ p = ⟨1, 1, 0x80, 0xbf, b.toNat - 0xc0⟩) ∨
    (0xe0 ≤ b.toNat ∧ b.toNat ≤ 0xef ∧ p = ⟨1, 2, if b = 0xe0 then 0xa0 else 0x80,
      if b = 0xed then 0x9f else 0xbf, b.toNat - 0xe0⟩) ∨
    (0xf0 ≤ b.toNat ∧ b.toNat ≤ 0xf4 ∧ p = ⟨1, 3, if b = 0xf0 then 0x90 else 0x80,
      if b = 0xf4 then 0x8f else 0xbf, b.toNat - 0xf0⟩) := by
  unfold lead at h
  simp only [UInt8.le_iff_toNat_le, UInt8.lt_iff_toNat_lt, UInt8.reduceToNat] at h
  split at h
  · cases h
  split at h
  · cases h
  split at h
  · obtain rfl := Lead.multi.inj h
    exact .inl ⟨by omega, by omega, rfl⟩
  split at h
  · obtain rfl := Lead.multi.inj h
    exact .inr (.inl ⟨by omega, by omega, rfl⟩)
  split at h
  · obtain rfl := Lead.multi.inj h
    exact .inr (.inr ⟨by omega, by omega, rfl⟩)
  · cases h

/-- A byte is known by its number. -/
theorem ofNat_eq_of_toNat {b : Byte} {n : Nat} (h : n = b.toNat) : UInt8.ofNat n = b := by
  rw [h, UInt8.ofNat_toNat]

/-- A character of two bytes. -/
theorem utf8EncodeChar_two {b₀ b₁ : Byte} (h₀ : 0xc2 ≤ b₀.toNat) (h₀' : b₀.toNat ≤ 0xdf)
    (h₁ : (0x80 : Byte).toNat ≤ b₁.toNat) (h₁' : b₁.toNat ≤ (0xbf : Byte).toNat) :
    String.utf8EncodeChar (Char.ofNat ((b₀.toNat - 0xc0) * 64 + (b₁.toNat - 0x80))) = [b₀, b₁] := by
  simp only [UInt8.reduceToNat] at h₁ h₁'
  generalize hv : (b₀.toNat - 0xc0) * 64 + (b₁.toNat - 0x80) = v
  have hvalid : v.isValidChar := Or.inl (by omega)
  unfold String.utf8EncodeChar
  simp only [toNat_ofNat_of_valid hvalid]
  rw [if_neg (by omega), if_pos (by omega)]
  rw [ofNat_eq_of_toNat (by omega : _ = b₀.toNat), ofNat_eq_of_toNat (by omega : _ = b₁.toNat)]

/-- A character of three bytes, which are neither an overlong form nor a surrogate. -/
theorem utf8EncodeChar_three {b₀ b₁ b₂ : Byte} (h₀ : 0xe0 ≤ b₀.toNat) (h₀' : b₀.toNat ≤ 0xef)
    (h₁ : (if b₀ = 0xe0 then (0xa0 : Byte) else 0x80).toNat ≤ b₁.toNat)
    (h₁' : b₁.toNat ≤ (if b₀ = 0xed then (0x9f : Byte) else 0xbf).toNat)
    (h₂ : (0x80 : Byte).toNat ≤ b₂.toNat) (h₂' : b₂.toNat ≤ (0xbf : Byte).toNat) :
    String.utf8EncodeChar (Char.ofNat (((b₀.toNat - 0xe0) * 64 + (b₁.toNat - 0x80)) * 64
      + (b₂.toNat - 0x80))) = [b₀, b₁, b₂] := by
  -- The first byte narrows the range of the second.
  simp only [apply_ite UInt8.toNat, ← UInt8.toNat_inj, UInt8.reduceToNat] at h₁ h₁' h₂ h₂'
  have hlow : 0x80 ≤ b₁.toNat ∧ (b₀.toNat = 0xe0 → 0xa0 ≤ b₁.toNat) := by
    split at h₁ <;> omega
  have hhigh : b₁.toNat ≤ 0xbf ∧ (b₀.toNat = 0xed → b₁.toNat ≤ 0x9f) := by
    split at h₁' <;> omega
  generalize hv : ((b₀.toNat - 0xe0) * 64 + (b₁.toNat - 0x80)) * 64 + (b₂.toNat - 0x80) = v
  have hvalid : v.isValidChar := by
    show v < 0xd800 ∨ 0xdfff < v ∧ v < 0x110000
    omega
  unfold String.utf8EncodeChar
  simp only [toNat_ofNat_of_valid hvalid]
  rw [if_neg (by omega), if_neg (by omega), if_pos (by omega)]
  rw [ofNat_eq_of_toNat (by omega : _ = b₀.toNat), ofNat_eq_of_toNat (by omega : _ = b₁.toNat),
    ofNat_eq_of_toNat (by omega : _ = b₂.toNat)]

/-- A character of four bytes, which are neither an overlong form nor behind the last plane. -/
theorem utf8EncodeChar_four {b₀ b₁ b₂ b₃ : Byte} (h₀ : 0xf0 ≤ b₀.toNat) (h₀' : b₀.toNat ≤ 0xf4)
    (h₁ : (if b₀ = 0xf0 then (0x90 : Byte) else 0x80).toNat ≤ b₁.toNat)
    (h₁' : b₁.toNat ≤ (if b₀ = 0xf4 then (0x8f : Byte) else 0xbf).toNat)
    (h₂ : (0x80 : Byte).toNat ≤ b₂.toNat) (h₂' : b₂.toNat ≤ (0xbf : Byte).toNat)
    (h₃ : (0x80 : Byte).toNat ≤ b₃.toNat) (h₃' : b₃.toNat ≤ (0xbf : Byte).toNat) :
    String.utf8EncodeChar (Char.ofNat ((((b₀.toNat - 0xf0) * 64 + (b₁.toNat - 0x80)) * 64
      + (b₂.toNat - 0x80)) * 64 + (b₃.toNat - 0x80))) = [b₀, b₁, b₂, b₃] := by
  simp only [apply_ite UInt8.toNat, ← UInt8.toNat_inj, UInt8.reduceToNat] at h₁ h₁' h₂ h₂' h₃ h₃'
  have hlow : 0x80 ≤ b₁.toNat ∧ (b₀.toNat = 0xf0 → 0x90 ≤ b₁.toNat) := by
    split at h₁ <;> omega
  have hhigh : b₁.toNat ≤ 0xbf ∧ (b₀.toNat = 0xf4 → b₁.toNat ≤ 0x8f) := by
    split at h₁' <;> omega
  generalize hv : (((b₀.toNat - 0xf0) * 64 + (b₁.toNat - 0x80)) * 64 + (b₂.toNat - 0x80)) * 64
    + (b₃.toNat - 0x80) = v
  have hvalid : v.isValidChar := by
    show v < 0xd800 ∨ 0xdfff < v ∧ v < 0x110000
    omega
  unfold String.utf8EncodeChar
  simp only [toNat_ofNat_of_valid hvalid]
  rw [if_neg (by omega), if_neg (by omega), if_neg (by omega)]
  rw [ofNat_eq_of_toNat (by omega : _ = b₀.toNat), ofNat_eq_of_toNat (by omega : _ = b₁.toNat),
    ofNat_eq_of_toNat (by omega : _ = b₂.toNat), ofNat_eq_of_toNat (by omega : _ = b₃.toNat)]

/-- A sequence whose first part is a character starts with the bytes of that character. One case for
each number of bytes. -/
theorem exists_append_of_head?_piecesFrom {bytes : List Byte} {c : Char}
    (h : (piecesFrom .none bytes).head? = some (.scalar c)) :
    ∃ rest, bytes = String.utf8EncodeChar c ++ rest := by
  cases bytes with
  | nil => simp [piecesFrom] at h
  | cons b₀ rest =>
      rw [piecesFrom] at h
      cases hlead : lead b₀ with
      | ascii d =>
          obtain ⟨hascii, rfl⟩ := lead_eq_ascii hlead
          simp only [hlead, List.head?_cons, Option.some.injEq, Piece.scalar.injEq] at h
          subst h
          have hvalid : b₀.toNat.isValidChar := Or.inl (by omega)
          have hnat : (Char.ofNat b₀.toNat).toNat = b₀.toNat := toNat_ofNat_of_valid hvalid
          refine ⟨rest, ?_⟩
          rw [utf8EncodeChar_ascii (by omega), hnat, UInt8.ofNat_toNat]
          rfl
      | none => simp [hlead] at h
      | multi p =>
          simp only [hlead] at h
          rcases lead_eq_multi hlead with ⟨h₀, h₀', rfl⟩ | ⟨h₀, h₀', rfl⟩ | ⟨h₀, h₀', rfl⟩
          · obtain ⟨b₁, rest, rfl, h₁, h₁', hc⟩ := exists_of_head?_last h
            exact ⟨rest, by rw [hc, utf8EncodeChar_two h₀ h₀' h₁ h₁']; rfl⟩
          · obtain ⟨b₁, rest, rfl, h₁, h₁', h⟩ := exists_of_head?_more h
            obtain ⟨b₂, rest, rfl, h₂, h₂', hc⟩ := exists_of_head?_last h
            exact ⟨rest, by rw [hc, utf8EncodeChar_three h₀ h₀' h₁ h₁' h₂ h₂']; rfl⟩
          · obtain ⟨b₁, rest, rfl, h₁, h₁', h⟩ := exists_of_head?_more h
            obtain ⟨b₂, rest, rfl, h₂, h₂', h⟩ := exists_of_head?_more h
            obtain ⟨b₃, rest, rfl, h₃, h₃', hc⟩ := exists_of_head?_last h
            exact ⟨rest, by rw [hc, utf8EncodeChar_four h₀ h₀' h₁ h₁' h₂ h₂' h₃ h₃']; rfl⟩

/-- The character at the front is there with all its bytes. -/
theorem exists_append_of_first? {bytes : List Byte} {c : Char} (h : first? bytes = some c) :
    ∃ rest, bytes = String.utf8EncodeChar c ++ rest := by
  obtain ⟨part, hpart, hchar⟩ := Option.bind_eq_some_iff.mp h
  have hscalar : part = .scalar c := by
    cases part with
    | scalar d => exact congrArg Piece.scalar (Option.some.inj hchar)
    | illFormed n => cases hchar
    | truncated => cases hchar
  subst hscalar
  obtain ⟨rest, hrest⟩ := exists_append_of_head?_piecesFrom hpart
  refine ⟨rest ++ bytes.drop 4, ?_⟩
  rw [← List.append_assoc, ← hrest, List.take_append_drop]

/-! ### Bytes without a fault -/

/-- No byte goes without a part. -/
theorem piecesFrom_ne_nil {state : Option Pending} {bytes : List Byte}
    (h : state = none → bytes ≠ []) : piecesFrom state bytes ≠ [] := by
  fun_induction piecesFrom state bytes <;> simp_all

/-- Without a fault there are only characters. -/
theorem exists_scalars_of_faultFrom {parts : List Piece} {offset : Nat}
    (h : faultFrom offset parts = none) : ∃ cs : List Char, parts = cs.map .scalar := by
  induction parts generalizing offset with
  | nil => exact ⟨[], rfl⟩
  | cons part parts ih =>
      cases part with
      | scalar c =>
          obtain ⟨cs, rfl⟩ := ih h
          exact ⟨c :: cs, rfl⟩
      | illFormed length => cases h
      | truncated => cases h

/-- Bytes whose parts are characters are the encoding of these. -/
theorem eq_encode_of_pieces {bytes : List Byte} {cs : List Char}
    (h : pieces bytes = cs.map .scalar) : bytes = encode cs := by
  induction cs generalizing bytes with
  | nil =>
      cases bytes with
      | nil => rfl
      | cons b rest => exact absurd h (piecesFrom_ne_nil fun _ => List.cons_ne_nil b rest)
  | cons c cs ih =>
      obtain ⟨rest, rfl⟩ := exists_append_of_head?_piecesFrom (by rw [← pieces, h]; rfl)
      rw [pieces, piecesFrom_utf8EncodeChar] at h
      rw [encode_cons, ih (List.cons.inj h).2]

/-- Bytes without a fault are the encoding of the text that they stand for. -/
theorem ofString_toStringLossy {bytes : List Byte} (h : fault? bytes = none) :
    ofString (toStringLossy bytes) = bytes := by
  obtain ⟨cs, hcs⟩ := exists_scalars_of_faultFrom h
  obtain rfl := eq_encode_of_pieces hcs
  rw [ofString, toStringLossy, String.toList_ofList, decodeLossy_encode]

end PushRegistry.Text.Utf8
