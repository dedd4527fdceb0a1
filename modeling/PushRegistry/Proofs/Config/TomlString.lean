import PushRegistry.Proofs.Config.TomlInteger

/-!
# `PushRegistry.Proofs.Config.TomlString`: a file that holds one string

Every string can be written between quotes on one line: quotes and backslashes behind a backslash,
control characters by their code, and everything else as it is (`quoted`). The reader takes it back
character by character (`takes_basicRest`), and `parse?_stringFile` says that a file with such a
line holds the string, whatever its characters are.
-/

set_option autoImplicit false

namespace PushRegistry.Config.Toml

open PushRegistry.Text
open PushRegistry.Text.Scan (Takes Refuses)

/-- A character between quotes. -/
def quotedChar (c : Char) : List Char :=
  if c = '"' ∨ c = '\\' then ['\\', c]
  else if isPlain c then [c]
  else '\\' :: 'u' :: '0' :: '0' :: Hex.upperByte (UInt8.ofNat c.toNat)

/-- A string between quotes, on one line. -/
def quoted (s : String) : List Char := '"' :: s.toList.flatMap quotedChar ++ ['"']

variable {c : Char} {acc cs rest : List Char}

/-! ### Escapes -/

/-- The code of a character that must not stand as it is, in four digits. -/
theorem number?_code (h : isPlain c = false) :
    Hex.number? ('0' :: '0' :: Hex.upperByte (UInt8.ofNat c.toNat)) = some c.toNat ∧
      ∀ d ∈ '0' :: '0' :: Hex.upperByte (UInt8.ofNat c.toNat), Hex.isDigit d = true := by
  have hcode : c.toNat < 0x80 := by
    simp only [isPlain, Bool.or_eq_false_iff, Bool.and_eq_false_iff, decide_eq_false_iff_not] at h
    omega
  have hall : ∀ n < 0x80,
      Hex.number? ('0' :: '0' :: Hex.upperByte (UInt8.ofNat n)) = some n ∧
        ('0' :: '0' :: Hex.upperByte (UInt8.ofNat n)).all Hex.isDigit = true := by
    decide +kernel
  obtain ⟨hnumber, hdigits⟩ := hall c.toNat hcode
  exact ⟨hnumber, List.all_eq_true.mp hdigits⟩

theorem takes_codePoint (h : isPlain c = false) :
    Takes (codePoint 4) ('0' :: '0' :: Hex.upperByte (UInt8.ofNat c.toNat) ++ rest) c rest := by
  obtain ⟨hnumber, hdigits⟩ := number?_code h
  have hscalar : c.toNat < 0xd800 ∨ (0xdfff < c.toNat ∧ c.toNat < 0x110000) := c.valid
  refine (Takes.count hdigits).bind ?_
  rw [hnumber, Option.getD_some, if_pos hscalar, Char.ofNat_toNat]
  exact .pure c rest

/-- One character between quotes is read as itself. -/
theorem takes_basicRest_char {fuel : Nat} {a : List Char}
    (h : Takes (basicRest fuel (c :: acc)) cs a rest) :
    Takes (basicRest (fuel + 1) acc) (quotedChar c ++ cs) a rest := by
  unfold quotedChar
  by_cases hescaped : c = '"' ∨ c = '\\'
  · rw [if_pos hescaped]
    refine (Takes.next '\\' _).bind ?_
    rw [if_neg (by decide), if_pos rfl]
    -- A quote and a backslash stand for themselves behind a backslash.
    have hescape : Takes escape (c :: cs) c cs := by
      refine (Takes.next c cs).bind ?_
      rcases hescaped with rfl | rfl <;> exact .pure _ _
    exact hescape.bind h
  · obtain ⟨hquote, hbackslash⟩ := not_or.mp hescaped
    rw [if_neg hescaped]
    by_cases hplain : isPlain c = true
    · rw [if_pos hplain]
      refine (Takes.next c cs).bind ?_
      rw [if_neg hquote, if_neg hbackslash, if_pos hplain]
      exact h
    · rw [if_neg hplain]
      refine (Takes.next '\\' _).bind ?_
      rw [if_neg (by decide), if_pos rfl]
      have hescape : Takes escape
          ('u' :: '0' :: '0' :: Hex.upperByte (UInt8.ofNat c.toNat) ++ cs) c cs :=
        (Takes.next 'u' _).bind (takes_codePoint (by simpa using hplain))
      exact hescape.bind h

/-! ### Strings -/

/-- The characters up to the quote at the end, behind those that were read before. -/
theorem takes_basicRest {fuel : Nat} (hfuel : cs.length < fuel) :
    Takes (basicRest fuel acc) (cs.flatMap quotedChar ++ '"' :: rest) (acc.reverse ++ cs) rest := by
  induction cs generalizing fuel acc with
  | nil =>
      obtain ⟨fuel, rfl⟩ := Nat.exists_eq_succ_of_ne_zero (Nat.ne_zero_of_lt hfuel)
      refine (Takes.next '"' rest).bind ?_
      rw [if_pos rfl, List.append_nil]
      exact .pure _ _
  | cons c cs ih =>
      obtain ⟨fuel, rfl⟩ := Nat.exists_eq_succ_of_ne_zero (Nat.ne_zero_of_lt hfuel)
      have hrest : Takes (basicRest fuel (c :: acc)) (cs.flatMap quotedChar ++ '"' :: rest)
          ((c :: acc).reverse ++ cs) rest := ih (Nat.lt_of_succ_lt_succ hfuel)
      rw [List.reverse_cons, List.append_assoc, List.singleton_append] at hrest
      rw [List.flatMap_cons, List.append_assoc]
      exact takes_basicRest_char hrest

theorem length_le_flatMap_quotedChar (cs : List Char) :
    cs.length ≤ (cs.flatMap quotedChar).length := by
  induction cs with
  | nil => exact Nat.le_refl 0
  | cons c cs ih =>
      have hchar : 1 ≤ (quotedChar c).length := by
        unfold quotedChar
        split_ifs <;> simp
      rw [List.flatMap_cons, List.length_append, List.length_cons]
      omega

/-- No quote stands right behind the first one, unless the string is empty. -/
theorem startsMultiline_quoted (s : String) :
    startsMultiline (quoted s ++ '\n' :: rest) = false := by
  unfold quoted
  cases s.toList with
  | nil => simp [startsMultiline]
  | cons c cs =>
      have hhead : ∃ d more, quotedChar c = d :: more ∧ d ≠ '"' := by
        unfold quotedChar
        by_cases hescaped : c = '"' ∨ c = '\\'
        · exact ⟨_, _, if_pos hescaped, by decide⟩
        · rw [if_neg hescaped]
          split_ifs
          · exact ⟨_, _, rfl, (not_or.mp hescaped).1⟩
          · exact ⟨_, _, rfl, by decide⟩
      obtain ⟨d, more, hd, hne⟩ := hhead
      simp [startsMultiline, hd, hne]

theorem takes_value_quoted (s : String) (depth : Nat) :
    Takes (value (depth + 1)) (quoted s ++ '\n' :: rest) (.text s) ('\n' :: rest) := by
  have hbody : Takes (basicRest
      ((s.toList.flatMap quotedChar ++ '"' :: '\n' :: rest).length + 1) [])
      (s.toList.flatMap quotedChar ++ '"' :: '\n' :: rest) s.toList ('\n' :: rest) := by
    refine takes_basicRest ?_
    have hlength := length_le_flatMap_quotedChar s.toList
    rw [List.length_append]
    omega
  have hquoted : quoted s ++ '\n' :: rest
      = '"' :: (s.toList.flatMap quotedChar ++ '"' :: '\n' :: rest) := by
    simp [quoted]
  have hsimple : Takes simpleString (quoted s ++ '\n' :: rest) s ('\n' :: rest) := by
    rw [hquoted]
    refine (Takes.next '"' _).bind ((Takes.get _).bind ?_)
    rw [if_pos rfl]
    refine hbody.bind ?_
    rw [String.ofList_toList]
    exact .pure _ _
  have hstring : Takes anyString (quoted s ++ '\n' :: rest) s ('\n' :: rest) := by
    refine (Takes.get _).bind ?_
    rw [startsMultiline_quoted s, if_neg Bool.false_ne_true]
    exact hsimple
  have hpeek : Takes Scan.peek (quoted s ++ '\n' :: rest) (some '"') (quoted s ++ '\n' :: rest) := by
    rw [hquoted]
    exact .peek _
  exact (Takes.get _).bind (hpeek.bind (hstring.bind (.pure _ _)))

/-! ### Files -/

/-- A file with one key whose value is a string. -/
def stringFile (key : List Char) (s : String) : List Char :=
  key ++ ' ' :: '=' :: ' ' :: (quoted s ++ ['\n'])

/-- A file with one string holds it. -/
theorem parse?_stringFile {key : List Char} (hkey : Bare key) (s : String) :
    parse? (stringFile key s) = some [(String.ofList key, .text s)] := by
  have hmark : (stringFile key s).head? ≠ some '\uFEFF' := hkey.head?_ne (by decide)
  have hquote : ∀ d ∈ (quoted s ++ ['\n']).head?, isBlank d = false := by
    rintro d ⟨⟩
    decide
  have hlines : ∀ fuel, Takes (lines (fuel + 2) ⟨[], []⟩) (stringFile key s)
      (single key (.text s)) [] :=
    takes_lines hkey (takes_assignment hkey hquote (takes_value_quoted s 127))
  obtain ⟨fuel, hfuel⟩ : ∃ fuel, (stringFile key s).length = fuel + 1 :=
    ⟨_, (Nat.succ_pred_eq_of_pos (List.length_pos_iff.mpr (by simp [stringFile]))).symm⟩
  rw [parse?, if_neg hmark, hfuel, Scan.whole_of_takes (hlines fuel)]
  rfl

end PushRegistry.Config.Toml
