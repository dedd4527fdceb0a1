import Mathlib.Data.List.Forall2
import PushRegistry.Proofs.Json.Integers
import PushRegistry.Proofs.Json.Lists

/-!
# `PushRegistry.Proofs.Json.Documents`: documents and their texts

`Spells n v t` says that `t` is a text of the document `v` with at most `n` brackets open inside
each other: strings in any spelling, blanks between tokens, the members of an object in any
order and repeated, and integers only as numbers. `reads_value` says that every such text is read
as the document, and `decode_of_reads` that nothing more is needed for a text on its own.
-/

set_option autoImplicit false

namespace PushRegistry.Json

open PushRegistry.Text

variable {α σ : Type}

/-! ### Readers of values -/

/-- A reader takes the texts of values: each of them starts a token, and it is read behind any
blanks and in front of all that may follow a value. -/
structure Reads (reader : Reader α) (spells : α → List UInt8 → Prop) : Prop where
  opens : ∀ {a : α} {t : List UInt8}, spells a t → ∃ b u, t = b :: u ∧ OpensItem b
  consumes : ∀ {a : α} {t ws : List UInt8} (rest : List UInt8), spells a t → Blank ws →
    Delimited rest → Consumes reader (ws ++ (t ++ rest)) a rest

namespace Reads

variable {reader : Reader α} {spells : α → List UInt8 → Prop}

/-- What is read of all texts is read of some. -/
theorem imp {spells' : α → List UInt8 → Prop} (h : Reads reader spells)
    (himp : ∀ a t, spells' a t → spells a t) : Reads reader spells' where
  opens ht := h.opens (himp _ _ ht)
  consumes rest ht := h.consumes rest (himp _ _ ht)

/-- The items of a list are collected from the last one on. -/
theorem steps_items (h : Reads reader spells) {as : List α} {ts : List (List UInt8)}
    (hts : List.Forall₂ spells as ts) (acc : List α) :
    Steps OpensItem (fun acc => do return (← reader) :: acc) acc ts (as.reverse ++ acc) := by
  induction hts generalizing acc with
  | nil => exact .nil
  | cons ha _ ih =>
      obtain ⟨b, u, rfl, hb⟩ := h.opens ha
      -- The reader puts each item in front, so that the list stands the wrong way round.
      refine .cons hb (fun rest hrest => ?_) (by simpa using ih (_ :: acc))
      exact Consumes.bind (h.consumes rest ha Blank.nil hrest) (Consumes.pure _ _)

/-- Every list of values is read from its items. -/
theorem consumes_items (h : Reads reader spells) {as : List α} {ts : List (List UInt8)}
    {t : List UInt8} (hts : List.Forall₂ spells as ts) (ht : Separated ts t)
    (rest : List UInt8) :
    Consumes (Reader.items reader) (t ++ 0x5d :: rest) as (0x5d :: rest) := by
  have hsteps := h.steps_items hts []
  rw [List.append_nil] at hsteps
  exact Json.consumes_items ht hsteps rest

end Reads

/-! ### Members -/

/-- The texts of a member whose value has one of the given texts. -/
def SpellsMember (value : List UInt8 → Prop) (name : String) (t : List UInt8) : Prop :=
  ∃ u before after v, SpellsChars name.toList u ∧ Blank before ∧ Blank after ∧ value v ∧
    t = 0x22 :: (u ++ 0x22 :: (before ++ 0x3a :: (after ++ v)))

/-- All texts of a member whose value has one of the given texts. -/
def DenotesMember (value : List UInt8 → Prop) (name : String) (t : List UInt8) : Prop :=
  ∃ u before after v, DenotesChars name.toList u ∧ Blank before ∧ Blank after ∧ value v ∧
    t = 0x22 :: (u ++ 0x22 :: (before ++ 0x3a :: (after ++ v)))

theorem SpellsMember.denotes {value : List UInt8 → Prop} {name : String} {t : List UInt8}
    (h : SpellsMember value name t) : DenotesMember value name t := by
  obtain ⟨u, before, after, v, hname, hbefore, hafter, hv, ht⟩ := h
  exact ⟨u, before, after, v, hname.denotes, hbefore, hafter, hv, ht⟩

/-- A member is read if its value is, behind the colon. -/
theorem consumes_colon {before : List UInt8} (hbefore : Blank before) (rest : List UInt8) :
    Consumes Reader.colon (before ++ 0x3a :: rest) () rest :=
  Consumes.bind (Consumes.token hbefore (by decide) rest) (Consumes.skip _ _)

/-- One member in front of others. Its reader is told the name and gets what is left from the
colon on. -/
theorem Steps.member {member : String → σ → Reader σ} {s s' s'' : σ} {name : String}
    {value : List UInt8 → Prop} {t : List UInt8} {ts : List (List UInt8)}
    (ht : DenotesMember value name t)
    (hread : ∀ before after v rest, Blank before → Blank after → value v → Delimited rest →
      Consumes (member name s) (before ++ 0x3a :: (after ++ (v ++ rest))) s' rest)
    (hts : Steps OpensMember (memberStep member) s' ts s'') :
    Steps OpensMember (memberStep member) s (t :: ts) s'' := by
  obtain ⟨u, before, after, v, hname, hbefore, hafter, hv, rfl⟩ := ht
  refine .cons rfl (fun rest hrest => ?_) hts
  simp only [List.append_assoc, List.cons_append]
  refine Consumes.bind (Consumes.skip _ _) ?_
  refine Consumes.bind (consumes_string hname _) ?_
  exact hread before after v rest hbefore hafter hv hrest

/-! ### Texts of documents -/

/-- An integer that a 64-bit word holds, with or without a sign. -/
def FitsWord (n : Int) : Prop := -0x8000000000000000 ≤ n ∧ n < 0x10000000000000000

instance (n : Int) : Decidable (FitsWord n) := inferInstanceAs (Decidable (_ ∧ _))

/-- The numeral of an integer. -/
def integer (n : Int) : List UInt8 := Utf8.encode (toString n).toList

/-- The texts of a document without brackets. -/
def SpellsScalar : Value → List UInt8 → Prop
  | .null, t => t = [0x6e, 0x75, 0x6c, 0x6c]
  | .bool true, t => t = [0x74, 0x72, 0x75, 0x65]
  | .bool false, t => t = [0x66, 0x61, 0x6c, 0x73, 0x65]
  | .number (.int k), t => FitsWord k ∧ t = integer k
  | .number (.float _), _ => False
  | .string s, t => SpellsString s t
  | .array _, _ => False
  | .object _, _ => False

/-- The texts of a document with at most the given number of brackets open inside each other. -/
def Spells : Nat → Value → List UInt8 → Prop
  | n + 1, .array vs, t =>
    ∃ ts u, List.Forall₂ (Spells n) vs ts ∧ Separated ts u ∧ t = 0x5b :: (u ++ [0x5d])
  | n + 1, .object ms, t =>
    ∃ pairs ts u, ms = Members.ofList pairs ∧
      List.Forall₂ (fun p => SpellsMember (Spells n p.2) p.1) pairs ts ∧ Separated ts u ∧
      t = 0x7b :: (u ++ [0x7d])
  | _, v, t => SpellsScalar v t

/-- Without brackets only scalars can be written. -/
theorem Spells.scalar {v : Value} {t : List UInt8} (h : Spells 0 v t) : SpellsScalar v t := by
  cases v <;> exact h

/-! ### Words and numbers -/

theorem consumes_ident (expected rest : List UInt8) :
    Consumes (Reader.ident expected) (expected ++ rest) () rest := by
  induction expected with
  | nil => exact Consumes.pure _ _
  | cons b expected ih =>
      -- The first byte is as expected, and the others follow.
      refine Consumes.bind (a := ()) (Consumes.bind (Consumes.next b _) ?_) ih
      simp only [if_pos]
      exact Consumes.pure _ _

/-- Digits are none of the other bytes that a value may start with. -/
theorem ne_of_isDigit {b : UInt8} (h : Reader.isDigit b = true) :
    b ≠ 0x6e ∧ b ≠ 0x74 ∧ b ≠ 0x66 ∧ b ≠ 0x2d ∧ OpensItem b := by
  simp only [Reader.isDigit, UInt8.le_iff_toNat_le, Bool.and_eq_true, decide_eq_true_eq,
    UInt8.reduceToNat] at h
  have hne : ∀ k : UInt8, k.toNat < 48 ∨ 57 < k.toNat → b ≠ k := by
    rintro k hk rfl
    omega
  refine ⟨hne _ (by decide), hne _ (by decide), hne _ (by decide), hne _ (by decide), ?_,
    hne _ (by decide)⟩
  simp only [Reader.isBlank, Bool.or_eq_false_iff, beq_eq_false_iff_ne]
  exact ⟨⟨⟨hne _ (by decide), hne _ (by decide)⟩, hne _ (by decide)⟩, hne _ (by decide)⟩

theorem integer_ofNat (n : Nat) : integer (Int.ofNat n) = decimal n := by
  rw [integer, decimal]
  exact congrArg Utf8.encode Nat.toList_repr

theorem integer_negSucc (n : Nat) : integer (Int.negSucc n) = 0x2d :: decimal (n + 1) := by
  have htext : (toString (Int.negSucc n)).toList = '-' :: Nat.toDigits 10 (n + 1) := by
    show ("-" ++ Nat.repr (n + 1)).toList = _
    rw [String.toList_append, Nat.toList_repr]
    rfl
  rw [integer, htext, Utf8.encode_cons]
  rfl

/-- The numeral of a number starts with a digit. -/
theorem decimal_eq_cons (n : Nat) : ∃ b u, decimal n = b :: u ∧ Reader.isDigit b = true := by
  rw [decimal_eq_map]
  cases hdigits : Nat.toDigits 10 n with
  | nil => exact absurd hdigits Nat.toDigits_ne_nil
  | cons c cs =>
      refine ⟨_, _, rfl, isDigit_digitByte (Decimal.isDigit_of_mem_toDigits (n := n) ?_)⟩
      rw [hdigits]
      exact List.mem_cons_self

/-- The numeral of an integer starts with a minus sign or a digit. -/
theorem integer_eq_cons (k : Int) :
    (∃ n, k = Int.negSucc n ∧ integer k = 0x2d :: decimal (n + 1)) ∨
      ∃ n b u, k = Int.ofNat n ∧ integer k = decimal n ∧ decimal n = b :: u ∧
        Reader.isDigit b = true := by
  cases k with
  | ofNat n =>
      obtain ⟨b, u, heq, hb⟩ := decimal_eq_cons n
      exact Or.inr ⟨n, b, u, rfl, integer_ofNat n, heq, hb⟩
  | negSucc n => exact Or.inl ⟨n, rfl, integer_negSucc n⟩

/-- An integer that fits is read as an integer: the magnitude behind its sign. -/
theorem wholeNumber_negSucc {n : Nat} (h : FitsWord (Int.negSucc n)) :
    n + 1 ≤ Reader.maxWord ∧ Reader.wholeNumber true (n + 1) = .int (Int.negSucc n) := by
  have hn : n + 1 ≤ 0x8000000000000000 := by
    have := h.1
    omega
  have hmax : Reader.maxWord = 0xffffffffffffffff := rfl
  refine ⟨by omega, ?_⟩
  rw [Reader.wholeNumber, if_pos rfl, if_neg (by omega)]
  rfl

theorem wholeNumber_ofNat {n : Nat} (h : FitsWord (Int.ofNat n)) :
    n ≤ Reader.maxWord ∧ Reader.wholeNumber false n = .int (Int.ofNat n) := by
  have hmax : Reader.maxWord = 0xffffffffffffffff := rfl
  have hn : (Int.ofNat n : Int) < 0x10000000000000000 := h.2
  have hn' : n < 0x10000000000000000 := by
    simp only [Int.ofNat_eq_natCast] at hn
    omega
  exact ⟨by omega, rfl⟩

/-! ### Reading documents -/

theorem SpellsScalar.exists_cons {v : Value} {t : List UInt8} (h : SpellsScalar v t) :
    ∃ b u, t = b :: u ∧ OpensItem b := by
  cases v with
  | null => exact ⟨0x6e, _, h, by decide⟩
  | bool b =>
      cases b with
      | false => exact ⟨0x66, _, h, by decide⟩
      | true => exact ⟨0x74, _, h, by decide⟩
  | number k =>
      cases k with
      | int k =>
          rcases integer_eq_cons k with ⟨m, -, htext⟩ | ⟨m, b, u, -, htext, hcons, hb⟩
          · exact ⟨0x2d, _, h.2.trans htext, by decide⟩
          · exact ⟨b, u, (h.2.trans htext).trans hcons, (ne_of_isDigit hb).2.2.2.2⟩
      | float x => exact h.elim
  | string s =>
      obtain ⟨u, -, ht⟩ := h
      exact ⟨0x22, _, ht, by decide⟩
  | array vs => exact h.elim
  | object ms => exact h.elim

/-- Every text of a document starts a token. -/
theorem Spells.exists_cons {n : Nat} {v : Value} {t : List UInt8} (h : Spells n v t) :
    ∃ b u, t = b :: u ∧ OpensItem b := by
  cases n with
  | zero => exact h.scalar.exists_cons
  | succ n =>
      cases v with
      | array vs =>
          obtain ⟨ts, u, -, -, ht⟩ := h
          exact ⟨0x5b, _, ht, by decide⟩
      | object ms =>
          obtain ⟨pairs, ts, u, -, -, -, ht⟩ := h
          exact ⟨0x7b, _, ht, by decide⟩
      | null => exact SpellsScalar.exists_cons h
      | bool b => exact SpellsScalar.exists_cons h
      | number k => exact SpellsScalar.exists_cons h
      | string s => exact SpellsScalar.exists_cons h

/-- The members of an object are bound one after the other. -/
theorem steps_members {n : Nat} {spells : Value → List UInt8 → Prop}
    (hvalue : Reads (Reader.value n) spells)
    {pairs : List (String × Value)} {ts : List (List UInt8)}
    (hts : List.Forall₂ (fun p => DenotesMember (spells p.2) p.1) pairs ts)
    (acc : Members Value) :
    Steps OpensMember (memberStep fun name acc => do
      Reader.colon
      let v ← Reader.value n
      return acc.insert name v) acc ts
      (pairs.foldl (fun acc p => acc.insert p.1 p.2) acc) := by
  induction hts generalizing acc with
  | nil => exact .nil
  | cons hp _ ih =>
      refine Steps.member hp (fun before after v rest hbefore hafter hv hrest => ?_) (ih _)
      refine Consumes.bind (consumes_colon hbefore _) ?_
      exact Consumes.bind (hvalue.consumes rest hv hafter hrest) (Consumes.pure _ _)

section Value

variable {n : Nat} {ws rest : List UInt8}

theorem consumes_null (hws : Blank ws) :
    Consumes (Reader.value n) (ws ++ ([0x6e, 0x75, 0x6c, 0x6c] ++ rest)) .null rest := by
  rw [Reader.value.eq_def]
  refine Consumes.bind (Consumes.token hws (by decide) _) ?_
  refine Consumes.bind (Consumes.skip _ _) ?_
  exact Consumes.bind (consumes_ident [0x75, 0x6c, 0x6c] rest) (Consumes.pure _ _)

theorem consumes_true (hws : Blank ws) :
    Consumes (Reader.value n) (ws ++ ([0x74, 0x72, 0x75, 0x65] ++ rest)) (.bool true) rest := by
  rw [Reader.value.eq_def]
  refine Consumes.bind (Consumes.token hws (by decide) _) ?_
  refine Consumes.bind (Consumes.skip _ _) ?_
  exact Consumes.bind (consumes_ident [0x72, 0x75, 0x65] rest) (Consumes.pure _ _)

theorem consumes_false (hws : Blank ws) :
    Consumes (Reader.value n) (ws ++ ([0x66, 0x61, 0x6c, 0x73, 0x65] ++ rest)) (.bool false)
      rest := by
  rw [Reader.value.eq_def]
  refine Consumes.bind (Consumes.token hws (by decide) _) ?_
  refine Consumes.bind (Consumes.skip _ _) ?_
  exact Consumes.bind (consumes_ident [0x61, 0x6c, 0x73, 0x65] rest) (Consumes.pure _ _)

theorem consumes_integer {k : Int} (hk : FitsWord k) (hws : Blank ws) (hrest : Delimited rest) :
    Consumes (Reader.value n) (ws ++ (integer k ++ rest)) (.number (.int k)) rest := by
  rw [Reader.value.eq_def]
  rcases integer_eq_cons k with ⟨m, rfl, htext⟩ | ⟨m, b, u, rfl, htext, hcons, hb⟩
  · obtain ⟨hmax, hwhole⟩ := wholeNumber_negSucc hk
    rw [htext, List.cons_append]
    refine Consumes.bind (Consumes.token hws (by decide) _) ?_
    refine Consumes.bind (Consumes.skip _ _) ?_
    rw [← hwhole]
    exact Consumes.bind (Consumes.number (m + 1) hmax hrest) (Consumes.pure _ _)
  · obtain ⟨hmax, hwhole⟩ := wholeNumber_ofNat hk
    obtain ⟨hn, ht, hf, hminus, hopens⟩ := ne_of_isDigit hb
    have hnumber : Consumes (Reader.number false) (decimal m ++ rest) _ rest :=
      Consumes.number m hmax hrest
    rw [htext]
    rw [hcons, List.cons_append] at hnumber ⊢
    refine Consumes.bind (Consumes.token hws hopens.1 _) ?_
    -- A digit is none of the letters that start a word and no minus sign.
    simp only [if_neg hn, if_neg ht, if_neg hf, if_neg hminus, if_pos hb]
    rw [← hwhole]
    exact Consumes.bind hnumber (Consumes.pure _ _)

theorem consumes_stringText {s : String} {t : List UInt8} (ht : SpellsString s t)
    (hws : Blank ws) :
    Consumes (Reader.value n) (ws ++ (t ++ rest)) (.string s) rest := by
  obtain ⟨u, hu, rfl⟩ := ht
  rw [Reader.value.eq_def]
  simp only [List.cons_append, List.append_assoc, List.nil_append]
  refine Consumes.bind (Consumes.token hws (by decide) _) ?_
  refine Consumes.bind (Consumes.skip _ _) ?_
  exact Consumes.bind (consumes_string hu.denotes rest) (Consumes.pure _ _)

theorem consumes_scalar {v : Value} {t : List UInt8} (ht : SpellsScalar v t) (hws : Blank ws)
    (hrest : Delimited rest) : Consumes (Reader.value n) (ws ++ (t ++ rest)) v rest := by
  cases v with
  | null => exact ht ▸ consumes_null hws
  | bool b =>
      cases b with
      | false => exact ht ▸ consumes_false hws
      | true => exact ht ▸ consumes_true hws
  | number k =>
      cases k with
      | int k => exact ht.2 ▸ consumes_integer ht.1 hws hrest
      | float x => exact ht.elim
  | string s => exact consumes_stringText ht hws
  | array vs => exact ht.elim
  | object ms => exact ht.elim

section Brackets

variable {spells : Value → List UInt8 → Prop} {ts : List (List UInt8)} {u : List UInt8}

/-- A list, if its items can be read one level deeper. -/
theorem consumes_array (hvalue : Reads (Reader.value n) spells) {vs : List Value}
    (hts : List.Forall₂ spells vs ts) (hu : Separated ts u) (hws : Blank ws) :
    Consumes (Reader.value (n + 1)) (ws ++ (0x5b :: (u ++ [0x5d]) ++ rest)) (.array vs) rest := by
  rw [Reader.value.eq_def]
  simp only [List.cons_append, List.append_assoc, List.nil_append]
  refine Consumes.bind (Consumes.token hws (by decide) _) ?_
  refine Consumes.bind (Consumes.skip _ _) ?_
  refine Consumes.bind (Consumes.closing (hvalue.consumes_items hts hu rest) ?_)
    (Consumes.pure _ _)
  exact consumes_endList rest

/-- The members of an object are bound one after the other, so of repeated names the last one
stays. -/
theorem consumes_members (hvalue : Reads (Reader.value n) spells)
    {pairs : List (String × Value)}
    (hts : List.Forall₂ (fun p => DenotesMember (spells p.2) p.1) pairs ts)
    (hu : Separated ts u) :
    Consumes (Reader.members (Reader.value n)) (u ++ 0x7d :: rest) (Members.ofList pairs)
      (0x7d :: rest) := by
  refine Consumes.get fun c hc => ?_
  refine consumes_foldMembers hu (steps_members hvalue hts []) rest ?_
  rw [hc, List.length_append]
  omega

/-- An object, if its members can be read one level deeper. -/
theorem consumes_object (hvalue : Reads (Reader.value n) spells) {pairs : List (String × Value)}
    (hts : List.Forall₂ (fun p => DenotesMember (spells p.2) p.1) pairs ts)
    (hu : Separated ts u) (hws : Blank ws) :
    Consumes (Reader.value (n + 1)) (ws ++ (0x7b :: (u ++ [0x7d]) ++ rest))
      (.object (Members.ofList pairs)) rest := by
  rw [Reader.value.eq_def]
  simp only [List.cons_append, List.append_assoc, List.nil_append]
  refine Consumes.bind (Consumes.token hws (by decide) _) ?_
  refine Consumes.bind (Consumes.skip _ _) ?_
  refine Consumes.bind (Consumes.closing (consumes_members hvalue hts hu) ?_) (Consumes.pure _ _)
  exact consumes_endObject rest

end Brackets

end Value

/-- A document is read from each of its texts. Induction on the brackets that may be open: the
items and members of a document are read one level deeper. -/
theorem reads_value (n : Nat) : Reads (Reader.value n) (Spells n) := by
  induction n with
  | zero => exact ⟨Spells.exists_cons, fun _ ht hws hrest => consumes_scalar ht.scalar hws hrest⟩
  | succ n ih =>
      refine ⟨Spells.exists_cons, fun {v t ws} rest ht hws hrest => ?_⟩
      cases v with
      | array vs =>
          obtain ⟨ts, u, hts, hu, rfl⟩ := ht
          exact consumes_array ih hts hu hws
      | object ms =>
          obtain ⟨pairs, ts, u, rfl, hts, hu, rfl⟩ := ht
          exact consumes_object ih (hts.imp fun _ _ hp => hp.denotes) hu hws
      | null => exact consumes_scalar ht hws hrest
      | bool b => exact consumes_scalar ht hws hrest
      | number k => exact consumes_scalar ht hws hrest
      | string s => exact consumes_scalar ht hws hrest

/-- A text that holds one value and blanks around it is read as a whole. -/
theorem decode_of_reads {reader : Nat → Reader α} {spells : α → List UInt8 → Prop}
    (h : Reads (reader Reader.depthLimit) spells) {a : α} {before t after : List UInt8}
    (ht : spells a t) (hbefore : Blank before) (hafter : Blank after) :
    Reader.run (Reader.whole reader) (before ++ (t ++ after)) = .ok a := by
  -- Behind the value only blanks are left, and these may follow a value.
  have hdelimited : Delimited after := by
    intro b hb
    exact Or.inl (hafter b (List.mem_of_mem_head? hb))
  refine Consumes.run_eq (Consumes.bind (h.consumes after ht hbefore hdelimited) ?_)
  refine Consumes.bind (Consumes.bind (Consumes.token_end hafter) (Consumes.pure _ _)) ?_
  exact Consumes.pure _ _

end PushRegistry.Json
