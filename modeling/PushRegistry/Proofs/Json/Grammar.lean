import PushRegistry.Proofs.Json.Numerals
import PushRegistry.Proofs.Json.StringTexts

/-!
# `PushRegistry.Proofs.Json.Grammar`: the texts that are documents

`Denotes n v t` is the whole grammar of documents: `t` is a text of the document `v`, with at most
`n` brackets open inside each other. It does not mention the reader. `Spells` has some of these texts
only, those that every writer can make; here numbers may be doubles, written in any way, and strings
may hold pairs of surrogates.

`decode_eq_ok_iff` says that the texts of the grammar are read, each as its document, and that no
other text is read as a document at all.
-/

set_option autoImplicit false

namespace PushRegistry.Json

/-! ### The grammar -/

/-- The texts of a number. -/
def DenotesNumber (k : Number) (t : List UInt8) : Prop :=
  ∃ n : Numeral, n.WellFormed ∧
    (n.number? false = some k ∧ t = n.text ∨ n.number? true = some k ∧ t = 0x2d :: n.text)

/-- The texts of a document without brackets. -/
def DenotesScalar : Value → List UInt8 → Prop
  | .null, t => t = [0x6e, 0x75, 0x6c, 0x6c]
  | .bool true, t => t = [0x74, 0x72, 0x75, 0x65]
  | .bool false, t => t = [0x66, 0x61, 0x6c, 0x73, 0x65]
  | .number k, t => DenotesNumber k t
  | .string s, t => DenotesString s t
  | .array _, _ => False
  | .object _, _ => False

/-- The texts of a document with at most the given number of brackets open inside each other. Of
members with the same name the last one counts. -/
def Denotes : Nat → Value → List UInt8 → Prop
  | n + 1, .array vs, t =>
    ∃ ts u, List.Forall₂ (Denotes n) vs ts ∧ Separated ts u ∧ t = 0x5b :: (u ++ [0x5d])
  | n + 1, .object ms, t =>
    ∃ pairs ts u, ms = Members.ofList pairs ∧
      List.Forall₂ (fun p => DenotesMember (Denotes n p.2) p.1) pairs ts ∧ Separated ts u ∧
      t = 0x7b :: (u ++ [0x7d])
  | _, v, t => DenotesScalar v t

/-- Without brackets only scalars can be written. -/
theorem Denotes.scalar {v : Value} {t : List UInt8} (h : Denotes 0 v t) : DenotesScalar v t := by
  cases v <;> exact h

/-- A text without brackets is one at every depth. -/
theorem DenotesScalar.denotes {v : Value} {t : List UInt8} (h : DenotesScalar v t) (n : Nat) :
    Denotes n v t := by
  cases n with
  | zero => cases v <;> exact h
  | succ n =>
      cases v with
      | array vs => exact h.elim
      | object ms => exact h.elim
      | null => exact h
      | bool b => exact h
      | number k => exact h
      | string s => exact h

/-! ### All texts are read -/

theorem Numeral.exists_cons {n : Numeral} (h : n.WellFormed) :
    ∃ b u, n.text = b :: u ∧ Reader.isDigit b = true := by
  obtain ⟨whole, fraction, exponent⟩ := n
  obtain rfl | ⟨⟨hne, hall⟩, -⟩ := h.whole
  · exact ⟨0x30, _, rfl, by decide⟩
  · obtain ⟨d, ds, rfl⟩ := List.exists_cons_of_ne_nil hne
    exact ⟨d, _, rfl, hall d List.mem_cons_self⟩

theorem DenotesScalar.exists_cons {v : Value} {t : List UInt8} (h : DenotesScalar v t) :
    ∃ b u, t = b :: u ∧ OpensItem b := by
  cases v with
  | null => exact ⟨0x6e, _, h, by decide⟩
  | bool b =>
      cases b with
      | false => exact ⟨0x66, _, h, by decide⟩
      | true => exact ⟨0x74, _, h, by decide⟩
  | number k =>
      obtain ⟨n, hn, ⟨-, rfl⟩ | ⟨-, rfl⟩⟩ := h
      · obtain ⟨b, u, htext, hb⟩ := Numeral.exists_cons hn
        exact ⟨b, u, htext, (ne_of_isDigit hb).2.2.2.2⟩
      · exact ⟨0x2d, _, rfl, by decide⟩
  | string s =>
      obtain ⟨u, -, ht⟩ := h
      exact ⟨0x22, _, ht, by decide⟩
  | array vs => exact h.elim
  | object ms => exact h.elim

/-- Every text of a document starts a token. -/
theorem Denotes.exists_cons {n : Nat} {v : Value} {t : List UInt8} (h : Denotes n v t) :
    ∃ b u, t = b :: u ∧ OpensItem b := by
  cases n with
  | zero => exact h.scalar.exists_cons
  | succ n =>
      cases v with
      | array vs =>
          obtain ⟨ts, u, -, -, ht⟩ := h
          exact ⟨0x5b, _, ht, by decide⟩
      | object ms =>
          obtain ⟨pairs, ts, u, -, -, -, ht⟩ := h
          exact ⟨0x7b, _, ht, by decide⟩
      | null => exact DenotesScalar.exists_cons h
      | bool b => exact DenotesScalar.exists_cons h
      | number k => exact DenotesScalar.exists_cons h
      | string s => exact DenotesScalar.exists_cons h

section Reading

variable {n : Nat} {ws rest t : List UInt8}

theorem consumes_numberText {k : Number} (h : DenotesNumber k t) (hws : Blank ws)
    (hrest : Delimited rest) :
    Consumes (Reader.value n) (ws ++ (t ++ rest)) (.number k) rest := by
  rw [Reader.value.eq_def]
  obtain ⟨numeral, hwell, ⟨hk, rfl⟩ | ⟨hk, rfl⟩⟩ := h
  · have hnumber := consumes_number hwell hk hrest
    obtain ⟨b, u, htext, hb⟩ := Numeral.exists_cons hwell
    obtain ⟨hn, ht, hf, hminus, hopens⟩ := ne_of_isDigit hb
    rw [htext] at hnumber ⊢
    refine Consumes.bind (Consumes.token hws hopens.1 _) ?_
    -- A digit starts no word and is no sign. It is only seen, so the number still starts at it.
    simp only [if_neg hn, if_neg ht, if_neg hf, if_neg hminus, if_pos hb]
    exact Consumes.bind hnumber (Consumes.pure _ _)
  · refine Consumes.bind (Consumes.token hws (by decide) _) ?_
    refine Consumes.bind (Consumes.skip _ _) ?_
    exact Consumes.bind (consumes_number hwell hk hrest) (Consumes.pure _ _)

theorem consumes_quoted {s : String} (h : DenotesString s t) (hws : Blank ws) :
    Consumes (Reader.value n) (ws ++ (t ++ rest)) (.string s) rest := by
  obtain ⟨u, hu, rfl⟩ := h
  rw [Reader.value.eq_def]
  simp only [List.cons_append, List.append_assoc, List.nil_append]
  refine Consumes.bind (Consumes.token hws (by decide) _) ?_
  refine Consumes.bind (Consumes.skip _ _) ?_
  exact Consumes.bind (consumes_string hu rest) (Consumes.pure _ _)

theorem consumes_denotesScalar {v : Value} (h : DenotesScalar v t) (hws : Blank ws)
    (hrest : Delimited rest) : Consumes (Reader.value n) (ws ++ (t ++ rest)) v rest := by
  cases v with
  | null => exact h ▸ consumes_null hws
  | bool b =>
      cases b with
      | false => exact h ▸ consumes_false hws
      | true => exact h ▸ consumes_true hws
  | number k => exact consumes_numberText h hws hrest
  | string s => exact consumes_quoted h hws
  | array vs => exact h.elim
  | object ms => exact h.elim

end Reading

/-- A document is read from each of its texts. Induction on the brackets that may be open. -/
theorem reads_denotes (n : Nat) : Reads (Reader.value n) (Denotes n) := by
  induction n with
  | zero =>
      exact ⟨Denotes.exists_cons, fun _ ht hws hrest => consumes_denotesScalar ht.scalar hws hrest⟩
  | succ n ih =>
      refine ⟨Denotes.exists_cons, fun {v t ws} rest ht hws hrest => ?_⟩
      cases v with
      | array vs =>
          obtain ⟨ts, u, hts, hu, rfl⟩ := ht
          exact consumes_array ih hts hu hws
      | object ms =>
          obtain ⟨pairs, ts, u, rfl, hts, hu, rfl⟩ := ht
          exact consumes_object ih hts hu hws
      | null => exact consumes_denotesScalar ht hws hrest
      | bool b => exact consumes_denotesScalar ht hws hrest
      | number k => exact consumes_denotesScalar ht hws hrest
      | string s => exact consumes_denotesScalar ht hws hrest

/-! ### No other text is read -/

section Brackets

variable {α : Type} {input rest : List UInt8}

/-- The text of an item, which is put in front of those that were read before. -/
def AddsItem (spells : α → List UInt8 → Prop) (acc : List α) (t : List UInt8) (acc' : List α) :
    Prop := ∃ a, spells a t ∧ acc' = a :: acc

/-- Items that were put in front of each other stand the wrong way round. -/
theorem exists_items_of_path {spells : α → List UInt8 → Prop} {acc out : List α}
    {ts : List (List UInt8)} (h : Path (AddsItem spells) acc ts out) :
    ∃ as, out = as.reverse ++ acc ∧ List.Forall₂ spells as ts := by
  induction h with
  | nil => exact ⟨[], rfl, .nil⟩
  | cons hx _ ih =>
      obtain ⟨a, ha, rfl⟩ := hx
      obtain ⟨as, rfl, has⟩ := ih
      exact ⟨a :: as, by simp, .cons ha has⟩

/-- The items of a list, if the reader of items takes only their texts. -/
theorem exists_items_of_returns {reader : Reader α} {spells : α → List UInt8 → Prop}
    (h : Sound reader spells) {as : List α}
    (hr : Returns (Reader.items reader) input as rest) :
    ∃ ts u tail, List.Forall₂ spells as ts ∧ Separated ts u ∧ rest = 0x5d :: tail ∧
      input = u ++ 0x5d :: tail := by
  have hstep : ∀ {acc acc' : List α} {b : UInt8} {u rest : List UInt8}, OpensItem b →
      Returns (do return (← reader) :: acc) (b :: u) acc' rest →
      ∃ t, AddsItem spells acc t acc' ∧ b :: u = t ++ rest := by
    intro acc acc' b u rest hb hr
    obtain ⟨a, middle, hitem, hreturn⟩ := hr.bind
    obtain ⟨rfl, rfl⟩ := hreturn.pure
    obtain ⟨t, ht, htext⟩ := h.of_token hb.1 hitem
    exact ⟨t, ⟨a, ht, rfl⟩, htext⟩
  obtain ⟨c, -, hfold⟩ := hr.get
  obtain ⟨reversed, middle, hloop, hreturn⟩ := hfold.bind
  obtain ⟨rfl, rfl⟩ := hreturn.pure
  rw [foldItems_eq_loop] at hloop
  obtain ⟨ts, u, tail, hpath, hu, rfl, rfl⟩ :=
    exists_separated_of_returns finds_hasItem (.failAhead _) hstep hloop
  obtain ⟨as, rfl, has⟩ := exists_items_of_path hpath
  refine ⟨ts, u, tail, ?_, hu, rfl, rfl⟩
  rwa [List.append_nil, List.reverse_reverse]

/-- The colon of a member. -/
theorem Returns.colon (h : Returns Reader.colon input () rest) :
    ∃ ws, Blank ws ∧ input = ws ++ 0x3a :: rest := by
  obtain ⟨ws, b, t, hws, rfl, -, hseen⟩ := h.token_bind (.failAhead _)
  obtain ⟨rfl, hskip⟩ | ⟨-, hfault⟩ := hseen.ite
  · obtain ⟨-, rfl⟩ := hskip.eq_of_consumes (.skip _ _)
    exact ⟨ws, hws, rfl⟩
  · exact (Ensures.failAhead _).elim hfault

/-- The text of a member, which is added to those that were read before. -/
def AddsMember (spells : α → List UInt8 → Prop) (acc : Members α) (t : List UInt8)
    (acc' : Members α) : Prop :=
  ∃ name v, DenotesMember (spells v) name t ∧ acc' = acc.insert name v

theorem exists_members_of_path {spells : α → List UInt8 → Prop} {acc out : Members α}
    {ts : List (List UInt8)} (h : Path (AddsMember spells) acc ts out) :
    ∃ pairs : List (String × α), out = pairs.foldl (fun acc p => acc.insert p.1 p.2) acc ∧
      List.Forall₂ (fun p => DenotesMember (spells p.2) p.1) pairs ts := by
  induction h with
  | nil => exact ⟨[], rfl, .nil⟩
  | cons hx _ ih =>
      obtain ⟨name, v, ht, rfl⟩ := hx
      obtain ⟨pairs, rfl, hpairs⟩ := ih
      exact ⟨(name, v) :: pairs, rfl, .cons ht hpairs⟩

/-- The members of an object, if the reader of values takes only their texts. -/
theorem exists_members_of_returns {reader : Reader α} {spells : α → List UInt8 → Prop}
    (h : Sound reader spells) {ms : Members α}
    (hr : Returns (Reader.members reader) input ms rest) :
    ∃ pairs ts u tail, ms = Members.ofList pairs ∧
      List.Forall₂ (fun p => DenotesMember (spells p.2) p.1) pairs ts ∧ Separated ts u ∧
      rest = 0x7d :: tail ∧ input = u ++ 0x7d :: tail := by
  have hstep : ∀ {acc acc' : Members α} {b : UInt8} {u rest : List UInt8}, OpensMember b →
      Returns (memberStep (fun name acc => do
        Reader.colon
        let v ← reader
        return Members.insert name v acc) acc) (b :: u) acc' rest →
      ∃ t, AddsMember spells acc t acc' ∧ b :: u = t ++ rest := by
    intro acc acc' b u rest hb hr
    -- A member is its name, a colon and its value, with blanks on both sides of the colon.
    obtain rfl := hb
    obtain ⟨name, middle, hname, hmember⟩ := hr.skip_bind.bind
    obtain ⟨label, hlabel, rfl⟩ := exists_denotesChars_of_returns hname
    obtain ⟨_, behind, hcolon, hvalue⟩ := hmember.bind
    obtain ⟨before, hbefore, rfl⟩ := hcolon.colon
    obtain ⟨v, last, hv, hreturn⟩ := hvalue.bind
    obtain ⟨rfl, rfl⟩ := hreturn.pure
    obtain ⟨after, w, hafter, hw, rfl⟩ := h hv
    refine ⟨_, ⟨name, v, ⟨label, before, after, w, hlabel, hbefore, hafter, hw, rfl⟩, rfl⟩, ?_⟩
    simp only [List.append_assoc, List.cons_append]
  obtain ⟨c, -, hfold⟩ := hr.get
  rw [foldMembers_eq_loop] at hfold
  obtain ⟨ts, u, tail, hpath, hu, rfl, rfl⟩ :=
    exists_separated_of_returns finds_hasMember (.failAhead _) hstep hfold
  obtain ⟨pairs, rfl, hpairs⟩ := exists_members_of_path hpath
  exact ⟨pairs, ts, u, tail, rfl, hpairs, hu, rfl, rfl⟩

/-- A word that stands for a document. -/
theorem Returns.word {expected : List UInt8} {a a' : α} {b : UInt8}
    (h : Returns (do Reader.skip; Reader.ident expected; return a') (b :: input) a rest) :
    a = a' ∧ input = expected ++ rest := by
  obtain ⟨_, middle, hident, hreturn⟩ := h.skip_bind.bind
  obtain ⟨rfl, rfl⟩ := hreturn.pure
  exact ⟨rfl, hident.ident⟩

end Brackets

/-- What a reader of documents has met behind the blanks: a text without brackets, or a bracket, with
what is read one level deeper. -/
theorem Returns.value {n : Nat} {input rest : List UInt8} {v : Value}
    (h : Returns (Reader.value n) input v rest) :
    ∃ ws b t, Blank ws ∧ input = ws ++ b :: t ∧
      ((∃ u, DenotesScalar v (b :: u) ∧ t = u ++ rest) ∨
        (b = 0x5b ∧ ∃ m vs, n = m + 1 ∧ v = .array vs ∧
          Returns (Reader.closing (Reader.items (Reader.value m)) Reader.endList) t vs rest) ∨
        (b = 0x7b ∧ ∃ m ms, n = m + 1 ∧ v = .object ms ∧
          Returns (Reader.closing (Reader.members (Reader.value m)) Reader.endObject) t ms rest)) := by
  rw [Reader.value.eq_def] at h
  obtain ⟨ws, b, t, hws, rfl, hblank, hkind⟩ := h.token_bind (.failAhead _)
  refine ⟨ws, b, t, hws, rfl, ?_⟩
  obtain ⟨rfl, hword⟩ | ⟨-, hkind⟩ := hkind.ite
  · obtain ⟨rfl, rfl⟩ := hword.word
    exact .inl ⟨_, rfl, rfl⟩
  obtain ⟨rfl, hword⟩ | ⟨-, hkind⟩ := hkind.ite
  · obtain ⟨rfl, rfl⟩ := hword.word
    exact .inl ⟨_, rfl, rfl⟩
  obtain ⟨rfl, hword⟩ | ⟨-, hkind⟩ := hkind.ite
  · obtain ⟨rfl, rfl⟩ := hword.word
    exact .inl ⟨_, rfl, rfl⟩
  obtain ⟨rfl, hnegative⟩ | ⟨-, hkind⟩ := hkind.ite
  · obtain ⟨k, middle, hnumber, hreturn⟩ := hnegative.skip_bind.bind
    obtain ⟨rfl, rfl⟩ := hreturn.pure
    obtain ⟨numeral, hwell, hk, rfl⟩ := exists_numeral_of_returns hnumber
    exact .inl ⟨_, ⟨numeral, hwell, .inr ⟨hk, rfl⟩⟩, rfl⟩
  obtain ⟨-, hpositive⟩ | ⟨-, hkind⟩ := hkind.ite
  · obtain ⟨k, middle, hnumber, hreturn⟩ := hpositive.bind
    obtain ⟨rfl, rfl⟩ := hreturn.pure
    obtain ⟨numeral, hwell, hk, htext⟩ := exists_numeral_of_returns hnumber
    -- The digit that was seen is the first one of the numeral.
    obtain ⟨d, u, hcons, -⟩ := Numeral.exists_cons hwell
    rw [hcons] at htext
    obtain ⟨rfl, rfl⟩ := List.cons.inj htext
    exact .inl ⟨u, ⟨numeral, hwell, .inl ⟨hk, hcons.symm⟩⟩, rfl⟩
  obtain ⟨rfl, hquoted⟩ | ⟨-, hkind⟩ := hkind.ite
  · obtain ⟨s, middle, hstring, hreturn⟩ := hquoted.skip_bind.bind
    obtain ⟨rfl, rfl⟩ := hreturn.pure
    obtain ⟨u, hu, rfl⟩ := exists_denotesChars_of_returns hstring
    exact .inl ⟨u ++ [0x22], ⟨u, hu, rfl⟩, by simp⟩
  obtain ⟨rfl, hlist⟩ | ⟨-, hkind⟩ := hkind.ite
  · cases n with
    | zero => exact (Ensures.failAhead _).elim hlist
    | succ m =>
        obtain ⟨vs, middle, hitems, hreturn⟩ := hlist.skip_bind.bind
        obtain ⟨rfl, rfl⟩ := hreturn.pure
        exact .inr (.inl ⟨rfl, m, vs, rfl, rfl, hitems⟩)
  obtain ⟨rfl, hobject⟩ | ⟨-, hfault⟩ := hkind.ite
  · cases n with
    | zero => exact (Ensures.failAhead _).elim hobject
    | succ m =>
        obtain ⟨ms, middle, hmembers, hreturn⟩ := hobject.skip_bind.bind
        obtain ⟨rfl, rfl⟩ := hreturn.pure
        exact .inr (.inr ⟨rfl, m, ms, rfl, rfl, hmembers⟩)
  · exact (Ensures.failAhead _).elim hfault

/-- Only the texts of a document are read as it. Induction on the brackets that may be open. -/
theorem sound_value (n : Nat) : Sound (Reader.value n) (Denotes n) := by
  induction n with
  | zero =>
      intro input rest v hr
      obtain ⟨ws, b, t, hws, rfl, ⟨u, hu, rfl⟩ | ⟨-, m, vs, hm, -⟩ | ⟨-, m, ms, hm, -⟩⟩ := hr.value
      · exact ⟨ws, b :: u, hws, hu.denotes 0, rfl⟩
      · cases hm
      · cases hm
  | succ n ih =>
      intro input rest v hr
      obtain ⟨ws, b, t, hws, rfl, ⟨u, hu, rfl⟩ | ⟨rfl, m, vs, hm, rfl, hitems⟩ |
        ⟨rfl, m, ms, hm, rfl, hmembers⟩⟩ := hr.value
      · exact ⟨ws, b :: u, hws, hu.denotes _, rfl⟩
      · -- The items are read one level deeper, up to the bracket, and then the bracket.
        obtain rfl := Nat.succ.inj hm
        obtain ⟨middle, hread, hclose⟩ := hitems.closing
        obtain ⟨ts, u, tail, hts, hu, rfl, rfl⟩ := exists_items_of_returns ih hread
        obtain ⟨-, rfl⟩ := hclose.eq_of_consumes (consumes_endList tail)
        exact ⟨ws, _, hws, ⟨ts, u, hts, hu, rfl⟩, by simp⟩
      · obtain rfl := Nat.succ.inj hm
        obtain ⟨middle, hread, hclose⟩ := hmembers.closing
        obtain ⟨pairs, ts, u, tail, rfl, hts, hu, rfl, rfl⟩ := exists_members_of_returns ih hread
        obtain ⟨-, rfl⟩ := hclose.eq_of_consumes (consumes_endObject tail)
        exact ⟨ws, _, hws, ⟨pairs, ts, u, rfl, hts, hu, rfl⟩, by simp⟩

/-- The texts that are read as a document are its texts, with blanks around them. -/
theorem Value.decode_eq_ok_iff {bytes : List UInt8} {v : Value} :
    Value.decode bytes = .ok v ↔
      ∃ before t after, Denotes Reader.depthLimit v t ∧ Blank before ∧ Blank after ∧
        bytes = before ++ (t ++ after) :=
  run_whole_eq_ok_iff (reads_denotes _) (sound_value _)

end PushRegistry.Json
