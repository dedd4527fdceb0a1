import PushRegistry.Proofs.Json.AnyOrder
import PushRegistry.Proofs.Json.Grammar

/-!
# `PushRegistry.Proofs.Json.Values`: typed readers in front of values

A typed reader takes less than all values: a reader of strings only strings, a reader of variants only
their names. If it stands in front of a value of any shape and returns at all, then the value is one
of its texts and it takes the whole of it (`Sound.of_value`). This is so because the grammar of values
is unambiguous: no value is the beginning of another one, in front of what may follow a value
(`IsValue.append_cancel`).

The texts of strings, of variants and of whole documents are values. `sound_stringValue` and
`sound_variantText` are the readers that take only some of them.

Records are read by a loop, and here the texts that it meets are known: it takes them one by one, each
as its step does (`path_of_returns_fields`). Of a step it must be known that it takes a member as a
whole, which is where the unambiguity comes in: `Returns.field` for the members under the names of
fields and `Returns.unknown` for all others.
-/

set_option autoImplicit false

namespace PushRegistry.Json

open PushRegistry.Text

variable {α σ : Type}

/-! ### Values are unambiguous -/

/-- Of two values with something behind them that may follow a value, none is longer. -/
theorem IsValue.append_cancel {v v' rest rest' : List UInt8} (hv : IsValue v) (hv' : IsValue v')
    (hrest : Delimited rest) (hrest' : Delimited rest') (h : v ++ rest = v' ++ rest') :
    v = v' ∧ rest = rest' := by
  have hread : Consumes Reader.skipValue (v ++ rest) () rest :=
    consumes_skipValue hv Blank.nil hrest
  have hread' : Consumes Reader.skipValue (v' ++ rest') () rest' :=
    consumes_skipValue hv' Blank.nil hrest'
  -- Both are passed from the same text, so that the same is left.
  rw [h] at hread
  obtain ⟨-, rfl⟩ := hread.returns.eq_of_consumes hread'
  exact ⟨List.append_cancel_right h, rfl⟩

/-- In front of a value a reader takes the value, if its texts are values. -/
theorem Sound.of_value {reader : Reader α} {spells : α → List UInt8 → Prop}
    (h : Sound reader spells) (hspells : ∀ a t, spells a t → IsValue t) {a : α}
    {ws v rest rest' : List UInt8} (hr : Returns reader (ws ++ (v ++ rest)) a rest')
    (hws : Blank ws) (hv : IsValue v) (hrest : Delimited rest) (hrest' : Delimited rest') :
    spells a v ∧ rest' = rest := by
  obtain ⟨ws', t, hws', ht, heq⟩ := h hr
  obtain ⟨b, u, hcons, hb, -⟩ := hv.exists_cons
  obtain ⟨b', u', hcons', hb', -⟩ := (hspells a t ht).exists_cons
  have htoken : v ++ rest = t ++ rest' := by
    rw [hcons, hcons', List.cons_append, List.cons_append] at heq ⊢
    exact (Blank.append_cancel hws hws' hb hb' heq).2
  obtain ⟨rfl, rfl⟩ := hv.append_cancel (hspells a t ht) hrest hrest' htoken
  exact ⟨ht, rfl⟩

/-- A text on its own that is a value is read as a whole if it is a text of the reader. -/
theorem run_whole_value_eq_ok_iff {reader : Nat → Reader α} {spells : α → List UInt8 → Prop}
    (hreads : Reads (reader Reader.depthLimit) spells)
    (hsound : Sound (reader Reader.depthLimit) spells) (hspells : ∀ a t, spells a t → IsValue t)
    {v : List UInt8} (hv : IsValue v) {a : α} :
    Reader.run (Reader.whole reader) v = .ok a ↔ spells a v := by
  rw [run_whole_eq_ok_iff hreads hsound]
  constructor
  · rintro ⟨before, t, after, ht, hbefore, hafter, rfl⟩
    obtain ⟨b, u, hcons, hb, -⟩ := hv.exists_cons
    obtain ⟨b', u', hcons', hb', -⟩ := (hspells a t ht).exists_cons
    have hdelimited : Delimited after := fun b hb => .inl (hafter b (List.mem_of_mem_head? hb))
    -- A value starts with no blank, and it ends where the text of the reader does.
    have hstart : [] ++ b :: u = before ++ b' :: (u' ++ after) := by
      rw [List.nil_append, ← hcons, hcons', List.cons_append]
    obtain ⟨rfl, -⟩ := Blank.append_cancel Blank.nil hbefore hb hb' hstart
    have hend : t ++ after ++ [] = t ++ after := List.append_nil _
    obtain ⟨heq, -⟩ := hv.append_cancel (hspells a t ht) .nil hdelimited hend
    rw [List.nil_append] at heq ⊢
    rwa [heq]
  · intro h
    exact ⟨[], v, [], h, Blank.nil, Blank.nil, by rw [List.nil_append, List.append_nil]⟩

/-! ### Strings -/

/-- A character that is written as it is has no byte that would end the string, start an escape or be
refused. -/
theorem plain_of_mem {c : Char} (hcontrol : 0x20 ≤ c.toNat) (hquote : c ≠ '"')
    (hbackslash : c ≠ '\\') {b : UInt8} (hb : b ∈ String.utf8EncodeChar c) :
    ¬ b < 0x20 ∧ b ≠ 0x22 ∧ b ≠ 0x5c := by
  -- An ASCII byte is all of its character, and the other bytes are none of these.
  have hascii : b.toNat < 0x80 → Char.ofNat b.toNat = c := by
    intro hlow
    have hdecode : Utf8.decode? (String.utf8EncodeChar c) = some [c] := by
      simpa [Utf8.encode_cons] using Utf8.decode?_encode [c]
    exact List.mem_singleton.mp (Utf8.mem_of_decode? hdecode hb hlow)
  refine ⟨?_, ?_, ?_⟩
  · intro hlt
    have hb20 : b.toNat < 0x20 := UInt8.lt_iff_toNat_lt.mp hlt
    have hc : c.toNat = b.toNat := by
      rw [← hascii (by omega)]
      exact Utf8.toNat_ofNat_of_valid (Or.inl (by omega))
    omega
  · rintro rfl
    exact hquote (hascii (by decide)).symm
  · rintro rfl
    exact hbackslash (hascii (by decide)).symm

theorem IsPassage.append_plain {bytes t : List UInt8} (h : IsPassage t)
    (hbytes : ∀ b ∈ bytes, ¬ b < 0x20 ∧ b ≠ 0x22 ∧ b ≠ 0x5c) : IsPassage (bytes ++ t) := by
  induction bytes with
  | nil => exact h
  | cons b bytes ih =>
      obtain ⟨⟨hcontrol, hquote, hbackslash⟩, htail⟩ := List.forall_mem_cons.mp hbytes
      exact .byte hcontrol hquote hbackslash (ih htail)

/-- What stands between the quotes of a string may stand between quotes. -/
theorem DenotesChars.isPassage {cs : List Char} {t : List UInt8} (h : DenotesChars cs t) :
    IsPassage t := by
  induction h with
  | nil => exact .nil
  | cons hc _ ih =>
      cases hc with
      | spelled hc =>
          cases hc with
          | plain hcontrol hquote hbackslash =>
              exact ih.append_plain fun b hb => plain_of_mem hcontrol hquote hbackslash hb
          | short hb => exact .short (List.mem_map_of_mem hb) ih
          | unicode hdigits _ => exact .unicode hdigits ih
      | pair hhigh hlow => exact .unicode hhigh (.unicode hlow ih)

theorem DenotesString.isValue {s : String} {t : List UInt8} (h : DenotesString s t) : IsValue t := by
  obtain ⟨u, hu, rfl⟩ := h
  exact .quoted hu.isPassage

/-- A reader of strings takes only the texts of strings. -/
theorem sound_stringValue : Sound Reader.stringValue DenotesString := by
  intro input rest s hr
  obtain ⟨ws, b, t, hws, rfl, -, hseen⟩ := hr.token_bind (.failAhead _)
  obtain ⟨rfl, hquoted⟩ | ⟨-, hfault⟩ := hseen.ite
  · obtain ⟨u, hu, rfl⟩ := exists_denotesChars_of_returns hquoted.skip_bind
    exact ⟨ws, _, hws, ⟨u, hu, rfl⟩, by simp⟩
  · exact (Ensures.refuse _).elim hfault

/-! ### Objects -/

/-- The text of an object is a value, if those of its members are. -/
theorem ObjectText.isValue {ms : List (String × List UInt8)} {t : List UInt8} (h : ObjectText ms t)
    (hvalues : ∀ m ∈ ms, IsValue m.2) : IsValue t := by
  obtain ⟨ts, u, hts, hu, rfl⟩ := h
  -- Each member is its label, up to the blanks behind the colon, and its value.
  have hparts : ∃ parts : List (List UInt8 × List UInt8), (∀ m ∈ parts, IsLabel m.1) ∧
      (∀ m ∈ parts, IsValue m.2) ∧ (parts.map fun m => m.1 ++ m.2) = ts := by
    clear hu
    induction hts with
    | nil => exact ⟨[], by simp, by simp, rfl⟩
    | @cons m t ms ts hm _ ih =>
        obtain ⟨hv, htail⟩ := List.forall_mem_cons.mp hvalues
        obtain ⟨parts, hlabels, hparts, rfl⟩ := ih htail
        obtain ⟨name, before, after, v, hname, hbefore, hafter, rfl, rfl⟩ := hm
        have hlabel : IsLabel (0x22 :: (name ++ 0x22 :: (before ++ 0x3a :: after))) :=
          ⟨name, before, after, hname.isPassage, hbefore, hafter, rfl⟩
        exact ⟨(_, m.2) :: parts, List.forall_mem_cons.mpr ⟨hlabel, hlabels⟩,
          List.forall_mem_cons.mpr ⟨hv, hparts⟩, by simp⟩
  obtain ⟨parts, hlabels, hparts, rfl⟩ := hparts
  exact .object hlabels hparts hu

/-! ### Documents -/

theorem Numeral.isMagnitude {n : Numeral} (h : n.WellFormed) : IsMagnitude n.text :=
  ⟨_, _, _, h.whole, isFraction_fractionText h.fraction, isExponent_exponentText h.exponent, rfl⟩

theorem DenotesScalar.isValue {v : Value} {t : List UInt8} (h : DenotesScalar v t) : IsValue t := by
  cases v with
  | null => exact h ▸ .null
  | bool b =>
      cases b with
      | false => exact h ▸ .no
      | true => exact h ▸ .yes
  | number k =>
      obtain ⟨n, hn, ⟨-, rfl⟩ | ⟨-, rfl⟩⟩ := h
      · exact .positive (Numeral.isMagnitude hn)
      · exact .negative (Numeral.isMagnitude hn)
  | string s => exact DenotesString.isValue h
  | array vs => exact h.elim
  | object ms => exact h.elim

/-- The text of a document is the text of a value. Induction on the brackets that may be open. -/
theorem Denotes.isValue {n : Nat} {v : Value} {t : List UInt8} (h : Denotes n v t) : IsValue t := by
  induction n generalizing v t with
  | zero => exact h.scalar.isValue
  | succ n ih =>
      cases v with
      | array vs =>
          obtain ⟨ts, u, hts, hu, rfl⟩ := h
          have hitems : List.Forall₂ (fun t v => IsValue t ∧ Denotes n v t) ts vs :=
            List.Forall₂.flip (hts.imp fun _ _ hv => ⟨ih hv, hv⟩)
          exact .list ((List.forall₂_and_left ts vs).mp hitems).1 hu
      | object ms =>
          obtain ⟨pairs, ts, u, rfl, hts, hu, rfl⟩ := h
          obtain ⟨raw, hvalues, htexts⟩ := exists_values hts
          have hmembers : List.Forall₂ (fun m p => IsValue m.2 ∧ Denotes n p.2 m.2) raw pairs :=
            List.Forall₂.flip (hvalues.imp fun _ _ hp => ⟨ih hp.2, hp.2⟩)
          exact ObjectText.isValue ⟨ts, u, htexts, hu, rfl⟩
            ((List.forall₂_and_left raw pairs).mp hmembers).1
      | null => exact DenotesScalar.isValue h
      | bool b => exact DenotesScalar.isValue h
      | number k => exact DenotesScalar.isValue h
      | string s => exact DenotesScalar.isValue h

/-! ### Variants -/

/-- The texts of a variant without content: its name, or an object with the name as only member and
`null` as its value. -/
def VariantText (variant? : String → Option α) (a : α) (t : List UInt8) : Prop :=
  ∃ name, variant? name = some a ∧
    (DenotesString name t ∨ ObjectText [(name, [0x6e, 0x75, 0x6c, 0x6c])] t)

theorem VariantText.isValue {variant? : String → Option α} {a : α} {t : List UInt8}
    (h : VariantText variant? a t) : IsValue t := by
  obtain ⟨name, -, hname | hobject⟩ := h
  · exact hname.isValue
  · refine hobject.isValue ?_
    intro m hm
    obtain rfl := List.mem_singleton.mp hm
    exact .null

/-- The text of an object with one member. -/
theorem objectText_singleton_iff {name : String} {v t : List UInt8} :
    ObjectText [(name, v)] t ↔ ∃ start u before after stop, Blank start ∧
      DenotesChars name.toList u ∧ Blank before ∧ Blank after ∧ Blank stop ∧
      t = 0x7b :: (start ++ 0x22 :: (u ++ 0x22 :: (before ++ 0x3a :: (after ++ (v ++
        (stop ++ [0x7d])))))) := by
  constructor
  · rintro ⟨ts, w, hts, hw, rfl⟩
    obtain ⟨m, ts, ⟨u, before, after, v, hu, hbefore, hafter, rfl, rfl⟩, hnil, rfl⟩ :=
      List.forall₂_cons_left_iff.mp hts
    obtain rfl := List.forall₂_nil_left_iff.mp hnil
    cases hw with
    | cons hstart htail =>
        cases htail with
        | nil hstop => exact ⟨_, u, before, after, _, hstart, hu, hbefore, hafter, hstop, by simp⟩
  · rintro ⟨start, u, before, after, stop, hstart, hu, hbefore, hafter, hstop, rfl⟩
    have hmember : DenotesMember (· = v) name
        (0x22 :: (u ++ 0x22 :: (before ++ 0x3a :: (after ++ v)))) :=
      ⟨u, before, after, v, hu, hbefore, hafter, rfl, rfl⟩
    exact ⟨_, _, .cons hmember .nil, .cons hstart (.nil hstop), by simp⟩

section Variants

variable {variant? : String → Option α} {names : List String} {n : Nat} {a : α}
  {input rest : List UInt8}

/-- A quoted name that was read as one of a variant. -/
theorem Returns.variantName (h : Returns (Reader.unitVariant.named variant? names)
    (0x22 :: input) a rest) :
    ∃ name u, variant? name = some a ∧ DenotesChars name.toList u ∧ input = u ++ 0x22 :: rest := by
  obtain ⟨name, middle, hname, hkind⟩ := h.located.skip_bind.bind
  obtain ⟨u, hu, rfl⟩ := exists_denotesChars_of_returns hname
  cases hvariant : variant? name with
  | none =>
      rw [hvariant] at hkind
      exact (Ensures.failUnlocated _).elim hkind
  | some a' =>
      rw [hvariant] at hkind
      obtain ⟨rfl, rfl⟩ := hkind.pure
      exact ⟨name, u, hvariant, hu, rfl⟩

theorem consumes_unitValue {ws : List UInt8} (hws : Blank ws) (rest : List UInt8) :
    Consumes Reader.unitValue (ws ++ ([0x6e, 0x75, 0x6c, 0x6c] ++ rest)) () rest := by
  refine Consumes.bind (Consumes.token hws (by decide) _) ?_
  exact Consumes.bind (Consumes.skip _ _) (consumes_ident [0x75, 0x6c, 0x6c] rest)

theorem Returns.unitValue (h : Returns Reader.unitValue input () rest) :
    ∃ ws, Blank ws ∧ input = ws ++ ([0x6e, 0x75, 0x6c, 0x6c] ++ rest) := by
  obtain ⟨ws, b, t, hws, rfl, -, hseen⟩ := h.token_bind (.failAhead _)
  obtain ⟨rfl, hword⟩ | ⟨-, hfault⟩ := hseen.ite
  · exact ⟨ws, hws, by rw [hword.skip_bind.ident]; rfl⟩
  · exact (Ensures.refuse _).elim hfault

/-- A variant is read from both kinds of its texts. -/
theorem reads_variantText :
    Reads (Reader.unitVariant variant? names (n + 1)) (VariantText variant?) where
  opens := by
    rintro a t ⟨name, -, h | ⟨ts, u, -, -, rfl⟩⟩
    · obtain ⟨u, rfl⟩ := h.exists_cons
      exact ⟨_, _, rfl, by decide⟩
    · exact ⟨_, _, rfl, by decide⟩
  consumes := by
    rintro a t ws rest ⟨name, hname, ⟨u, hu, rfl⟩ | h⟩ hws -
    · simp only [List.cons_append, List.append_assoc, List.nil_append]
      refine Consumes.bind (Consumes.token hws (by decide) _) ?_
      exact consumes_variantName hname hu rest
    · obtain ⟨start, u, before, after, stop, hstart, hu, hbefore, hafter, hstop, rfl⟩ :=
        objectText_singleton_iff.mp h
      simp only [List.cons_append, List.append_assoc, List.nil_append]
      refine Consumes.bind (Consumes.token hws (by decide) _) ?_
      refine Consumes.bind (Consumes.skip _ _) ?_
      refine Consumes.bind (Consumes.token hstart (by decide) _) ?_
      refine Consumes.bind (consumes_variantName hname hu _) ?_
      refine Consumes.bind (consumes_colon hbefore _) ?_
      refine Consumes.bind (consumes_unitValue hafter _) ?_
      refine Consumes.bind (Consumes.token hstop (by decide) _) ?_
      exact Consumes.bind (Consumes.skip _ _) (Consumes.pure _ _)

/-- No other text is read as a variant. -/
theorem sound_variantText :
    Sound (Reader.unitVariant variant? names (n + 1)) (VariantText variant?) := by
  intro input rest a hr
  obtain ⟨ws, b, t, hws, rfl, -, hseen⟩ := hr.token_bind (.failAhead _)
  obtain ⟨rfl, hnamed⟩ | ⟨-, hkind⟩ := hseen.ite
  · obtain ⟨name, u, hname, hu, rfl⟩ := hnamed.variantName
    exact ⟨ws, _, hws, ⟨name, hname, .inl ⟨u, hu, rfl⟩⟩, by simp⟩
  obtain ⟨rfl, hobject⟩ | ⟨-, hfault⟩ := hkind.ite
  · -- A brace, and then a name with its `null`.
    obtain ⟨start, c, w, hstart, rfl, -, hfirst⟩ := hobject.skip_bind.token_bind (.failAhead _)
    obtain ⟨rfl, hmember⟩ | ⟨-, hfault⟩ := hfirst.ite
    · obtain ⟨a', m₁, hnamed, hcolonOn⟩ := hmember.bind
      obtain ⟨_, m₂, hcolon, hvalueOn⟩ := hcolonOn.bind
      obtain ⟨_, m₃, hvalue, hendOn⟩ := hvalueOn.bind
      obtain ⟨stop, d, v, hstop, rfl, -, hend⟩ := hendOn.token_bind (.fail _)
      obtain ⟨rfl, hdone⟩ | ⟨-, hfault⟩ := hend.ite
      · obtain ⟨rfl, rfl⟩ := hdone.skip_bind.pure
        obtain ⟨after, hafter, rfl⟩ := hvalue.unitValue
        obtain ⟨before, hbefore, rfl⟩ := hcolon.colon
        obtain ⟨name, u, hname, hu, rfl⟩ := hnamed.variantName
        refine ⟨ws, _, hws, ⟨name, hname, .inr (objectText_singleton_iff.mpr
          ⟨start, u, before, after, stop, hstart, hu, hbefore, hafter, hstop, rfl⟩)⟩, ?_⟩
        simp
      · exact (Ensures.fail _).elim hfault
    · exact (Ensures.ite (.failAhead _) (.failAhead _)).elim hfault
  · exact (Ensures.failAhead _).elim hfault

end Variants

/-! ### Along a known text -/

section Loop

variable {τ : Type} {more : Bool → Reader Bool} {opens : UInt8 → Prop} {close : UInt8}
  {step : σ → Reader σ} {stuck : Reader σ} {takes : σ → τ → σ → Prop}
  {texts : τ → List UInt8 → Prop} {fuel : Nat} {s s' : σ} {xs : List τ} {ts : List (List UInt8)}
  {u tail rest : List UInt8}

/-- A loop that goes on has stopped in front of what may follow a value. -/
theorem delimited_of_returns (hmore : Marks more opens close) (hfinds : Finds more opens close)
    (hstuck : Ensures stuck fun _ => False) {input : List UInt8}
    (hr : Returns (loop more step stuck fuel false s) input s' rest) : Delimited input := by
  cases fuel with
  | zero => exact hstuck.elim hr
  | succ fuel =>
      obtain ⟨found, middle, hfound, -⟩ := hr.bind
      cases hfinds hfound with
      | done hws => exact .of_blank hws (.inr hmore.closes) _
      | next hbefore => exact .of_blank hbefore (.inl rfl) _

/-- A loop along texts that are known takes them one by one, if its step takes one. Induction on the
texts. -/
theorem path_tail_of_returns (hmore : Marks more opens close) (hfinds : Finds more opens close)
    (hstuck : Ensures stuck fun _ => False)
    (hopens : ∀ x t, texts x t → ∃ b u, t = b :: u ∧ opens b)
    (hstep : ∀ s s' x t rest rest', texts x t → Delimited rest → Delimited rest' →
      Returns (step s) (t ++ rest) s' rest' → takes s x s' ∧ rest' = rest)
    (hts : List.Forall₂ texts xs ts) (hu : SeparatedTail ts u)
    (hr : Returns (loop more step stuck fuel false s) (u ++ close :: tail) s' rest) :
    Path takes s xs s' ∧ rest = close :: tail := by
  induction hts generalizing s u fuel with
  | nil =>
      cases fuel with
      | zero => exact hstuck.elim hr
      | succ fuel =>
          cases hu with
          | nil hws =>
              obtain ⟨rfl, rfl⟩ := Returns.pure (hr.after (hmore.done hws tail))
              exact ⟨.nil, rfl⟩
  | @cons x t xs ts ht _ ih =>
      cases fuel with
      | zero => exact hstuck.elim hr
      | succ fuel =>
          cases hu with
          | cons hbefore hafter hu =>
              obtain ⟨b, v, rfl, hb⟩ := hopens _ _ ht
              simp only [List.append_assoc, List.cons_append] at hr
              obtain ⟨s₁, rest₁, hs₁, hloop⟩ := Returns.bind (hr.after (hmore.next hbefore hafter hb _))
              -- The loop goes on, so the step has stopped where a value may end.
              obtain ⟨hx, rfl⟩   := hstep _ _ _ _ _ _ ht (hu.delimited hmore.closes tail)
                (delimited_of_returns hmore hfinds hstuck hloop) hs₁
              obtain ⟨hpath, rfl⟩ := ih hu hloop
              exact ⟨.cons hx hpath, rfl⟩

/-- The whole loop along texts that are known. -/
theorem path_of_returns (hmore : Marks more opens close) (hfinds : Finds more opens close)
    (hstuck : Ensures stuck fun _ => False)
    (hopens : ∀ x t, texts x t → ∃ b u, t = b :: u ∧ opens b)
    (hstep : ∀ s s' x t rest rest', texts x t → Delimited rest → Delimited rest' →
      Returns (step s) (t ++ rest) s' rest' → takes s x s' ∧ rest' = rest)
    (hts : List.Forall₂ texts xs ts) (hu : Separated ts u)
    (hr : Returns (loop more step stuck fuel true s) (u ++ close :: tail) s' rest) :
    Path takes s xs s' ∧ rest = close :: tail := by
  cases fuel with
  | zero => exact hstuck.elim hr
  | succ fuel =>
      cases hts with
      | nil =>
          cases hu with
          | nil hws =>
              obtain ⟨rfl, rfl⟩ := Returns.pure (hr.after (hmore.done hws tail))
              exact ⟨.nil, rfl⟩
      | cons ht hts =>
          cases hu with
          | cons hbefore hu =>
              obtain ⟨b, v, rfl, hb⟩ := hopens _ _ ht
              simp only [List.append_assoc, List.cons_append] at hr
              obtain ⟨s₁, rest₁, hs₁, hloop⟩ := Returns.bind (hr.after (hmore.first hbefore hb _))
              obtain ⟨hx, rfl⟩   := hstep _ _ _ _ _ _ ht (hu.delimited hmore.closes tail)
                (delimited_of_returns hmore hfinds hstuck hloop) hs₁
              obtain ⟨hpath, rfl⟩ :=
                path_tail_of_returns hmore hfinds hstuck hopens hstep hts hu hloop
              exact ⟨.cons hx hpath, rfl⟩

end Loop

/-! ### Members -/

section Members

variable {member : String → σ → Reader σ} {s s' : σ} {name : String} {v t rest rest' : List UInt8}

/-- What is read of a member behind its name. -/
theorem Returns.memberStep (ht : DenotesMember (· = v) name t)
    (h : Returns (memberStep member s) (t ++ rest) s' rest') :
    ∃ before after, Blank before ∧ Blank after ∧
      Returns (member name s) (before ++ 0x3a :: (after ++ (v ++ rest))) s' rest' := by
  obtain ⟨u, before, after, v, hname, hbefore, hafter, rfl, rfl⟩ := ht
  simp only [List.append_assoc, List.cons_append] at h
  exact ⟨before, after, hbefore, hafter, h.skip_bind.after (consumes_string hname _)⟩

/-- A member under the name of a field: the field was not given before, and now it is. -/
theorem Returns.field {reader : Reader α} {spells : α → List UInt8 → Prop} {set : Option α → σ}
    {label : String} {given : Option α} (hsound : Sound reader spells)
    (hspells : ∀ a t, spells a t → IsValue t)
    (hmember : member name s = (do return set (← Reader.once label given reader)))
    (ht : DenotesMember (· = v) name t) (hv : IsValue v) (hrest : Delimited rest)
    (hrest' : Delimited rest') (h : Returns (Json.memberStep member s) (t ++ rest) s' rest') :
    given = none ∧ ∃ a, spells a v ∧ s' = set (some a) ∧ rest' = rest := by
  obtain ⟨before, after, hbefore, hafter, hfield⟩ := h.memberStep ht
  rw [hmember] at hfield
  obtain ⟨o, middle, honce, hreturn⟩ := hfield.bind
  obtain ⟨rfl, rfl⟩ := hreturn.pure
  obtain ⟨-, hfault⟩ | ⟨hgiven, hread⟩ := honce.ite
  · exact (Ensures.failUnlocated _).elim hfault
  obtain ⟨a, last, hvalue, hdone⟩ := Returns.bind (hread.after (consumes_colon hbefore _))
  obtain ⟨rfl, rfl⟩ := hdone.pure
  obtain ⟨ha, rfl⟩ := hsound.of_value hspells hvalue hafter hv hrest hrest'
  exact ⟨by simpa using hgiven, a, ha, rfl, rfl⟩

/-- A member under a name that is no field's changes nothing. -/
theorem Returns.unknown (hmember : member name s = Reader.unknownField s)
    (ht : DenotesMember (· = v) name t) (hv : IsValue v) (hrest : Delimited rest)
    (h : Returns (Json.memberStep member s) (t ++ rest) s' rest') : s' = s ∧ rest' = rest := by
  obtain ⟨before, after, hbefore, hafter, hfield⟩ := h.memberStep ht
  rw [hmember] at hfield
  have hbehind := hfield.after (consumes_colon hbefore _)
  obtain ⟨rfl, rfl⟩ := Returns.pure (hbehind.after (consumes_skipValue hv hafter hrest))
  exact ⟨rfl, rfl⟩

/-- The members of a record along a known text. -/
theorem path_of_returns_fields {takes : σ → String × List UInt8 → σ → Prop}
    (hstep : ∀ {s s' m t rest rest'}, DenotesMember (· = m.2) m.1 t → IsValue m.2 →
      Delimited rest → Delimited rest' →
      Returns (memberStep member s) (t ++ rest) s' rest' → takes s m s' ∧ rest' = rest)
    {ms : List (String × List UInt8)} {ts : List (List UInt8)} {u tail : List UInt8}
    (hts : List.Forall₂ (fun m => DenotesMember (· = m.2) m.1) ms ts)
    (hvalues : ∀ m ∈ ms, IsValue m.2) (hu : Separated ts u)
    (hr : Returns (Reader.fields member s) (u ++ 0x7d :: tail) s' rest) :
    Path takes s ms s' ∧ rest = 0x7d :: tail := by
  obtain ⟨c, -, hfold⟩ := hr.get
  rw [foldMembers_eq_loop] at hfold
  -- The values are known to be values, so each member is one with its value.
  have htexts : List.Forall₂ (fun m t => IsValue m.2 ∧ DenotesMember (· = m.2) m.1 t) ms ts :=
    (List.forall₂_and_left ms ts).mpr ⟨hvalues, hts⟩
  refine path_of_returns marks_hasMember finds_hasMember (.failAhead _) ?_ ?_ htexts hu hfold
  · rintro m t ⟨-, u, before, after, v, -, -, -, -, rfl⟩
    exact ⟨0x22, _, rfl, rfl⟩
  · rintro s s' m t rest rest' ⟨hv, hm⟩ hrest hrest' hread
    exact hstep hm hv hrest hrest' hread

end Members

end PushRegistry.Json
