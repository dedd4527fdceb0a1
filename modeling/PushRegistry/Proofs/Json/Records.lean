import PushRegistry.Proofs.Json.Layout

/-!
# `PushRegistry.Proofs.Json.Records`: typed values and their texts

One statement for each of the readers that typed documents are built of: strings, integers,
optional values, names of variants, lists, maps, and records that are given as objects. A record
is read by following its members, whatever their texts are: `Fills.field` is what happens at each
of them, and `reads_record` what comes of all.
-/

set_option autoImplicit false

namespace PushRegistry.Json

variable {α σ : Type}

/-! ### Scalars -/

theorem DenotesString.exists_cons {s : String} {t : List UInt8} (h : DenotesString s t) :
    ∃ u, t = 0x22 :: u := by
  obtain ⟨u, -, rfl⟩ := h
  exact ⟨_, rfl⟩

/-- A string, in any of its spellings. -/
theorem reads_stringValue : Reads Reader.stringValue DenotesString where
  opens h := by
    obtain ⟨u, rfl⟩ := h.exists_cons
    exact ⟨_, _, rfl, by decide⟩
  consumes rest h hws _ := by
    obtain ⟨u, hu, rfl⟩ := h
    simp only [List.cons_append, List.append_assoc, List.nil_append]
    refine Consumes.bind (Consumes.token hws (by decide) _) ?_
    exact Consumes.bind (Consumes.skip _ _) (consumes_string hu rest)

theorem reads_string (n : Nat) : Reads Reader.stringValue fun s t => Writes n (.string s) t :=
  reads_stringValue.imp fun _ _ ht => (writes_string_iff.mp ht).denotes

/-- An integer in the range of a reader of numbers. -/
theorem consumes_numberValue {expected : Expected} {accept : Number → Except Cause α} {k : Int}
    {a : α} {ws rest : List UInt8} (hk : FitsWord k) (haccept : accept (.int k) = .ok a)
    (hws : Blank ws) (hrest : Delimited rest) :
    Consumes (Reader.numberValue expected accept) (ws ++ (integer k ++ rest)) a rest := by
  rcases integer_eq_cons k with ⟨m, rfl, htext⟩ | ⟨m, b, u, rfl, htext, hcons, hb⟩
  · obtain ⟨hmax, hwhole⟩ := wholeNumber_negSucc hk
    rw [htext, List.cons_append]
    refine Consumes.bind (Consumes.token hws (by decide) _) ?_
    refine Consumes.bind (Consumes.skip _ _) ?_
    refine Consumes.located (Consumes.bind (Consumes.number (m + 1) hmax hrest) ?_)
    rw [hwhole, haccept]
    exact Consumes.pure _ _
  · obtain ⟨hmax, hwhole⟩ := wholeNumber_ofNat hk
    obtain ⟨-, -, -, hminus, hopens⟩ := ne_of_isDigit hb
    have hnumber : Consumes (Reader.number false) (decimal m ++ rest) _ rest :=
      Consumes.number m hmax hrest
    rw [htext]
    rw [hcons, List.cons_append] at hnumber ⊢
    refine Consumes.bind (Consumes.token hws hopens.1 _) ?_
    simp only [if_neg hminus, if_pos hb]
    refine Consumes.located (Consumes.bind hnumber ?_)
    rw [hwhole, haccept]
    exact Consumes.pure _ _

theorem integer_opens (k : Int) : ∃ b u, integer k = b :: u ∧ OpensItem b ∧ b ≠ 0x6e := by
  rcases integer_eq_cons k with ⟨m, -, htext⟩ | ⟨m, b, u, -, htext, hcons, hb⟩
  · exact ⟨_, _, htext, by decide, by decide⟩
  · exact ⟨b, u, htext.trans hcons, (ne_of_isDigit hb).2.2.2.2, (ne_of_isDigit hb).1⟩

/-- A counter. -/
theorem reads_unsignedValue :
    Reads Reader.unsignedValue fun n t => n < UInt64.size ∧ t = integer (Int.ofNat n) where
  opens := by
    rintro n t ⟨-, rfl⟩
    obtain ⟨b, u, hcons, hopens, -⟩ := integer_opens (Int.ofNat n)
    exact ⟨b, u, hcons, hopens⟩
  consumes := by
    rintro n t ws rest ⟨hn, rfl⟩ hws hrest
    refine consumes_numberValue ⟨?_, ?_⟩ rfl hws hrest
    · exact Int.le_trans (by decide) (Int.natCast_nonneg n)
    · exact Int.ofNat_lt.mpr hn

/-- A signed integer. -/
theorem reads_signedValue :
    Reads Reader.signedValue fun k t => Decimal.Numeral.FitsInt64 k ∧ t = integer k where
  opens := by
    rintro k t ⟨-, rfl⟩
    obtain ⟨b, u, hcons, hopens, -⟩ := integer_opens k
    exact ⟨b, u, hcons, hopens⟩
  consumes := by
    rintro k t ws rest ⟨⟨hlow, hhigh⟩, rfl⟩ hws hrest
    exact consumes_numberValue ⟨hlow, by omega⟩ (if_pos hhigh) hws hrest

/-- The texts of a value that may be null. -/
def OptionalText (spells : α → List UInt8 → Prop) (o : Option α) (t : List UInt8) : Prop :=
  o.elim (t = [0x6e, 0x75, 0x6c, 0x6c]) fun a => spells a t

/-- A value that may be null. No text of the value itself may be taken for the word. -/
theorem reads_optional {reader : Reader α} {spells : α → List UInt8 → Prop}
    (h : Reads reader spells) (hne : ∀ {a t}, spells a t → t.head? ≠ some 0x6e) :
    Reads (Reader.optional reader) (OptionalText spells) where
  opens {o t} ht := by
    cases o with
    | none => exact ⟨_, _, ht, by decide⟩
    | some a => exact h.opens ht
  consumes {o t ws} rest ht hws hrest := by
    cases o with
    | none =>
        obtain rfl := ht
        refine Consumes.bind (Consumes.token hws (by decide) _) ?_
        refine Consumes.bind (Consumes.skip _ _) ?_
        exact Consumes.bind (consumes_ident [0x75, 0x6c, 0x6c] rest) (Consumes.pure _ _)
    | some a =>
        obtain ⟨b, u, rfl, hb⟩ := h.opens ht
        have hb6e : ¬ (some b = some (0x6e : UInt8)) := hne ht
        refine Consumes.bind (Consumes.token hws hb.1 _) ?_
        -- The token is not passed but only seen, so the reader of the value starts at it.
        simp only [if_neg hb6e]
        have hread := h.consumes rest ht Blank.nil hrest
        exact Consumes.bind hread (Consumes.pure _ _)

/-- A string or null, in any of its spellings. No quoted string can be taken for the word. -/
theorem reads_optionalStringValue :
    Reads (Reader.optional Reader.stringValue) (OptionalText DenotesString) :=
  reads_optional reads_stringValue fun {s t} ht => by
    obtain ⟨u, rfl⟩ := ht.exists_cons
    simp

theorem optionalText_of_writes {n : Nat} {o : Option String} {t : List UInt8}
    (h : Writes n (.ofOptionString o) t) : OptionalText DenotesString o t := by
  cases o with
  | none => exact writes_null_iff.mp h
  | some s => exact (writes_string_iff.mp h).denotes

theorem reads_optionalString (n : Nat) :
    Reads (Reader.optional Reader.stringValue) fun o t => Writes n (.ofOptionString o) t :=
  reads_optionalStringValue.imp fun _ _ => optionalText_of_writes

/-- A signed integer or null. No numeral can be taken for the word. -/
theorem reads_optionalSigned :
    Reads (Reader.optional Reader.signedValue)
      (OptionalText fun k t => Decimal.Numeral.FitsInt64 k ∧ t = integer k) :=
  reads_optional reads_signedValue fun {k t} ht => by
    obtain ⟨b, u, hcons, -, hne⟩ := integer_opens k
    rw [ht.2, hcons]
    simpa using hne

/-- The quoted name of a variant. -/
theorem consumes_variantName {variant? : String → Option α} {names : List String} {name : String}
    {a : α} {u : List UInt8} (hname : variant? name = some a) (hu : DenotesChars name.toList u)
    (rest : List UInt8) :
    Consumes (Reader.unitVariant.named variant? names) (0x22 :: (u ++ 0x22 :: rest)) a rest := by
  refine Consumes.located (Consumes.bind (Consumes.skip _ _) ?_)
  refine Consumes.bind (consumes_string hu rest) ?_
  rw [hname]
  exact Consumes.pure _ _

/-- A variant that is given by its name. -/
theorem reads_unitVariant {variant? : String → Option α} {names : List String} {n : Nat} :
    Reads (Reader.unitVariant variant? names n) fun a t =>
      ∃ name, variant? name = some a ∧ SpellsString name t where
  opens := by
    rintro a t ⟨name, -, h⟩
    obtain ⟨u, rfl⟩ := h.denotes.exists_cons
    exact ⟨_, _, rfl, by decide⟩
  consumes := by
    rintro a t ws rest ⟨name, hname, u, hu, rfl⟩ hws -
    simp only [List.cons_append, List.append_assoc, List.nil_append]
    refine Consumes.bind (Consumes.token hws (by decide) _) ?_
    exact consumes_variantName hname hu.denotes rest

/-! ### Lists -/

/-- A list whose items can be read one level deeper. -/
theorem reads_listOf {item : Nat → Reader α} {toValue : α → Value} {n : Nat}
    (h : Reads (item n) fun a t => Writes n (toValue a) t) :
    Reads (Reader.listOf item (n + 1)) fun as t => Writes (n + 1) (.array (as.map toValue)) t where
  opens := by
    rintro as t ⟨ts, u, -, -, rfl⟩
    exact ⟨_, _, rfl, by decide⟩
  consumes := by
    rintro as t ws rest ⟨ts, u, hts, hu, rfl⟩ hws -
    simp only [List.cons_append, List.append_assoc, List.nil_append]
    refine Consumes.bind (Consumes.token hws (by decide) _) (Consumes.located ?_)
    -- What is written for the documents of the items is what is written for the items.
    have hitems := List.forall₂_map_left_iff.mp hts
    exact consumes_bracketed (h.consumes_items hitems hu rest) (consumes_endList rest)

/-! ### Maps -/

/-- A map with values of any kind. -/
theorem reads_mapOfValues {n : Nat} :
    Reads (Reader.mapOfValues (n + 1)) fun ms t => Spells (n + 1) (.object ms) t where
  opens ht := ht.exists_cons
  consumes := by
    rintro ms t ws rest ⟨pairs, ts, u, rfl, hts, hu, rfl⟩ hws -
    simp only [List.cons_append, List.append_assoc, List.nil_append]
    refine Consumes.bind (Consumes.token hws (by decide) _) (Consumes.located ?_)
    have hmembers := hts.imp fun _ _ hp => SpellsMember.denotes hp
    exact consumes_bracketed (consumes_members (reads_value n) hmembers hu) (consumes_endObject rest)

/-! ### Records -/

/-- A field that was not given yet. -/
theorem consumes_once {reader : Reader α} {spells : α → List UInt8 → Prop}
    (h : Reads reader spells) {a : α} {before after t rest : List UInt8} (ht : spells a t)
    (hbefore : Blank before) (hafter : Blank after) (hrest : Delimited rest) (name : String) :
    Consumes (Reader.once name none reader) (before ++ 0x3a :: (after ++ (t ++ rest))) (some a)
      rest := by
  refine Consumes.bind (consumes_colon hbefore _) ?_
  exact Consumes.bind (h.consumes rest ht hafter hrest) (Consumes.pure _ _)

/-- The members of a record. -/
theorem consumes_fields {member : String → σ → Reader σ} {empty s : σ} {ts : List (List UInt8)}
    {t : List UInt8} (ht : Separated ts t)
    (hsteps : Steps OpensMember (memberStep member) empty ts s) (rest : List UInt8) :
    Consumes (Reader.fields member empty) (t ++ 0x7d :: rest) s (0x7d :: rest) := by
  refine Consumes.get fun c hc => consumes_foldMembers ht hsteps rest ?_
  rw [hc, List.length_append]
  omega

/-- A member that gives a field, in front of others: its reader sets the field, if it was not given
before. -/
theorem Steps.field {member : String → σ → Reader σ} {s s' : σ} {reader : Reader α}
    {spells : α → List UInt8 → Prop} {set : Option α → σ} {name label : String} {a : α}
    {value : List UInt8 → Prop} {t : List UInt8} {ts : List (List UInt8)}
    (hreads : Reads reader spells) (hvalue : ∀ v, value v → spells a v)
    (hmember : member name s = (do return set (← Reader.once label none reader)))
    (ht : DenotesMember value name t)
    (hts : Steps OpensMember (memberStep member) (set (some a)) ts s') :
    Steps OpensMember (memberStep member) s (t :: ts) s' := by
  refine Steps.member ht ?_ hts
  -- The name is passed already; what is left is the colon and the value, with any blanks.
  intro before after v rest hbefore hafter hv hrest
  rw [hmember]
  exact Consumes.bind (consumes_once hreads (hvalue v hv) hbefore hafter hrest _)
    (Consumes.pure _ _)

/-- Whatever is written for the members, reading them one after the other leads from one state to
another. -/
def Fills (member : String → σ → Reader σ) (n : Nat) (s : σ) (ms : List (String × Value))
    (s' : σ) : Prop :=
  ∀ ts, List.Forall₂ (fun p => SpellsMember (Writes n p.2) p.1) ms ts →
    Steps OpensMember (memberStep member) s ts s'

theorem Fills.nil {member : String → σ → Reader σ} {n : Nat} {s : σ} : Fills member n s [] s := by
  intro ts hts
  cases hts
  exact .nil

/-- One field in front of others: its reader sets it, if it was not given before. -/
theorem Fills.field {member : String → σ → Reader σ} {n : Nat} {s s' : σ} {reader : Reader α}
    {spells : α → List UInt8 → Prop} {set : Option α → σ} {name label : String} {a : α} {v : Value}
    {ms : List (String × Value)} (hreads : Reads reader spells)
    (hv : ∀ t, Writes n v t → spells a t)
    (hmember : member name s = (do return set (← Reader.once label none reader)))
    (hms : Fills member n (set (some a)) ms s') : Fills member n s ((name, v) :: ms) s' := by
  intro ts hts
  cases hts with
  | cons ht hts => exact Steps.field hreads hv hmember ht.denotes (hms _ hts)

/-- A record that is given as an object, if its members can be read one level deeper. -/
theorem consumes_record {name : String} {fromList fromObject : Nat → Reader α} {n : Nat} {a : α}
    {ws u rest : List UInt8} (hws : Blank ws)
    (h : Consumes (fromObject n) (u ++ 0x7d :: rest) a (0x7d :: rest)) :
    Consumes (Reader.record name fromList fromObject (n + 1))
      (ws ++ (0x7b :: (u ++ [0x7d]) ++ rest)) a rest := by
  simp only [List.cons_append, List.append_assoc, List.nil_append]
  refine Consumes.bind (Consumes.token hws (by decide) _) (Consumes.located ?_)
  exact consumes_bracketed h (consumes_endObject rest)

/-- A record is read from what is written for its document if the members, one after the other,
fill all that its last step needs. -/
theorem reads_record {name : String} {fromList fromObject : Nat → Reader α}
    {member : String → σ → Reader σ} {empty : σ} {finish : σ → Reader α} {n : Nat}
    {spells : α → List UInt8 → Prop}
    (hobject : fromObject n = (do finish (← Reader.fields member empty)))
    (h : ∀ a t, spells a t → ∃ ms s, Writes (n + 1) (.object ms) t ∧
      Fills member n empty ms s ∧ finish s = pure a) :
    Reads (Reader.record name fromList fromObject (n + 1)) spells where
  opens {a t} ht := by
    obtain ⟨ms, -, ⟨-, u, -, -, rfl⟩, -⟩ := h a t ht
    exact ⟨0x7b, _, rfl, by decide⟩
  consumes {a t ws} rest ht hws _ := by
    obtain ⟨ms, s, ⟨ts, u, hts, hu, rfl⟩, hfills, hfinish⟩ := h a t ht
    refine consumes_record hws ?_
    rw [hobject]
    refine Consumes.bind (consumes_fields hu (hfills ts hts) rest) ?_
    rw [hfinish]
    exact Consumes.pure _ _

end PushRegistry.Json
