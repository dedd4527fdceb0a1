import PushRegistry.ErrorDocument
import PushRegistry.Proofs.Json.AnyOrder
import PushRegistry.Proofs.Json.Printers

/-!
# `PushRegistry.Proofs.ErrorText`: error documents from other writers

A server may write its error documents in its own way: with the members in any order, with strings
and names escaped as it likes, with blanks, with members that clients do not know, and with `null`
for what it does not say or without a word about it. `Holds` says which members make up an error
document, and `parse_of_heldBy` that each text of these members is read as that document. The printed
text of a document is one of them (`heldBy_compact`).
-/

set_option autoImplicit false

namespace PushRegistry.ErrorDocument

open PushRegistry.Json
open PushRegistry.Text

/-- The names of the fields. -/
def fieldNames : List String := ["message", "domain", "code"]

/-- The members hold an error document: its message once, its domain and its code at most once, and
any values under all other names. -/
structure Holds (e : ErrorDocument) (ms : List (String × List UInt8)) : Prop where
  message : ∃ v, valuesOf "message" ms = [v] ∧ DenotesString e.message v
  domain : OptionalField DenotesString e.domain (valuesOf "domain" ms)
  code : OptionalField (fun k v => Decimal.Numeral.FitsInt64 k ∧ v = integer k) e.code
    (valuesOf "code" ms)
  others : ∀ m ∈ ms, m.1 ∉ fieldNames → IsValue m.2

/-- The members lead from one state of the fields to another. -/
structure Leads (p : Partial) (ms : List (String × List UInt8)) (q : Partial) : Prop where
  message : Settles DenotesString p.message (valuesOf "message" ms) q.message
  domain : Settles (OptionalText DenotesString) p.domain (valuesOf "domain" ms) q.domain
  code : Settles (OptionalText fun k v => Decimal.Numeral.FitsInt64 k ∧ v = integer k) p.code
    (valuesOf "code" ms) q.code
  others : ∀ m ∈ ms, m.1 ∉ fieldNames → IsValue m.2

theorem Leads.eq_of_nil {p q : Partial} (h : Leads p [] q) : q = p := by
  obtain ⟨hmessage, hdomain, hcode, -⟩ := h
  cases p
  cases q
  simp only [Partial.mk.injEq]
  exact ⟨hmessage.eq_of_nil, hdomain.eq_of_nil, hcode.eq_of_nil⟩

section Member

variable (p : Partial)

theorem member_message : Partial.member "message" p = (do
    return { p with message := ← Reader.once "message" p.message Reader.stringValue }) := by
  rw [Partial.member]

theorem member_domain : Partial.member "domain" p = (do
    return { p with
      domain := ← Reader.once "domain" p.domain (Reader.optional Reader.stringValue) }) := by
  rw [Partial.member]

theorem member_code : Partial.member "code" p = (do
    return { p with
      code := ← Reader.once "code" p.code (Reader.optional Reader.signedValue) }) := by
  rw [Partial.member]

theorem member_of_not_mem {name : String} (h : name ∉ fieldNames) :
    Partial.member name p = Reader.unknownField p := by
  unfold Partial.member
  split
  · exact absurd (by decide) h
  · exact absurd (by decide) h
  · exact absurd (by decide) h
  · rfl

end Member

/-- The members are read one after the other. Induction on the members: each of them settles its own
field and leaves the values of the others as they are. -/
theorem steps_of_leads {ms : List (String × List UInt8)} {ts : List (List UInt8)}
    (hts : List.Forall₂ (fun m => DenotesMember (· = m.2) m.1) ms ts) {p q : Partial}
    (h : Leads p ms q) : Steps OpensMember (memberStep Partial.member) p ts q := by
  induction hts generalizing p with
  | nil =>
      rw [h.eq_of_nil]
      exact .nil
  | @cons m t ms ts ht _ ih =>
      obtain ⟨name, v⟩ := m
      obtain ⟨hmessage, hdomain, hcode, hothers⟩ := h
      obtain ⟨hv, htail⟩ := List.forall_mem_cons.mp hothers
      by_cases hname : name ∈ fieldNames
      · simp only [fieldNames, List.mem_cons, List.not_mem_nil, or_false] at hname
        -- The value settles the field of its name, and the other two fields do not see it.
        rcases hname with rfl | rfl | rfl
        · rw [valuesOf_cons_self] at hmessage
          rw [valuesOf_cons_of_ne (by decide)] at hdomain hcode
          exact Steps.settle reads_stringValue (member_message p) hmessage ht fun a hrest =>
            ih ⟨hrest, hdomain, hcode, htail⟩
        · rw [valuesOf_cons_self] at hdomain
          rw [valuesOf_cons_of_ne (by decide)] at hmessage hcode
          exact Steps.settle reads_optionalStringValue (member_domain p) hdomain ht fun a hrest =>
            ih ⟨hmessage, hrest, hcode, htail⟩
        · rw [valuesOf_cons_self] at hcode
          rw [valuesOf_cons_of_ne (by decide)] at hmessage hdomain
          exact Steps.settle reads_optionalSigned (member_code p) hcode ht fun a hrest =>
            ih ⟨hmessage, hdomain, hrest, htail⟩
      · -- No field has this name, so the values of all three are those of the other members.
        have hne : ∀ field ∈ fieldNames, name ≠ field := by
          rintro field hfield rfl
          exact hname hfield
        rw [valuesOf_cons_of_ne (hne _ (by decide))] at hmessage hdomain hcode
        refine Steps.unknown (member_of_not_mem p hname) ?_ ht
          (ih ⟨hmessage, hdomain, hcode, htail⟩)
        rintro w rfl
        exact hv hname

/-- The members that hold a document lead to it. -/
theorem Holds.exists_leads {e : ErrorDocument} {ms : List (String × List UInt8)} (h : e.Holds ms) :
    ∃ q, Leads Partial.empty ms q ∧ q.finish = pure e := by
  obtain ⟨v, hvalues, hv⟩ := h.message
  obtain ⟨domain, hdomain, hdomain'⟩ := h.domain.settles
  obtain ⟨code, hcode, hcode'⟩ := h.code.settles
  -- A field that was left out is still as it was at the start, which counts as none.
  refine ⟨⟨some e.message, domain, code⟩, ⟨?_, hdomain, hcode, h.others⟩, ?_⟩
  · show Settles DenotesString none (valuesOf "message" ms) (some e.message)
    rw [hvalues]
    exact .given hv
  · show (pure ⟨e.message, domain.getD none, code.getD none⟩ : Reader ErrorDocument) = pure e
    rw [hdomain', hcode']

/-- Every text of the members of an error document is read as this document. -/
theorem reads_holds (n : Nat) :
    Reads (ErrorDocument.reader (n + 1)) fun e t => ∃ ms, e.Holds ms ∧ ObjectText ms t where
  opens := by
    rintro e t ⟨ms, -, ts, u, -, -, rfl⟩
    exact ⟨0x7b, _, rfl, by decide⟩
  consumes := by
    rintro e t ws rest ⟨ms, hholds, ts, u, hts, hu, rfl⟩ hws -
    obtain ⟨q, hleads, hfinish⟩ := hholds.exists_leads
    refine consumes_record hws ?_
    refine Consumes.bind (consumes_fields hu (steps_of_leads hts hleads) rest) ?_
    rw [hfinish]
    exact Consumes.pure _ _

/-- A text holds an error document: an object with its members, and blanks around it. -/
def HeldBy (e : ErrorDocument) (text : String) : Prop :=
  ∃ ms before t after, e.Holds ms ∧ ObjectText ms t ∧ Blank before ∧ Blank after ∧
    Utf8.ofString text = before ++ (t ++ after)

/-- Such a text starts with a blank or a brace. -/
theorem HeldBy.head {e : ErrorDocument} {text : String} (h : e.HeldBy text) :
    ∀ b ∈ (Utf8.ofString text).head?, b.toNat < 0x80 := by
  obtain ⟨ms, before, t, after, -, ⟨ts, u, -, -, rfl⟩, hbefore, -, htext⟩ := h
  rw [htext]
  cases before with
  | nil =>
      -- Without blanks the object comes first.
      rintro b ⟨⟩
      decide
  | cons w before =>
      rintro b ⟨⟩
      exact toNat_lt_of_isBlank (hbefore w List.mem_cons_self)

/-- A text that holds an error document is read as this document. -/
theorem parse_of_heldBy {e : ErrorDocument} {text : String} (h : e.HeldBy text) :
    ErrorDocument.parse text = .ok e := by
  obtain ⟨ms, before, t, after, hholds, ht, hbefore, hafter, htext⟩ := h
  rw [ErrorDocument.parse, htext]
  exact decode_of_reads (reads_holds 126) ⟨ms, hholds, ht⟩ hbefore hafter

/-! ### Printed documents -/

/-- A code that is a signed 64-bit word, or none. -/
def CodeFits (e : ErrorDocument) : Prop := ∀ k ∈ e.code, Decimal.Numeral.FitsInt64 k

theorem printable_toValue (n : Nat) {e : ErrorDocument} (h : e.CodeFits) :
    Printable (n + 1) e.toValue := by
  refine printable_object_cons ?_ ?_
  · cases hcode : e.code with
    | none => exact printable_null
    | some k =>
        obtain ⟨hlow, hhigh⟩ := h k hcode
        exact printable_int ⟨hlow, by omega⟩
  · refine printable_object_cons ?_ (printable_object_cons printable_string printable_object_nil)
    cases e.domain with
    | none => exact printable_null
    | some s => exact printable_string

/-- What is written for a document has its three members, with `null` for what is not there. -/
theorem exists_holds_of_writes {e : ErrorDocument} (hcode : e.CodeFits) {n : Nat} {t : List UInt8}
    (h : Writes (n + 1) e.toValue t) : ∃ ms, e.Holds ms ∧ ObjectText ms t := by
  obtain ⟨ms, hms, ht⟩ := exists_members_of_writes h
  refine ⟨ms, ?_, ht⟩
  obtain ⟨⟨_, code⟩, ms₁, ⟨⟨⟩, hcodeText⟩, hms₁, rfl⟩ := List.forall₂_cons_left_iff.mp hms
  obtain ⟨⟨_, domain⟩, ms₂, ⟨⟨⟩, hdomain⟩, hms₂, rfl⟩ := List.forall₂_cons_left_iff.mp hms₁
  obtain ⟨⟨_, message⟩, ms₃, ⟨⟨⟩, hmessage⟩, hms₃, rfl⟩ := List.forall₂_cons_left_iff.mp hms₂
  obtain rfl := List.forall₂_nil_left_iff.mp hms₃
  constructor
  case message => exact ⟨message, by simp [valuesOf], (writes_string_iff.mp hmessage).denotes⟩
  case domain => exact .inr ⟨domain, by simp [valuesOf], optionalText_of_writes hdomain⟩
  case code =>
    refine .inr ⟨code, by simp [valuesOf], ?_⟩
    cases hsome : e.code with
    | none =>
        rw [hsome] at hcodeText
        exact writes_null_iff.mp hcodeText
    | some k =>
        -- A code takes up one word with its sign, so not every integer that is written is one.
        rw [hsome] at hcodeText
        exact ⟨hcode k hsome, (writes_int_iff.mp hcodeText).2⟩
  case others =>
    intro m hm hname
    simp only [List.mem_cons, List.not_mem_nil, or_false] at hm
    rcases hm with rfl | rfl | rfl <;> exact absurd (by simp [fieldNames]) hname

/-- The printed text of a document holds it. -/
theorem heldBy_compact {e : ErrorDocument} (h : e.CodeFits) : e.HeldBy e.toValue.compact := by
  have hwrites : Writes 127 e.toValue (Utf8.ofString e.toValue.compact) :=
    writes_compact (printable_toValue 126 h)
  obtain ⟨ms, hholds, ht⟩ := exists_holds_of_writes h hwrites
  exact ⟨ms, [], _, [], hholds, ht, Blank.nil, Blank.nil, (List.append_nil _).symm⟩

/-- An error document is read back from its printed text. -/
theorem parse_compact {e : ErrorDocument} (h : e.CodeFits) :
    ErrorDocument.parse e.toValue.compact = .ok e := parse_of_heldBy (heldBy_compact h)

end PushRegistry.ErrorDocument
