import PushRegistry.Http.Message
import PushRegistry.Proofs.Text.Utf8

/-!
# `PushRegistry.Proofs.Http.Encoding`: bodies in UTF-8

A body is text in the encoding that the content type names, and in UTF-8 if it names none. A byte
order mark would win over the name, but a text that starts with an ASCII character has no mark.
`Response.text_eq` says that such a text in UTF-8 is received as it was sent.
-/

set_option autoImplicit false

namespace PushRegistry.Text.Charset

theorem toLower_of_isLabelBlank {c : Char} (h : isLabelBlank c = true) : c.toLower = c := by
  simp only [isLabelBlank, List.contains_eq_mem, List.mem_cons, List.not_mem_nil, or_false,
    decide_eq_true_eq] at h
  rcases h with rfl | rfl | rfl | rfl | rfl <;> rfl

theorem dropWhile_isLabelBlank {label : List Char} (h : ∀ c ∈ label, isLabelBlank c = false) :
    label.dropWhile isLabelBlank = label := by
  cases label with
  | nil => rfl
  | cons c cs =>
      rw [List.dropWhile_cons_of_neg]
      rw [h c List.mem_cons_self]
      exact Bool.false_ne_true

/-- UTF-8 goes by each of its labels, in upper and lower case. -/
theorem ofLabel?_of_mem_utf8Labels {label : List Char}
    (h : String.ofList (label.map Char.toLower) ∈ utf8Labels) : ofLabel? label = some .utf8 := by
  have hplain : ∀ name ∈ utf8Labels, name.toList.any isLabelBlank = false := by decide
  -- A blank is its own lower case, and no label has one, so there is nothing to trim.
  have hblank : ∀ c ∈ label, isLabelBlank c = false := by
    intro c hc
    cases hc' : isLabelBlank c with
    | false => rfl
    | true =>
        have hmem : c ∈ (String.ofList (label.map Char.toLower)).toList := by
          rw [String.toList_ofList]
          exact List.mem_map.mpr ⟨c, hc, toLower_of_isLabelBlank hc'⟩
        have hany := List.any_eq_true.mpr ⟨c, hmem, hc'⟩
        rw [hplain _ h] at hany
        cases hany
  have hreverse : ∀ c ∈ label.reverse, isLabelBlank c = false := fun c hc =>
    hblank c (List.mem_reverse.mp hc)
  have hcontains : utf8Labels.contains (String.ofList (label.map Char.toLower)) = true := by
    simpa using h
  unfold ofLabel?
  simp only [dropWhile_isLabelBlank hblank, dropWhile_isLabelBlank hreverse, List.reverse_reverse,
    hcontains, if_true]

/-- The bytes of a byte order mark are not ASCII. -/
theorem splitMark_eq_none {bytes : List UInt8} (h : ∀ b ∈ bytes.head?, b.toNat < 0x80) :
    splitMark bytes = none := by
  unfold splitMark
  split
  · exact absurd (h _ rfl) (by decide)
  · exact absurd (h _ rfl) (by decide)
  · exact absurd (h _ rfl) (by decide)
  · rfl

theorem decode_utf8 [MultibyteDecoders] {text : String}
    (h : ∀ b ∈ (Utf8.ofString text).head?, b.toNat < 0x80) :
    decode .utf8 (Utf8.ofString text) = text := by
  unfold decode
  rw [splitMark_eq_none h]
  show String.ofList (Utf8.decodeLossy (Utf8.encode text.toList)) = text
  rw [Utf8.decodeLossy_encode, String.ofList_toList]

end PushRegistry.Text.Charset

namespace PushRegistry.Http.Response

open PushRegistry.Text

/-- The label of the encoding that the content type of a response names. -/
def label? (r : Response) : Option (List Char) := do
  let value ← r.contentType.filter isReadable
  MediaType.parameter? (← MediaType.parse? value.toList) "charset"

/-- The response names no encoding, or UTF-8 by one of its labels. -/
def NamesUtf8 (r : Response) : Prop :=
  ∀ label ∈ r.label?, String.ofList (label.map Char.toLower) ∈ Charset.utf8Labels

theorem charset_eq (r : Response) : r.charset = (r.label?.bind Charset.ofLabel?).getD .utf8 := by
  unfold charset label?
  cases r.contentType.filter isReadable with
  | none => rfl
  | some value =>
      cases hparams : MediaType.parse? value.toList with
      | none => simp [hparams]
      | some params => simp [hparams]

theorem charset_of_namesUtf8 {r : Response} (h : r.NamesUtf8) : r.charset = .utf8 := by
  rw [charset_eq]
  cases hlabel : r.label? with
  | none => rfl
  | some label =>
      rw [Option.bind_some, Charset.ofLabel?_of_mem_utf8Labels (h label hlabel)]
      rfl

/-- A text in UTF-8 is received as it was sent. -/
theorem text_eq [MultibyteDecoders] {r : Response} {text : String} (h : r.NamesUtf8)
    (hbody : r.body = Utf8.ofString text)
    (hhead : ∀ b ∈ (Utf8.ofString text).head?, b.toNat < 0x80) : r.text = text := by
  rw [Response.text, charset_of_namesUtf8 h, hbody]
  exact Charset.decode_utf8 hhead

end PushRegistry.Http.Response
