import PushRegistry.Proofs.Client.Answered
import PushRegistry.Proofs.ErrorText

/-!
# `PushRegistry.Proofs.Client.FailedResponse`: what a failed response reports

The report of a failure comes from one of three places, and `conclude_failed` says from which. If
the text of the body is an error document, its message, domain and code are reported. Otherwise the
message is the whole text as it was received, with all blanks around it, or, if there is nothing to
read, the status. A body that ends too early counts as nothing to read, whatever came before the end.

An error document in UTF-8 is recovered whoever wrote it and in whatever way
(`ErrorDocument.HeldBy`). It has no byte order mark because it starts with a blank or a brace.
-/

set_option autoImplicit false

namespace PushRegistry.Client

open PushRegistry.Http
open PushRegistry.Json
open PushRegistry.Registry
open PushRegistry.Text

/-! ### Texts -/

theorem ofText_of_parse_ok {status : Status} {text : String} {doc : ErrorDocument}
    (h : ErrorDocument.parse text = .ok doc) :
    Remote.ofText status text = ⟨status, doc.message, doc.domain, doc.code⟩ := by
  rw [Remote.ofText, h]

/-- A text that is no error document is the message, if there is more to it than blanks. -/
theorem ofText_of_parse_error {status : Status} {text : String} {fault : Json.Fault}
    (h : ErrorDocument.parse text = .error fault) :
    ((∃ c ∈ text.toList, Text.isBlank c = false) →
      Remote.ofText status text = ⟨status, text, none, none⟩) ∧
    ((∀ c ∈ text.toList, Text.isBlank c = true) →
      Remote.ofText status text = ⟨status, "HTTP " ++ status.text, none, none⟩) := by
  rw [Remote.ofText, h]
  constructor
  · rintro ⟨c, hc, hblank⟩
    -- One character that is no blank is enough.
    have hnot : Text.isBlankString text ≠ true := by
      intro hall
      have := List.all_eq_true.mp hall c hc
      rw [hblank] at this
      cases this
    simp only [if_neg hnot]
  · intro hall
    have hblank : Text.isBlankString text = true := List.all_eq_true.mpr hall
    simp only [if_pos hblank]

theorem ofText_empty (status : Status) :
    Remote.ofText status "" = ⟨status, "HTTP " ++ status.text, none, none⟩ := by
  -- The empty text is no document, and all its characters are blanks.
  have hempty : ∃ fault, ErrorDocument.parse "" = .error fault := ⟨_, rfl⟩
  obtain ⟨fault, hfault⟩ := hempty
  exact (ofText_of_parse_error hfault).2 (by rintro c ⟨⟩)

/-! ### Responses -/

section Reports

variable [Web] {response : Response}

theorem ofResponse_of_truncated (h : response.truncated = true) :
    Remote.ofResponse response
      = ⟨response.status, "HTTP " ++ response.status.text, none, none⟩ := by
  rw [Remote.ofResponse, if_pos h]
  exact ofText_empty _

theorem ofResponse_of_not_truncated (h : response.truncated = false) :
    Remote.ofResponse response = Remote.ofText response.status response.text := by
  rw [Remote.ofResponse, if_neg (by rw [h]; exact Bool.false_ne_true)]

/-- An error document in UTF-8 is recovered. -/
theorem ofResponse_of_heldBy {e : ErrorDocument} {text : String} (h : e.HeldBy text)
    (hwhole : response.truncated = false) (hbody : response.body = Utf8.ofString text)
    (hutf8 : response.NamesUtf8) :
    Remote.ofResponse response = ⟨response.status, e.message, e.domain, e.code⟩ := by
  rw [ofResponse_of_not_truncated hwhole, Response.text_eq hutf8 hbody h.head]
  exact ofText_of_parse_ok (ErrorDocument.parse_of_heldBy h)

/-- An operation whose final response is a failure returns the report of that response, with its
status.

- If the body ended too early, the message is the status.
- If the text of the body is an error document, the report has what the document says.
- Any other text is the message as it stands, unless it holds nothing but white space; then the
  message is the status. There is neither a domain nor a code.
- An error document in UTF-8 is recovered: with its members in any order, in any spelling and
  between any other members, and with `null` or nothing at all for a domain or a code that it does
  not have.
- A registry server writes its errors so that they are recovered. -/
theorem conclude_failed {op : Operation} {response : Response} (url : Url)
    (h : response.status.isSuccess = false) :
    ∃ report : Remote, (conclude op ⟨response, url⟩).result = .error (.remote report) ∧
      report.status = response.status ∧
      (response.truncated = true →
        report = ⟨response.status, "HTTP " ++ response.status.text, none, none⟩) ∧
      (response.truncated = false → ∀ doc, ErrorDocument.parse response.text = .ok doc →
        report = ⟨response.status, doc.message, doc.domain, doc.code⟩) ∧
      (response.truncated = false → ∀ fault, ErrorDocument.parse response.text = .error fault →
        ((∃ c ∈ response.text.toList, Text.isBlank c = false) →
          report = ⟨response.status, response.text, none, none⟩) ∧
        ((∀ c ∈ response.text.toList, Text.isBlank c = true) →
          report = ⟨response.status, "HTTP " ++ response.status.text, none, none⟩)) ∧
      (∀ (e : ErrorDocument) (text : String), e.HeldBy text → response.truncated = false →
        response.body = Utf8.ofString text → response.NamesUtf8 →
        report = ⟨response.status, e.message, e.domain, e.code⟩) ∧
      ∀ (status : Status) (message domain : String) (code : Int), Decimal.Numeral.FitsInt64 code →
        response = (Reply.error status message domain code).toResponse →
        report = ⟨status, message, some domain, some code⟩ := by
  refine ⟨Remote.ofResponse response, result_of_not_isSuccess h, status_ofResponse response,
    ofResponse_of_truncated, ?_, ?_, ?_, ?_⟩
  · intro hwhole doc hdoc
    rw [ofResponse_of_not_truncated hwhole]
    exact ofText_of_parse_ok hdoc
  · intro hwhole fault hfault
    rw [ofResponse_of_not_truncated hwhole]
    exact ofText_of_parse_error hfault
  · intro e text hheld hwhole hbody hutf8
    exact ofResponse_of_heldBy hheld hwhole hbody hutf8
  · intro status message domain code hcode hresponse
    rw [hresponse]
    exact remote_error status message domain hcode

end Reports

section Local

attribute [local instance] Web.withoutTables

/-- A document of another server: the message is one character beyond 16 bits and given by its two
surrogates, the code stands in front of it behind a member that clients do not know, and there is no
domain. The encoding is named in upper case. -/
theorem conclude_failed_surrogates :
    let text := "\x7b\"at\":[1.5],\"code\":-1,\"message\":\"\\ud83d\\ude00\"\x7d\n"
    let response : Response :=
      ⟨⟨502⟩, some "application/json; charset=UTF-8", none, Utf8.ofString text, false⟩
    let url : Url := ⟨.http, [], [], .ipv4 0x7f000001, none, [], none, none⟩
    response.status.isSuccess = false ∧
      (conclude .status ⟨response, url⟩).result
        = .error (.remote ⟨⟨502⟩, "😀", none, some (-1)⟩) := by
  intro text response url
  have hfailure : response.status.isSuccess = false := by decide
  have hutf8 : response.NamesUtf8 := by
    have hlabel : response.label? = some "UTF-8".toList := by rfl
    intro label h
    obtain rfl : "UTF-8".toList = label := Option.some.inj (hlabel.symm.trans h)
    decide
  let list : List UInt8 := [0x5b, 0x31, 0x2e, 0x35, 0x5d]
  let message : List UInt8 := 0x22 ::
    ([0x5c, 0x75, 0x64, 0x38, 0x33, 0x64, 0x5c, 0x75, 0x64, 0x65, 0x30, 0x30] ++ [0x22])
  have hnumber : IsValue [0x31, 0x2e, 0x35] := by
    have hdigit : ∀ d : UInt8, Reader.isDigit d = true → IsDigits [d] := fun d hd =>
      ⟨List.cons_ne_nil d [], List.forall_mem_singleton.mpr hd⟩
    have hfraction : IsFraction [0x2e, 0x35] := .inr ⟨[0x35], hdigit _ (by decide), rfl⟩
    have hwhole : IsWhole [0x31] := .inr ⟨hdigit _ (by decide), by decide⟩
    exact .positive ⟨_, _, [], hwhole, hfraction, .inl rfl, rfl⟩
  have hlist : IsValue list :=
    .list (List.forall_mem_singleton.mpr hnumber) (.cons Blank.nil (.nil Blank.nil))
  have hhigh : [0x64, 0x38, 0x33, 0x64].mapM Hex.byteValue? = some [13, 8, 3, 13] := by decide
  have hlow : [0x64, 0x65, 0x30, 0x30].mapM Hex.byteValue? = some [13, 14, 0, 0] := by decide
  have hmessage : DenotesString "😀" message :=
    ⟨_, .cons (.pair hhigh hlow (by decide) (by decide) (by decide)) .nil, rfl⟩
  -- The names are written as they are, and there are no blanks but the one at the end.
  have hmember : ∀ (name : String) (v : List UInt8), DenotesMember (· = v) name
      (0x22 :: (Utf8.encode (name.toList.flatMap escape) ++ 0x22 :: 0x3a :: v)) := fun name v =>
    ⟨_, [], [], v, (spellsChars_flatMap_escape _).denotes, Blank.nil, Blank.nil, rfl, rfl⟩
  have hheld : (⟨"😀", none, some (-1)⟩ : ErrorDocument).HeldBy text := by
    have hobject : ObjectText [("at", list), ("code", [0x2d, 0x31]), ("message", message)] _ :=
      ⟨_, _, .cons (hmember _ _) (.cons (hmember _ _) (.cons (hmember _ _) .nil)), .cons Blank.nil
        (.cons Blank.nil Blank.nil (.cons Blank.nil Blank.nil (.nil Blank.nil))), rfl⟩
    refine ⟨_, [], _, [0x0a], ?_, hobject, Blank.nil, by decide, by decide⟩
    constructor
    case message => exact ⟨_, rfl, hmessage⟩
    case domain => exact .inl ⟨rfl, rfl⟩
    case code => exact .inr ⟨_, rfl, by decide, by rfl⟩
    case others =>
      intro m hm hname
      simp only [List.mem_cons, List.not_mem_nil, or_false] at hm
      rcases hm with rfl | rfl | rfl
      · exact hlist
      · exact absurd (by simp [ErrorDocument.fieldNames]) hname
      · exact absurd (by simp [ErrorDocument.fieldNames]) hname
  obtain ⟨report, hresult, -, -, -, -, hrecovered, -⟩ := conclude_failed url hfailure
  refine ⟨hfailure, hresult.trans ?_⟩
  rw [hrecovered _ text hheld rfl rfl hutf8]

end Local

end PushRegistry.Client
