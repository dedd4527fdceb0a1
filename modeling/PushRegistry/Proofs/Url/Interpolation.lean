import PushRegistry.Proofs.Url.Addressing

/-!
# `PushRegistry.Proofs.Url.Interpolation`: when encoding shows

The path of a device is built from encoded segments, but for most identifiers it reads as if user
and token had simply been put into their places. The main statement, `deviceUrl_interpolates_iff`,
says for which: those without a character that `Marks` names. Two things could hide such a
character. One that is dropped makes the path shorter while one that is escaped makes it longer,
and a dot that shows after something was dropped is resolved away. Neither does, because an ignored
character cannot stand in a path at all (`eq_false_or_of_mem_devicePath`), and without one the path
only gets longer (`length_le_length_encode`).

Between its slashes the path of every device is `Escaped`, also when the identifiers do not become
segments of their own.
-/

set_option autoImplicit false

namespace PushRegistry.ServerAddress

open PushRegistry.Text
open PushRegistry.Url (Segment)

/-! ### Characters that cannot stand in a segment -/

/-- The characters that do not stand in a segment as they are: controls, blanks, what is not ASCII,
and the marks of URLs. -/
def Marks (c : Char) : Prop :=
  c.toNat < 0x20 ∨ c.toNat = 0x7f ∨ 0x80 ≤ c.toNat ∨
    c ∈ [' ', '"', '<', '>', '\x60', '#', '?', '\x7b', '\x7d', '/', '%', '\\']

instance (c : Char) : Decidable (Marks c) := inferInstanceAs (Decidable (_ ∨ _ ∨ _ ∨ _))

/-- A text that a segment can hold as it is. -/
def Unmarked (value : String) : Prop := ∀ c ∈ value.toList, ¬ Marks c

instance (value : String) : Decidable (Unmarked value) :=
  List.decidableBAll (fun c => ¬ Marks c) value.toList

/-- What is encoded in a segment. -/
theorem segmentSet_eq_true_iff {c : Char} : Percent.segmentSet c = true ↔ Marks c := by
  -- The set has no upper bound, so that it holds the delete character and all that is not ASCII.
  have hdelete : 0x7e < c.toNat ↔ c.toNat = 0x7f ∨ 0x80 ≤ c.toNat := by omega
  simp only [Percent.segmentSet, Percent.pathSet, Percent.fragmentSet, Percent.controlSet, Marks,
    List.contains_cons, List.contains_nil, Bool.or_eq_true, decide_eq_true_eq, beq_iff_eq,
    Bool.or_false, List.mem_cons, List.not_mem_nil, or_false, hdelete, or_assoc]

theorem segmentSet_eq_false_iff {c : Char} : Percent.segmentSet c = false ↔ ¬ Marks c := by
  rw [← segmentSet_eq_true_iff, Bool.not_eq_true]

/-- Tabs, line feeds and carriage returns are controls. -/
theorem marks_of_isIgnored {c : Char} (h : Url.isIgnored c = true) : Marks c := by
  simp only [Url.isIgnored, Bool.or_eq_true, decide_eq_true_eq] at h
  obtain (rfl | rfl) | rfl := h
  · decide
  · decide
  · decide

theorem Unmarked.unaltered {value : String} (h : Unmarked value) : Unaltered value := by
  intro c hc
  by_contra hignored
  exact h c hc (marks_of_isIgnored (Bool.not_eq_false _ ▸ hignored))

/-! ### Paths of devices -/

/-- The path with user and token put into their places as they are. -/
def interpolated (user token : String) : List Char :=
  ("/v1/users/" ++ user ++ "/devices/" ++ token).toList

theorem interpolated_eq (user token : String) :
    interpolated user token
      = "/v1/users/".toList ++ (user.toList ++ ("/devices/".toList ++ token.toList)) := by
  simp only [interpolated, String.toList_append, List.append_assoc]

/-- The path of two identifiers that become segments of their own. -/
theorem text_devicePath {user token : String} (hu : Accepts user) (ht : Accepts token)
    (hu' : Unaltered user) (ht' : Unaltered token) :
    Url.Path.text (devicePath user token)
      = "/v1/users/".toList ++ (Percent.encode Percent.segmentSet user.toList
        ++ ("/devices/".toList ++ Percent.encode Percent.segmentSet token.toList)) := by
  have hsu := stripped_eq_self_iff.mpr hu'
  have hst := stripped_eq_self_iff.mpr ht'
  rw [devicePath_of_accepts hu ht (by rwa [hsu]) (by rwa [hst]), identifierSegment,
    identifierSegment, ← toList_stripped, ← toList_stripped, hsu, hst]
  simp only [Url.Path.text_cons]
  rw [show Url.Path.text [] = [] from rfl, List.append_nil]
  simp

/-- Whatever the identifiers are, the segments of the path hold nothing but escapes and characters
without a special meaning. -/
theorem escaped_of_mem_devicePath (user token : String) :
    ∀ s ∈ devicePath user token, Percent.Escaped Percent.segmentSet s := by
  refine Url.Path.forall_mem_extend ?_ .nil (Percent.escaped_encode _) _
  intro s hs
  rw [List.mem_singleton.mp hs]
  exact .nil

/-- The characters of the path: no mark stands in it but slashes and the marks of escapes. -/
theorem not_marks_or_of_mem_text {user token : String} {c : Char}
    (hc : c ∈ Url.Path.text (devicePath user token)) : ¬ Marks c ∨ c = '%' ∨ c = '/' := by
  obtain ⟨s, hs, hc⟩ := List.mem_flatMap.mp hc
  rcases List.mem_cons.mp hc with rfl | hc
  · exact .inr (.inr rfl)
  · rcases (escaped_of_mem_devicePath user token s hs).eq_false_or_eq_mark
      (fun _ => Percent.segmentSet_of_mem_escapeDigits) hc with h | h
    · exact .inl (segmentSet_eq_false_iff.mp h)
    · exact .inr (.inl h)

/-- An identifier that stands in the path as it is has no ignored character. -/
theorem unaltered_of_forall_mem_text (user token : String) {value : String}
    (h : ∀ c ∈ value.toList, c ∈ Url.Path.text (devicePath user token)) : Unaltered value := by
  intro c hc
  by_contra hignored
  have hmarks : Marks c := marks_of_isIgnored (Bool.not_eq_false _ ▸ hignored)
  rcases not_marks_or_of_mem_text (h c hc) with hplain | rfl | rfl
  · exact hplain hmarks
  · exact absurd (by decide) hignored
  · exact absurd (by decide) hignored

/-- The path is the interpolated text exactly if the identifiers hold no marks. -/
theorem text_devicePath_eq_interpolated_iff {user token : String} (hu : Accepts user)
    (ht : Accepts token) :
    Url.Path.text (devicePath user token) = interpolated user token ↔
      Unmarked user ∧ Unmarked token := by
  constructor
  · intro h
    -- First nothing was dropped, since both identifiers stand in the path.
    have hu' : Unaltered user := unaltered_of_forall_mem_text user token <| by
      intro c hc
      rw [h, interpolated_eq]
      simp [hc]
    have ht' : Unaltered token := unaltered_of_forall_mem_text user token <| by
      intro c hc
      rw [h, interpolated_eq]
      simp [hc]
    -- Then nothing was escaped, since the path has the length of the text.
    have hlength := congrArg List.length h
    rw [text_devicePath hu ht hu' ht', interpolated_eq] at hlength
    simp only [List.length_append] at hlength
    have hulength := Percent.length_le_length_encode Percent.segmentSet user.toList
    have htlength := Percent.length_le_length_encode Percent.segmentSet token.toList
    constructor
    · intro c hc
      exact segmentSet_eq_false_iff.mp (Percent.eq_false_of_length_encode (by omega) c hc)
    · intro c hc
      exact segmentSet_eq_false_iff.mp (Percent.eq_false_of_length_encode (by omega) c hc)
  · rintro ⟨hu', ht'⟩
    rw [text_devicePath hu ht hu'.unaltered ht'.unaltered, interpolated_eq,
      Percent.encode_eq_self fun c hc => segmentSet_eq_false_iff.mpr (hu' c hc),
      Percent.encode_eq_self fun c hc => segmentSet_eq_false_iff.mpr (ht' c hc)]

/-! ### The URL of a device -/

/-- On a server without a path of its own the URL of a device can be built for all accepted
identifiers. Its path is the interpolated text if and only if neither of them holds a mark. In any
case the path is ASCII, and between its slashes there is nothing but characters that are no marks
and escapes of two digits. -/
theorem deviceUrl_interpolates_iff [Url.Idna] {server : ServerAddress} {base : Url}
    {user token : String} (hbase : server.baseUrl = .ok base) (hpath : base.pathText = ['/'])
    (hu : require .user user = .ok ()) (ht : require .deviceToken token = .ok ()) :
    ∃ url, server.deviceUrl user token = .ok url ∧
      (url.pathText = interpolated user token ↔ Unmarked user ∧ Unmarked token) ∧
      (∀ s ∈ url.pathText.splitOn '/', Percent.Escaped Percent.segmentSet s) ∧
      ∀ c ∈ url.pathText, c.toNat < 0x80 ∧ (Marks c → c = '%' ∨ c = '/') := by
  have hroot : base.path = [[]] := Url.Path.text_eq_slash_iff.mp hpath
  rw [require_eq_ok_iff] at hu ht
  refine ⟨_, deviceUrl_eq hbase hroot hu ht, text_devicePath_eq_interpolated_iff hu ht, ?_, ?_⟩
  · intro s hs
    have hsplit : s ∈ [] :: devicePath user token := by rwa [← splitOn_devicePath]
    rcases List.mem_cons.mp hsplit with rfl | hs
    · exact .nil
    · exact escaped_of_mem_devicePath user token s hs
  · intro c hc
    rcases not_marks_or_of_mem_text hc with hplain | hmark
    · refine ⟨?_, fun h => absurd h hplain⟩
      by_contra hlarge
      exact hplain (.inr (.inr (.inl (Nat.le_of_not_lt hlarge))))
    · obtain rfl | rfl := hmark
      · exact ⟨by decide, fun _ => .inl rfl⟩
      · exact ⟨by decide, fun _ => .inr rfl⟩

section Local

attribute [local instance] Url.Idna.withoutTables

/-- At the usual server a user with an at sign and a bar is put in as it is, next to a token of dots
and colons. -/
theorem deviceUrl_interpolates_iff_localhost :
    let server : ServerAddress := ⟨"localhost", 5300⟩
    let base : Url := ⟨.http, [], [], .domain "localhost".toList, some 5300, [[]], none, none⟩
    (server.baseUrl = .ok base ∧ base.pathText = ['/'] ∧ require .user "al@ice|1" = .ok () ∧
      require .deviceToken "...:^" = .ok ()) ∧
    ∃ url, server.deviceUrl "al@ice|1" "...:^" = .ok url ∧
      url.pathText = "/v1/users/al@ice|1/devices/...:^".toList := by
  have hbase : baseUrl ⟨"localhost", 5300⟩
      = .ok ⟨.http, [], [], .domain "localhost".toList, some 5300, [[]], none, none⟩ :=
    baseUrl_localhost (show 5300 ≤ 65535 by decide)
  have hu : require .user "al@ice|1" = .ok () := require_eq_ok_iff.mpr (by decide)
  have ht : require .deviceToken "...:^" = .ok () := require_eq_ok_iff.mpr (by decide)
  obtain ⟨url, hurl, hiff, -⟩ := deviceUrl_interpolates_iff hbase rfl hu ht
  exact ⟨⟨hbase, rfl, hu, ht⟩, url, hurl, hiff.mpr (by decide)⟩

end Local

end PushRegistry.ServerAddress
