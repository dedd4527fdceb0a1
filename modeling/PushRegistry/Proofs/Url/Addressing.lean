import PushRegistry.Proofs.Url.Base
import PushRegistry.Proofs.Url.Path
import PushRegistry.Url.Endpoint

/-!
# `PushRegistry.Proofs.Url.Addressing`: which identifiers a device URL carries

`require` looks at an identifier as it is given, while the path is built from what is left of
it when tabs, line feeds and carriage returns are dropped. The two agree exactly on the
identifiers without such characters, and the main statement says so:

* `deviceUrl_addresses_iff`: the URL of a device can always be built, but its path names the
  given user and token if and only if neither of them has an ignored character. It has the
  shape of a device path at all if and only if what is left of both would be accepted too.
  Two pairs share a URL if and only if the same is left of them.

`devicePath_of_accepts` and `deviceUrl_eq` are the forms in which the path is used elsewhere.
-/

set_option autoImplicit false

namespace PushRegistry.ServerAddress

open PushRegistry.Text
open PushRegistry.Url (Segment)

/-! ### Identifiers -/

/-- What is left of an identifier in a URL. -/
def stripped (value : String) : String := String.ofList (Url.strip value.toList)

/-- An identifier without characters that URLs ignore. -/
def Unaltered (value : String) : Prop := ∀ c ∈ value.toList, Url.isIgnored c = false

instance (value : String) : Decidable (Unaltered value) :=
  List.decidableBAll (fun c => Url.isIgnored c = false) value.toList

/-- An identifier that can be a single segment. -/
def Accepts (value : String) : Prop := value ≠ "" ∧ value ≠ "." ∧ value ≠ ".."

instance (value : String) : Decidable (Accepts value) :=
  inferInstanceAs (Decidable (value ≠ "" ∧ value ≠ "." ∧ value ≠ ".."))

/-- `require` accepts the same identifiers for every field. -/
theorem require_eq_ok_iff {field : Identifier} {value : String} :
    require field value = .ok () ↔ Accepts value := by
  unfold require Accepts
  by_cases hempty : value = ""
  · simp [hempty]
  · by_cases hdot : value = "." ∨ value = ".."
    · rw [if_neg hempty, if_pos hdot]
      simp only [reduceCtorEq, false_iff]
      rintro ⟨-, h1, h2⟩
      exact hdot.elim h1 h2
    · rw [if_neg hempty, if_neg hdot]
      exact iff_of_true rfl ⟨hempty, not_or.mp hdot⟩

theorem toList_stripped (value : String) : (stripped value).toList = Url.strip value.toList :=
  String.toList_ofList

theorem stripped_eq_self_iff {value : String} : stripped value = value ↔ Unaltered value := by
  rw [Unaltered, ← Url.strip_eq_self_iff, ← toList_stripped, String.toList_inj]

/-- The characters of an accepted identifier are no dot segment and not empty. -/
theorem accepts_iff_toList {value : String} :
    Accepts value ↔ value.toList ≠ [] ∧ value.toList ≠ ['.'] ∧ value.toList ≠ ['.', '.'] := by
  have h0 : value = "" ↔ value.toList = [] := by rw [← String.toList_inj]; rfl
  have h1 : value = "." ↔ value.toList = ['.'] := by rw [← String.toList_inj]; rfl
  have h2 : value = ".." ↔ value.toList = ['.', '.'] := by rw [← String.toList_inj]; rfl
  rw [Accepts, ne_eq, ne_eq, ne_eq, h0, h1, h2]

/-! ### Paths -/

/-- The segment of an identifier. -/
def identifierSegment (value : String) : Segment :=
  Percent.encode Percent.segmentSet (Url.strip value.toList)

/-- The path of a device below the root of a server. -/
def devicePath (user token : String) : List Segment :=
  Url.Path.extend [[]] (["v1", "users", user, "devices", token].map String.toList)

/-- The path of all devices of a user below the root of a server. -/
def devicesPath (user : String) : List Segment :=
  Url.Path.extend [[]] (["v1", "users", user, "devices"].map String.toList)

theorem decodeString?_identifierSegment (value : String) :
    Percent.decodeString? (identifierSegment value) = some (stripped value) :=
  Percent.decodeString?_encode Percent.reversible_segmentSet _

theorem identifierSegment_ne_nil_iff {value : String} :
    identifierSegment value ≠ [] ↔ (stripped value).toList ≠ [] := by
  rw [identifierSegment, ne_eq, Percent.encode_eq_nil_iff, toList_stripped]

theorem identifierSegment_inj {a b : String} :
    identifierSegment a = identifierSegment b ↔ stripped a = stripped b := by
  constructor
  · intro h
    rw [← String.toList_inj, toList_stripped, toList_stripped]
    exact Percent.encode_injective Percent.reversible_segmentSet h
  · intro h
    rw [identifierSegment, identifierSegment, ← toList_stripped, ← toList_stripped, h]

/-- The fixed words in front of a user. -/
theorem extend_users (more : List (List Char)) :
    Url.Path.extend [[]] ("v1".toList :: "users".toList :: more)
      = Url.Path.extend ["v1".toList, "users".toList] more := rfl

theorem extend_nil (segments : List Segment) : Url.Path.extend segments [] = segments := rfl

theorem extend_cons (segments : List Segment) (s : List Char) (more : List (List Char)) :
    Url.Path.extend segments (s :: more) = Url.Path.extend (Url.Path.push segments s) more := rfl

/-- A word is appended as it is. -/
theorem push_devices {segments : List Segment} (h : segments ≠ [[]]) :
    Url.Path.push segments "devices".toList = segments ++ ["devices".toList] := by
  rw [Url.Path.push_of_strip h (by decide) (by decide) (by decide) (by decide)]
  rfl

/-- The path of a device whose identifiers can be segments after they were stripped. -/
theorem devicePath_of_accepts {user token : String} (hu : Accepts user) (ht : Accepts token)
    (hu' : Accepts (stripped user)) (ht' : Accepts (stripped token)) :
    devicePath user token = ["v1".toList, "users".toList, identifierSegment user,
      "devices".toList, identifierSegment token] := by
  rw [accepts_iff_toList] at hu ht hu' ht'
  rw [toList_stripped] at hu' ht'
  show Url.Path.extend [[]] ("v1".toList :: "users".toList
    :: [user.toList, "devices".toList, token.toList]) = _
  rw [extend_users, extend_cons,
    Url.Path.push_of_strip (by simp) hu.2.1 hu.2.2 hu'.2.1 hu'.2.2, extend_cons,
    push_devices (by simp), extend_cons,
    Url.Path.push_of_strip (by simp) ht.2.1 ht.2.2 ht'.2.1 ht'.2.2, extend_nil]
  simp only [List.cons_append, List.nil_append, identifierSegment]

/-- The path of all devices of such a user. -/
theorem devicesPath_of_accepts {user : String} (hu : Accepts user)
    (hu' : Accepts (stripped user)) :
    devicesPath user
      = ["v1".toList, "users".toList, identifierSegment user, "devices".toList] := by
  rw [accepts_iff_toList] at hu hu'
  rw [toList_stripped] at hu'
  show Url.Path.extend [[]] ("v1".toList :: "users".toList
    :: [user.toList, "devices".toList]) = _
  rw [extend_users, extend_cons,
    Url.Path.push_of_strip (by simp) hu.2.1 hu.2.2 hu'.2.1 hu'.2.2, extend_cons,
    push_devices (by simp), extend_nil]
  simp only [List.cons_append, List.nil_append, identifierSegment]

/-- A path that ends in an empty segment does not end in two segments of which the last is not. -/
theorem concat_nil_ne {front path : List Segment} {a b : Segment} (hb : b ≠ []) :
    path ++ [[]] ≠ front ++ [a, b] := by
  intro h
  have hlast := congrArg List.getLast? h
  simp only [List.getLast?_append, List.getLast?_cons_cons, List.getLast?_singleton,
    Option.some_or, Option.some.injEq] at hlast
  exact hb hlast.symm

/-- If the path ends in a segment for the token, so that it is not empty and comes after a
word, then the token is no dot segment after it was stripped. -/
theorem push_devices_token {base front : List Segment} {token : String} (ht : Accepts token)
    {a b : Segment} (hb : b ≠ [])
    (h : Url.Path.push (base ++ ["devices".toList]) token.toList = front ++ [a, b]) :
    base = front ∧ b = identifierSegment token ∧ Accepts (stripped token) := by
  rw [accepts_iff_toList] at ht
  have hroot : base ++ ["devices".toList] ≠ [[]] := by simp [List.append_eq_singleton_iff]
  rcases Url.Path.push_cases hroot ht.2.1 ht.2.2 with ⟨-, hpush⟩ | ⟨-, hpush⟩ | ⟨h2, h1, hpush⟩
  · -- Two dots go back to the parent and leave an empty segment at the end.
    exact absurd (hpush.symm.trans h) (concat_nil_ne hb)
  · -- So does one dot, without going back.
    exact absurd (hpush.symm.trans h) (concat_nil_ne hb)
  · rw [hpush, ← identifierSegment, List.append_assoc] at h
    obtain ⟨hbase, hrest⟩ := List.append_inj' h rfl
    simp only [List.singleton_append, List.cons.injEq, and_true] at hrest
    have hne : (stripped token).toList ≠ [] := by
      rw [← identifierSegment_ne_nil_iff, hrest.2]
      exact hb
    refine ⟨hbase, hrest.2.symm, accepts_iff_toList.mpr ⟨hne, ?_, ?_⟩⟩
    · rw [toList_stripped]
      exact h1
    · rw [toList_stripped]
      exact h2

/-- A path with two segments in the places of user and token, neither of them empty, comes
from identifiers that are accepted after they were stripped. -/
theorem accepts_of_devicePath_eq {user token : String} (hu : Accepts user) (ht : Accepts token)
    {a b : Segment} (ha : a ≠ []) (hb : b ≠ [])
    (h : devicePath user token = ["v1".toList, "users".toList, a, "devices".toList, b]) :
    Accepts (stripped user) ∧ Accepts (stripped token) := by
  rw [accepts_iff_toList] at hu
  have hparent : Url.Path.parent ["v1".toList, "users".toList] = ["v1".toList] := by decide
  have hroot : ["v1".toList, "users".toList] ≠ [[]] := by simp
  have hne : Url.Path.push ["v1".toList, "users".toList] user.toList ≠ [[]] := by
    rcases Url.Path.push_cases hroot hu.2.1 hu.2.2 with ⟨-, hpush⟩ | ⟨-, hpush⟩ | ⟨-, -, hpush⟩
    · rw [hpush, hparent]
      simp
    · rw [hpush]
      simp
    · rw [hpush]
      simp
  have hpath : Url.Path.push (Url.Path.push ["v1".toList, "users".toList] user.toList
      ++ ["devices".toList]) token.toList
      = ["v1".toList, "users".toList, a] ++ ["devices".toList, b] := by
    rw [← push_devices hne]
    exact h
  obtain ⟨hfront, -, ht'⟩ := push_devices_token ht hb hpath
  refine ⟨?_, ht'⟩
  -- The token accounts for the end of the path; what is in front of it must come from the user.
  rcases Url.Path.push_cases hroot hu.2.1 hu.2.2 with ⟨-, hpush⟩ | ⟨-, hpush⟩ | ⟨hu2, hu1, hpush⟩
  · -- The parent of the users is left, which is one segment too few.
    rw [hpush, hparent] at hfront
    exact absurd (congrArg List.length hfront) (by simp)
  · -- An empty segment stands in the place of the user.
    rw [hpush] at hfront
    simp only [List.cons_append, List.nil_append, List.cons.injEq, true_and, and_true] at hfront
    exact absurd hfront.symm ha
  · rw [hpush, ← identifierSegment] at hfront
    simp only [List.cons_append, List.nil_append, List.cons.injEq, true_and, and_true] at hfront
    have huser : (stripped user).toList ≠ [] := by
      rw [← identifierSegment_ne_nil_iff, hfront]
      exact ha
    refine accepts_iff_toList.mpr ⟨huser, ?_, ?_⟩
    · rw [toList_stripped]
      exact hu1
    · rw [toList_stripped]
      exact hu2

/-! ### URLs -/

/-- The path between its slashes is that of one device: two segments that are not empty stand
among the fixed words. -/
def NamesDevice (url : Url) : Prop :=
  ∃ a b : Segment, a ≠ [] ∧ b ≠ [] ∧ url.pathText.splitOn '/'
    = [[], "v1".toList, "users".toList, a, "devices".toList, b]

/-- The path between its slashes is that of the given device: the two segments stand for user
and token. -/
def Addresses (url : Url) (user token : String) : Prop :=
  ∃ a b : Segment, url.pathText.splitOn '/'
      = [[], "v1".toList, "users".toList, a, "devices".toList, b] ∧
    Percent.decodeString? a = some user ∧ Percent.decodeString? b = some token

/-- A resource of a server without a path of its own. -/
theorem endpoint_eq [Url.Idna] {server : ServerAddress} {base : Url}
    (hbase : server.baseUrl = .ok base) (hpath : base.path = [[]]) (segments : List String) :
    server.endpoint segments
      = .ok { base with path := Url.Path.extend [[]] (segments.map String.toList) } := by
  simp only [endpoint, hbase, hpath]
  rfl

/-- The URL of a device on a server without a path of its own. -/
theorem deviceUrl_eq [Url.Idna] {server : ServerAddress} {base : Url} {user token : String}
    (hbase : server.baseUrl = .ok base) (hpath : base.path = [[]]) (hu : Accepts user)
    (ht : Accepts token) :
    server.deviceUrl user token = .ok { base with path := devicePath user token } := by
  have hrequire : server.deviceUrl user token
      = server.endpoint ["v1", "users", user, "devices", token] := by
    unfold deviceUrl
    rw [require_eq_ok_iff.mpr hu, require_eq_ok_iff.mpr ht]
    simp only [bind, Except.bind]
  rw [hrequire, endpoint_eq hbase hpath, devicePath]

/-- The URL of all devices of a user on a server without a path of its own. -/
theorem devicesUrl_eq [Url.Idna] {server : ServerAddress} {base : Url} {user : String}
    (hbase : server.baseUrl = .ok base) (hpath : base.path = [[]]) (hu : Accepts user) :
    server.devicesUrl user = .ok { base with path := devicesPath user } := by
  have hrequire : server.devicesUrl user
      = server.endpoint ["v1", "users", user, "devices"] := by
    unfold devicesUrl
    rw [require_eq_ok_iff.mpr hu]
    simp only [bind, Except.bind]
  rw [hrequire, endpoint_eq hbase hpath, devicesPath]

/-- The text of the path of a device splits into its segments. -/
theorem splitOn_devicePath (user token : String) :
    (Url.Path.text (devicePath user token)).splitOn '/' = [] :: devicePath user token := by
  refine Url.Path.splitOn_text_extend (List.cons_ne_nil _ _) ?_ _
  intro s hs
  rw [List.mem_singleton.mp hs]
  exact List.not_mem_nil

/-- The path has the shape of a device path exactly when both identifiers are accepted after
they were stripped as well. -/
theorem namesDevice_iff {base : Url} {user token : String} (hu : Accepts user)
    (ht : Accepts token) :
    NamesDevice { base with path := devicePath user token } ↔
      Accepts (stripped user) ∧ Accepts (stripped token) := by
  have hsplit : ({ base with path := devicePath user token } : Url).pathText.splitOn '/'
      = [] :: devicePath user token := splitOn_devicePath user token
  constructor
  · rintro ⟨a, b, ha, hb, h⟩
    rw [hsplit, List.cons_inj_right] at h
    exact accepts_of_devicePath_eq hu ht ha hb h
  · rintro ⟨hu', ht'⟩
    refine ⟨identifierSegment user, identifierSegment token, ?_, ?_, ?_⟩
    · exact identifierSegment_ne_nil_iff.mpr (accepts_iff_toList.mp hu').1
    · exact identifierSegment_ne_nil_iff.mpr (accepts_iff_toList.mp ht').1
    · rw [hsplit, devicePath_of_accepts hu ht hu' ht']

/-- A segment that stands for an accepted identifier is not empty. -/
theorem ne_nil_of_decodeString? {s : Segment} {value : String} (hv : Accepts value)
    (h : Percent.decodeString? s = some value) : s ≠ [] := by
  rintro rfl
  have hempty : value = "" := (Option.some.inj h).symm
  exact hv.1 hempty

/-- The path stands for the given identifiers exactly when nothing was dropped from them. -/
theorem addresses_iff {base : Url} {user token : String} (hu : Accepts user)
    (ht : Accepts token) :
    Addresses { base with path := devicePath user token } user token ↔
      Unaltered user ∧ Unaltered token := by
  have hsplit : ({ base with path := devicePath user token } : Url).pathText.splitOn '/'
      = [] :: devicePath user token := splitOn_devicePath user token
  rw [← stripped_eq_self_iff, ← stripped_eq_self_iff]
  constructor
  · rintro ⟨a, b, h, hau, hbt⟩
    rw [hsplit, List.cons_inj_right] at h
    -- The shape of the path comes first, since only then the segments are those of user and token.
    obtain ⟨hu', ht'⟩ := accepts_of_devicePath_eq hu ht (ne_nil_of_decodeString? hu hau)
      (ne_nil_of_decodeString? ht hbt) h
    rw [devicePath_of_accepts hu ht hu' ht'] at h
    simp only [List.cons.injEq, true_and, and_true] at h
    obtain ⟨rfl, rfl⟩ := h
    rw [decodeString?_identifierSegment] at hau hbt
    exact ⟨Option.some.inj hau, Option.some.inj hbt⟩
  · rintro ⟨hsu, hst⟩
    refine ⟨identifierSegment user, identifierSegment token, ?_, ?_, ?_⟩
    · rw [hsplit, devicePath_of_accepts hu ht (by rwa [hsu]) (by rwa [hst])]
    · rw [decodeString?_identifierSegment, hsu]
    · rw [decodeString?_identifierSegment, hst]

/-- Another pair has the path of an unaltered one exactly when that is what is left of it. -/
theorem devicePath_eq_iff {user token user' token' : String} (hu : Accepts user)
    (ht : Accepts token) (hu' : Accepts user') (ht' : Accepts token') (hsu : Unaltered user)
    (hst : Unaltered token) :
    devicePath user' token' = devicePath user token ↔
      stripped user' = user ∧ stripped token' = token := by
  rw [← stripped_eq_self_iff] at hsu hst
  have hpath := devicePath_of_accepts hu ht (by rwa [hsu]) (by rwa [hst])
  constructor
  · intro h
    obtain ⟨hau, hat⟩ := accepts_of_devicePath_eq hu' ht'
      (identifierSegment_ne_nil_iff.mpr (by rw [hsu]; exact (accepts_iff_toList.mp hu).1))
      (identifierSegment_ne_nil_iff.mpr (by rw [hst]; exact (accepts_iff_toList.mp ht).1))
      (h.trans hpath)
    rw [hpath, devicePath_of_accepts hu' ht' hau hat] at h
    simp only [List.cons.injEq, true_and, and_true, identifierSegment_inj, hsu, hst] at h
    exact h
  · rintro ⟨rfl, rfl⟩
    rw [hpath, devicePath_of_accepts hu' ht' hu ht, identifierSegment_inj.mpr hsu.symm,
      identifierSegment_inj.mpr hst.symm]

/-! ### The address of a device -/

/-- On a server without a path, query and fragment of its own the URL of a device can be built
for all accepted identifiers and has neither query nor fragment. Its path names the given user
and token exactly when neither holds a character that URLs ignore, and it is the path of some
device exactly when what is left of the two is accepted as well. Unaltered identifiers share
their URL only with those of which the same is left. -/
theorem deviceUrl_addresses_iff [Url.Idna] {server : ServerAddress} {base : Url}
    {user token : String} (hbase : server.baseUrl = .ok base) (hpath : base.pathText = ['/'])
    (hquery : base.query = none) (hfragment : base.fragment = none)
    (hu : require .user user = .ok ()) (ht : require .deviceToken token = .ok ()) :
    ∃ url, server.deviceUrl user token = .ok url ∧ url.query = none ∧ url.fragment = none ∧
      (Addresses url user token ↔ Unaltered user ∧ Unaltered token) ∧
      (NamesDevice url ↔ Accepts (stripped user) ∧ Accepts (stripped token)) ∧
      (Unaltered user → Unaltered token → ∀ user' token', require .user user' = .ok () →
        require .deviceToken token' = .ok () →
        (server.deviceUrl user' token' = .ok url ↔
          stripped user' = user ∧ stripped token' = token)) := by
  have hroot : base.path = [[]] := Url.Path.text_eq_slash_iff.mp hpath
  rw [require_eq_ok_iff] at hu ht
  refine ⟨_, deviceUrl_eq hbase hroot hu ht, hquery, hfragment, addresses_iff hu ht,
    namesDevice_iff hu ht, ?_⟩
  intro hsu hst user' token' hu' ht'
  rw [require_eq_ok_iff] at hu' ht'
  rw [deviceUrl_eq hbase hroot hu' ht', ← devicePath_eq_iff hu ht hu' ht' hsu hst]
  simp

section Local

attribute [local instance] Url.Idna.withoutTables

/-- A token with marks of its own is carried whole by the URL of the usual server. -/
theorem deviceUrl_addresses_iff_localhost :
    let server : ServerAddress := ⟨"localhost", 5300⟩
    let base : Url := ⟨.http, [], [], .domain "localhost".toList, some 5300, [[]], none, none⟩
    (server.baseUrl = .ok base ∧ base.pathText = ['/'] ∧ base.query = none ∧
      base.fragment = none ∧ require .user "a b" = .ok () ∧
      require .deviceToken "tok/with?query#frag" = .ok ()) ∧
    ∃ url, server.deviceUrl "a b" "tok/with?query#frag" = .ok url ∧
      Addresses url "a b" "tok/with?query#frag" := by
  have hbase : baseUrl ⟨"localhost", 5300⟩
      = .ok ⟨.http, [], [], .domain "localhost".toList, some 5300, [[]], none, none⟩ :=
    baseUrl_localhost (show 5300 ≤ 65535 by decide)
  have hu : require .user "a b" = .ok () := require_eq_ok_iff.mpr (by decide)
  have ht : require .deviceToken "tok/with?query#frag" = .ok () :=
    require_eq_ok_iff.mpr (by decide)
  obtain ⟨url, hurl, -, -, haddresses, -⟩ := deviceUrl_addresses_iff hbase rfl rfl rfl hu ht
  exact ⟨⟨hbase, rfl, rfl, rfl, hu, ht⟩, url, hurl, haddresses.mpr (by decide)⟩

/-- Not every accepted identifier is carried: the URL of a user whose name is a tab has an empty
segment in the place of the name. -/
theorem not_forall_addresses : ¬ ∀ (server : ServerAddress) (base : Url) (user token : String),
    server.baseUrl = .ok base → base.pathText = ['/'] → base.query = none →
    base.fragment = none → require .user user = .ok () → require .deviceToken token = .ok () →
    ∃ url, server.deviceUrl user token = .ok url ∧ Addresses url user token := by
  intro h
  have hbase : baseUrl ⟨"localhost", 5300⟩
      = .ok ⟨.http, [], [], .domain "localhost".toList, some 5300, [[]], none, none⟩ :=
    baseUrl_localhost (show 5300 ≤ 65535 by decide)
  obtain ⟨url, hurl, haddresses⟩ :=
    h ⟨"localhost", 5300⟩ _ "\t" "x" hbase rfl rfl rfl (require_eq_ok_iff.mpr (by decide))
      (require_eq_ok_iff.mpr (by decide))
  rw [deviceUrl_eq hbase rfl (by decide) (by decide)] at hurl
  obtain rfl := Except.ok.inj hurl
  have hunaltered := (addresses_iff (by decide) (by decide)).mp haddresses
  exact absurd hunaltered.1 (by decide)

end Local

end PushRegistry.ServerAddress
