import PushRegistry.Device
import PushRegistry.Proofs.Json.Values

/-!
# `PushRegistry.Proofs.DeviceText`: which objects are devices

A device is read from an object whose members may come in any order, two of its three fields have a
second name, and members that no field knows may stand anywhere between the others. What counts is
which values stand under the names of each field (`valuesUnder`): `Holds` says that there is one for
each field and what the three values mean, and `decode_eq_ok_iff_holds` that exactly these objects are
read as devices.

The reader is a loop over the members, with the fields that were read so far as its state. `Takes` says
what one member does to this state. `takes_of_returns` and `steps_of_path` tie it to the reader in both
directions, and `path_iff_leads` says what all members do together, with the values under the names of
each field taken apart from the others.
-/

set_option autoImplicit false

namespace PushRegistry

open PushRegistry.Json
open PushRegistry.Text

/-- The texts of a device type: a tag, or an object with a tag as only member and `null` as its
value. -/
theorem DeviceType.decode_eq_ok_iff {v : List UInt8} (hv : IsValue v) {k : DeviceType} :
    DeviceType.decode v = .ok k ↔ VariantText DeviceType.ofTag? k v :=
  run_whole_value_eq_ok_iff reads_variantText sound_variantText (fun _ _ ht => ht.isValue) hv

namespace Device

/-! ### Members by the names of a field -/

/-- The names of the account. -/
def userNames : List String := ["user"]

/-- The names of the token. -/
def tokenNames : List String := ["deviceToken", "device_token"]

/-- The names of the platform. -/
def typeNames : List String := ["deviceType", "device_type"]

/-- The names of all fields. -/
def fieldNames : List String := userNames ++ (tokenNames ++ typeNames)

/-- The values that stand under one of the names, in their order. -/
def valuesUnder (names : List String) (ms : List (String × List UInt8)) : List (List UInt8) :=
  (ms.filter fun m => m.1 ∈ names).map Prod.snd

theorem valuesUnder_cons_of_mem {names : List String} {name : String} (h : name ∈ names)
    (v : List UInt8) (ms : List (String × List UInt8)) :
    valuesUnder names ((name, v) :: ms) = v :: valuesUnder names ms := by
  simp [valuesUnder, h]

theorem valuesUnder_cons_of_not_mem {names : List String} {name : String} (h : name ∉ names)
    (v : List UInt8) (ms : List (String × List UInt8)) :
    valuesUnder names ((name, v) :: ms) = valuesUnder names ms := by
  simp [valuesUnder, h]

/-- The values under some names are values if all are. -/
theorem isValue_of_mem_valuesUnder {names : List String} {ms : List (String × List UInt8)}
    (h : ∀ m ∈ ms, IsValue m.2) {v : List UInt8} (hv : v ∈ valuesUnder names ms) : IsValue v := by
  obtain ⟨m, hm, rfl⟩ := List.mem_map.mp hv
  exact h m (List.mem_of_mem_filter hm)

/-- No name belongs to two fields. -/
theorem not_mem_of_mem_userNames {name : String} (h : name ∈ userNames) :
    name ∉ tokenNames ∧ name ∉ typeNames := by
  obtain rfl := List.mem_singleton.mp h
  decide

theorem not_mem_of_mem_tokenNames {name : String} (h : name ∈ tokenNames) :
    name ∉ userNames ∧ name ∉ typeNames := by
  simp only [tokenNames, List.mem_cons, List.not_mem_nil, or_false] at h
  rcases h with rfl | rfl <;> decide

theorem not_mem_of_mem_typeNames {name : String} (h : name ∈ typeNames) :
    name ∉ userNames ∧ name ∉ tokenNames := by
  simp only [typeNames, List.mem_cons, List.not_mem_nil, or_false] at h
  rcases h with rfl | rfl <;> decide

theorem not_mem_fieldNames_iff {name : String} :
    name ∉ fieldNames ↔ name ∉ userNames ∧ name ∉ tokenNames ∧ name ∉ typeNames := by
  simp only [fieldNames, List.mem_append, not_or]

/-! ### One member -/

section Member

variable {n : Nat} {name : String} (p : Partial)

theorem member_user (h : name ∈ userNames) : Partial.member n name p = (do
    return { p with user := ← Reader.once "user" p.user Reader.stringValue }) := by
  obtain rfl := List.mem_singleton.mp h
  rw [Partial.member]

theorem member_token (h : name ∈ tokenNames) : Partial.member n name p = (do
    return { p with token := ← Reader.once "deviceToken" p.token Reader.stringValue }) := by
  simp only [tokenNames, List.mem_cons, List.not_mem_nil, or_false] at h
  rcases h with rfl | rfl <;> (rw [Partial.member]; rfl)

theorem member_type (h : name ∈ typeNames) : Partial.member n name p = (do
    return { p with type := ← Reader.once "deviceType" p.type (DeviceType.reader n) }) := by
  simp only [typeNames, List.mem_cons, List.not_mem_nil, or_false] at h
  rcases h with rfl | rfl <;> (rw [Partial.member]; rfl)

theorem member_of_not_mem (h : name ∉ fieldNames) :
    Partial.member n name p = Reader.unknownField p := by
  unfold Partial.member
  split
  · exact absurd (by decide) h
  · exact absurd (by decide) h
  · exact absurd (by decide) h
  · exact absurd (by decide) h
  · exact absurd (by decide) h
  · rfl

end Member

/-- What one member does to the fields: under a name of a field that was not given before it gives the
field, and under any other name it does nothing. -/
inductive Takes : Partial → String × List UInt8 → Partial → Prop where
  | user {p : Partial} {name s : String} {v : List UInt8} (hname : name ∈ userNames)
      (hgiven : p.user = none) (hv : DenotesString s v) : Takes p (name, v) { p with user := some s }
  | token {p : Partial} {name s : String} {v : List UInt8} (hname : name ∈ tokenNames)
      (hgiven : p.token = none) (hv : DenotesString s v) :
      Takes p (name, v) { p with token := some s }
  | type {p : Partial} {name : String} {k : DeviceType} {v : List UInt8} (hname : name ∈ typeNames)
      (hgiven : p.type = none) (hv : VariantText DeviceType.ofTag? k v) :
      Takes p (name, v) { p with type := some k }
  | other {p : Partial} {name : String} {v : List UInt8} (hname : name ∉ fieldNames) :
      Takes p (name, v) p

/-- A member that was read did one of these. -/
theorem takes_of_returns {n : Nat} {p q : Partial} {m : String × List UInt8}
    {t rest rest' : List UInt8} (ht : DenotesMember (· = m.2) m.1 t) (hv : IsValue m.2)
    (hrest : Delimited rest) (hrest' : Delimited rest')
    (h : Returns (memberStep (Partial.member (n + 1)) p) (t ++ rest) q rest') :
    Takes p m q ∧ rest' = rest := by
  obtain ⟨name, v⟩ := m
  by_cases huser : name ∈ userNames
  · obtain ⟨hgiven, s, hs, rfl, rfl⟩ := Returns.field sound_stringValue (fun _ _ ht => ht.isValue)
      (member_user p huser) ht hv hrest hrest' h
    exact ⟨.user huser hgiven hs, rfl⟩
  by_cases htoken : name ∈ tokenNames
  · obtain ⟨hgiven, s, hs, rfl, rfl⟩ := Returns.field sound_stringValue (fun _ _ ht => ht.isValue)
      (member_token p htoken) ht hv hrest hrest' h
    exact ⟨.token htoken hgiven hs, rfl⟩
  by_cases htype : name ∈ typeNames
  · obtain ⟨hgiven, k, hk, rfl, rfl⟩ := Returns.field sound_variantText (fun _ _ ht => ht.isValue)
      (member_type p htype) ht hv hrest hrest' h
    exact ⟨.type htype hgiven hk, rfl⟩
  · have hname : name ∉ fieldNames := not_mem_fieldNames_iff.mpr ⟨huser, htoken, htype⟩
    obtain ⟨rfl, rfl⟩ := Returns.unknown (member_of_not_mem p hname) ht hv hrest h
    exact ⟨.other hname, rfl⟩

/-- What members may do one after the other, the reader does. Induction on the members. -/
theorem steps_of_path {n : Nat} {ms : List (String × List UInt8)} {ts : List (List UInt8)}
    (hts : List.Forall₂ (fun m => DenotesMember (· = m.2) m.1) ms ts)
    (hvalues : ∀ m ∈ ms, IsValue m.2) {p q : Partial} (h : Path Takes p ms q) :
    Steps OpensMember (memberStep (Partial.member (n + 1))) p ts q := by
  induction hts generalizing p with
  | nil =>
      cases h
      exact .nil
  | cons ht _ ih =>
      obtain ⟨hv, htail⟩ := List.forall_mem_cons.mp hvalues
      cases h with
      | @cons _ p' _ _ _ hm hpath =>
          have hrest := ih htail hpath
          cases hm with
          | user hname hgiven hs =>
              have hmember := member_user (n := n + 1) p hname
              rw [hgiven] at hmember
              exact Steps.field reads_stringValue (by rintro w rfl; exact hs) hmember ht hrest
          | token hname hgiven hs =>
              have hmember := member_token (n := n + 1) p hname
              rw [hgiven] at hmember
              exact Steps.field reads_stringValue (by rintro w rfl; exact hs) hmember ht hrest
          | type hname hgiven hk =>
              have hmember := member_type (n := n + 1) p hname
              rw [hgiven] at hmember
              exact Steps.field reads_variantText (by rintro w rfl; exact hk) hmember ht hrest
          | other hname =>
              exact Steps.unknown (member_of_not_mem p hname) (by rintro w rfl; exact hv) ht hrest

/-! ### All members -/

/-- The members lead from one state of the fields to another: each field is settled by the values
under its names. -/
structure Leads (p : Partial) (ms : List (String × List UInt8)) (q : Partial) : Prop where
  user : Settles DenotesString p.user (valuesUnder userNames ms) q.user
  token : Settles DenotesString p.token (valuesUnder tokenNames ms) q.token
  type : Settles (VariantText DeviceType.ofTag?) p.type (valuesUnder typeNames ms) q.type

/-- The first member settles its field, if it has one, and the other fields do not see it. -/
theorem Leads.exists_takes {p q : Partial} {m : String × List UInt8}
    {ms : List (String × List UInt8)} (h : Leads p (m :: ms) q) :
    ∃ p', Takes p m p' ∧ Leads p' ms q := by
  obtain ⟨name, v⟩ := m
  obtain ⟨huser, htoken, htype⟩ := h
  by_cases hname : name ∈ userNames
  · obtain ⟨hnotToken, hnotType⟩ := not_mem_of_mem_userNames hname
    rw [valuesUnder_cons_of_mem hname] at huser
    rw [valuesUnder_cons_of_not_mem hnotToken] at htoken
    rw [valuesUnder_cons_of_not_mem hnotType] at htype
    obtain ⟨hgiven, s, hs, hrest⟩ := huser.of_cons
    exact ⟨_, .user hname hgiven hs, hrest, htoken, htype⟩
  rw [valuesUnder_cons_of_not_mem hname] at huser
  by_cases hname' : name ∈ tokenNames
  · obtain ⟨-, hnotType⟩ := not_mem_of_mem_tokenNames hname'
    rw [valuesUnder_cons_of_mem hname'] at htoken
    rw [valuesUnder_cons_of_not_mem hnotType] at htype
    obtain ⟨hgiven, s, hs, hrest⟩ := htoken.of_cons
    exact ⟨_, .token hname' hgiven hs, huser, hrest, htype⟩
  rw [valuesUnder_cons_of_not_mem hname'] at htoken
  by_cases hname'' : name ∈ typeNames
  · rw [valuesUnder_cons_of_mem hname''] at htype
    obtain ⟨hgiven, k, hk, hrest⟩ := htype.of_cons
    exact ⟨_, .type hname'' hgiven hk, huser, htoken, hrest⟩
  · rw [valuesUnder_cons_of_not_mem hname''] at htype
    have hother : name ∉ fieldNames := not_mem_fieldNames_iff.mpr ⟨hname, hname', hname''⟩
    exact ⟨p, .other hother, huser, htoken, htype⟩

/-- A member in front of others that lead on from where it leads. -/
theorem Takes.leads {p p' q : Partial} {m : String × List UInt8} {ms : List (String × List UInt8)}
    (h : Takes p m p') (hms : Leads p' ms q) : Leads p (m :: ms) q := by
  obtain ⟨huser, htoken, htype⟩ := hms
  cases h with
  | user hname hgiven hs =>
      obtain ⟨hnotToken, hnotType⟩ := not_mem_of_mem_userNames hname
      constructor
      case user =>
        rw [valuesUnder_cons_of_mem hname, hgiven]
        exact .cons hs huser
      case token => rwa [valuesUnder_cons_of_not_mem hnotToken]
      case type => rwa [valuesUnder_cons_of_not_mem hnotType]
  | token hname hgiven hs =>
      obtain ⟨hnotUser, hnotType⟩ := not_mem_of_mem_tokenNames hname
      constructor
      case user => rwa [valuesUnder_cons_of_not_mem hnotUser]
      case token =>
        rw [valuesUnder_cons_of_mem hname, hgiven]
        exact .cons hs htoken
      case type => rwa [valuesUnder_cons_of_not_mem hnotType]
  | type hname hgiven hk =>
      obtain ⟨hnotUser, hnotToken⟩ := not_mem_of_mem_typeNames hname
      constructor
      case user => rwa [valuesUnder_cons_of_not_mem hnotUser]
      case token => rwa [valuesUnder_cons_of_not_mem hnotToken]
      case type =>
        rw [valuesUnder_cons_of_mem hname, hgiven]
        exact .cons hk htype
  | other hname =>
      obtain ⟨hnotUser, hnotToken, hnotType⟩ := not_mem_fieldNames_iff.mp hname
      constructor
      case user => rwa [valuesUnder_cons_of_not_mem hnotUser]
      case token => rwa [valuesUnder_cons_of_not_mem hnotToken]
      case type => rwa [valuesUnder_cons_of_not_mem hnotType]

/-- Members that are taken one by one settle each field on its own. Induction on the members. -/
theorem path_iff_leads {p q : Partial} {ms : List (String × List UInt8)} :
    Path Takes p ms q ↔ Leads p ms q := by
  induction ms generalizing p with
  | nil =>
      constructor
      · intro h
        cases h
        exact ⟨.kept _, .kept _, .kept _⟩
      · intro ⟨huser, htoken, htype⟩
        have heq : q = p := by
          cases p
          cases q
          simp only [Partial.mk.injEq]
          exact ⟨huser.eq_of_nil, htoken.eq_of_nil, htype.eq_of_nil⟩
        rw [heq]
        exact .nil
  | cons m ms ih =>
      constructor
      · intro h
        cases h with
        | cons hm hms => exact hm.leads (ih.mp hms)
      · intro h
        obtain ⟨p', hm, hms⟩ := h.exists_takes
        exact .cons hm (ih.mpr hms)

/-! ### Texts of objects -/

/-- The text is an object with these members, and with blanks around it. The names are those that are
meant, however they are written, and of the values only the texts are given. -/
def HasMembers (ms : List (String × List UInt8)) (bytes : List UInt8) : Prop :=
  ∃ before t after, Blank before ∧ Blank after ∧ ObjectText ms t ∧ (∀ m ∈ ms, IsValue m.2) ∧
    bytes = before ++ (t ++ after)

/-- Every text of a document that is an object has members. -/
theorem exists_hasMembers_of_decode {bytes : List UInt8} {o : Members Value}
    (h : Value.decode bytes = .ok (.object o)) : ∃ ms, HasMembers ms bytes := by
  obtain ⟨before, t, after, ⟨pairs, ts, u, rfl, hts, hu, rfl⟩, hbefore, hafter, rfl⟩ :=
    Value.decode_eq_ok_iff.mp h
  obtain ⟨ms, hvalues, htexts⟩ := exists_values hts
  have hmembers : List.Forall₂ (fun m p => IsValue m.2 ∧ p.1 = m.1) ms pairs :=
    List.Forall₂.flip (hvalues.imp fun _ _ hp => ⟨hp.2.isValue, hp.1⟩)
  exact ⟨ms, before, _, after, hbefore, hafter, ⟨ts, u, htexts, hu, rfl⟩,
    ((List.forall₂_and_left ms pairs).mp hmembers).1, rfl⟩

/-- All fields of a device. -/
def filled (d : Device) : Partial := ⟨some d.user, some d.token, some d.type⟩

theorem finish_filled (d : Device) : d.filled.finish = pure d := rfl

/-- The last step only adds that no field is missing. -/
theorem eq_filled_of_returns {q : Partial} {d : Device} {input rest : List UInt8}
    (h : Returns q.finish input d rest) : q = d.filled ∧ rest = input := by
  obtain ⟨user, token, type⟩ := q
  obtain ⟨user', m₁, huser, h⟩ := h.bind
  obtain ⟨token', m₂, htoken, h⟩ := h.bind
  obtain ⟨type', m₃, htype, h⟩ := h.bind
  obtain ⟨rfl, rfl⟩ := h.pure
  cases user with
  | none => exact (Ensures.failUnlocated _).elim huser
  | some user =>
      cases token with
      | none => exact (Ensures.failUnlocated _).elim htoken
      | some token =>
          cases type with
          | none => exact (Ensures.failUnlocated _).elim htype
          | some type =>
              obtain ⟨rfl, rfl⟩ := huser.pure
              obtain ⟨rfl, rfl⟩ := htoken.pure
              obtain ⟨rfl, rfl⟩ := htype.pure
              exact ⟨rfl, rfl⟩

/-- A device is read if the members, one after the other, give all its fields. -/
theorem decode_eq_ok_iff_path {ms : List (String × List UInt8)} {bytes : List UInt8}
    (h : HasMembers ms bytes) {d : Device} :
    Device.decode bytes = .ok d ↔ Path Takes Partial.empty ms d.filled := by
  obtain ⟨before, t, after, hbefore, hafter, ⟨ts, u, hts, hu, rfl⟩, hvalues, rfl⟩ := h
  constructor
  · intro hdecode
    obtain ⟨_, hwhole⟩ := exists_returns_of_run hdecode
    obtain ⟨d', behind, hrecord, hend⟩ := hwhole.bind
    obtain ⟨_, _, -, hreturn⟩ := hend.bind
    obtain ⟨rfl, -⟩ := hreturn.pure
    -- Behind the brace come the members, and then the closing one.
    simp only [List.cons_append, List.append_assoc, List.nil_append] at hrecord
    have hbrace := hrecord.after (Consumes.token hbefore (by decide) _)
    have hobject : Returns (Reader.located
        (Reader.bracketed Reader.depthLimit Device.objectReader Reader.endObject)) _ _ _ := hbrace
    obtain ⟨_, hbody, -⟩ := hobject.located.skip_bind.closing
    obtain ⟨q, _, hfields, hfinish⟩ := hbody.bind
    obtain ⟨hpath, -⟩ := path_of_returns_fields takes_of_returns hts hvalues hu hfields
    obtain ⟨rfl, -⟩ := eq_filled_of_returns hfinish
    exact hpath
  · intro hpath
    have hread : Consumes (Device.objectReader 126) (u ++ 0x7d :: after) d (0x7d :: after) := by
      refine Consumes.bind (consumes_fields hu (steps_of_path hts hvalues hpath) after) ?_
      rw [finish_filled]
      exact Consumes.pure _ _
    have hwhole : Consumes (Reader.whole Device.reader)
        (before ++ (0x7b :: (u ++ [0x7d]) ++ after)) d [] := by
      refine Consumes.bind (consumes_record hbefore hread) ?_
      refine Consumes.bind (Consumes.bind (Consumes.token_end hafter) (Consumes.pure _ _)) ?_
      exact Consumes.pure _ _
    exact hwhole.run_eq

/-! ### Devices -/

/-- The members hold a device: one of them has its account, one its token, under either name, and one
its platform, under either name. -/
structure Holds (d : Device) (ms : List (String × List UInt8)) : Prop where
  user : ∃ v, valuesUnder userNames ms = [v] ∧ DenotesString d.user v
  token : ∃ v, valuesUnder tokenNames ms = [v] ∧ DenotesString d.token v
  type : ∃ v, valuesUnder typeNames ms = [v] ∧ DeviceType.decode v = .ok d.type

/-- A field that was not given before is given by its only value. -/
theorem settles_none_iff {α : Type} {spells : α → List UInt8 → Prop} {a : α}
    {vs : List (List UInt8)} :
    Settles spells none vs (some a) ↔ ∃ v, vs = [v] ∧ spells a v := by
  constructor
  · intro h
    cases h with
    | given hv => exact ⟨_, rfl, hv⟩
  · rintro ⟨v, rfl, hv⟩
    exact .given hv

theorem leads_iff_holds {ms : List (String × List UInt8)} (hvalues : ∀ m ∈ ms, IsValue m.2)
    {d : Device} : Leads Partial.empty ms d.filled ↔ d.Holds ms := by
  have htype : (∃ v, valuesUnder typeNames ms = [v] ∧ VariantText DeviceType.ofTag? d.type v) ↔
      ∃ v, valuesUnder typeNames ms = [v] ∧ DeviceType.decode v = .ok d.type := by
    refine exists_congr fun v => and_congr_right fun hv => ?_
    have hmem : v ∈ valuesUnder typeNames ms := by
      rw [hv]
      exact List.mem_singleton_self v
    exact (DeviceType.decode_eq_ok_iff (isValue_of_mem_valuesUnder hvalues hmem)).symm
  constructor
  · rintro ⟨huser, htoken, hkind⟩
    exact ⟨settles_none_iff.mp huser, settles_none_iff.mp htoken,
      htype.mp (settles_none_iff.mp hkind)⟩
  · rintro ⟨huser, htoken, hkind⟩
    exact ⟨settles_none_iff.mpr huser, settles_none_iff.mpr htoken,
      settles_none_iff.mpr (htype.mpr hkind)⟩

/-- An object is read as a device if its members hold it. -/
theorem decode_eq_ok_iff_holds {ms : List (String × List UInt8)} {bytes : List UInt8}
    (h : HasMembers ms bytes) {d : Device} : Device.decode bytes = .ok d ↔ d.Holds ms := by
  rw [decode_eq_ok_iff_path h, path_iff_leads]
  obtain ⟨-, -, -, -, -, -, hvalues, -⟩ := h
  exact leads_iff_holds hvalues

/-- A field has one value only, so there is only one name of it among the members. -/
theorem name_eq_of_valuesUnder {names : List String} {ms : List (String × List UInt8)}
    {v : List UInt8} (h : valuesUnder names ms = [v]) {m m' : String × List UInt8} (hm : m ∈ ms)
    (hm' : m' ∈ ms) (hname : m.1 ∈ names) (hname' : m'.1 ∈ names) : m.1 = m'.1 := by
  obtain ⟨only, hfilter, -⟩ := List.map_eq_singleton_iff.mp h
  have hmem : ∀ m ∈ ms, m.1 ∈ names → m = only := by
    intro m hm hname
    have hkept : m ∈ ms.filter fun m => m.1 ∈ names := List.mem_filter.mpr ⟨hm, by simpa using hname⟩
    rw [hfilter] at hkept
    exact List.mem_singleton.mp hkept
  rw [hmem m hm hname, hmem m' hm' hname']

/-- The members of two objects say the same about the fields: under the names of each field stand as
many values, and they mean the same one by one. -/
structure SameFields (ms ms' : List (String × List UInt8)) : Prop where
  user : List.Forall₂ (fun v w => ∀ s, DenotesString s v ↔ DenotesString s w)
    (valuesUnder userNames ms) (valuesUnder userNames ms')
  token : List.Forall₂ (fun v w => ∀ s, DenotesString s v ↔ DenotesString s w)
    (valuesUnder tokenNames ms) (valuesUnder tokenNames ms')
  type : List.Forall₂ (fun v w => ∀ k, DeviceType.decode v = .ok k ↔ DeviceType.decode w = .ok k)
    (valuesUnder typeNames ms) (valuesUnder typeNames ms')

theorem SameFields.holds_iff {ms ms' : List (String × List UInt8)} (h : SameFields ms ms')
    {d : Device} : d.Holds ms ↔ d.Holds ms' := by
  -- For each field: the value of one object means what the value of the other one does.
  have honly : ∀ {agree : List UInt8 → List UInt8 → Prop} {means : List UInt8 → Prop}
      {vs ws : List (List UInt8)}, (∀ v w, agree v w → (means v ↔ means w)) →
      List.Forall₂ agree vs ws → ((∃ v, vs = [v] ∧ means v) ↔ ∃ w, ws = [w] ∧ means w) := by
    intro agree means vs ws hagree hvs
    constructor
    · rintro ⟨v, rfl, hv⟩
      obtain ⟨w, _, hvw, hnil, rfl⟩ := List.forall₂_cons_left_iff.mp hvs
      obtain rfl := List.forall₂_nil_left_iff.mp hnil
      exact ⟨w, rfl, (hagree v w hvw).mp hv⟩
    · rintro ⟨w, rfl, hw⟩
      obtain ⟨v, _, hvw, hnil, rfl⟩ := List.forall₂_cons_right_iff.mp hvs
      obtain rfl := List.forall₂_nil_right_iff.mp hnil
      exact ⟨v, rfl, (hagree v w hvw).mpr hw⟩
  have huser := honly (fun _ _ hvw => hvw d.user) h.user
  have htoken := honly (fun _ _ hvw => hvw d.token) h.token
  have htype := honly (fun _ _ hvw => hvw d.type) h.type
  constructor
  · rintro ⟨hu, ht, hk⟩
    exact ⟨huser.mp hu, htoken.mp ht, htype.mp hk⟩
  · rintro ⟨hu, ht, hk⟩
    exact ⟨huser.mpr hu, htoken.mpr ht, htype.mpr hk⟩

/-- Which objects are read as devices, and as which. Every text of a document that is an object has
members in this sense.

An object is read as a device if its members hold it: there is exactly one value under `user`, exactly
one under the two names of the token and exactly one under the two names of the platform, and these
three values mean what the device says. Members under all other names may stand anywhere, with any
values and repeated.

- An object with both names of a field is refused.
- Nothing else counts: an object whose fields mean the same is read as the same device, whatever the
  order of its members, its other members, the names used for the fields, the blanks, and the spelling
  of names and strings are. -/
theorem decode_of_hasMembers :
    (∀ (bytes : List UInt8) (o : Members Value), Value.decode bytes = .ok (.object o) →
      ∃ ms, HasMembers ms bytes) ∧
    ∀ (ms : List (String × List UInt8)) (bytes : List UInt8), HasMembers ms bytes →
      (∀ d, Device.decode bytes = .ok d ↔ d.Holds ms) ∧
      (∀ names ∈ [tokenNames, typeNames], (∀ name ∈ names, ∃ m ∈ ms, m.1 = name) →
        ∃ fault, Device.decode bytes = .error fault) ∧
      ∀ ms' bytes', HasMembers ms' bytes' → SameFields ms ms' →
        ∀ d, Device.decode bytes' = .ok d ↔ Device.decode bytes = .ok d := by
  refine ⟨fun _ _ => exists_hasMembers_of_decode, fun ms bytes h => ?_⟩
  refine ⟨fun d => decode_eq_ok_iff_holds h, ?_, ?_⟩
  · intro names hnames hboth
    cases hdecode : Device.decode bytes with
    | error fault => exact ⟨fault, rfl⟩
    | ok d =>
        -- With a device there is one value for the field, so that its names would be the same.
        obtain ⟨-, ⟨token, htoken, -⟩, ⟨type, htype, -⟩⟩ := (decode_eq_ok_iff_holds h).mp hdecode
        simp only [List.mem_cons, List.not_mem_nil, or_false] at hnames
        rcases hnames with rfl | rfl
        · obtain ⟨m, hm, hname⟩ := hboth "deviceToken" (by decide)
          obtain ⟨m', hm', hname'⟩ := hboth "device_token" (by decide)
          have heq := name_eq_of_valuesUnder htoken hm hm' (hname ▸ by decide) (hname' ▸ by decide)
          rw [hname, hname'] at heq
          exact absurd heq (by decide)
        · obtain ⟨m, hm, hname⟩ := hboth "deviceType" (by decide)
          obtain ⟨m', hm', hname'⟩ := hboth "device_type" (by decide)
          have heq := name_eq_of_valuesUnder htype hm hm' (hname ▸ by decide) (hname' ▸ by decide)
          rw [hname, hname'] at heq
          exact absurd heq (by decide)
  · intro ms' bytes' h' hsame d
    rw [decode_eq_ok_iff_holds h, decode_eq_ok_iff_holds h', hsame.holds_iff]

/-- The same device from two objects. The first one has a member that no field knows, twice and with
different values, the second names of two fields, a name with an escape, and a platform that is an
object. The second one has its members in another order, and all first names. -/
theorem decode_of_hasMembers_aliases :
    let first := "\x7b\"at\":[1],\"device_token\":\"t\",\"\\u0075ser\":\"ann\",\"at\":null," ++
      "\"device_type\":\x7b\"ios\":null\x7d\x7d\n"
    let second := "\x7b\"user\":\"ann\",\"deviceToken\":\"t\",\"deviceType\":\"APS\"\x7d"
    Device.decode (Utf8.ofString first) = .ok ⟨"ann", "t", .ios⟩ ∧
      Device.decode (Utf8.ofString second) = .ok ⟨"ann", "t", .ios⟩ := by
  intro first second
  let quoted : String → List UInt8 := fun s => Utf8.encode (stringText s)
  have hquoted : ∀ s, DenotesString s (quoted s) := fun s => (spellsString_stringText s).denotes
  have hvalue : ∀ s, IsValue (quoted s) := fun s => (hquoted s).isValue
  have hmember : ∀ (name : String) (v : List UInt8), DenotesMember (· = v) name
      (0x22 :: (Utf8.encode (name.toList.flatMap escape) ++ 0x22 :: 0x3a :: v)) := fun name v =>
    ⟨_, [], [], v, (spellsChars_flatMap_escape _).denotes, Blank.nil, Blank.nil, rfl, rfl⟩
  have hnext : ∀ {ts : List (List UInt8)} {u : List UInt8} (t : List UInt8), SeparatedTail ts u →
      SeparatedTail (t :: ts) (0x2c :: (t ++ u)) := fun _ hu => .cons Blank.nil Blank.nil hu
  have hend : SeparatedTail [] [] := .nil Blank.nil
  -- The platform as an object, and as a string.
  let ios : List UInt8 := Utf8.ofString "\x7b\"ios\":null\x7d"
  have hios : VariantText DeviceType.ofTag? .ios ios :=
    ⟨"ios", rfl, .inr ⟨_, _, .cons (hmember _ _) .nil, .cons Blank.nil hend, by decide⟩⟩
  have haps : VariantText DeviceType.ofTag? .ios (quoted "APS") := ⟨"APS", rfl, .inl (hquoted _)⟩
  have hios' := (DeviceType.decode_eq_ok_iff hios.isValue).mpr hios
  have haps' := (DeviceType.decode_eq_ok_iff haps.isValue).mpr haps
  have hlist : IsValue [0x5b, 0x31, 0x5d] := by
    have hdigit : IsDigits [0x31] :=
      ⟨List.cons_ne_nil _ _, List.forall_mem_singleton.mpr (by decide)⟩
    have hwhole : IsWhole [0x31] := .inr ⟨hdigit, by decide⟩
    have hone : IsValue [0x31] := .positive ⟨_, [], [], hwhole, .inl rfl, .inl rfl, rfl⟩
    exact .list (List.forall_mem_singleton.mpr hone) (.cons Blank.nil hend)
  have huser : DenotesMember (· = quoted "ann") "user" (0x22 ::
      ([0x5c, 0x75, 0x30, 0x30, 0x37, 0x35, 0x73, 0x65, 0x72] ++ 0x22 :: 0x3a :: quoted "ann")) := by
    have hdigits : [0x30, 0x30, 0x37, 0x35].mapM Hex.byteValue? = some [0, 0, 7, 5] := by decide
    have hu : DenotesChar 'u' [0x5c, 0x75, 0x30, 0x30, 0x37, 0x35] :=
      .spelled (.unicode hdigits (by decide))
    have hser : DenotesChars "ser".toList [0x73, 0x65, 0x72] :=
      (spellsChars_flatMap_escape _).denotes
    exact ⟨_, [], [], _, .cons hu hser, Blank.nil, Blank.nil, rfl, rfl⟩
  let ms : List (String × List UInt8) := [("at", [0x5b, 0x31, 0x5d]), ("device_token", quoted "t"),
    ("user", quoted "ann"), ("at", [0x6e, 0x75, 0x6c, 0x6c]), ("device_type", ios)]
  have hfirst : HasMembers ms (Utf8.ofString first) := by
    have hobject : ObjectText ms _ := ⟨_, _, .cons (hmember _ _) (.cons (hmember _ _)
      (.cons huser (.cons (hmember _ _) (.cons (hmember _ _) .nil)))),
      .cons Blank.nil (hnext _ (hnext _ (hnext _ (hnext _ hend)))), rfl⟩
    have hvalues : ∀ m ∈ ms, IsValue m.2 := by
      simp only [ms, List.forall_mem_cons, List.not_mem_nil, false_imp_iff, implies_true, and_true]
      exact ⟨hlist, hvalue _, hvalue _, .null, hios.isValue⟩
    exact ⟨[], _, [0x0a], Blank.nil, by decide, hobject, hvalues, by decide⟩
  let ms' : List (String × List UInt8) :=
    [("user", quoted "ann"), ("deviceToken", quoted "t"), ("deviceType", quoted "APS")]
  have hsecond : HasMembers ms' (Utf8.ofString second) := by
    have hobject : ObjectText ms' _ := ⟨_, _, .cons (hmember _ _) (.cons (hmember _ _)
      (.cons (hmember _ _) .nil)), .cons Blank.nil (hnext _ (hnext _ hend)), rfl⟩
    have hvalues : ∀ m ∈ ms', IsValue m.2 := by
      simp only [ms', List.forall_mem_cons, List.not_mem_nil, false_imp_iff, implies_true, and_true]
      exact ⟨hvalue _, hvalue _, hvalue _⟩
    exact ⟨[], _, [], Blank.nil, Blank.nil, hobject, hvalues, by decide⟩
  -- What the first object holds, the second one holds as well.
  have hholds : (⟨"ann", "t", .ios⟩ : Device).Holds ms :=
    ⟨⟨_, rfl, hquoted "ann"⟩, ⟨_, rfl, hquoted "t"⟩, ⟨_, rfl, hios'⟩⟩
  have hsame : SameFields ms ms' := by
    refine ⟨.cons (fun s => Iff.rfl) .nil, .cons (fun s => Iff.rfl) .nil, .cons (fun k => ?_) .nil⟩
    rw [hios', haps']
  obtain ⟨hread, -, hother⟩ := decode_of_hasMembers.2 ms _ hfirst
  have hann := (hread _).mpr hholds
  exact ⟨hann, (hother ms' _ hsecond hsame _).mpr hann⟩

end Device

end PushRegistry
