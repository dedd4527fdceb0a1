import PushRegistry.Proofs.Decimal.Numerals
import PushRegistry.Proofs.Url.Addressing
import PushRegistry.Proofs.Url.Base

/-!
# `PushRegistry.Proofs.Url.Authority`: which hosts stay in their place

The base URL of a server is its host and its port, written next to each other and then read as
one text. Nothing looks at the host beforehand, so its characters decide where the authority
ends. The main statement covers every host, every port of 16 bits and all segments that a path
carries as they are:

* `endpoint_reaches_iff`: either no URL can be built, or there is one, and then it leads to the
  port and the path that were asked for if and only if the host is `Undivided`, which means that
  no slash, question mark or number sign stands in it behind the slashes at its front. In that
  case the host of the URL is the one that was written, without user name and password.

Two arguments carry it. An undivided host has the port right behind it, and whatever it holds
besides (colons, brackets, user information) can make the text unreadable, but cannot bring
another port (`parseAuthority_port`). A divided host pushes the port out of the authority and
into the rest of the URL. There it shows: as a fragment, as a query, or as a path segment with a
colon in it, which no dot segment takes away (`parsePath_port`).
-/

set_option autoImplicit false

namespace PushRegistry.Url

open PushRegistry.Text
open PushRegistry.ServerAddress (keptPort parsePort_toDigits)

/-! ### User, host and port -/

/-- What stands behind the last `@` takes an addition without that mark. -/
theorem splitUserinfo_append {cs t : List Char} (h : '@' ∉ t) :
    splitUserinfo (cs ++ t) = ((splitUserinfo cs).1, (splitUserinfo cs).2 ++ t) := by
  have hall : ∀ c ∈ t.reverse, decide (c ≠ '@') = true := by
    intro c hc
    refine decide_eq_true ?_
    rintro rfl
    exact h (List.mem_reverse.mp hc)
  unfold splitUserinfo
  rw [List.reverse_append, List.span_eq_takeWhile_dropWhile, List.span_eq_takeWhile_dropWhile,
    List.takeWhile_append_of_pos hall, List.dropWhile_append_of_pos hall]
  cases cs.reverse.dropWhile (fun c => decide (c ≠ '@')) with
  | nil => rfl
  | cons mark before => simp

theorem splitHost_of_not_mem {cs : List Char} (h : ':' ∉ cs) (inside : Bool) :
    splitHost inside cs = (cs, []) := by
  induction cs generalizing inside with
  | nil => rfl
  | cons c cs ih =>
      have hc : ¬ (c = ':' ∧ (!inside) = true) := fun hcolon =>
        h (hcolon.1 ▸ List.mem_cons_self)
      rw [splitHost, if_neg hc, ih fun hmem => h (List.mem_cons_of_mem c hmem)]

/-- The colon in front of a port is where the host ends, or an earlier one is, or none is because
all of them stand behind an open bracket. -/
theorem splitHost_cases {port : List Char} (hport : ':' ∉ port) (inside : Bool) (cs : List Char) :
    splitHost inside (cs ++ ':' :: port) = (cs, ':' :: port) ∨
    (∃ front rest, splitHost inside (cs ++ ':' :: port) = (front, ':' :: (rest ++ ':' :: port))) ∨
    splitHost inside (cs ++ ':' :: port) = (cs ++ ':' :: port, []) := by
  induction cs generalizing inside with
  | nil =>
      cases inside with
      | false => exact .inl rfl
      | true =>
          refine .inr (.inr ?_)
          show splitHost true (':' :: port) = (':' :: port, [])
          simp [splitHost, splitHost_of_not_mem hport]
  | cons c cs ih =>
      by_cases hc : c = ':' ∧ (!inside) = true
      · refine .inr (.inl ⟨[], cs, ?_⟩)
        rw [List.cons_append, splitHost, if_pos hc, hc.1]
      · rw [List.cons_append, splitHost, if_neg hc]
        rcases ih (if c = '[' then true else if c = ']' then false else inside) with
          h | ⟨front, rest, h⟩ | h
        · exact .inl (by rw [h])
        · exact .inr (.inl ⟨c :: front, rest, by rw [h]⟩)
        · exact .inr (.inr (by rw [h]))

/-- A port is a number. -/
theorem parsePort_of_colon_mem (scheme : Scheme) {cs : List Char} (h : ':' ∈ cs) :
    parsePort scheme cs = .error .invalidPort := by
  have hempty : cs.isEmpty = false := by
    rw [List.isEmpty_eq_false_iff]
    exact List.ne_nil_of_mem h
  have hnatural : Decimal.Numeral.natural? 10 cs = none := by
    cases hread : Decimal.Numeral.natural? 10 cs with
    | none => rfl
    | some k =>
        have hdigit := (Decimal.Numeral.natural?_eq_some hread).2 ':' h
        cases hdigit
  rw [parsePort, hempty, hnatural]
  rfl

/-- A name with a colon is refused: neither an escape nor ill-formed text makes it disappear. -/
theorem Host.domain?_of_colon_mem [Idna] {cs : List Char} (h : ':' ∈ cs) :
    Host.domain? cs = none := by
  have hencoded : (0x3a : UInt8) ∈ Utf8.encode cs :=
    List.mem_flatMap.mpr ⟨':', h, by decide⟩
  have hdecoded : (0x3a : UInt8) ∈ Percent.decodeChars cs :=
    Percent.mem_decode (by decide) (by decide) hencoded
  rw [domain?]
  cases hname : Utf8.decode? (Percent.decodeChars cs) with
  | none => rfl
  | some name =>
      have hcolon : ':' ∈ name := Utf8.mem_of_decode? hname hdecoded (by decide)
      have hany : name.any forbidden = true := List.any_eq_true.mpr ⟨':', hcolon, by decide⟩
      show (if name.any forbidden then none else ascii? name) = none
      rw [if_pos hany]

/-- A host with a colon is an address in brackets or none at all. -/
theorem Host.parse_of_colon_mem [Idna] {cs : List Char} (h : ':' ∈ cs)
    (hlast : cs.getLast? ≠ some ']') : ∃ fault, Host.parse cs = .error fault := by
  unfold Host.parse
  split
  · next rest =>
    -- The bracket at the front is not the colon, so that something follows it.
    have hne : rest ≠ [] := by
      rintro rfl
      simp at h
    rw [List.getLast?_cons_of_ne_nil hne] at hlast
    exact ⟨_, if_neg hlast⟩
  · rw [domain?_of_colon_mem h]
    exact ⟨_, rfl⟩

/-- An authority with a port at its end cannot be read, or it has just this port, and its host is
what stands between the user information and the port. -/
theorem parseAuthority_port [Idna] (cs : List Char) {port : Nat} (hport : port ≤ 65535) :
    (∃ fault, parseAuthority .http (cs ++ ':' :: Nat.toDigits 10 port) = .error fault) ∨
    ∃ a, parseAuthority .http (cs ++ ':' :: Nat.toDigits 10 port) = .ok a ∧ a.port = keptPort port ∧
      Host.parse (splitUserinfo cs).2 = .ok a.host := by
  have hplain : ∀ c, c.isDigit = false → c ∉ Nat.toDigits 10 port := by
    intro c hc hmem
    rw [Decimal.isDigit_of_mem_toDigits hmem] at hc
    cases hc
  have hat : '@' ∉ ':' :: Nat.toDigits 10 port := by
    simp [hplain '@' (by decide)]
  have hlast : ∀ front : List Char,
      (front ++ ':' :: Nat.toDigits 10 port).getLast? ≠ some ']' := by
    intro front hlast
    have hmem : ']' ∈ ':' :: Nat.toDigits 10 port := by
      rw [List.getLast?_append, List.getLast?_eq_some_getLast (List.cons_ne_nil _ _),
        Option.some_or, ← List.getLast?_eq_some_getLast] at hlast
      exact List.mem_of_getLast? hlast
    simp [hplain ']' (by decide)] at hmem
  unfold parseAuthority
  rw [splitUserinfo_append hat]
  generalize hhost : (splitUserinfo cs).2 = host
  rcases splitHost_cases (hplain ':' (by decide)) false host with h | ⟨front, rest, h⟩ | h
  · -- The host ends where the port begins.
    simp only [h, List.drop_succ_cons, List.drop_zero, parsePort_toDigits hport]
    cases host with
    | nil => exact .inl ⟨_, rfl⟩
    | cons c host =>
        cases Host.parse (c :: host) with
        | error fault => exact .inl ⟨fault, rfl⟩
        | ok parsed => exact .inr ⟨⟨_, _, parsed, keptPort port⟩, rfl, rfl, rfl⟩
  · -- Behind an earlier colon stands no port, since the later one is no digit.
    have hinvalid := parsePort_of_colon_mem .http
      (List.mem_append_right rest (List.mem_cons_self (l := Nat.toDigits 10 port)))
    simp only [h, List.drop_succ_cons, List.drop_zero, hinvalid]
    left
    by_cases hempty : front.isEmpty = true
    · exact ⟨_, if_pos hempty⟩
    · rw [if_neg hempty]
      cases Host.parse front with
      | error fault => exact ⟨fault, rfl⟩
      | ok parsed => exact ⟨_, rfl⟩
  · -- The port belongs to a host whose bracket is not closed at the end.
    obtain ⟨fault, hfault⟩ :=
      Host.parse_of_colon_mem (List.mem_append_right host List.mem_cons_self) (hlast host)
    simp only [h, hfault]
    left
    by_cases hempty : (host ++ ':' :: Nat.toDigits 10 port).isEmpty = true
    · exact ⟨_, if_pos hempty⟩
    · exact ⟨fault, if_neg hempty⟩

/-! ### Path, query and fragment -/

theorem cut_of_forall {stop : Char → Bool} {cs : List Char} (h : ∀ c ∈ cs, stop c = false) :
    cut stop cs = (cs, none) := by
  have hall : ∀ c ∈ cs, (!stop c) = true := fun c hc => by rw [h c hc]; rfl
  rw [cut, List.span_eq_takeWhile_dropWhile, List.takeWhile_eq_self_iff.mpr hall,
    List.dropWhile_eq_nil_iff.mpr hall]

theorem cut_of_mem {stop : Char → Bool} {cs : List Char} {c : Char} (hc : c ∈ cs)
    (hstop : stop c = true) : (cut stop cs).2 ≠ none := by
  rw [cut, List.span_eq_takeWhile_dropWhile]
  cases hdrop : cs.dropWhile (!stop ·) with
  | nil =>
      have hnot := List.dropWhile_eq_nil_iff.mp hdrop c hc
      rw [hstop] at hnot
      cases hnot
  | cons mark after => exact Option.some_ne_none after

/-- A text without the marks of query and fragment is all path. -/
theorem Target.parse_cases (cs : List Char) :
    (Target.parse cs).fragment ≠ none ∨ (Target.parse cs).query ≠ none ∨
    ('#' ∉ cs ∧ '?' ∉ cs ∧ Target.parse cs = ⟨cs, none, none⟩) := by
  by_cases hfragment : '#' ∈ cs
  · left
    show Option.map _ (cut (· == '#') cs).2 ≠ none
    rw [ne_eq, Option.map_eq_none_iff]
    exact cut_of_mem hfragment (by decide)
  · have hmain : cut (· == '#') cs = (cs, none) :=
      cut_of_forall fun c hc => beq_false_of_ne fun h => hfragment (h ▸ hc)
    by_cases hquery : '?' ∈ cs
    · refine .inr (.inl ?_)
      simp only [Target.parse, hmain, ne_eq, Option.map_eq_none_iff]
      exact cut_of_mem hquery (by decide)
    · have hpath : cut (· == '?') cs = (cs, none) :=
        cut_of_forall fun c hc => beq_false_of_ne fun h => hquery (h ▸ hc)
      refine .inr (.inr ⟨hfragment, hquery, ?_⟩)
      simp only [Target.parse, hmain, hpath, Option.map_none]

/-- What holds no slash stays together at the end of the last segment. -/
theorem exists_splitOnP_append {w : List Char} (hw : ∀ c ∈ w, isSlash c = false)
    (cs : List Char) : ∃ front last, (cs ++ w).splitOnP isSlash = front ++ [last ++ w] := by
  induction cs with
  | nil => exact ⟨[], [], by rw [List.nil_append, List.splitOnP_eq_singleton hw]; rfl⟩
  | cons c cs ih =>
      obtain ⟨front, last, h⟩ := ih
      rw [List.cons_append, List.splitOnP_cons_eq_if_modifyHead, h]
      by_cases hc : isSlash c = true
      · exact ⟨[] :: front, last, by rw [if_pos hc]; rfl⟩
      · rw [if_neg hc]
        cases front with
        | nil => exact ⟨[], c :: last, rfl⟩
        | cons s front => exact ⟨(c :: s) :: front, last, rfl⟩

/-- A port that became part of a path is in its last segment but one. -/
theorem parsePath_port {mark : Char} (hmark : isSlash mark = true) (cs : List Char) (port : Nat) :
    ∃ above last, ':' ∈ last ∧
      parsePath (mark :: (cs ++ ':' :: Nat.toDigits 10 port ++ ['/'])) = above ++ [last, []] := by
  have hslash : ∀ c ∈ ':' :: Nat.toDigits 10 port, isSlash c = false := by
    refine List.forall_mem_cons.mpr ⟨by decide, fun c hc => ?_⟩
    have hends := (ServerAddress.plainHost_toDigits port c hc).2.1
    simp only [endsAuthority, isSlash, Bool.or_eq_false_iff] at hends ⊢
    exact ⟨hends.1.1.1, hends.1.1.2⟩
  obtain ⟨front, last, hsplit⟩ := exists_splitOnP_append hslash cs
  have hsegments : rawSegments (cs ++ ':' :: Nat.toDigits 10 port ++ ['/'])
      = front.map (Percent.encode Percent.pathSet)
        ++ [Percent.encode Percent.pathSet (last ++ ':' :: Nat.toDigits 10 port), []] := by
    rw [rawSegments, List.splitOnP_append_cons _ _ (by decide), hsplit]
    simp [Percent.encode]
  -- Colons are not encoded in a path.
  have hcolon : ':' ∈ Percent.encode Percent.pathSet (last ++ ':' :: Nat.toDigits 10 port) :=
    List.mem_flatMap.mpr ⟨':', by simp, by decide⟩
  obtain ⟨above, h⟩ := Path.exists_resolve_concat hcolon []
  refine ⟨above, _, hcolon, ?_⟩
  show Path.resolve [] (rawSegments (if isSlash mark then _ else _)) = _
  rw [if_pos hmark, hsegments, h]

end PushRegistry.Url

namespace PushRegistry.ServerAddress

open PushRegistry.Text
open PushRegistry.Url (Segment)

/-- What a host puts behind the slashes in front of the authority. -/
def authorityText (host : String) : List Char :=
  (Url.strip host.toList).dropWhile Url.isSlash

/-- No character of the host ends the authority before the port is reached. -/
def Undivided (host : String) : Prop :=
  ∀ c ∈ authorityText host, Url.endsAuthority c = false

instance (host : String) : Decidable (Undivided host) :=
  List.decidableBAll (fun c => Url.endsAuthority c = false) (authorityText host)

/-- A URL leads to the given port and, by its path alone, to the given segments. -/
structure Reaches (url : Url) (port : Nat) (segments : List String) : Prop where
  port_eq : url.effectivePort = port
  query_eq : url.query = none
  fragment_eq : url.fragment = none
  path_eq : url.pathText
    = '/' :: ['/'].intercalate (segments.map (Percent.encode Percent.segmentSet ·.toList))

/-! ### The base URL -/

/-- The text of authority and path of a server: host, port and a slash. -/
def baseText (server : ServerAddress) : List Char :=
  authorityText server.host ++ ':' :: Nat.toDigits 10 server.port ++ ['/']

/-- Port and last slash are always read as they were written. -/
theorem dropWhile_strip (server : ServerAddress) :
    (Url.strip ("//".toList ++ server.host.toList ++ ':' :: Nat.toDigits 10 server.port
      ++ ['/'])).dropWhile Url.isSlash = server.baseText := by
  have hport : Url.strip (':' :: Nat.toDigits 10 server.port)
      = ':' :: Nat.toDigits 10 server.port := by
    refine Url.strip_eq_self_iff.mpr (List.forall_mem_cons.mpr ⟨by decide, fun c hc => ?_⟩)
    exact (plainHost_toDigits server.port c hc).1
  have hstrip : Url.strip ("//".toList ++ server.host.toList ++ ':' :: Nat.toDigits 10 server.port
      ++ ['/']) = '/' :: '/' :: (Url.strip server.host.toList
        ++ (':' :: Nat.toDigits 10 server.port ++ ['/'])) := by
    simp only [Url.strip, List.filter_append] at hport ⊢
    rw [hport]
    simp [Url.isIgnored]
  -- The slashes in front of the host go with those of the scheme, and the colon stops them.
  rw [hstrip, List.dropWhile_cons_of_pos (by decide), List.dropWhile_cons_of_pos (by decide),
    List.dropWhile_append, baseText, authorityText]
  by_cases hempty : ((Url.strip server.host.toList).dropWhile Url.isSlash).isEmpty = true
  · rw [if_pos hempty, List.isEmpty_iff.mp hempty, List.cons_append,
      List.dropWhile_cons_of_neg (by decide)]
    rfl
  · rw [if_neg hempty, List.append_assoc]

theorem baseUrl_eq_map [Url.Idna] (server : ServerAddress) :
    server.baseUrl
      = (Url.parseAuthority .http (server.baseText.takeWhile (!Url.endsAuthority ·))).map fun a =>
          let target := Url.Target.parse (server.baseText.dropWhile (!Url.endsAuthority ·))
          ⟨.http, a.username, a.password, a.host, a.port, Url.parsePath target.path, target.query,
            target.fragment⟩ := by
  unfold baseUrl Url.parseAfterScheme
  rw [dropWhile_strip]
  dsimp only
  cases Url.parseAuthority .http (server.baseText.takeWhile (!Url.endsAuthority ·)) with
  | error fault => rfl
  | ok a => rfl

/-- An undivided host leaves the port where it is, and nothing follows it but the root. -/
theorem baseUrl_of_undivided [Url.Idna] {server : ServerAddress} (h : Undivided server.host)
    (hport : server.port ≤ 65535) :
    (∃ fault, server.baseUrl = .error fault) ∨
    ∃ base, server.baseUrl = .ok base ∧ base.scheme = .http ∧ base.port = keptPort server.port ∧
      base.path = [[]] ∧ base.query = none ∧ base.fragment = none ∧
      Url.Host.parse (Url.splitUserinfo (authorityText server.host)).2 = .ok base.host := by
  have hall : ∀ c ∈ authorityText server.host ++ ':' :: Nat.toDigits 10 server.port,
      (!Url.endsAuthority c) = true := by
    intro c hc
    rcases List.mem_append.mp hc with hc | hc
    · rw [h c hc]
      rfl
    · rcases List.mem_cons.mp hc with rfl | hc
      · decide
      · rw [(plainHost_toDigits server.port c hc).2.1]
        rfl
  have htake : server.baseText.takeWhile (!Url.endsAuthority ·)
      = authorityText server.host ++ ':' :: Nat.toDigits 10 server.port := by
    rw [baseText, List.takeWhile_append_of_pos hall]
    simp [Url.endsAuthority]
  have hdrop : server.baseText.dropWhile (!Url.endsAuthority ·) = ['/'] := by
    rw [baseText, List.dropWhile_append_of_pos hall]
    rfl
  rw [baseUrl_eq_map, htake, hdrop]
  rcases Url.parseAuthority_port (authorityText server.host) hport with
    ⟨fault, hfault⟩ | ⟨a, ha, hkept, hhost⟩
  · exact .inl ⟨fault, by rw [hfault]; rfl⟩
  · exact .inr ⟨_, by rw [ha]; rfl, rfl, hkept, rfl, rfl, rfl, hhost⟩

/-- A divided host brings a fragment, a query or a path along, and the port comes with it. -/
theorem baseUrl_of_not_undivided [Url.Idna] {server : ServerAddress} (h : ¬ Undivided server.host) :
    (∃ fault, server.baseUrl = .error fault) ∨
    ∃ base, server.baseUrl = .ok base ∧ (base.fragment ≠ none ∨ base.query ≠ none ∨
      ∃ above last, ':' ∈ last ∧ base.path = above ++ [last, []]) := by
  -- The authority ends at the first of the marks in the host.
  obtain ⟨mark, rest, hrest⟩ : ∃ mark rest,
      (authorityText server.host).dropWhile (!Url.endsAuthority ·) = mark :: rest := by
    cases hdrop : (authorityText server.host).dropWhile (!Url.endsAuthority ·) with
    | nil =>
        refine absurd (fun c hc => ?_) h
        simpa using List.dropWhile_eq_nil_iff.mp hdrop c hc
    | cons mark rest => exact ⟨mark, rest, rfl⟩
  have hmark : Url.endsAuthority mark = true := by
    have hhead := List.head?_dropWhile_not (!Url.endsAuthority ·) (authorityText server.host)
    rw [hrest] at hhead
    simpa using hhead
  have hdrop : server.baseText.dropWhile (!Url.endsAuthority ·)
      = mark :: (rest ++ ':' :: Nat.toDigits 10 server.port ++ ['/']) := by
    rw [baseText, List.append_assoc, List.dropWhile_append, hrest]
    simp
  rw [baseUrl_eq_map, hdrop]
  cases Url.parseAuthority .http (server.baseText.takeWhile (!Url.endsAuthority ·)) with
  | error fault => exact .inl ⟨fault, rfl⟩
  | ok a =>
      refine .inr ⟨_, rfl, ?_⟩
      rcases Url.Target.parse_cases
          (mark :: (rest ++ ':' :: Nat.toDigits 10 server.port ++ ['/'])) with
        hfragment | hquery | ⟨hnumber, hquestion, htarget⟩
      · exact .inl hfragment
      · exact .inr (.inl hquery)
      · -- The mark is a slash, for it is neither of the other two.
        have hslash : Url.isSlash mark = true := by
          have hne : mark ≠ '#' ∧ mark ≠ '?' := by
            constructor
            · rintro rfl
              exact hnumber List.mem_cons_self
            · rintro rfl
              exact hquestion List.mem_cons_self
          simpa [Url.endsAuthority, Url.isSlash, hne.1, hne.2] using hmark
        obtain ⟨above, last, hcolon, hpath⟩ := Url.parsePath_port hslash rest server.port
        refine .inr (.inr ⟨above, last, hcolon, ?_⟩)
        simp only [htarget]
        exact hpath

/-! ### Resources below it -/

theorem literal_of_accepts {s : String} (hs : Accepts s ∧ Unaltered s) :
    Url.Path.Literal s.toList := by
  obtain ⟨hempty, hdot, hdots⟩ := accepts_iff_toList.mp hs.1
  exact ⟨hempty, hdot, hdots, Url.strip_eq_self_iff.mpr hs.2⟩

/-- Below the root the path is that of the segments. -/
theorem text_extend_root {segments : List String}
    (hsegments : ∀ s ∈ segments, Accepts s ∧ Unaltered s) :
    Url.Path.text (Url.Path.extend [[]] (segments.map String.toList))
      = '/' :: ['/'].intercalate (segments.map (Percent.encode Percent.segmentSet ·.toList)) := by
  have hliteral : ∀ m ∈ segments.map String.toList, Url.Path.Literal m := by
    intro m hm
    obtain ⟨s, hs, rfl⟩ := List.mem_map.mp hm
    exact literal_of_accepts (hsegments s hs)
  cases segments with
  | nil => rfl
  | cons s segments =>
      rw [Url.Path.extend_root (by simp) hliteral, Url.Path.text_eq_intercalate (by simp),
        List.map_map]
      rfl

/-- Below another segment it is longer. -/
theorem text_extend_ne {segments : List String}
    (hsegments : ∀ s ∈ segments, Accepts s ∧ Unaltered s) (above : List Segment) {last : Segment}
    (hlast : last ≠ []) :
    Url.Path.text (Url.Path.extend (above ++ [last]) (segments.map String.toList))
      ≠ '/' :: ['/'].intercalate (segments.map (Percent.encode Percent.segmentSet ·.toList)) := by
  have hliteral : ∀ m ∈ segments.map String.toList, Url.Path.Literal m := by
    intro m hm
    obtain ⟨s, hs, rfl⟩ := List.mem_map.mp hm
    exact literal_of_accepts (hsegments s hs)
  have hroot : above ++ [last] ≠ [[]] := by
    intro h
    rcases List.append_eq_singleton_iff.mp h with ⟨-, h⟩ | ⟨-, h⟩
    · exact hlast (List.singleton_inj.mp h)
    · cases h
  have hpos : 0 < last.length := List.length_pos_iff.mpr hlast
  intro h
  have hlength := congrArg List.length h
  rw [Url.Path.extend_of_literal hroot hliteral, Url.Path.text_append, Url.Path.text_append,
    List.map_map] at hlength
  cases segments with
  | nil =>
      simp [Url.Path.text] at hlength
      omega
  | cons s segments =>
      -- The segments make up the whole path, and nothing is left for what stands before them.
      have hne : (s :: segments).map (Percent.encode Percent.segmentSet ∘ String.toList) ≠ [] := by
        simp
      rw [Url.Path.text_eq_intercalate hne] at hlength
      simp only [List.length_append, Url.Path.text_cons, List.length_cons, Function.comp_def]
        at hlength
      omega

/-- The resources of a server are found where its host and port say exactly when the host is
undivided. Nothing is said against the other hosts: most of them lead somewhere else, without an
error. The segments are those that a path carries as they are. -/
theorem endpoint_reaches_iff [Url.Idna] {server : ServerAddress} (hport : server.port ≤ 65535)
    {segments : List String} (hsegments : ∀ s ∈ segments, Accepts s ∧ Unaltered s) :
    (∃ fault, server.endpoint segments = .error (.invalidUrl fault)) ∨
    ∃ url, server.endpoint segments = .ok url ∧
      (Reaches url server.port segments ↔ Undivided server.host) ∧
      (Undivided server.host →
        Url.Host.parse (Url.splitUserinfo (authorityText server.host)).2 = .ok url.host) := by
  by_cases h : Undivided server.host
  · rcases baseUrl_of_undivided h hport with
      ⟨fault, hfault⟩ | ⟨base, hbase, hscheme, hkept, hpath, hquery, hfragment, hhost⟩
    · exact .inl ⟨fault, by rw [endpoint, hfault]⟩
    · refine .inr ⟨_, endpoint_eq hbase hpath segments, iff_of_true ?_ h, fun _ => hhost⟩
      refine ⟨?_, hquery, hfragment, text_extend_root hsegments⟩
      -- The usual port is the one that is not kept.
      show base.port.getD base.scheme.usualPort = server.port
      rw [hscheme, hkept, keptPort]
      split
      · next husual => rw [husual]; rfl
      · rfl
  · rcases baseUrl_of_not_undivided h with ⟨fault, hfault⟩ | ⟨base, hbase, hother⟩
    · exact .inl ⟨fault, by rw [endpoint, hfault]⟩
    · refine .inr ⟨_, by rw [endpoint, hbase], iff_of_false ?_ h, fun h' => absurd h' h⟩
      intro hreaches
      rcases hother with hfragment | hquery | ⟨above, last, hcolon, hpath⟩
      · exact hfragment hreaches.fragment_eq
      · exact hquery hreaches.query_eq
      · have hdrop : Url.Path.dropTrailingEmpty base.path = above ++ [last] := by
          rw [hpath, Url.Path.dropTrailingEmpty, if_pos ⟨by simp, by simp⟩]
          simp
        refine text_extend_ne hsegments above (List.ne_nil_of_mem hcolon) ?_
        rw [← hdrop]
        exact hreaches.path_eq

section Local

attribute [local instance] Url.Idna.withoutTables

/-- Slashes in front and a user name do no harm. -/
theorem endpoint_reaches_iff_userinfo :
    let server : ServerAddress := ⟨"//me@localhost", 5300⟩
    (server.port ≤ 65535 ∧ ∀ s ∈ ["v1", "notify"], Accepts s ∧ Unaltered s) ∧
    ∃ url, server.endpoint ["v1", "notify"] = .ok url ∧ Reaches url 5300 ["v1", "notify"] ∧
      url.host = .domain "localhost".toList := by
  intro server
  have hport : server.port ≤ 65535 := by decide
  have hsegments : ∀ s ∈ ["v1", "notify"], Accepts s ∧ Unaltered s := by decide
  have hundivided : Undivided server.host := by decide
  have hisOk : (server.endpoint ["v1", "notify"]).isOk = true := by decide +kernel
  refine ⟨⟨hport, hsegments⟩, ?_⟩
  rcases endpoint_reaches_iff hport hsegments with ⟨fault, hfault⟩ | ⟨url, hurl, hreaches, hhost⟩
  · rw [hfault] at hisOk
    cases hisOk
  · refine ⟨url, hurl, hreaches.mpr hundivided, ?_⟩
    have hname : Url.Host.parse (Url.splitUserinfo (authorityText server.host)).2
        = .ok (.domain "localhost".toList) := by decide +kernel
    rw [hhost hundivided] at hname
    exact Except.ok.inj hname

/-- Not every host stays in its place: behind a path the port is part of that path, and the usual
port is the one that is contacted. -/
theorem not_forall_reaches : ¬ ∀ (server : ServerAddress) (segments : List String),
    server.port ≤ 65535 → (∀ s ∈ segments, Accepts s ∧ Unaltered s) →
    (∃ fault, server.endpoint segments = .error (.invalidUrl fault)) ∨
    ∃ url, server.endpoint segments = .ok url ∧ Reaches url server.port segments := by
  intro h
  have hurl : endpoint ⟨"localhost/api", 5300⟩ ["status"]
      = .ok ⟨.http, [], [], .domain "localhost".toList, none,
          ["api:5300".toList, "status".toList], none, none⟩ := by decide +kernel
  rcases h ⟨"localhost/api", 5300⟩ ["status"] (by decide) (by decide) with
    ⟨fault, hfault⟩ | ⟨url, hok, hreaches⟩
  · rw [hurl] at hfault
    cases hfault
  · rw [hurl] at hok
    obtain rfl := Except.ok.inj hok
    exact absurd hreaches.port_eq (by decide)

end Local

end PushRegistry.ServerAddress
