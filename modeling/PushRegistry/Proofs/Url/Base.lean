import Mathlib.Data.List.TakeDrop
import Mathlib.Data.List.TakeWhile
import PushRegistry.Proofs.Decimal.Digits
import PushRegistry.Proofs.Url.Path
import PushRegistry.Url.Endpoint

/-!
# `PushRegistry.Proofs.Url.Base`: the base URL of a server with a plain host

A host that is a name or a numeric address holds none of the marks that divide a URL, so host
and port are found where they were written: `baseUrl_of_plain`. Servers of a test listen on the
loopback address, and `baseUrl_loopback` is the base URL of these, for every port;
`baseUrl_localhost` is that of a server on the local host.
-/

set_option autoImplicit false

namespace PushRegistry.ServerAddress

open PushRegistry.Url

/-- A host without marks that divide a URL and without characters that a URL ignores. -/
def PlainHost (host : List Char) : Prop :=
  ∀ c ∈ host, isIgnored c = false ∧ endsAuthority c = false ∧
    c ≠ '@' ∧ c ≠ ':' ∧ c ≠ '[' ∧ c ≠ ']'

instance (host : List Char) : Decidable (PlainHost host) :=
  List.decidableBAll (fun c => isIgnored c = false ∧ endsAuthority c = false ∧
    c ≠ '@' ∧ c ≠ ':' ∧ c ≠ '[' ∧ c ≠ ']') host

/-- The port as the URL of a server keeps it. -/
def keptPort (port : Nat) : Option Nat := if port = Scheme.http.usualPort then none else some port

theorem plainHost_toDigits (n : Nat) : PlainHost (Nat.toDigits 10 n) := by
  intro c hc
  have hdigit := Decimal.isDigit_of_mem_toDigits hc
  have hne : ∀ d : Char, d.isDigit = false → c ≠ d := by
    rintro d hd rfl
    rw [hdigit] at hd
    cases hd
  have hignored : isIgnored c = false := by
    unfold isIgnored
    simp [hne '\t' (by decide), hne '\n' (by decide), hne '\r' (by decide)]
  have hends : endsAuthority c = false := by
    unfold endsAuthority
    simp [hne '/' (by decide), hne '\\' (by decide), hne '?' (by decide), hne '#' (by decide)]
  exact ⟨hignored, hends, hne '@' (by decide), hne ':' (by decide), hne '[' (by decide),
    hne ']' (by decide)⟩

theorem splitUserinfo_of_not_mem {cs : List Char} (h : ∀ c ∈ cs, c ≠ '@') :
    splitUserinfo cs = (none, cs) := by
  have hall : ∀ c ∈ cs.reverse, decide (c ≠ '@') = true := by
    intro c hc
    exact decide_eq_true (h c (List.mem_reverse.mp hc))
  -- The search for the last mark starts from the end and runs through.
  have hspan : cs.reverse.span (fun c => decide (c ≠ '@')) = (cs.reverse, []) := by
    rw [List.span_eq_takeWhile_dropWhile, List.takeWhile_eq_self_iff.mpr hall,
      List.dropWhile_eq_nil_iff.mpr hall]
  rw [splitUserinfo, hspan]

/-- The host ends at the first colon. -/
theorem splitHost_of_plain {host : List Char} (h : PlainHost host) (port : List Char) :
    splitHost false (host ++ ':' :: port) = (host, ':' :: port) := by
  induction host with
  | nil => rfl
  | cons c host ih =>
      obtain ⟨-, -, -, hcolon, hopen, hclose⟩ := h c List.mem_cons_self
      rw [List.cons_append, splitHost, if_neg (fun h => hcolon h.1), if_neg hopen, if_neg hclose,
        ih fun d hd => h d (List.mem_cons_of_mem c hd)]

theorem parsePort_toDigits {port : Nat} (h : port ≤ 65535) :
    parsePort .http (Nat.toDigits 10 port) = .ok (keptPort port) := by
  unfold parsePort
  have hne : (Nat.toDigits 10 port).isEmpty = false := by
    rw [List.isEmpty_eq_false_iff]
    exact Nat.toDigits_ne_nil
  rw [hne, Decimal.natural?_toDigits]
  simp only [Bool.false_eq_true, if_false, if_neg (Nat.not_lt_of_le h)]
  rfl

variable [Idna]

/-- The authority of a plain host and a port. -/
theorem parseAuthority_of_plain {host : List Char} (h : PlainHost host) (hne : host ≠ []) {port : Nat}
    (hport : port ≤ 65535) :
    parseAuthority .http (host ++ ':' :: Nat.toDigits 10 port)
      = (Host.parse host).map fun parsed => ⟨[], [], parsed, keptPort port⟩ := by
  -- There is no user information, for nothing in the text divides it from the host.
  have hat : ∀ c ∈ host ++ ':' :: Nat.toDigits 10 port, c ≠ '@' := by
    intro c hc
    rcases List.mem_append.mp hc with hc | hc
    · exact (h c hc).2.2.1
    · rcases List.mem_cons.mp hc with rfl | hc
      · decide
      · exact (plainHost_toDigits port c hc).2.2.1
  have hempty : host.isEmpty = false := List.isEmpty_eq_false_iff.mpr hne
  unfold parseAuthority
  rw [splitUserinfo_of_not_mem hat]
  simp only [splitHost_of_plain h, hempty, Bool.false_eq_true, if_false, List.drop_succ_cons,
    List.drop_zero, parsePort_toDigits hport]
  cases Host.parse host with
  | error fault => rfl
  | ok parsed => rfl

/-- A text without marks between its slashes is all authority: the last slash is the path. -/
theorem parseAfterScheme_of_forall (scheme : Scheme) {authority : List Char} (hne : authority ≠ [])
    (hall : ∀ c ∈ authority, endsAuthority c = false) :
    parseAfterScheme scheme ('/' :: '/' :: (authority ++ ['/']))
      = (parseAuthority scheme authority).map fun a =>
          ⟨scheme, a.username, a.password, a.host, a.port, [[]], none, none⟩ := by
  have hends : ∀ c ∈ authority, (!endsAuthority c) = true := by
    intro c hc
    rw [hall c hc]
    rfl
  -- The slashes in front go, and the authority starts with none of its own.
  have hdrop : ('/' :: '/' :: (authority ++ ['/'])).dropWhile isSlash = authority ++ ['/'] := by
    cases authority with
    | nil => exact absurd rfl hne
    | cons c rest =>
        have hc : ¬ isSlash c = true := by
          have := hall c List.mem_cons_self
          simp only [endsAuthority, isSlash, Bool.or_eq_false_iff] at this ⊢
          simp [this.1.1.1, this.1.1.2]
        rw [List.dropWhile_cons_of_pos (by decide), List.dropWhile_cons_of_pos (by decide),
          List.cons_append, List.dropWhile_cons_of_neg hc]
  have htake : (['/'] : List Char).takeWhile (!endsAuthority ·) = [] := rfl
  unfold parseAfterScheme
  simp only [hdrop, List.takeWhile_append_of_pos hends, List.dropWhile_append_of_pos hends, htake,
    List.append_nil]
  cases parseAuthority scheme authority with
  | error fault => rfl
  | ok a => rfl

/-- The base URL of a plain host and a port has just these two. -/
theorem baseUrl_of_plain {host : String} (h : PlainHost host.toList) (hne : host ≠ "") {port : Nat}
    (hport : port ≤ 65535) :
    baseUrl ⟨host, port⟩ = (Host.parse host.toList).map fun parsed =>
      ⟨.http, [], [], parsed, keptPort port, [[]], none, none⟩ := by
  have hne' : host.toList ≠ [] := fun h => hne (String.toList_inj.mp h)
  have hplain : ∀ c ∈ host.toList ++ ':' :: Nat.toDigits 10 port,
      isIgnored c = false ∧ endsAuthority c = false := by
    intro c hc
    rcases List.mem_append.mp hc with hc | hc
    · exact ⟨(h c hc).1, (h c hc).2.1⟩
    · rcases List.mem_cons.mp hc with rfl | hc
      · decide
      · exact ⟨(plainHost_toDigits port c hc).1, (plainHost_toDigits port c hc).2.1⟩
  have htext : "//".toList ++ host.toList ++ ':' :: Nat.toDigits 10 port ++ ['/']
      = '/' :: '/' :: (host.toList ++ ':' :: Nat.toDigits 10 port ++ ['/']) := by simp
  -- Nothing in the text is ignored.
  have hstrip : strip ('/' :: '/' :: (host.toList ++ ':' :: Nat.toDigits 10 port ++ ['/']))
      = '/' :: '/' :: (host.toList ++ ':' :: Nat.toDigits 10 port ++ ['/']) := by
    refine strip_eq_self_iff.mpr fun c hc => ?_
    rcases List.mem_cons.mp hc with rfl | hc
    · decide
    rcases List.mem_cons.mp hc with rfl | hc
    · decide
    rcases List.mem_append.mp hc with hc | hc
    · exact (hplain c hc).1
    · obtain rfl := List.mem_singleton.mp hc
      decide
  rw [baseUrl, htext, hstrip, parseAfterScheme_of_forall .http (by simp) fun c hc => (hplain c hc).2,
    parseAuthority_of_plain h hne' hport]
  cases Host.parse host.toList with
  | error fault => rfl
  | ok parsed => rfl

/-- The base URL of a server on the local host, by its name. -/
theorem baseUrl_localhost {port : Nat} (hport : port ≤ 65535) :
    baseUrl ⟨"localhost", port⟩
      = .ok ⟨.http, [], [], .domain "localhost".toList, keptPort port, [[]], none, none⟩ := by
  rw [baseUrl_of_plain (by decide) (by decide) hport]
  rfl

/-- The base URL of a server on the loopback address. -/
theorem baseUrl_loopback {port : Nat} (hport : port ≤ 65535) :
    baseUrl ⟨"127.0.0.1", port⟩
      = .ok ⟨.http, [], [], .ipv4 0x7f000001, keptPort port, [[]], none, none⟩ := by
  rw [baseUrl_of_plain (by decide) (by decide) hport]
  rfl

end PushRegistry.ServerAddress
