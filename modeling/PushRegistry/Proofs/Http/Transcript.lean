import Mathlib.Data.List.Chain
import PushRegistry.Http.Exchange

/-!
# `PushRegistry.Proofs.Http.Transcript`: what goes over the connection

`send` returns the last answer only. To say what was sent on the way, `Peer.noted` puts a
recorder in front of a peer, and `Exchange` gives the sequences of requests and deliveries
that one call can leave behind. The main statements:

* `send_noted`: the recorder changes nothing, and what it records is an `Exchange`;
* `Exchange.isChain`, `Exchange.length_le`, `Exchange.getLast?_of_ok`: every request but the
  first is the redirection of the answer before it, there are at most as many as the limit
  allows, and the answer that is returned is the one to the last request;
* `Exchange.eq_singleton_iff`: the first request stays the only one exactly when it can be
  sent and its answer does not lead to another request;
* `Exchange.final?_eq`: the transcript alone tells which answer is returned, if any.
-/

set_option autoImplicit false

namespace PushRegistry.Http

/-- The requests that were sent, in order, and what became of each. -/
abbrev Transcript := List (Request × Delivery)

/-- A peer that keeps a transcript beside its state. -/
def Peer.noted {σ : Type} (peer : Peer σ) : Peer (σ × Transcript) := fun request s =>
  let (delivery, state) := peer request s.1
  (delivery, (state, s.2 ++ [(request, delivery)]))

theorem Peer.noted_eq {σ : Type} {peer : Peer σ} {request : Request} {s s' : σ}
    {delivery : Delivery} (hpeer : peer request s = (delivery, s')) (before : Transcript) :
    peer.noted request (s, before) = (delivery, (s', before ++ [(request, delivery)])) := by
  simp only [Peer.noted, hpeer]

variable [Url.References] {σ : Type}

/-- The second request is what the answer to the first one asks for. -/
def Redirects (a b : Request × Delivery) : Prop :=
  ∃ response, a.2 = .answered response ∧ a.1.redirect? response = some (.request b.1)

/-- The answer that a transcript ends with: the response to the last request, unless that one asks
to look elsewhere once more. -/
def Transcript.final? (t : Transcript) : Option Answer :=
  match t.getLast? with
  | some (request, .answered response) =>
    if (request.redirect? response).isSome then none else some ⟨response, request.url⟩
  | _ => none

/-- The transcripts that a request can leave behind when so many redirects are followed, with
the result that belongs to them. -/
inductive Exchange :
    Nat → Request → Transcript → Except TransportFault Answer → Prop where
  | unsendable {n : Nat} {r : Request} (hsendable : r.url.isSendable = false) :
      Exchange n r [] (.error (.unsendable r.url))
  | unreachable {n : Nat} {r : Request} (hsendable : r.url.isSendable = true) :
      Exchange n r [(r, .unreachable)] (.error (.unreachable r.url))
  | dropped {n : Nat} {r : Request} (hsendable : r.url.isSendable = true) :
      Exchange n r [(r, .dropped)] (.error (.dropped r.url))
  | final {n : Nat} {r : Request} {response : Response} (hsendable : r.url.isSendable = true)
      (hnext : r.redirect? response = none) :
      Exchange n r [(r, .answered response)] (.ok ⟨response, r.url⟩)
  | tooMany {r : Request} {response : Response} {redirect : Redirect}
      (hsendable : r.url.isSendable = true) (hnext : r.redirect? response = some redirect) :
      Exchange 0 r [(r, .answered response)] (.error (.tooManyRedirects r.url))
  | foreign {n : Nat} {r : Request} {response : Response} {url : String}
      (hsendable : r.url.isSendable = true)
      (hnext : r.redirect? response = some (.foreign url)) :
      Exchange (n + 1) r [(r, .answered response)] (.error (.foreignScheme url))
  | follow {n : Nat} {r next : Request} {response : Response} {t : Transcript}
      {result : Except TransportFault Answer} (hsendable : r.url.isSendable = true)
      (hnext : r.redirect? response = some (.request next)) (hrest : Exchange n next t result) :
      Exchange (n + 1) r ((r, .answered response) :: t) result

/-- A redirect is only followed to a URL that a request can be addressed to. -/
theorem isSendable_of_redirect? {r next : Request} {response : Response}
    (h : r.redirect? response = some (.request next)) : next.url.isSendable = true := by
  unfold Request.redirect? at h
  split at h
  · obtain ⟨reference, -, h⟩ := Option.bind_eq_some_iff.mp h
    obtain ⟨destination, -, h⟩ := Option.bind_eq_some_iff.mp h
    cases destination with
    | foreign url => cases h
    | url url =>
        dsimp only at h
        by_cases hsendable : url.isSendable = true
        · rw [if_pos hsendable] at h
          cases h
          exact hsendable
        · rw [if_neg hsendable] at h
          cases h
  · cases h

/-! ### One step of sending -/

section Step

variable {peer : Peer σ} {n : Nat} {request next : Request} {response : Response} {s s' : σ}

theorem sendWith_unreachable (hpeer : peer request s = (.unreachable, s')) :
    sendWith peer n request s = (.error (.unreachable request.url), s') := by
  rw [sendWith.eq_def, hpeer]

theorem sendWith_dropped (hpeer : peer request s = (.dropped, s')) :
    sendWith peer n request s = (.error (.dropped request.url), s') := by
  rw [sendWith.eq_def, hpeer]

theorem sendWith_final (hpeer : peer request s = (.answered response, s'))
    (hnext : request.redirect? response = none) :
    sendWith peer n request s = (.ok ⟨response, request.url⟩, s') := by
  rw [sendWith.eq_def]
  simp only [hpeer, hnext]

theorem sendWith_tooMany {redirect : Redirect} (hpeer : peer request s = (.answered response, s'))
    (hnext : request.redirect? response = some redirect) :
    sendWith peer 0 request s = (.error (.tooManyRedirects request.url), s') := by
  rw [sendWith.eq_def]
  simp only [hpeer, hnext]

theorem sendWith_foreign {url : String} (hpeer : peer request s = (.answered response, s'))
    (hnext : request.redirect? response = some (.foreign url)) :
    sendWith peer (n + 1) request s = (.error (.foreignScheme url), s') := by
  rw [sendWith.eq_def]
  simp only [hpeer, hnext]

theorem sendWith_follow (hpeer : peer request s = (.answered response, s'))
    (hnext : request.redirect? response = some (.request next)) :
    sendWith peer (n + 1) request s = sendWith peer n next s' := by
  rw [sendWith.eq_def]
  simp only [hpeer, hnext]

theorem send_of_isSendable (h : request.url.isSendable = true) :
    send peer request s = sendWith peer redirectLimit request s := by
  rw [send, if_pos h]

theorem send_of_not_isSendable (h : request.url.isSendable = false) :
    send peer request s = (.error (.unsendable request.url), s) := by
  rw [send, if_neg (by rw [h]; exact Bool.false_ne_true)]

end Step

/-! ### Recording -/

/-- The recorder changes neither the result nor the state, and adds one exchange to what it has
already. The first entry is the peer's own reaction to the request. The induction follows the
redirects, with whatever was recorded before. -/
theorem sendWith_noted (peer : Peer σ) (n : Nat) {request : Request}
    (hsendable : request.url.isSendable = true) (s : σ) (before : Transcript) :
    ∃ t, sendWith peer.noted n request (s, before)
        = ((sendWith peer n request s).1, ((sendWith peer n request s).2, before ++ t)) ∧
      Exchange n request t (sendWith peer n request s).1 ∧
      t.head? = some (request, (peer request s).1) := by
  fun_induction sendWith peer n request s generalizing before with
  | case1 n request s s' hpeer =>
      refine ⟨[(request, .unreachable)], ?_, .unreachable hsendable, by rw [hpeer]; rfl⟩
      exact sendWith_unreachable (Peer.noted_eq hpeer before)
  | case2 n request s s' hpeer =>
      refine ⟨[(request, .dropped)], ?_, .dropped hsendable, by rw [hpeer]; rfl⟩
      exact sendWith_dropped (Peer.noted_eq hpeer before)
  | case3 n request s response s' hpeer hnext =>
      refine ⟨[(request, .answered response)], ?_, .final hsendable hnext, by rw [hpeer]; rfl⟩
      exact sendWith_final (Peer.noted_eq hpeer before) hnext
  | case4 request s response s' hpeer redirect hnext =>
      refine ⟨[(request, .answered response)], ?_, .tooMany hsendable hnext, by rw [hpeer]; rfl⟩
      exact sendWith_tooMany (Peer.noted_eq hpeer before) hnext
  | case5 request s response s' hpeer url n hnext =>
      refine ⟨[(request, .answered response)], ?_, .foreign hsendable hnext, by rw [hpeer]; rfl⟩
      exact sendWith_foreign (Peer.noted_eq hpeer before) hnext
  | case6 request s response s' hpeer next n hnext ih =>
      -- The rest of the run records behind the entry that this step has made.
      obtain ⟨t, hrun, hexchange, -⟩ :=
        ih (isSendable_of_redirect? hnext) (before ++ [(request, .answered response)])
      refine ⟨(request, .answered response) :: t, ?_, .follow hsendable hnext hexchange,
        by rw [hpeer]; rfl⟩
      rw [sendWith_follow (Peer.noted_eq hpeer before) hnext, hrun, List.append_assoc,
        List.singleton_append]

/-- What a call leaves behind with a recorder that is empty at first. -/
theorem send_noted (peer : Peer σ) (request : Request) (s : σ) :
    ∃ t, send peer.noted request (s, [])
        = ((send peer request s).1, ((send peer request s).2, t)) ∧
      Exchange redirectLimit request t (send peer request s).1 ∧
      (request.url.isSendable = true → t.head? = some (request, (peer request s).1)) := by
  cases hsendable : request.url.isSendable with
  | true =>
      obtain ⟨t, hrun, hexchange, hhead⟩ := sendWith_noted peer redirectLimit hsendable s []
      rw [send_of_isSendable hsendable, send_of_isSendable hsendable]
      exact ⟨t, hrun, hexchange, fun _ => hhead⟩
  | false =>
      rw [send_of_not_isSendable hsendable, send_of_not_isSendable hsendable]
      exact ⟨[], rfl, .unsendable hsendable, nofun⟩

namespace Exchange

variable {n : Nat} {r : Request} {t : Transcript} {result : Except TransportFault Answer}

/-- The number of requests is bounded by the redirects that are followed. -/
theorem length_le (h : Exchange n r t result) : t.length ≤ n + 1 := by
  induction h with
  | unsendable => simp
  | unreachable => simp
  | dropped => simp
  | final => simp
  | tooMany => simp
  | foreign => simp
  | follow _ _ _ ih =>
      rw [List.length_cons]
      omega

/-- A transcript starts with the request itself, if there is one at all. -/
theorem head?_of_mem (h : Exchange n r t result) (p : Request × Delivery) (hp : p ∈ t.head?) :
    p.1 = r := by
  cases h with
  | unsendable => simp at hp
  | unreachable => simp at hp; rw [← hp]
  | dropped => simp at hp; rw [← hp]
  | final => simp at hp; rw [← hp]
  | tooMany => simp at hp; rw [← hp]
  | foreign => simp at hp; rw [← hp]
  | follow => simp at hp; rw [← hp]

/-- Every request but the first is what the answer before it asks for. -/
theorem isChain (h : Exchange n r t result) : t.IsChain Redirects := by
  induction h with
  | unsendable => exact List.isChain_nil
  | unreachable => exact List.isChain_singleton _
  | dropped => exact List.isChain_singleton _
  | final => exact List.isChain_singleton _
  | tooMany => exact List.isChain_singleton _
  | foreign => exact List.isChain_singleton _
  | follow _ hnext hrest ih =>
      -- Only the first link is new, and the rest starts with the redirected request.
      refine List.isChain_cons.mpr ⟨fun p hp => ?_, ih⟩
      rw [← hrest.head?_of_mem p hp] at hnext
      exact ⟨_, rfl, hnext⟩

/-- The answer that is returned is the one to the last request. -/
theorem getLast?_of_ok {answer : Answer} (h : Exchange n r t (.ok answer)) :
    ∃ last, t.getLast? = some (last, .answered answer.response) ∧ last.url = answer.url := by
  -- The result must be a variable for the induction, and all endings but one contradict it.
  generalize hresult : (.ok answer : Except TransportFault Answer) = result at h
  induction h with
  | unsendable => cases hresult
  | unreachable => cases hresult
  | dropped => cases hresult
  | @final n r response =>
      cases hresult
      exact ⟨r, rfl, rfl⟩
  | tooMany => cases hresult
  | foreign => cases hresult
  | follow _ _ _ ih =>
      obtain ⟨last, hlast, hurl⟩ := ih hresult
      refine ⟨last, ?_, hurl⟩
      rw [List.getLast?_cons, hlast, Option.getD_some]

/-- A transcript is empty exactly when the request cannot be sent. -/
theorem eq_nil_iff (h : Exchange n r t result) : t = [] ↔ r.url.isSendable = false := by
  cases h with
  | unsendable hsendable => simp [hsendable]
  | unreachable hsendable => simp [hsendable]
  | dropped hsendable => simp [hsendable]
  | final hsendable _ => simp [hsendable]
  | tooMany hsendable _ => simp [hsendable]
  | foreign hsendable _ => simp [hsendable]
  | follow hsendable _ _ => simp [hsendable]

/-- What follows a redirect is not empty. -/
theorem ne_nil_of_redirect? {next : Request} {response : Response} (h : Exchange n next t result)
    (hnext : r.redirect? response = some (.request next)) : t ≠ [] := fun hnil =>
  absurd (isSendable_of_redirect? hnext) (by rw [h.eq_nil_iff.mp hnil]; exact Bool.false_ne_true)

/-- The answer that is returned is the one that the transcript ends with. -/
theorem final?_eq (h : Exchange n r t result) : Transcript.final? t = result.toOption := by
  induction h with
  | unsendable => rfl
  | unreachable => rfl
  | dropped => rfl
  | final _ hnext =>
      rw [Transcript.final?, List.getLast?_singleton]
      simp only [hnext, Option.isSome_none, Bool.false_eq_true, if_false]
      rfl
  | tooMany _ hnext =>
      rw [Transcript.final?, List.getLast?_singleton]
      simp only [hnext, Option.isSome_some, if_true]
      rfl
  | foreign _ hnext =>
      rw [Transcript.final?, List.getLast?_singleton]
      simp only [hnext, Option.isSome_some, if_true]
      rfl
  | @follow n r next response t result _ hnext hrest ih =>
      cases t with
      | nil => exact absurd rfl (hrest.ne_nil_of_redirect? hnext)
      | cons p rest => exact ih

/-- When redirects are followed, the first request stays the only one exactly if its answer does
not lead to another one. -/
theorem eq_singleton_iff {delivery : Delivery} (h : Exchange (n + 1) r t result)
    (hhead : t.head? = some (r, delivery)) :
    t = [(r, delivery)] ↔ ∀ response next, delivery = .answered response →
      r.redirect? response ≠ some (.request next) := by
  cases h with
  | unsendable => cases hhead
  | unreachable =>
      cases hhead
      exact iff_of_true rfl fun _ _ hd => by cases hd
  | dropped =>
      cases hhead
      exact iff_of_true rfl fun _ _ hd => by cases hd
  | final _ hnext =>
      cases hhead
      refine iff_of_true rfl ?_
      rintro response next ⟨⟩
      rw [hnext]
      exact nofun
  | foreign _ hnext =>
      cases hhead
      refine iff_of_true rfl ?_
      rintro response next ⟨⟩
      rw [hnext]
      exact fun hsome => Redirect.noConfusion (Option.some.inj hsome)
  | @follow _ _ next' response' t' _ _ hnext hrest =>
      cases hhead
      -- What was asked for was sent as well.
      refine iff_of_false ?_ fun hstop => hstop response' next' rfl hnext
      rw [List.cons.injEq, eq_self_iff_true, true_and]
      exact hrest.ne_nil_of_redirect? hnext

end Exchange

end PushRegistry.Http
