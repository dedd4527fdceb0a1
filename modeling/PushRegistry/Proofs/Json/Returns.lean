import PushRegistry.Proofs.Json.Ensures

/-!
# `PushRegistry.Proofs.Json.Returns`: what was in front of a reader

`Consumes` goes from a text to what a reader makes of it. `Returns r input a rest` is where the way
back starts: `r` stood somewhere in front of `input`, returned `a` and stopped in front of `rest`.
The rules take a run apart along the shape of the reader, and `eq_of_consumes` closes the way of a
reader along a text that is known.

A grammar describes a reader from both sides: with `Reads` it takes all texts of the grammar, with
`Sound` it takes nothing else. If the texts are values, a reader that is `Sound` and that stands in
front of a value takes exactly this value (`Sound.of_value`).
-/

set_option autoImplicit false

namespace PushRegistry.Json

variable {α β σ : Type}

/-- Somewhere in front of `input`, the reader returns `a` and stops in front of `rest`. -/
def Returns (r : Reader α) (input : List UInt8) (a : α) (rest : List UInt8) : Prop :=
  ∃ c c' : Cursor, c.rest = input ∧ r c = .ok a c' ∧ c'.rest = rest

/-- A reader that returns nothing has not returned. -/
theorem Ensures.elim {r : Reader α} (h : Ensures r fun _ => False) {input rest : List UInt8}
    {a : α} (hr : Returns r input a rest) {p : Prop} : p := by
  obtain ⟨c, c', -, hrun, -⟩ := hr
  exact (h c a c' hrun).elim

/-- What was read from the start of a text. -/
theorem exists_returns_of_run {r : Reader α} {bytes : List UInt8} {a : α}
    (h : Reader.run r bytes = .ok a) : ∃ rest, Returns r bytes a rest := by
  unfold Reader.run EStateM.run at h
  cases hr : r (Cursor.start bytes) with
  | ok b c =>
      rw [hr] at h
      cases h
      exact ⟨c.rest, Cursor.start bytes, c, rfl, hr, rfl⟩
  | error fault c =>
      rw [hr] at h
      cases h

theorem Consumes.returns {r : Reader α} {input rest : List UInt8} {a : α}
    (h : Consumes r input a rest) : Returns r input a rest := by
  obtain ⟨c, hrun, hc⟩ := h (Cursor.start input) rfl
  exact ⟨Cursor.start input, c, rfl, hrun, hc⟩

namespace Returns

variable {r : Reader α} {input middle rest : List UInt8} {a : α} {b : β}

/-- A reader along a known text returns what it must. -/
theorem eq_of_consumes {a' : α} {rest' : List UInt8} (h : Returns r input a rest)
    (hr : Consumes r input a' rest') : a = a' ∧ rest = rest' := by
  obtain ⟨c, c', hc, hrun, hrest⟩ := h
  obtain ⟨d, hrun', hrest'⟩ := hr c hc
  obtain ⟨rfl, rfl⟩ := EStateM.Result.ok.inj (hrun.symm.trans hrun')
  exact ⟨rfl, hrest.symm.trans hrest'⟩

/-! ### Chaining -/

theorem pure {a' : α} (h : Returns (Pure.pure a') input a rest) : a = a' ∧ rest = input :=
  h.eq_of_consumes (.pure a' input)

theorem bind {f : α → Reader β} (h : Returns (r >>= f) input b rest) :
    ∃ a middle, Returns r input a middle ∧ Returns (f a) middle b rest := by
  obtain ⟨c, c', hc, hrun, hrest⟩ := h
  change EStateM.bind r f c = _ at hrun
  unfold EStateM.bind at hrun
  cases hr : r c with
  | ok a d =>
      rw [hr] at hrun
      exact ⟨a, d.rest, ⟨c, d, hc, hr, rfl⟩, d, c', rfl, hrun, hrest⟩
  | error fault d =>
      rw [hr] at hrun
      cases hrun

/-- What comes behind a reader that goes along a known text. -/
theorem after {f : α → Reader β} (h : Returns (r >>= f) input b rest)
    (hr : Consumes r input a middle) : Returns (f a) middle b rest := by
  obtain ⟨a', middle', hread, h⟩ := h.bind
  obtain ⟨rfl, rfl⟩ := hread.eq_of_consumes hr
  exact h

/-- A reader that looks at its whole input first. -/
theorem get {f : Cursor → Reader β} (h : Returns (MonadState.get >>= f) input b rest) :
    ∃ c : Cursor, c.rest = input ∧ Returns (f c) input b rest := by
  obtain ⟨c, c', hc, hrun, hrest⟩ := h
  exact ⟨c, hc, c, c', hc, hrun, hrest⟩

theorem ite {p : Prop} [Decidable p] {r' : Reader α}
    (h : Returns (if p then r else r') input a rest) :
    p ∧ Returns r input a rest ∨ ¬ p ∧ Returns r' input a rest := by
  split at h
  · next hp => exact .inl ⟨hp, h⟩
  · next hp => exact .inr ⟨hp, h⟩

/-! ### Bytes -/

theorem next {o : Option UInt8} (h : Returns Reader.next input o rest) :
    input = [] ∧ o = none ∨ ∃ b, input = b :: rest ∧ o = some b := by
  cases input with
  | nil =>
      have hend : Consumes Reader.next [] none [] :=
        .bind (.peek _) (.bind (.modify fun c hc => by rw [Cursor.rest_advance, hc]; rfl) (.pure _ _))
      exact .inl ⟨rfl, (h.eq_of_consumes hend).1⟩
  | cons b t =>
      obtain ⟨rfl, rfl⟩ := h.eq_of_consumes (.next b t)
      exact .inr ⟨b, rfl, rfl⟩

/-- A byte that was taken. -/
theorem next_bind {f : Option UInt8 → Reader β} (hnone : Ensures (f none) fun _ => False)
    (h : Returns (Reader.next >>= f) input b rest) :
    ∃ x t, input = x :: t ∧ Returns (f (some x)) t b rest := by
  obtain ⟨o, middle, hnext, h⟩ := h.bind
  obtain ⟨-, rfl⟩ | ⟨x, rfl, rfl⟩ := hnext.next
  · exact hnone.elim h
  · exact ⟨x, middle, rfl, h⟩

/-- A byte that was seen. -/
theorem peek_bind {f : Option UInt8 → Reader β} (hnone : Ensures (f none) fun _ => False)
    (h : Returns (Reader.peek >>= f) input b rest) :
    ∃ x t, input = x :: t ∧ Returns (f (some x)) (x :: t) b rest := by
  have h := h.after (.peek input)
  cases input with
  | nil => exact hnone.elim h
  | cons x t => exact ⟨x, t, rfl, h⟩

theorem token {o : Option UInt8} (h : Returns Reader.token input o rest) :
    ∃ blanks, Blank blanks ∧ input = blanks ++ rest ∧ o = rest.head? ∧
      ∀ b ∈ rest.head?, Reader.isBlank b = false := by
  obtain ⟨blanks, middle, hblanks, h⟩ := h.bind
  obtain ⟨rfl, rfl⟩ := hblanks.eq_of_consumes (.takeWhile Reader.isBlank input)
  obtain ⟨rfl, rfl⟩ := h.eq_of_consumes (.peek _)
  refine ⟨_, fun b hb => List.mem_takeWhile_imp hb, List.takeWhile_append_dropWhile.symm, rfl, ?_⟩
  intro b hb
  have hnot := List.head?_dropWhile_not Reader.isBlank input
  rw [Option.mem_def.mp hb] at hnot
  simpa using hnot

/-- The byte behind the blanks, if there must be one. -/
theorem token_bind {f : Option UInt8 → Reader β} (hnone : Ensures (f none) fun _ => False)
    (h : Returns (Reader.token >>= f) input b rest) :
    ∃ blanks x t, Blank blanks ∧ input = blanks ++ x :: t ∧ Reader.isBlank x = false ∧
      Returns (f (some x)) (x :: t) b rest := by
  obtain ⟨o, middle, htoken, h⟩ := h.bind
  obtain ⟨blanks, hblanks, rfl, rfl, hhead⟩ := htoken.token
  cases middle with
  | nil => exact hnone.elim h
  | cons x t => exact ⟨blanks, x, t, hblanks, rfl, hhead x rfl, h⟩

/-- What comes behind a byte that is passed. -/
theorem skip_bind {f : Unit → Reader β} {x : UInt8} {t : List UInt8}
    (h : Returns (Reader.skip >>= f) (x :: t) b rest) : Returns (f ()) t b rest :=
  h.after (.skip x t)

/-- A word stands in front of what is left. -/
theorem ident {expected : List UInt8} (h : Returns (Reader.ident expected) input () rest) :
    input = expected ++ rest := by
  induction expected generalizing input with
  | nil => exact h.pure.2.symm
  | cons x expected ih =>
      obtain ⟨_, middle, hfirst, hothers⟩ := h.bind
      obtain ⟨y, t, rfl, hbyte⟩ := hfirst.next_bind (.fail _)
      obtain ⟨rfl, hfound⟩ | ⟨-, hfound⟩ := hbyte.ite
      · rw [← hfound.pure.2, List.cons_append, ← ih hothers]
      · exact (Ensures.fail _).elim hfound

/-! ### Faults that did not happen -/

theorem tryCatch {handle : Fault → Reader α} (hhandle : ∀ fault, Ensures (handle fault) fun _ => False)
    (h : Returns (MonadExcept.tryCatch r handle) input a rest) : Returns r input a rest := by
  obtain ⟨c, c', hc, hrun, hrest⟩ := h
  change EStateM.tryCatch r handle c = _ at hrun
  unfold EStateM.tryCatch at hrun
  cases hr : r c with
  | ok b d =>
      rw [hr] at hrun
      cases hrun
      exact ⟨c, c', hc, hr, hrest⟩
  | error fault d =>
      rw [hr] at hrun
      exact (hhandle fault _ _ _ hrun).elim

theorem located (h : Returns (Reader.located r) input a rest) : Returns r input a rest := by
  refine tryCatch (fun fault => ?_) h
  cases fault.position with
  | some place => exact .throw fault
  | none => exact .fail _

theorem closing {close : Reader Unit} (h : Returns (Reader.closing r close) input a rest) :
    ∃ middle, Returns r input a middle ∧ Returns close middle () rest := by
  obtain ⟨result, middle, hbody, h⟩ := h.bind
  cases result with
  | error fault =>
      obtain ⟨_, _, -, h⟩ := bind (r := MonadExcept.tryCatch close fun _ => Pure.pure ()) h
      exact (Ensures.throw fault).elim h
  | ok a' =>
      obtain ⟨_, rest', hclose, h⟩ := bind (r := close) h
      obtain ⟨rfl, rfl⟩ := h.pure
      refine ⟨middle, ?_, hclose⟩
      -- The body has returned by itself, since what is done with a fault is no success.
      obtain ⟨c, c', hc, hrun, hrest⟩ := hbody
      change EStateM.tryCatch _ _ c = _ at hrun
      unfold EStateM.tryCatch at hrun
      cases hr : (r >>= fun a => Pure.pure (Except.ok a) : Reader (Except Fault α)) c with
      | ok b d =>
          rw [hr] at hrun
          cases hrun
          obtain ⟨a'', middle', hr', h⟩ := bind ⟨c, c', hc, hr, hrest⟩
          obtain ⟨heq, rfl⟩ := h.pure
          obtain rfl := Except.ok.inj heq
          exact hr'
      | error fault d =>
          rw [hr] at hrun
          cases hrun

end Returns

/-! ### Grammars -/

/-- A reader takes only the texts of values, behind any blanks. -/
def Sound (reader : Reader α) (spells : α → List UInt8 → Prop) : Prop :=
  ∀ {input rest : List UInt8} {a : α}, Returns reader input a rest →
    ∃ ws t, Blank ws ∧ spells a t ∧ input = ws ++ (t ++ rest)

/-- Blanks end where a token starts. -/
theorem Blank.append_cancel {ws ws' t t' : List UInt8} {b b' : UInt8} (hws : Blank ws)
    (hws' : Blank ws') (hb : Reader.isBlank b = false) (hb' : Reader.isBlank b' = false)
    (h : ws ++ b :: t = ws' ++ b' :: t') : ws = ws' ∧ b :: t = b' :: t' := by
  -- Both texts are read alike, up to their first token.
  have hread : Consumes (Reader.takeWhile Reader.isBlank) (ws ++ b :: t) ws (b :: t) :=
    .takeRun hws (by rintro c ⟨⟩; exact hb)
  have hread' : Consumes (Reader.takeWhile Reader.isBlank) (ws' ++ b' :: t') ws' (b' :: t') :=
    .takeRun hws' (by rintro c ⟨⟩; exact hb')
  rw [h] at hread
  exact hread.returns.eq_of_consumes hread'

/-- In front of a token there are no blanks. -/
theorem Sound.of_token {reader : Reader α} {spells : α → List UInt8 → Prop} (h : Sound reader spells)
    {b : UInt8} {u rest : List UInt8} {a : α} (hb : Reader.isBlank b = false)
    (hr : Returns reader (b :: u) a rest) : ∃ t, spells a t ∧ b :: u = t ++ rest := by
  obtain ⟨ws, t, hws, ht, heq⟩ := h hr
  cases ws with
  | nil => exact ⟨t, ht, heq⟩
  | cons w ws =>
      obtain rfl : b = w := (List.cons.inj heq).1
      rw [hws b List.mem_cons_self] at hb
      cases hb

/-- A text that is read as a whole holds one value, and blanks around it. -/
theorem Sound.of_run_whole {reader : Nat → Reader α} {spells : α → List UInt8 → Prop}
    (h : Sound (reader Reader.depthLimit) spells) {bytes : List UInt8} {a : α}
    (hrun : Reader.run (Reader.whole reader) bytes = .ok a) :
    ∃ before t after, spells a t ∧ Blank before ∧ Blank after ∧ bytes = before ++ (t ++ after) := by
  obtain ⟨rest, hwhole⟩ := exists_returns_of_run hrun
  obtain ⟨a', middle, hvalue, hbehind⟩ := hwhole.bind
  obtain ⟨_, last, hend, hreturn⟩ := hbehind.bind
  obtain ⟨rfl, -⟩ := hreturn.pure
  obtain ⟨before, t, hbefore, ht, rfl⟩ := h hvalue
  -- Behind the value a token would be a fault.
  obtain ⟨o, last', htoken, hnothing⟩ := hend.bind
  obtain ⟨after, hafter, rfl, rfl, -⟩ := htoken.token
  cases last' with
  | nil => exact ⟨before, t, after, ht, hbefore, hafter, by rw [List.append_nil]⟩
  | cons b u => exact (Ensures.failAhead _).elim hnothing

/-- A grammar of all that a reader takes decides which texts are read, and as what. -/
theorem run_whole_eq_ok_iff {reader : Nat → Reader α} {spells : α → List UInt8 → Prop}
    (hreads : Reads (reader Reader.depthLimit) spells)
    (hsound : Sound (reader Reader.depthLimit) spells) {bytes : List UInt8} {a : α} :
    Reader.run (Reader.whole reader) bytes = .ok a ↔
      ∃ before t after, spells a t ∧ Blank before ∧ Blank after ∧
        bytes = before ++ (t ++ after) := by
  constructor
  · exact hsound.of_run_whole
  · rintro ⟨before, t, after, ht, hbefore, hafter, rfl⟩
    exact decode_of_reads hreads ht hbefore hafter

/-! ### The loop -/

/-- One step for each element of a list. -/
inductive Path {τ : Type} (step : σ → τ → σ → Prop) : σ → List τ → σ → Prop where
  | nil {s : σ} : Path step s [] s
  | cons {s s' s'' : σ} {x : τ} {xs : List τ} (hx : step s x s') (hxs : Path step s' xs s'') :
      Path step s (x :: xs) s''

/-- What stands in front of a reader that looks for one more: the closing bracket, or a text, with a
comma in front unless it is the first. -/
inductive Ahead (opens : UInt8 → Prop) (close : UInt8) :
    Bool → List UInt8 → Bool → List UInt8 → Prop where
  | done {first : Bool} {ws t : List UInt8} (hws : Blank ws) :
      Ahead opens close first (ws ++ close :: t) false (close :: t)
  | first {ws t : List UInt8} {b : UInt8} (hws : Blank ws) (hb : opens b) :
      Ahead opens close true (ws ++ b :: t) true (b :: t)
  | next {before after t : List UInt8} {b : UInt8} (hbefore : Blank before) (hafter : Blank after)
      (hb : opens b) : Ahead opens close false (before ++ 0x2c :: (after ++ b :: t)) true (b :: t)

/-- A reader that looks for one more returns what there is. -/
def Finds (more : Bool → Reader Bool) (opens : UInt8 → Prop) (close : UInt8) : Prop :=
  ∀ {first found : Bool} {input rest : List UInt8}, Returns (more first) input found rest →
    Ahead opens close first input found rest

theorem finds_hasItem : Finds Reader.hasItem OpensItem 0x5d := by
  intro first found input rest hr
  obtain ⟨ws, b, t, hws, rfl, hb, hseen⟩ := hr.token_bind (.failAhead _)
  obtain ⟨rfl, hdone⟩ | ⟨hne, hmore⟩ := hseen.ite
  · obtain ⟨rfl, rfl⟩ := hdone.pure
    exact .done hws
  obtain ⟨rfl, hfirst⟩ | ⟨hnext, hcomma⟩ := hmore.ite
  · obtain ⟨rfl, rfl⟩ := hfirst.pure
    exact .first hws ⟨hb, hne⟩
  obtain ⟨rfl, hbehind⟩ | ⟨-, hfault⟩ := hcomma.ite
  · obtain ⟨after, c, u, hafter, rfl, hc, hitem⟩ := hbehind.skip_bind.token_bind (.failAhead _)
    obtain ⟨-, hfault⟩ | ⟨hclose, hreturn⟩ := hitem.ite
    · exact (Ensures.failAhead _).elim hfault
    · obtain ⟨rfl, rfl⟩ := hreturn.pure
      rw [Bool.eq_false_iff.mpr hnext]
      exact .next hws hafter ⟨hc, hclose⟩
  · exact (Ensures.failAhead _).elim hfault

theorem finds_hasMember : Finds Reader.hasMember OpensMember 0x7d := by
  intro first found input rest hr
  obtain ⟨ws, b, t, hws, rfl, -, hseen⟩ := hr.token_bind (.failAhead _)
  obtain ⟨rfl, hdone⟩ | ⟨-, hmore⟩ := hseen.ite
  · obtain ⟨rfl, rfl⟩ := hdone.pure
    exact .done hws
  obtain ⟨rfl, hfirst⟩ | ⟨hnext, hcomma⟩ := hmore.ite
  · obtain ⟨hb, hreturn⟩ | ⟨-, hfault⟩ := hfirst.ite
    · obtain ⟨rfl, rfl⟩ := hreturn.pure
      exact .first hws hb
    · exact (Ensures.failAhead _).elim hfault
  obtain ⟨rfl, hbehind⟩ | ⟨-, hfault⟩ := hcomma.ite
  · obtain ⟨after, c, u, hafter, rfl, -, hmember⟩ := hbehind.skip_bind.token_bind (.failAhead _)
    obtain ⟨hc, hreturn⟩ | ⟨-, hfault⟩ := hmember.ite
    · obtain ⟨rfl, rfl⟩ := hreturn.pure
      rw [Bool.eq_false_iff.mpr hnext]
      exact .next hws hafter hc
    · exact (Ensures.ite (.failAhead _) (.failAhead _)).elim hfault
  · exact (Ensures.failAhead _).elim hfault

section Loop

variable {more : Bool → Reader Bool} {opens : UInt8 → Prop} {close : UInt8} {step : σ → Reader σ}
  {stuck : Reader σ} {spells : σ → List UInt8 → σ → Prop} {fuel : Nat} {s s' : σ}
  {input rest : List UInt8}

/-- What the loop has read behind the first text. Induction on the fuel. -/
theorem exists_separatedTail_of_returns (h : Finds more opens close)
    (hstuck : Ensures stuck fun _ => False)
    (hstep : ∀ {s s' b u rest}, opens b → Returns (step s) (b :: u) s' rest →
      ∃ t, spells s t s' ∧ b :: u = t ++ rest)
    (hr : Returns (loop more step stuck fuel false s) input s' rest) :
    ∃ ts u tail, Path spells s ts s' ∧ SeparatedTail ts u ∧ rest = close :: tail ∧
      input = u ++ close :: tail := by
  induction fuel generalizing s input with
  | zero => exact hstuck.elim hr
  | succ fuel ih =>
      obtain ⟨found, middle, hmore, hrest⟩ := hr.bind
      cases h hmore with
      | done hws =>
          obtain ⟨rfl, rfl⟩ := hrest.pure
          exact ⟨[], _, _, .nil, .nil hws, rfl, rfl⟩
      | next hbefore hafter hb =>
          -- The step takes its own text, and the loop goes on behind it.
          obtain ⟨s₁, rest₁, hs₁, hloop⟩ := hrest.bind
          obtain ⟨t, ht, heq⟩ := hstep hb hs₁
          obtain ⟨ts, u, tail, hpath, hu, rfl, rfl⟩ := ih hloop
          refine ⟨t :: ts, _, tail, .cons ht hpath, .cons hbefore hafter hu, rfl, ?_⟩
          rw [heq]
          simp only [List.append_assoc, List.cons_append]

/-- What the whole loop has read. -/
theorem exists_separated_of_returns (h : Finds more opens close)
    (hstuck : Ensures stuck fun _ => False)
    (hstep : ∀ {s s' b u rest}, opens b → Returns (step s) (b :: u) s' rest →
      ∃ t, spells s t s' ∧ b :: u = t ++ rest)
    (hr : Returns (loop more step stuck fuel true s) input s' rest) :
    ∃ ts u tail, Path spells s ts s' ∧ Separated ts u ∧ rest = close :: tail ∧
      input = u ++ close :: tail := by
  cases fuel with
  | zero => exact hstuck.elim hr
  | succ fuel =>
      obtain ⟨found, middle, hmore, hrest⟩ := hr.bind
      cases h hmore with
      | done hws =>
          obtain ⟨rfl, rfl⟩ := hrest.pure
          exact ⟨[], _, _, .nil, .nil hws, rfl, rfl⟩
      | first hws hb =>
          obtain ⟨s₁, rest₁, hs₁, hloop⟩ := hrest.bind
          obtain ⟨t, ht, heq⟩ := hstep hb hs₁
          obtain ⟨ts, u, tail, hpath, hu, rfl, rfl⟩ :=
            exists_separatedTail_of_returns h hstuck hstep hloop
          refine ⟨t :: ts, _, tail, .cons ht hpath, .cons hws hu, rfl, ?_⟩
          rw [heq]
          simp only [List.append_assoc]

end Loop

end PushRegistry.Json
