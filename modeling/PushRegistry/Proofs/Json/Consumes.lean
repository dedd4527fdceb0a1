import Mathlib.Data.List.TakeWhile
import PushRegistry.Json.Cursor

/-!
# `PushRegistry.Proofs.Json.Consumes`: what a reader takes from a text

`Consumes r input a rest` says that `r`, standing in front of `input`, returns `a` and stops in
front of `rest`, whatever its line and column are. The rules below follow the shape of the
readers: `bind` chains two of them, `token` passes blanks, `located` and `closing` add nothing
where nothing fails. Readers of documents are then followed byte by byte without mentioning
cursors.
-/

set_option autoImplicit false

namespace PushRegistry.Json

/-- Standing in front of `input`, the reader returns `a` and stops in front of `rest`. -/
def Consumes {α : Type} (r : Reader α) (input : List UInt8) (a : α) (rest : List UInt8) : Prop :=
  ∀ c : Cursor, c.rest = input → ∃ c' : Cursor, r c = .ok a c' ∧ c'.rest = rest

/-- Only blanks. -/
def Blank (t : List UInt8) : Prop := ∀ b ∈ t, Reader.isBlank b = true

instance : DecidablePred Blank := fun t =>
  decidable_of_iff (t.all Reader.isBlank = true) List.all_eq_true

theorem Blank.nil : Blank [] := by
  intro b hb
  cases hb

theorem toNat_lt_of_isBlank {b : UInt8} (h : Reader.isBlank b = true) : b.toNat < 0x80 := by
  simp only [Reader.isBlank, Bool.or_eq_true, beq_iff_eq] at h
  rcases h with ((rfl | rfl) | rfl) | rfl <;> decide

/-- What may follow a value: nothing, a blank, a comma or a closing bracket. -/
def Delimited (t : List UInt8) : Prop :=
  ∀ b ∈ t.head?, Reader.isBlank b = true ∨ b = 0x2c ∨ b = 0x5d ∨ b = 0x7d

theorem Delimited.nil : Delimited [] := by
  intro b hb
  cases hb

theorem Delimited.of_blank {ws : List UInt8} (hws : Blank ws) {b : UInt8}
    (hb : b = 0x2c ∨ b = 0x5d ∨ b = 0x7d) (t : List UInt8) : Delimited (ws ++ b :: t) := by
  intro c hc
  -- What comes first depends on whether there are blanks.
  cases ws with
  | nil =>
      obtain rfl : b = c := by simpa using hc
      exact Or.inr hb
  | cons w ws =>
      obtain rfl : w = c := by simpa using hc
      exact Or.inl (hws w List.mem_cons_self)

/-! ### Cursors -/

namespace Cursor

theorem rest_advance (c : Cursor) : c.advance.rest = c.rest.tail := by
  unfold advance
  cases hrest : c.rest with
  | nil => rw [hrest]; rfl
  | cons b t =>
      by_cases hb : b = 0x0a
      · simp [hb]
      · simp [hb]

theorem rest_advanceBy (n : Nat) (c : Cursor) : (advanceBy n c).rest = c.rest.drop n := by
  induction n generalizing c with
  | zero => rfl
  | succ n ih => rw [advanceBy, ih, rest_advance, List.drop_tail]

end Cursor

/-! ### Chaining -/

namespace Consumes

variable {α β : Type} {r : Reader α} {input middle rest : List UInt8} {a : α} {b : β}

theorem pure (a : α) (input : List UInt8) : Consumes (Pure.pure a) input a input := by
  intro c hc
  exact ⟨c, rfl, hc⟩

theorem bind {f : α → Reader β} (h : Consumes r input a middle)
    (hf : Consumes (f a) middle b rest) : Consumes (r >>= f) input b rest := by
  intro c hc
  obtain ⟨c', hr, hc'⟩ := h c hc
  obtain ⟨c'', hfa, hc''⟩ := hf c' hc'
  refine ⟨c'', ?_, hc''⟩
  show EStateM.bind r f c = _
  rw [EStateM.bind, hr]
  exact hfa

/-- A reader that looks at its whole input first. -/
theorem get {f : Cursor → Reader β} (h : ∀ c : Cursor, c.rest = input → Consumes (f c) input b rest) :
    Consumes (MonadState.get >>= f) input b rest := by
  intro c hc
  exact h c hc c hc

theorem modify {f : Cursor → Cursor} (h : ∀ c : Cursor, c.rest = input → (f c).rest = rest) :
    Consumes (modify f) input () rest := by
  intro c hc
  exact ⟨f c, rfl, h c hc⟩

/-! ### Bytes -/

theorem peek (input : List UInt8) : Consumes Reader.peek input input.head? input := by
  refine get fun c hc => ?_
  rw [hc]
  exact pure _ _

theorem skip (b : UInt8) (rest : List UInt8) : Consumes Reader.skip (b :: rest) () rest := by
  refine modify fun c hc => ?_
  rw [Cursor.rest_advance, hc, List.tail_cons]

theorem next (b : UInt8) (rest : List UInt8) : Consumes Reader.next (b :: rest) (some b) rest :=
  bind (peek _) (bind (skip b rest) (pure _ _))

theorem takeWhile (keep : UInt8 → Bool) (input : List UInt8) :
    Consumes (Reader.takeWhile keep) input (input.takeWhile keep) (input.dropWhile keep) := by
  refine get fun c hc => ?_
  rw [hc]
  refine bind (modify fun c' hc' => ?_) (pure _ _)
  -- The cursor advances by the bytes that were taken, one by one.
  have hdrop : (input.takeWhile keep ++ input.dropWhile keep).drop (input.takeWhile keep).length
      = input.dropWhile keep := List.drop_left
  rw [List.takeWhile_append_dropWhile] at hdrop
  rw [Cursor.rest_advanceBy, hc', hdrop]

/-- A run that ends in front of a byte that does not belong to it. -/
theorem takeRun {keep : UInt8 → Bool} {run rest : List UInt8} (hrun : ∀ b ∈ run, keep b = true)
    (hrest : ∀ b ∈ rest.head?, keep b = false) :
    Consumes (Reader.takeWhile keep) (run ++ rest) run rest := by
  have hread := takeWhile keep (run ++ rest)
  rw [List.takeWhile_append_of_pos hrun, List.dropWhile_append_of_pos hrun] at hread
  cases rest with
  | nil =>
      rw [List.takeWhile_nil, List.dropWhile_nil, List.append_nil] at hread
      rwa [List.append_nil]
  | cons b rest =>
      have hb : ¬ keep b = true := by
        rw [hrest b rfl]
        exact Bool.false_ne_true
      rwa [List.takeWhile_cons_of_neg hb, List.dropWhile_cons_of_neg hb, List.append_nil] at hread

/-- Blanks are passed, and the byte behind them is seen. -/
theorem token {blanks : List UInt8} {b : UInt8} (hblanks : Blank blanks)
    (hb : Reader.isBlank b = false) (rest : List UInt8) :
    Consumes Reader.token (blanks ++ b :: rest) (some b) (b :: rest) := by
  -- The blanks are all passed and nothing else, because the byte behind them is none.
  have hstop : ∀ c ∈ (b :: rest).head?, Reader.isBlank c = false := by
    rintro c ⟨⟩
    exact hb
  exact bind (takeRun hblanks hstop) (peek _)

/-- At the end of a text only blanks are left. -/
theorem token_end {blanks : List UInt8} (hblanks : Blank blanks) :
    Consumes Reader.token blanks none [] := by
  have hread : Consumes (Reader.takeWhile Reader.isBlank) (blanks ++ []) blanks [] :=
    takeRun hblanks (by rintro c ⟨⟩)
  rw [List.append_nil] at hread
  exact bind hread (peek _)

/-! ### Faults that do not happen -/

theorem located (h : Consumes r input a rest) : Consumes (Reader.located r) input a rest := by
  intro c hc
  obtain ⟨c', hr, hc'⟩ := h c hc
  refine ⟨c', ?_, hc'⟩
  show EStateM.tryCatch r _ c = _
  rw [EStateM.tryCatch, hr]

theorem tryCatch {handle : Fault → Reader α} (h : Consumes r input a rest) :
    Consumes (MonadExcept.tryCatch r handle) input a rest := by
  intro c hc
  obtain ⟨c', hr, hc'⟩ := h c hc
  refine ⟨c', ?_, hc'⟩
  show EStateM.tryCatch r _ c = _
  rw [EStateM.tryCatch, hr]

theorem closing {close : Reader Unit} (h : Consumes r input a middle)
    (hclose : Consumes close middle () rest) :
    Consumes (Reader.closing r close) input a rest :=
  bind (tryCatch (bind h (pure (Except.ok a) middle))) (bind hclose (pure a rest))

/-- A text that a reader takes as a whole is read. -/
theorem run_eq (h : Consumes r input a []) : Reader.run r input = .ok a := by
  obtain ⟨c', hr, -⟩ := h (Cursor.start input) rfl
  rw [Reader.run, EStateM.run, hr]

end Consumes

end PushRegistry.Json
