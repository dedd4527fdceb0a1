import PushRegistry.Text.Scan

/-!
# `PushRegistry.Proofs.Text.Scan`: what a scan takes from a text

`Takes scan cs a rest` says that `scan` returns `a` and leaves `rest` of the text `cs`, and
`Refuses scan cs` that it fails on this text. Every combinator has a rule for either, so that a scan
is followed through a text by its own structure. An alternative is refused only if all its branches
are, so both relations are needed even where a text is accepted in the end.
-/

set_option autoImplicit false

namespace PushRegistry.Text.Scan

variable {α β : Type}

/-- The scan returns `a` and leaves `rest`. -/
def Takes (scan : Scan α) (cs : List Char) (a : α) (rest : List Char) : Prop :=
  scan.run cs = some (a, rest)

/-- The scan fails. -/
def Refuses (scan : Scan α) (cs : List Char) : Prop := scan.run cs = none

variable {scan other : Scan α} {f : α → Scan β} {cs middle rest : List Char} {a : α} {b : β}
  {accept : Char → Bool} {c : Char}

/-- A run is empty if the first character does not belong to it. -/
theorem takeWhile_of_head? (h : ∀ d ∈ cs.head?, accept d = false) :
    cs.takeWhile accept = [] ∧ cs.dropWhile accept = cs := by
  cases cs with
  | nil => exact ⟨rfl, rfl⟩
  | cons d rest =>
      have hd : ¬ accept d = true := by
        rw [h d rfl]
        exact Bool.false_ne_true
      exact ⟨List.takeWhile_cons_of_neg hd, List.dropWhile_cons_of_neg hd⟩

theorem run_orElse_of_refuses (h : Refuses scan cs) : (scan <|> other).run cs = other.run cs := by
  change (scan.run cs <|> other.run cs) = _
  rw [h]
  rfl

namespace Takes

theorem pure (a : α) (cs : List Char) : Takes (Pure.pure a) cs a cs := rfl

theorem bind (h : Takes scan cs a middle) (hf : Takes (f a) middle b rest) :
    Takes (scan >>= f) cs b rest := by
  rw [Takes, StateT.run_bind, h]
  exact hf

theorem map {g : α → β} (h : Takes scan cs a rest) : Takes (g <$> scan) cs (g a) rest := by
  rw [Takes, StateT.run_map, h]
  rfl

theorem seqRight {second : Scan β} (h : Takes scan cs a middle)
    (hsecond : Takes second middle b rest) : Takes (scan *> second) cs b rest := h.bind hsecond

theorem orElse_left (h : Takes scan cs a rest) : Takes (scan <|> other) cs a rest := by
  change (scan.run cs <|> other.run cs) = _
  rw [h]
  rfl

theorem orElse_right (h : Refuses scan cs) (hother : Takes other cs a rest) :
    Takes (scan <|> other) cs a rest := by
  rw [Takes, run_orElse_of_refuses h]
  exact hother

theorem get (cs : List Char) : Takes MonadState.get cs cs cs := rfl

theorem peek (cs : List Char) : Takes Scan.peek cs cs.head? cs := rfl

theorem next (c : Char) (rest : List Char) : Takes Scan.next (c :: rest) c rest := rfl

theorem char (c : Char) (rest : List Char) : Takes (Scan.char c) (c :: rest) () rest := by
  refine (next c rest).bind ?_
  rw [if_pos rfl]
  exact pure () rest

theorem satisfy (h : accept c = true) (rest : List Char) :
    Takes (Scan.satisfy accept) (c :: rest) c rest := by
  refine (next c rest).bind ?_
  rw [if_pos h]
  exact pure c rest

theorem skipWhile (cs : List Char) :
    Takes (Scan.skipWhile accept) cs () (cs.dropWhile accept) := rfl

theorem takeWhile (cs : List Char) :
    Takes (Scan.takeWhile accept) cs (cs.takeWhile accept) (cs.dropWhile accept) := rfl

/-- A run that ends at a character that does not belong to it. -/
theorem takeSome {run : List Char} (hne : run ≠ []) (hrun : ∀ d ∈ run, accept d = true)
    (hrest : ∀ d ∈ rest.head?, accept d = false) :
    Takes (Scan.takeSome accept) (run ++ rest) run rest := by
  have hstop : rest.takeWhile accept = [] ∧ rest.dropWhile accept = rest :=
    takeWhile_of_head? hrest
  have htake : (run ++ rest).takeWhile accept = run := by
    rw [List.takeWhile_append_of_pos hrun, hstop.1, List.append_nil]
  have hdrop : (run ++ rest).dropWhile accept = rest := by
    rw [List.dropWhile_append_of_pos hrun, hstop.2]
  have hread : Takes (Scan.takeWhile accept) (run ++ rest) run rest := by
    rw [Takes, takeWhile, htake, hdrop]
  refine hread.bind ?_
  rw [if_neg (by simpa using hne)]
  exact pure run rest

/-- As many characters as are asked for. -/
theorem count {taken : List Char} (h : ∀ d ∈ taken, accept d = true) :
    Takes (Scan.count taken.length accept) (taken ++ rest) taken rest := by
  induction taken with
  | nil => exact pure [] rest
  | cons d taken ih =>
      obtain ⟨hd, htaken⟩ := List.forall_mem_cons.mp h
      exact (satisfy hd _).bind ((ih htaken).bind (pure _ rest))

end Takes

namespace Refuses

theorem failure (cs : List Char) : Refuses (failure : Scan α) cs := rfl

theorem bind_left (h : Refuses scan cs) : Refuses (scan >>= f) cs := by
  rw [Refuses, StateT.run_bind, h]
  rfl

theorem bind (h : Takes scan cs a middle) (hf : Refuses (f a) middle) :
    Refuses (scan >>= f) cs := by
  rw [Refuses, StateT.run_bind, h]
  exact hf

/-- What follows a scan refuses whatever the scan leaves. -/
theorem bind_of (h : ∀ a middle, Takes scan cs a middle → Refuses (f a) middle) :
    Refuses (scan >>= f) cs := by
  cases hscan : scan.run cs with
  | none => exact bind_left hscan
  | some taken => exact bind hscan (h taken.1 taken.2 hscan)

theorem map {g : α → β} (h : Refuses scan cs) : Refuses (g <$> scan) cs := by
  rw [Refuses, StateT.run_map, h]
  rfl

theorem seqRight {second : Scan β} (h : Refuses scan cs) : Refuses (scan *> second) cs :=
  h.bind_left

theorem orElse (h : Refuses scan cs) (hother : Refuses other cs) :
    Refuses (scan <|> other) cs := by
  rw [Refuses, run_orElse_of_refuses h]
  exact hother

theorem satisfy (h : ∀ d ∈ cs.head?, accept d = false) : Refuses (Scan.satisfy accept) cs := by
  cases cs with
  | nil => rfl
  | cons d rest =>
      refine bind (Takes.next d rest) ?_
      rw [if_neg (by simp [h d rfl])]
      exact failure rest

theorem char (h : ∀ d ∈ cs.head?, d ≠ c) : Refuses (Scan.char c) cs := by
  cases cs with
  | nil => rfl
  | cons d rest =>
      refine bind (Takes.next d rest) ?_
      rw [if_neg (h d rfl)]
      exact failure rest

end Refuses

namespace Takes

theorem option_none (h : Refuses scan cs) : Takes (Scan.option scan) cs none cs :=
  orElse_right h.map (pure none cs)

theorem many_nil (h : Refuses scan cs) (n : Nat) : Takes (Scan.many scan n) cs [] cs := by
  cases n with
  | zero => exact pure [] cs
  | succ n => exact (option_none h).bind (pure [] cs)

theorem exists_of_bind (h : Takes (scan >>= f) cs b rest) :
    ∃ a middle, Takes scan cs a middle ∧ Takes (f a) middle b rest := by
  rw [Takes, StateT.run_bind] at h
  obtain ⟨⟨a, middle⟩, hscan, hf⟩ := Option.bind_eq_some_iff.mp h
  exact ⟨a, middle, hscan, hf⟩

theorem eq_cons_of_satisfy (h : Takes (Scan.satisfy accept) cs c rest) :
    cs = c :: rest ∧ accept c = true := by
  cases cs with
  | nil => cases h
  | cons d tail =>
      obtain ⟨e, middle, hnext, hcheck⟩ := exists_of_bind h
      cases hnext
      split at hcheck
      next haccept =>
        cases hcheck
        exact ⟨rfl, haccept⟩
      next => cases hcheck

theorem eq_cons_of_char {u : Unit} (h : Takes (Scan.char c) cs u rest) : cs = c :: rest := by
  cases cs with
  | nil => cases h
  | cons d tail =>
      obtain ⟨e, middle, hnext, hcheck⟩ := exists_of_bind h
      cases hnext
      split at hcheck
      next heq =>
        cases hcheck
        rw [heq]
      next => cases hcheck

/-- A number of characters comes off the front of a text. -/
theorem eq_append_of_count {n : Nat} {taken : List Char}
    (h : Takes (Scan.count n accept) cs taken rest) :
    cs = taken ++ rest ∧ taken.length = n ∧ ∀ d ∈ taken, accept d = true := by
  induction n generalizing cs taken with
  | zero =>
      cases h
      exact ⟨rfl, rfl, List.forall_mem_nil _⟩
  | succ n ih =>
      obtain ⟨d, middle, hd, hmore⟩ := exists_of_bind h
      obtain ⟨rfl, haccept⟩ := eq_cons_of_satisfy hd
      obtain ⟨ds, middle, hds, hpure⟩ := exists_of_bind hmore
      cases hpure
      obtain ⟨rfl, hlength, hall⟩ := ih hds
      exact ⟨rfl, congrArg Nat.succ hlength, List.forall_mem_cons.mpr ⟨haccept, hall⟩⟩

end Takes

theorem whole_of_takes (h : Takes scan cs a []) : whole scan cs = some a := by
  have hend : Takes (do
      let a ← scan
      atEnd
      return a : Scan α) cs a [] := h.bind (.pure a [])
  rw [whole, hend]

theorem whole_of_refuses (h : Refuses scan cs) : whole scan cs = none := by
  have hend : Refuses (do
      let a ← scan
      atEnd
      return a : Scan α) cs := h.bind_left
  rw [whole, hend]

end PushRegistry.Text.Scan
