import PushRegistry.Json.Reader
import PushRegistry.Proofs.Json.Strings

/-!
# `PushRegistry.Proofs.Json.Lists`: what stands between brackets

The items of a list and the members of an object are read by the same loop, which differs only
in the reader that looks for one more (`Marks`) and in what is read then. `Separated` gives the
texts between brackets, `Steps` what reading them one after the other does to a state, and
`consumes_items` and `consumes_foldMembers` bring the two together.
-/

set_option autoImplicit false

namespace PushRegistry.Json

/-! ### Texts between brackets -/

/-- Texts that follow others: each has a comma in front, and blanks may stand around it. -/
inductive SeparatedTail : List (List UInt8) → List UInt8 → Prop where
  | nil {ws : List UInt8} (hws : Blank ws) : SeparatedTail [] ws
  | cons {ts : List (List UInt8)} {before after t u : List UInt8} (hbefore : Blank before)
      (hafter : Blank after) (hts : SeparatedTail ts u) :
      SeparatedTail (t :: ts) (before ++ 0x2c :: (after ++ (t ++ u)))

/-- Texts with commas between them, and blanks around. -/
inductive Separated : List (List UInt8) → List UInt8 → Prop where
  | nil {ws : List UInt8} (hws : Blank ws) : Separated [] ws
  | cons {ts : List (List UInt8)} {before t u : List UInt8} (hbefore : Blank before)
      (hts : SeparatedTail ts u) : Separated (t :: ts) (before ++ (t ++ u))

theorem SeparatedTail.length_le {ts : List (List UInt8)} {t : List UInt8}
    (h : SeparatedTail ts t) : ts.length ≤ t.length := by
  induction h with
  | nil => exact Nat.zero_le _
  | cons _ _ _ ih =>
      simp only [List.length_cons, List.length_append]
      omega

/-- What follows an item is a blank, a comma or the closing bracket. -/
theorem SeparatedTail.delimited {ts : List (List UInt8)} {t : List UInt8}
    (h : SeparatedTail ts t) {close : UInt8} (hclose : close = 0x5d ∨ close = 0x7d)
    (rest : List UInt8) : Delimited (t ++ close :: rest) := by
  cases h with
  | nil hws => exact .of_blank hws (.inr hclose) rest
  | cons hbefore =>
      rw [List.append_assoc]
      exact .of_blank hbefore (.inl rfl) _

/-- Reading the texts one after the other leads from one state to another. Every text starts with
a byte that `opens` allows, and is read whatever may follow a value. -/
inductive Steps {σ : Type} (opens : UInt8 → Prop) (step : σ → Reader σ) :
    σ → List (List UInt8) → σ → Prop where
  | nil {s : σ} : Steps opens step s [] s
  | cons {s s' s'' : σ} {b : UInt8} {t : List UInt8} {ts : List (List UInt8)} (hb : opens b)
      (ht : ∀ rest, Delimited rest → Consumes (step s) (b :: t ++ rest) s' rest)
      (hts : Steps opens step s' ts s'') : Steps opens step s ((b :: t) :: ts) s''

/-! ### The loop -/

variable {α σ : Type}

/-- Reads into a state as long as there is more. -/
def loop (more : Bool → Reader Bool) (step : σ → Reader σ) (stuck : Reader σ) :
    Nat → Bool → σ → Reader σ
  | 0, _, _ => stuck
  | fuel + 1, first, s => do
    if ← more first then loop more step stuck fuel false (← step s) else return s

/-- What a reader that looks for one more finds: it stops in front of the closing bracket, and it
passes the comma that every text but the first has in front. -/
structure Marks (more : Bool → Reader Bool) (opens : UInt8 → Prop) (close : UInt8) : Prop where
  closes : close = 0x5d ∨ close = 0x7d
  done : ∀ {first : Bool} {ws : List UInt8} (_ : Blank ws) (rest : List UInt8),
    Consumes (more first) (ws ++ close :: rest) false (close :: rest)
  first : ∀ {ws : List UInt8} {b : UInt8} (_ : Blank ws) (_ : opens b) (rest : List UInt8),
    Consumes (more true) (ws ++ b :: rest) true (b :: rest)
  next : ∀ {before after : List UInt8} {b : UInt8} (_ : Blank before) (_ : Blank after)
    (_ : opens b) (rest : List UInt8),
    Consumes (more false) (before ++ 0x2c :: (after ++ b :: rest)) true (b :: rest)

namespace Marks

variable {more : Bool → Reader Bool} {opens : UInt8 → Prop} {close : UInt8}
  {step : σ → Reader σ} {stuck : Reader σ} {s s' : σ} {ts : List (List UInt8)}
  {t : List UInt8} {fuel : Nat}

/-- The loop behind the first text. Induction on the steps, one for each round. -/
theorem consumes_tail (h : Marks more opens close) (hsteps : Steps opens step s ts s')
    (ht : SeparatedTail ts t) (hfuel : ts.length < fuel) (rest : List UInt8) :
    Consumes (loop more step stuck fuel false s) (t ++ close :: rest) s' (close :: rest) := by
  induction hsteps generalizing t fuel with
  | nil =>
      obtain ⟨n, rfl⟩ := Nat.exists_eq_add_of_lt hfuel
      cases ht with
      | nil hws => exact Consumes.bind (h.done hws rest) (Consumes.pure _ _)
  | cons hb hread hsteps ih =>
      cases fuel with
      | zero => exact absurd hfuel (Nat.not_lt_zero _)
      | succ n =>
          cases ht with
          | cons hbefore hafter hu =>
              -- A comma, the text behind it, and then the next round.
              simp only [List.append_assoc, List.cons_append]
              refine Consumes.bind (h.next hbefore hafter hb _) ?_
              refine Consumes.bind (hread _ (hu.delimited h.closes rest)) ?_
              exact ih hu (Nat.lt_of_succ_lt_succ hfuel)

/-- The whole loop. -/
theorem consumes_loop (h : Marks more opens close) (hsteps : Steps opens step s ts s')
    (ht : Separated ts t) (hfuel : ts.length < fuel) (rest : List UInt8) :
    Consumes (loop more step stuck fuel true s) (t ++ close :: rest) s' (close :: rest) := by
  cases fuel with
  | zero => exact absurd hfuel (Nat.not_lt_zero _)
  | succ n =>
      cases hsteps with
      | nil =>
          cases ht with
          | nil hws => exact Consumes.bind (h.done hws rest) (Consumes.pure _ _)
      | cons hb hread hsteps =>
          cases ht with
          | cons hbefore hu =>
              -- The first text has no comma in front, and all others are in the tail.
              simp only [List.append_assoc, List.cons_append]
              refine Consumes.bind (h.first hbefore hb _) ?_
              refine Consumes.bind (hread _ (hu.delimited h.closes rest)) ?_
              exact h.consumes_tail hsteps hu (Nat.lt_of_succ_lt_succ hfuel) rest

end Marks

/-- Texts that are read have at least one byte each, so there are no more of them than bytes. -/
theorem Separated.length_le {opens : UInt8 → Prop} {step : σ → Reader σ} {s s' : σ}
    {ts : List (List UInt8)} {t : List UInt8} (h : Separated ts t)
    (hsteps : Steps opens step s ts s') : ts.length ≤ t.length := by
  cases h with
  | nil => exact Nat.zero_le _
  | cons _ hts =>
      cases hsteps with
      | cons =>
          have := hts.length_le
          simp only [List.length_cons, List.length_append]
          omega

/-! ### Lists -/

/-- What an item may start with. -/
def OpensItem (b : UInt8) : Prop := Reader.isBlank b = false ∧ b ≠ 0x5d

instance (b : UInt8) : Decidable (OpensItem b) :=
  inferInstanceAs (Decidable (Reader.isBlank b = false ∧ b ≠ 0x5d))

theorem marks_hasItem : Marks Reader.hasItem OpensItem 0x5d where
  closes := Or.inl rfl
  done hws rest := Consumes.bind (Consumes.token hws (by decide) rest) (Consumes.pure _ _)
  first hws hb rest := by
    refine Consumes.bind (Consumes.token hws hb.1 rest) ?_
    simp only [if_neg hb.2]
    exact Consumes.pure _ _
  next hbefore hafter hb rest := by
    refine Consumes.bind (Consumes.token hbefore (by decide) _) ?_
    refine Consumes.bind (Consumes.skip _ _) ?_
    refine Consumes.bind (Consumes.token hafter hb.1 rest) ?_
    simp only [if_neg hb.2]
    exact Consumes.pure _ _

theorem foldItems_eq_loop (item : σ → Reader σ) (fuel : Nat) (first : Bool) (s : σ) :
    Reader.foldItems item fuel first s
      = loop Reader.hasItem item (Reader.failAhead .eofInList) fuel first s := by
  induction fuel generalizing first s with
  | zero => rfl
  | succ n ih => simp only [Reader.foldItems, loop, ih]

theorem consumes_endList (rest : List UInt8) :
    Consumes Reader.endList (0x5d :: rest) () rest :=
  Consumes.bind (Consumes.token Blank.nil (by decide) rest) (Consumes.skip _ _)

/-- The items of a list, read into a list. -/
theorem consumes_items {item : Reader α} {as : List α} {ts : List (List UInt8)} {t : List UInt8}
    (ht : Separated ts t)
    (hsteps : Steps OpensItem (fun acc => do return (← item) :: acc) [] ts as.reverse)
    (rest : List UInt8) : Consumes (Reader.items item) (t ++ 0x5d :: rest) as (0x5d :: rest) := by
  refine Consumes.get fun c hc => ?_
  -- One round for each item and one for the bracket, and no item is empty.
  have hfuel : ts.length < c.rest.length + 1 := by
    have := ht.length_le hsteps
    rw [hc, List.length_append]
    omega
  simp only [foldItems_eq_loop]
  refine Consumes.bind (marks_hasItem.consumes_loop hsteps ht hfuel rest) ?_
  rw [List.reverse_reverse]
  exact Consumes.pure _ _

/-! ### Objects -/

/-- What a member must start with. -/
def OpensMember (b : UInt8) : Prop := b = 0x22

theorem marks_hasMember : Marks Reader.hasMember OpensMember 0x7d where
  closes := Or.inr rfl
  done hws rest := Consumes.bind (Consumes.token hws (by decide) rest) (Consumes.pure _ _)
  first hws hb rest := by
    obtain rfl := hb
    exact Consumes.bind (Consumes.token hws (by decide) rest) (Consumes.pure _ _)
  next hbefore hafter hb rest := by
    obtain rfl := hb
    refine Consumes.bind (Consumes.token hbefore (by decide) _) ?_
    refine Consumes.bind (Consumes.skip _ _) ?_
    exact Consumes.bind (Consumes.token hafter (by decide) rest) (Consumes.pure _ _)

/-- Reads the name of a member and then its value. -/
def memberStep (member : String → σ → Reader σ) (s : σ) : Reader σ := do
  Reader.skip
  let name ← Reader.string
  member name s

theorem foldMembers_eq_loop (member : String → σ → Reader σ) (fuel : Nat) (first : Bool) (s : σ) :
    Reader.foldMembers member fuel first s
      = loop Reader.hasMember (memberStep member) (Reader.failAhead .eofInObject) fuel first s := by
  induction fuel generalizing first s with
  | zero => rfl
  | succ n ih => simp only [Reader.foldMembers, loop, ih, memberStep, bind_assoc]

theorem consumes_endObject (rest : List UInt8) :
    Consumes Reader.endObject (0x7d :: rest) () rest :=
  Consumes.bind (Consumes.token Blank.nil (by decide) rest) (Consumes.skip _ _)

/-- The members of an object, read into a state. -/
theorem consumes_foldMembers {member : String → σ → Reader σ} {s s' : σ}
    {ts : List (List UInt8)} {t : List UInt8} (ht : Separated ts t)
    (hsteps : Steps OpensMember (memberStep member) s ts s') (rest : List UInt8) {fuel : Nat}
    (hfuel : t.length < fuel) :
    Consumes (Reader.foldMembers member fuel true s) (t ++ 0x7d :: rest) s' (0x7d :: rest) := by
  rw [foldMembers_eq_loop]
  exact marks_hasMember.consumes_loop hsteps ht
    (Nat.lt_of_le_of_lt (ht.length_le hsteps) hfuel) rest

/-! ### Brackets -/

/-- A bracketed part that may still be opened. -/
theorem consumes_bracketed {body : Nat → Reader α} {close : Reader Unit} {n : Nat} {b : UInt8}
    {input middle rest : List UInt8} {a : α} (hbody : Consumes (body n) input a middle)
    (hclose : Consumes close middle () rest) :
    Consumes (Reader.bracketed (n + 1) body close) (b :: input) a rest :=
  Consumes.bind (Consumes.skip b input) (Consumes.closing hbody hclose)

end PushRegistry.Json
