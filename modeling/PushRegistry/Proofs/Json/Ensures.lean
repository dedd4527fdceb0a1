import PushRegistry.Json.Reader
import PushRegistry.Proofs.Json.Documents

/-!
# `PushRegistry.Proofs.Json.Ensures`: what a reader returns

`Consumes` follows a reader along a text that it takes. `Ensures r P` is the other direction: the
text may be anything, and whatever `r` returns satisfies `P`. A reader that fails ensures
everything. The rules follow the shape of the readers, and `ensures_unsignedValue` is what typed
documents need: a counter that was read is an unsigned 64-bit word.
-/

set_option autoImplicit false

namespace PushRegistry.Json

variable {α β σ : Type}

/-- Everything that the reader returns satisfies `P`, wherever it stands. -/
def Ensures (r : Reader α) (P : α → Prop) : Prop :=
  ∀ (c : Cursor) (a : α) (c' : Cursor), r c = .ok a c' → P a

namespace Ensures

variable {r : Reader α} {P : α → Prop} {Q : β → Prop}

/-! ### Chaining -/

theorem any (r : Reader α) : Ensures r fun _ => True := fun _ _ _ _ => trivial

theorem pure {a : α} (h : P a) : Ensures (Pure.pure a) P := by
  intro c b c' hrun
  cases hrun
  exact h

theorem bind {f : α → Reader β} (h : Ensures r P) (hf : ∀ a, P a → Ensures (f a) Q) :
    Ensures (r >>= f) Q := by
  intro c b c' hrun
  change EStateM.bind r f c = _ at hrun
  unfold EStateM.bind at hrun
  cases hr : r c with
  | ok a middle =>
      rw [hr] at hrun
      exact hf a (h c a middle hr) middle b c' hrun
  | error fault middle =>
      rw [hr] at hrun
      cases hrun

/-- What the first reader returns does not matter. -/
theorem seq {f : α → Reader β} (hf : ∀ a, Ensures (f a) Q) : Ensures (r >>= f) Q :=
  bind (any r) fun a _ => hf a

/-- A reader that only moves adds nothing to what is read behind it. -/
theorem andThen {r' : Reader β} (h : Ensures r' Q) : Ensures (r >>= fun _ => r') Q :=
  seq fun _ => h

theorem ite {p : Prop} [Decidable p] {r' : Reader α} (h : Ensures r P) (h' : Ensures r' P) :
    Ensures (if p then r else r') P := by
  split
  · exact h
  · exact h'

/-! ### Failing -/

theorem throw (fault : Fault) : Ensures (throw fault : Reader α) P := by
  intro c a c' hrun
  cases hrun

theorem fail (cause : Cause) : Ensures (Reader.fail cause : Reader α) P := seq fun _ => throw _

theorem failAhead (cause : Cause) : Ensures (Reader.failAhead cause : Reader α) P :=
  seq fun _ => throw _

theorem failUnlocated (cause : Cause) : Ensures (Reader.failUnlocated cause : Reader α) P :=
  throw _

theorem tryCatch {handle : Fault → Reader α} (h : Ensures r P)
    (hhandle : ∀ fault, Ensures (handle fault) P) : Ensures (tryCatch r handle) P := by
  intro c a c' hrun
  change EStateM.tryCatch r handle c = _ at hrun
  unfold EStateM.tryCatch at hrun
  cases hr : r c with
  | ok b middle =>
      rw [hr] at hrun
      cases hrun
      exact h c a c' hr
  | error fault middle =>
      rw [hr] at hrun
      exact hhandle fault _ a c' hrun

theorem located (h : Ensures r P) : Ensures (Reader.located r) P := by
  refine tryCatch h fun fault => ?_
  cases fault.position with
  | some place => exact throw fault
  | none => exact fail _

/-- Closing a part adds nothing to what was read in it. -/
theorem closing {close : Reader Unit} (h : Ensures r P) : Ensures (Reader.closing r close) P := by
  let good : Except Fault α → Prop := fun result => ∀ a, result = .ok a → P a
  refine bind (P := good) ?_ fun result hresult => ?_
  · refine tryCatch (bind h fun a ha => pure fun b hb => ?_) fun fault => pure fun b hb => ?_
    · cases hb
      exact ha
    · cases hb
  · cases result with
    | ok a => exact seq fun _ => pure (hresult a rfl)
    | error fault => exact seq fun _ => throw fault

/-- A reader that refuses what follows returns nothing. -/
theorem refuse (expected : Expected) : Ensures (Reader.refuse expected : Reader α) P := by
  refine located (seq fun b => ?_)
  cases b with
  | none => exact failAhead _
  | some b =>
      dsimp only
      split
      · exact seq fun _ => seq fun _ => failUnlocated _
      split
      · exact seq fun _ => seq fun _ => failUnlocated _
      split
      · exact seq fun _ => seq fun _ => failUnlocated _
      split
      · exact seq fun _ => seq fun _ => failUnlocated _
      split
      · exact seq fun _ => failUnlocated _
      split
      · exact seq fun _ => seq fun _ => failUnlocated _
      split
      · exact failUnlocated _
      split
      · exact failUnlocated _
      · exact failAhead _

end Ensures

/-- A text that is read to its end. -/
theorem Ensures.of_run {r : Reader α} {P : α → Prop} (h : Ensures r P) {bytes : List UInt8} {a : α}
    (hrun : Reader.run r bytes = .ok a) : P a := by
  unfold Reader.run EStateM.run at hrun
  cases hr : r (Cursor.start bytes) with
  | ok b c =>
      rw [hr] at hrun
      cases hrun
      exact h _ _ _ hr
  | error fault c =>
      rw [hr] at hrun
      cases hrun

/-! ### Numbers -/

/-- An integer among numbers is a 64-bit word, with or without a sign. -/
def Number.Fits : Number → Prop
  | .int k => FitsWord k
  | .float _ => True

namespace Reader

theorem le_of_accumulate {limit n : Nat} {ds : List Nat} (h : n ≤ limit) :
    (accumulate limit n ds).1 ≤ limit := by
  induction ds generalizing n with
  | nil => exact h
  | cons d rest ih =>
      rw [accumulate]
      split
      · rename_i hnext
        exact ih hnext
      · exact h

theorem digitValue_le (b : UInt8) : digitValue b ≤ maxWord := by
  have hb : b.toNat < 256 := b.toNat_lt
  have hmax : maxWord = 0xffffffffffffffff := rfl
  rw [digitValue]
  omega

/-- Digits that fit an unsigned word are an integer that fits, or a double. -/
theorem fits_wholeNumber (negative : Bool) {significand : Nat} (h : significand ≤ maxWord) :
    (wholeNumber negative significand).Fits := by
  have hmax : maxWord = 0xffffffffffffffff := rfl
  unfold wholeNumber
  split
  · split
    · trivial
    · rename_i hrange
      show -0x8000000000000000 ≤ -(significand : Int) ∧ -(significand : Int) < 0x10000000000000000
      omega
  · show -0x8000000000000000 ≤ (significand : Int) ∧ (significand : Int) < 0x10000000000000000
    omega

theorem ensures_float (negative : Bool) (significand : Nat) (exponent : Int) :
    Ensures (float negative significand exponent) Number.Fits := by
  unfold float
  split
  · exact .pure trivial
  · exact .fail _

theorem ensures_exponentPart (negative : Bool) (significand : Nat) (exponent : Int) :
    Ensures (exponentPart negative significand exponent) Number.Fits := by
  -- The digits are the same behind a sign and without one.
  refine .seq fun _ => .seq fun sign => .ite (.andThen ?digits) ?digits
  refine .seq fun b => ?_
  cases b with
  | none => exact .fail _
  | some b =>
      refine .ite (.seq fun here => ?_) (.fail _)
      dsimp only
      generalize accumulate 0x7fffffff (digitValue b) _ = result
      obtain ⟨e, excess⟩ := result
      cases excess with
      | nil => exact .andThen (ensures_float _ _ _)
      | cons d ds => exact .ite (.andThen (.fail _)) (.andThen (.pure trivial))

theorem ensures_fractionPart (negative : Bool) (significand : Nat) (exponent : Int) :
    Ensures (fractionPart negative significand exponent) Number.Fits := by
  refine .andThen (.seq fun run => .ite (.seq fun b => ?_) (.seq fun b => ?_))
  · cases b with
    | none => exact .failAhead _
    | some b => exact .failAhead _
  · exact .ite (ensures_exponentPart _ _ _) (ensures_float _ _ _)

theorem ensures_afterWhole {whole : Reader Number} (h : Ensures whole Number.Fits)
    (negative : Bool) (significand : Nat) (exponent : Int) :
    Ensures (afterWhole negative significand exponent whole) Number.Fits :=
  .seq fun _ => .ite (ensures_fractionPart _ _ _) (.ite (ensures_exponentPart _ _ _) h)

theorem ensures_number (negative : Bool) : Ensures (number negative) Number.Fits := by
  have hzero : Ensures (number.afterZero negative) Number.Fits :=
    ensures_afterWhole (.pure (fits_wholeNumber negative (Nat.zero_le _))) _ _ _
  refine .seq fun b => ?_
  cases b with
  | none => exact .fail _
  | some b =>
      refine .ite (.seq fun d => ?_) (.ite (.seq fun ds => ?_) (.fail _))
      · cases d with
        | none => exact hzero
        | some d => exact .ite (.failAhead _) hzero
      · have hwhole : (accumulate maxWord (digitValue b) ds).1 ≤ maxWord :=
          le_of_accumulate (digitValue_le b)
        exact .ite (ensures_afterWhole (.pure (fits_wholeNumber negative hwhole)) _ _ _)
          (ensures_afterWhole (ensures_float _ _ _) _ _ _)

/-- A number that is taken is one that fits. -/
theorem ensures_numberValue {expected : Expected} {accept : Number → Except Cause α} {P : α → Prop}
    (h : ∀ n a, n.Fits → accept n = .ok a → P a) : Ensures (numberValue expected accept) P := by
  refine .seq fun b => ?_
  cases b with
  | none => exact .failAhead _
  | some b =>
      refine .ite (.andThen (.located (.bind (ensures_number true) fun n hn => ?_)))
        (.ite (.located (.bind (ensures_number false) fun n hn => ?_)) (.refuse _))
      all_goals
        split
        next a ha => exact .pure (h n a hn ha)
        next => exact .failUnlocated _

/-- A counter that was read is an unsigned 64-bit word. -/
theorem ensures_unsignedValue : Ensures unsignedValue (· < UInt64.size) := by
  refine ensures_numberValue fun n k hn hk => ?_
  cases n with
  | float x => cases hk
  | int k' =>
      cases k' with
      | ofNat m =>
          obtain rfl : m = k := Except.ok.inj hk
          exact Int.ofNat_lt.mp hn.2
      | negSucc m => cases hk

/-! ### Records -/

variable {P : α → Prop}

theorem ensures_bracketed {allowed : Nat} {body : Nat → Reader α} {close : Reader Unit}
    (h : ∀ n, Ensures (body n) P) : Ensures (bracketed allowed body close) P := by
  cases allowed with
  | zero => exact .failAhead _
  | succ n => exact .andThen (.closing (h n))

/-- What every member keeps is kept by all members together. Induction on the fuel, for every state
and every place in the object. -/
theorem ensures_foldMembers {member : String → σ → Reader σ} {I : σ → Prop}
    (h : ∀ name s, I s → Ensures (member name s) I) (fuel : Nat) (first : Bool) {s : σ}
    (hs : I s) : Ensures (foldMembers member fuel first s) I := by
  induction fuel generalizing first s with
  | zero => exact .failAhead _
  | succ fuel ih =>
      refine .seq fun more => .ite (.andThen (.seq fun name => ?_)) (.pure hs)
      exact .bind (h name s hs) fun s' hs' => ih false hs'

theorem ensures_fields {member : String → σ → Reader σ} {empty : σ} {I : σ → Prop}
    (hempty : I empty) (h : ∀ name s, I s → Ensures (member name s) I) :
    Ensures (fields member empty) I :=
  .seq fun _ => ensures_foldMembers h _ _ hempty

theorem ensures_once {name : String} {given : Option α} {reader : Reader α}
    (h : Ensures reader P) : Ensures (once name given reader) fun o => ∀ a ∈ o, P a := by
  refine .ite (.failUnlocated _) (.andThen (.bind h fun a ha => .pure fun b hb => ?_))
  cases hb
  exact ha

theorem ensures_required {name : String} {given : Option α} (h : ∀ a ∈ given, P a) :
    Ensures (required name given) P := by
  cases given with
  | none => exact .failUnlocated _
  | some a => exact .pure (h a rfl)

theorem ensures_requiredElement {expected : Expected} {index : Nat} {reader : Reader α}
    (h : Ensures reader P) : Ensures (requiredElement expected index reader) P :=
  .seq fun _ => .ite h (.failUnlocated _)

theorem ensures_unknownField {s : σ} {I : σ → Prop} (hs : I s) : Ensures (unknownField s) I :=
  .andThen (.andThen (.pure hs))

/-- A record satisfies what both of its forms ensure. -/
theorem ensures_record {name : String} {fromList fromObject : Nat → Reader α} {allowed : Nat}
    (hlist : ∀ n, Ensures (fromList n) P) (hobject : ∀ n, Ensures (fromObject n) P) :
    Ensures (record name fromList fromObject allowed) P := by
  refine .seq fun b => ?_
  cases b with
  | none => exact .failAhead _
  | some b =>
      refine .ite (.located (ensures_bracketed hlist)) (.ite ?_ (.refuse _))
      exact .located (ensures_bracketed hobject)

theorem ensures_whole {reader : Nat → Reader α} (h : ∀ n, Ensures (reader n) P) :
    Ensures (whole reader) P :=
  .bind (h _) fun _ ha => .andThen (.pure ha)

end Reader

end PushRegistry.Json
