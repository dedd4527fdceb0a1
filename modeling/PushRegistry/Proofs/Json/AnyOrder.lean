import PushRegistry.Proofs.Json.Records
import PushRegistry.Proofs.Json.Skip

/-!
# `PushRegistry.Proofs.Json.AnyOrder`: objects by what stands under each name

Readers of records take the members of an object as they come. What counts is only which values
stand under which name: `ObjectText` gives the texts of an object with certain members, `valuesOf`
the values under a name, and `Settles` what becomes of a field whose reader meets these values one
after the other, between all the others.
-/

set_option autoImplicit false

namespace PushRegistry.Json

variable {α : Type}

/-- The texts of an object. A member is given by its name and the text of its value; names may be
written in any way, and blanks may stand between all tokens. -/
def ObjectText (ms : List (String × List UInt8)) (t : List UInt8) : Prop :=
  ∃ ts u, List.Forall₂ (fun m => DenotesMember (· = m.2) m.1) ms ts ∧ Separated ts u ∧
    t = 0x7b :: (u ++ [0x7d])

/-- Texts of members have texts of their values in them. Induction on the members. -/
theorem exists_values {writes : α → List UInt8 → Prop} {ms : List (String × α)}
    {ts : List (List UInt8)} (h : List.Forall₂ (fun p => DenotesMember (writes p.2) p.1) ms ts) :
    ∃ raw : List (String × List UInt8),
      List.Forall₂ (fun p m => p.1 = m.1 ∧ writes p.2 m.2) ms raw ∧
        List.Forall₂ (fun m => DenotesMember (· = m.2) m.1) raw ts := by
  induction h with
  | nil => exact ⟨[], .nil, .nil⟩
  | @cons p t ms ts ht _ ih =>
      obtain ⟨raw, hvalues, htexts⟩ := ih
      obtain ⟨name, before, after, v, hname, hbefore, hafter, hv, rfl⟩ := ht
      -- The text of the value is what stands behind the colon.
      refine ⟨(p.1, v) :: raw, .cons ⟨rfl, hv⟩ hvalues, .cons ?_ htexts⟩
      exact ⟨name, before, after, v, hname, hbefore, hafter, rfl, rfl⟩

/-- What is written for an object is a text of its members, each with what is written for its
value. -/
theorem exists_members_of_writes {n : Nat} {ms : List (String × Value)} {t : List UInt8}
    (h : Writes (n + 1) (.object ms) t) :
    ∃ raw : List (String × List UInt8),
      List.Forall₂ (fun p m => p.1 = m.1 ∧ Writes n p.2 m.2) ms raw ∧ ObjectText raw t := by
  obtain ⟨ts, u, hts, hu, ht⟩ := h
  obtain ⟨raw, hvalues, htexts⟩ := exists_values (hts.imp fun _ _ hp => SpellsMember.denotes hp)
  exact ⟨raw, hvalues, ts, u, htexts, hu, ht⟩

/-- The values under a name, in their order. -/
def valuesOf (name : String) (ms : List (String × List UInt8)) : List (List UInt8) :=
  (ms.filter fun m => m.1 = name).map Prod.snd

theorem valuesOf_cons_self (name : String) (v : List UInt8)
    (ms : List (String × List UInt8)) :
    valuesOf name ((name, v) :: ms) = v :: valuesOf name ms := by
  simp [valuesOf]

theorem valuesOf_cons_of_ne {name other : String} (h : other ≠ name) (v : List UInt8)
    (ms : List (String × List UInt8)) : valuesOf name ((other, v) :: ms) = valuesOf name ms := by
  simp [valuesOf, h]

/-- What a field holds before and after the values under its name are read. There may be only one
value for a field, and none if the field was given before. -/
inductive Settles (spells : α → List UInt8 → Prop) :
    Option α → List (List UInt8) → Option α → Prop where
  | kept (given : Option α) : Settles spells given [] given
  | given {a : α} {v : List UInt8} (h : spells a v) : Settles spells none [v] (some a)

namespace Settles

variable {spells : α → List UInt8 → Prop} {given final : Option α} {v : List UInt8}
  {vs : List (List UInt8)}

theorem eq_of_nil (h : Settles spells given [] final) : final = given := by
  cases h
  rfl

/-- The first value is the only one. -/
theorem of_cons (h : Settles spells given (v :: vs) final) :
    given = none ∧ ∃ a, spells a v ∧ Settles spells (some a) vs final := by
  cases h with
  | given ha => exact ⟨rfl, _, ha, .kept _⟩

/-- A value for a field that was not given before, and none for it behind. -/
theorem cons {a : α} (ha : spells a v) (h : Settles spells (some a) vs final) :
    Settles spells none (v :: vs) final := by
  cases h with
  | kept => exact .given ha

end Settles

/-- A member under the name of a field, in front of others: it settles the field. -/
theorem Steps.settle {σ : Type} {member : String → σ → Reader σ} {s s' : σ} {reader : Reader α}
    {spells : α → List UInt8 → Prop} {set : Option α → σ} {name label : String}
    {given final : Option α} {v t : List UInt8} {vs ts : List (List UInt8)}
    (hreads : Reads reader spells)
    (hmember : member name s = (do return set (← Reader.once label given reader)))
    (h : Settles spells given (v :: vs) final) (ht : DenotesMember (· = v) name t)
    (hts : ∀ a, Settles spells (some a) vs final →
      Steps OpensMember (memberStep member) (set (some a)) ts s') :
    Steps OpensMember (memberStep member) s (t :: ts) s' := by
  obtain ⟨rfl, a, ha, hrest⟩ := h.of_cons
  refine Steps.field hreads ?_ hmember ht (hts a hrest)
  rintro w rfl
  exact ha

/-- The values under the name of a field that may be null or left out. -/
def OptionalField (spells : α → List UInt8 → Prop) (o : Option α) (vs : List (List UInt8)) : Prop :=
  vs = [] ∧ o = none ∨ ∃ v, vs = [v] ∧ OptionalText spells o v

theorem OptionalField.settles {spells : α → List UInt8 → Prop} {o : Option α}
    {vs : List (List UInt8)} (h : OptionalField spells o vs) :
    ∃ final, Settles (OptionalText spells) none vs final ∧ final.getD none = o := by
  obtain ⟨rfl, rfl⟩ | ⟨v, rfl, hv⟩ := h
  · exact ⟨none, .kept none, rfl⟩
  · exact ⟨some o, .given hv, rfl⟩

end PushRegistry.Json
