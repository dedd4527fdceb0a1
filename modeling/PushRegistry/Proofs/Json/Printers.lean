import PushRegistry.Proofs.Json.Layout

/-!
# `PushRegistry.Proofs.Json.Printers`: printed documents are read back

Both printers are layouts: `Layout.compact` has no blanks at all, and `Layout.pretty` starts a line
for every item and every member. A reader that takes whatever is written for a document takes both
printed texts (`Reads.readsBack`). So does the reader of documents, if the document fits.
-/

set_option autoImplicit false

namespace PushRegistry.Json

open PushRegistry.Text

/-! ### Layouts -/

theorem blank_encode {cs : List Char} (h : ∀ c ∈ cs, c = ' ' ∨ c = '\n') :
    Blank (Utf8.encode cs) := by
  induction cs with
  | nil => exact Blank.nil
  | cons c cs ih =>
      have hrest : Blank (Utf8.encode cs) := ih fun d hd => h d (List.mem_cons_of_mem _ hd)
      rcases h c List.mem_cons_self with rfl | rfl
      · rw [encode_cons_ascii (by decide)]
        exact List.forall_mem_cons.mpr ⟨by decide, hrest⟩
      · rw [encode_cons_ascii (by decide)]
        exact List.forall_mem_cons.mpr ⟨by decide, hrest⟩

/-- Nothing stands between the tokens. -/
def Layout.compact : Layout where
  text _ v := v.compactText
  items _ vs := Value.compactItems vs
  members _ ms := Value.compactMembers ms
  indent _ := []
  gap := []
  blank_indent _ := Blank.nil
  blank_gap := Blank.nil
  text_null _ := rfl
  text_bool _ _ := rfl
  text_number _ _ := rfl
  text_string _ _ := rfl
  text_array_nil _ := rfl
  text_array_cons _ _ _ := rfl
  items_nil _ := rfl
  items_cons _ _ _ := rfl
  text_object_nil _ := rfl
  text_object_cons _ _ _ _ := rfl
  members_nil _ := rfl
  members_cons _ _ _ _ := rfl

/-- Items and members stand on lines of their own. -/
def Layout.pretty : Layout where
  text := Value.prettyText
  items := Value.prettyItems
  members := Value.prettyMembers
  indent := Value.newline
  gap := [' ']
  blank_indent level := blank_encode fun c hc => by
    rcases List.mem_cons.mp hc with rfl | hc
    · exact Or.inr rfl
    · exact Or.inl (List.eq_of_mem_replicate hc)
  blank_gap := blank_encode (by simp)
  text_null _ := rfl
  text_bool _ _ := rfl
  text_number _ _ := rfl
  text_string _ _ := rfl
  text_array_nil _ := rfl
  text_array_cons _ _ _ := by simp only [Value.prettyText, List.append_assoc, List.cons_append]
  items_nil _ := rfl
  items_cons _ _ _ := by simp only [Value.prettyItems, List.append_assoc, List.cons_append]
  text_object_nil _ := rfl
  text_object_cons _ _ _ _ := by
    simp only [Value.prettyText, List.append_assoc, List.cons_append, List.nil_append]
  members_nil _ := rfl
  members_cons _ _ _ _ := by
    simp only [Value.prettyMembers, List.append_assoc, List.cons_append, List.nil_append]

theorem ofString_compact (v : Value) : Utf8.ofString v.compact = Layout.compact.bytes 0 v := by
  rw [Utf8.ofString, Value.compact, String.toList_ofList]
  rfl

theorem ofString_pretty (v : Value) : Utf8.ofString v.pretty = Layout.pretty.bytes 0 v := by
  rw [Utf8.ofString, Value.pretty, String.toList_ofList]
  rfl

variable {n : Nat} {v : Value}

theorem writes_compact (h : Printable n v) : Writes n v (Utf8.ofString v.compact) :=
  ofString_compact v ▸ Layout.compact.writes 0 n h

theorem writes_pretty (h : Printable n v) : Writes n v (Utf8.ofString v.pretty) :=
  ofString_pretty v ▸ Layout.pretty.writes 0 n h

/-! ### Reading printed texts -/

variable {α : Type}

/-- Each of the two printed texts of a document is read as the given value. -/
structure ReadsBack (decode : List UInt8 → Except Fault α) (v : Value) (a : α) : Prop where
  compact : decode (Utf8.ofString v.compact) = .ok a
  pretty : decode (Utf8.ofString v.pretty) = .ok a

/-- A text that holds a value and nothing else is read as a whole. -/
theorem Reads.run_whole {reader : Nat → Reader α} {spells : α → List UInt8 → Prop}
    (h : Reads (reader Reader.depthLimit) spells) {a : α} {t : List UInt8} (ht : spells a t) :
    Reader.run (Reader.whole reader) t = .ok a := by
  have hread := decode_of_reads h ht Blank.nil Blank.nil
  rwa [List.nil_append, List.append_nil] at hread

/-- What a reader makes of the printed texts of a document, if it takes whatever is written for the
document. -/
theorem Reads.readsBack {reader : Nat → Reader α} {spells : α → List UInt8 → Prop}
    (h : Reads (reader Reader.depthLimit) spells) {a : α} (hv : Printable Reader.depthLimit v)
    (hspells : ∀ t, Writes Reader.depthLimit v t → spells a t) :
    ReadsBack (Reader.run (Reader.whole reader)) v a where
  compact := h.run_whole (hspells _ (writes_compact hv))
  pretty := h.run_whole (hspells _ (writes_pretty hv))

/-- The indented text on lines of its own, with a line break at the end, is read as well. -/
theorem Reads.run_line {reader : Nat → Reader α} {spells : α → List UInt8 → Prop}
    (h : Reads (reader Reader.depthLimit) spells) {a : α} (hv : Printable Reader.depthLimit v)
    (hspells : ∀ t, Writes Reader.depthLimit v t → spells a t) :
    Reader.run (Reader.whole reader) (Utf8.ofString (v.pretty ++ "\n")) = .ok a := by
  have hbreak : Blank (Utf8.encode "\n".toList) := by
    intro b hb
    rw [show Utf8.encode "\n".toList = [0x0a] from rfl, List.mem_singleton] at hb
    rw [hb]
    rfl
  have hread := decode_of_reads h (hspells _ (writes_pretty hv)) Blank.nil hbreak
  rwa [List.nil_append, Utf8.ofString, ← Utf8.encode_append, ← String.toList_append] at hread

/-- A document that fits is read back from its printed texts. -/
theorem Value.readsBack (h : Fits Reader.depthLimit v) : ReadsBack Value.decode v v :=
  (reads_value Reader.depthLimit).readsBack h.printable fun _ ht => ht.spells h

/-- An object of values that fit is read back as the map of its members. -/
theorem Value.readsBack_object {ms : List (String × Value)}
    (h : ∀ p ∈ ms, Fits (Reader.depthLimit - 1) p.2) :
    ReadsBack Value.decode (.object ms) (.object (Members.ofList ms)) :=
  (reads_value Reader.depthLimit).readsBack (fun p hp => (h p hp).printable) fun _ ht =>
    ht.spells_object fun p hp _ hvalue => hvalue.spells (h p hp)

end PushRegistry.Json
