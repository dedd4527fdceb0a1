import PushRegistry.Json.Printer
import PushRegistry.Proofs.Json.Documents
import PushRegistry.Proofs.Json.Members

/-!
# `PushRegistry.Proofs.Json.Layout`: what printers write

Reading and printing meet at `Writes`: `Writes n v t` says that `t` is a text of the document `v`
in which the members of every object stand in the order in which the document has them, which
need not be the order of their names. A record is printed in this way, and if every object is in
the order of its names, the text spells the document (`Writes.spells`).

The printers differ only in the blanks that they put between tokens. A `Layout` is a printer with
such blanks, and `Layout.writes` says of all of them that the printed text of a document writes
the document, if its numbers and its depth allow.
-/

set_option autoImplicit false

namespace PushRegistry.Json

open PushRegistry.Text

/-! ### Texts in the order of the document -/

/-- The texts of a document with at most the given number of brackets open inside each other, with
all members in their order. -/
def Writes : Nat → Value → List UInt8 → Prop
  | n + 1, .array vs, t =>
    ∃ ts u, List.Forall₂ (Writes n) vs ts ∧ Separated ts u ∧ t = 0x5b :: (u ++ [0x5d])
  | n + 1, .object ms, t =>
    ∃ ts u, List.Forall₂ (fun p => SpellsMember (Writes n p.2) p.1) ms ts ∧ Separated ts u ∧
      t = 0x7b :: (u ++ [0x7d])
  | _, v, t => SpellsScalar v t

/-- A document without brackets that is no double and no larger integer than 64 bits hold. -/
def FitsScalar : Value → Prop
  | .number (.int k) => FitsWord k
  | .number (.float _) => False
  | .array _ => False
  | .object _ => False
  | _ => True

instance : DecidablePred FitsScalar
  | .null => .isTrue trivial
  | .bool _ => .isTrue trivial
  | .number (.int k) => inferInstanceAs (Decidable (FitsWord k))
  | .number (.float _) => .isFalse id
  | .string _ => .isTrue trivial
  | .array _ => .isFalse id
  | .object _ => .isFalse id

/-- A document whose numbers are 64-bit integers, whose objects are in the order of their names,
and which has at most the given number of brackets open inside each other. -/
def Fits : Nat → Value → Prop
  | n + 1, .array vs => ∀ v ∈ vs, Fits n v
  | n + 1, .object ms => Members.Sorted ms ∧ ∀ p ∈ ms, Fits n p.2
  | _, v => FitsScalar v

instance decidableFits : ∀ (n : Nat) (v : Value), Decidable (Fits n v)
  | 0, v => decidable_of_iff (FitsScalar v) (by cases v <;> rfl)
  | n + 1, .array vs =>
    have := decidableFits n
    inferInstanceAs (Decidable (∀ v ∈ vs, Fits n v))
  | n + 1, .object ms =>
    have := decidableFits n
    inferInstanceAs (Decidable (ms.Pairwise (fun a b => a.1 < b.1) ∧ ∀ p ∈ ms, Fits n p.2))
  | _ + 1, .null => .isTrue trivial
  | _ + 1, .bool _ => .isTrue trivial
  | _ + 1, .number k => inferInstanceAs (Decidable (FitsScalar (.number k)))
  | _ + 1, .string _ => .isTrue trivial

/-- A document whose numbers are 64-bit integers and which has at most the given number of brackets
open inside each other. -/
def Printable : Nat → Value → Prop
  | n + 1, .array vs => ∀ v ∈ vs, Printable n v
  | n + 1, .object ms => ∀ p ∈ ms, Printable n p.2
  | _, v => FitsScalar v

variable {n : Nat} {v : Value} {s : String} {k : Int} {t : List UInt8}
  {ms : List (String × Value)}

theorem writes_string_iff : Writes n (.string s) t ↔ SpellsString s t := by
  cases n <;> rfl

theorem writes_int_iff : Writes n (.int k) t ↔ FitsWord k ∧ t = integer k := by
  cases n <;> rfl

theorem writes_null_iff : Writes n .null t ↔ t = [0x6e, 0x75, 0x6c, 0x6c] := by
  cases n <;> rfl

theorem printable_string : Printable n (.string s) := by
  cases n <;> exact trivial

theorem printable_int (h : FitsWord k) : Printable n (.int k) := by
  cases n <;> exact h

theorem printable_null : Printable n .null := by
  cases n <;> exact trivial

theorem printable_object_nil : Printable (n + 1) (.object []) := by
  intro p hp
  cases hp

theorem printable_object_cons (hv : Printable n v) (h : Printable (n + 1) (.object ms)) :
    Printable (n + 1) (.object ((s, v) :: ms)) := List.forall_mem_cons.mpr ⟨hv, h⟩

/-- The order of the names does not matter for printing. -/
theorem Fits.printable (h : Fits n v) : Printable n v := by
  induction n generalizing v with
  | zero => cases v <;> exact h
  | succ n ih =>
      cases v with
      | array vs => exact fun w hw => ih (h w hw)
      | object ms => exact fun p hp => ih (h.2 p hp)
      | null => exact h
      | bool b => exact h
      | number k => exact h
      | string s => exact h

theorem SpellsMember.imp {value value' : List UInt8 → Prop} {name : String}
    (himp : ∀ t, value t → value' t) (h : SpellsMember value name t) :
    SpellsMember value' name t := by
  obtain ⟨u, before, after, v, hname, hbefore, hafter, hv, ht⟩ := h
  exact ⟨u, before, after, v, hname, hbefore, hafter, himp v hv, ht⟩

/-- If what is written for every value spells it, then what is written for an object spells the map
of its members, in whatever order they stand. -/
theorem Writes.spells_object (h : Writes (n + 1) (.object ms) t)
    (hvalues : ∀ p ∈ ms, ∀ t, Writes n p.2 t → Spells n p.2 t) :
    Spells (n + 1) (.object (Members.ofList ms)) t := by
  obtain ⟨ts, u, hts, hu, ht⟩ := h
  refine ⟨ms, ts, u, rfl, ?_, hu, ht⟩
  exact ((List.forall₂_and_left _ _).mpr ⟨hvalues, hts⟩).imp fun _ _ hp => hp.2.imp hp.1

/-- What is written for a document that fits spells it. Induction on the brackets that may be
open. -/
theorem Writes.spells (h : Writes n v t) (hfits : Fits n v) : Spells n v t := by
  induction n generalizing v t with
  | zero => cases v <;> exact h
  | succ n ih =>
      cases v with
      | array vs =>
          obtain ⟨ts, u, hts, hu, ht⟩ := h
          have hitems := (List.forall₂_and_left _ _).mpr ⟨hfits, hts⟩
          exact ⟨ts, u, hitems.imp fun _ _ hv => ih hv.2 hv.1, hu, ht⟩
      | object ms =>
          -- Members in the order of their names are the map of themselves.
          have hobject := h.spells_object fun p hp t ht => ih ht (hfits.2 p hp)
          rwa [Members.ofList_of_sorted hfits.1] at hobject
      | null => exact h
      | bool b => exact h
      | number k => exact h
      | string s => exact h

/-! ### Printers -/

theorem encode_cons_ascii {c : Char} (h : c.toNat < 0x80) (cs : List Char) :
    Utf8.encode (c :: cs) = UInt8.ofNat c.toNat :: Utf8.encode cs := by
  rw [Utf8.encode_cons, Utf8.utf8EncodeChar_ascii h]
  rfl

/-- A printer that puts blanks only in front of items and members, in front of closing brackets and
behind colons. -/
structure Layout where
  /-- The text of a document, inside the given number of brackets. -/
  text : Nat → Value → List Char
  /-- The items after the first one, and the closing bracket. -/
  items : Nat → List Value → List Char
  /-- The members after the first one, and the closing brace. -/
  members : Nat → List (String × Value) → List Char
  /-- What stands in front of an item or a member. -/
  indent : Nat → List Char
  /-- What stands in front of a value, behind the colon. -/
  gap : List Char
  blank_indent : ∀ level, Blank (Utf8.encode (indent level))
  blank_gap : Blank (Utf8.encode gap)
  text_null : ∀ level, text level .null = "null".toList
  text_bool : ∀ level b, text level (.bool b) = (if b then "true" else "false").toList
  text_number : ∀ level k, text level (.number k) = k.text
  text_string : ∀ level s, text level (.string s) = stringText s
  text_array_nil : ∀ level, text level (.array []) = ['[', ']']
  text_array_cons : ∀ level v vs, text level (.array (v :: vs))
    = '[' :: (indent (level + 1) ++ (text (level + 1) v ++ items level vs))
  items_nil : ∀ level, items level [] = indent level ++ [']']
  items_cons : ∀ level v vs, items level (v :: vs)
    = ',' :: (indent (level + 1) ++ (text (level + 1) v ++ items level vs))
  text_object_nil : ∀ level, text level (.object []) = ['\x7b', '\x7d']
  text_object_cons : ∀ level k v ms, text level (.object ((k, v) :: ms))
    = '\x7b' :: (indent (level + 1) ++ (stringText k ++ ':' :: (gap ++ text (level + 1) v) ++
      members level ms))
  members_nil : ∀ level, members level [] = indent level ++ ['\x7d']
  members_cons : ∀ level k v ms, members level ((k, v) :: ms)
    = ',' :: (indent (level + 1) ++ (stringText k ++ ':' :: (gap ++ text (level + 1) v) ++
      members level ms))

/-- Parts that are printed one after the other, each behind a comma and blanks, up to what closes
them. -/
theorem exists_separatedTail {β : Type} (parts : List β → List UInt8) {part : β → List UInt8}
    {before after close : List UInt8} (hbefore : Blank before) (hafter : Blank after)
    (hnil : parts [] = after ++ close)
    (hcons : ∀ b bs, parts (b :: bs) = 0x2c :: (before ++ (part b ++ parts bs))) (bs : List β) :
    ∃ u, parts bs = u ++ close ∧ SeparatedTail (bs.map part) u := by
  induction bs with
  | nil => exact ⟨after, hnil, .nil hafter⟩
  | cons b bs ih =>
      obtain ⟨u, hu, htail⟩ := ih
      refine ⟨0x2c :: (before ++ (part b ++ u)), ?_, .cons Blank.nil hbefore htail⟩
      rw [hcons, hu]
      simp only [List.append_assoc, List.cons_append]

namespace Layout

variable (l : Layout) (level : Nat)

/-- The bytes of a printed document. -/
def bytes (v : Value) : List UInt8 := Utf8.encode (l.text level v)

/-- The bytes of a printed member. -/
def member (p : String × Value) : List UInt8 :=
  Utf8.encode (stringText p.1) ++ 0x3a :: (Utf8.encode l.gap ++ l.bytes level p.2)

theorem encode_member (k : String) (v : Value) :
    Utf8.encode (stringText k ++ ':' :: (l.gap ++ l.text level v)) = l.member level (k, v) := by
  rw [Utf8.encode_append, encode_cons_ascii (by decide), Utf8.encode_append]
  rfl

theorem encode_items (vs : List Value) :
    ∃ u, Utf8.encode (l.items level vs) = u ++ [0x5d] ∧
      SeparatedTail (vs.map (l.bytes (level + 1))) u := by
  refine exists_separatedTail (fun vs => Utf8.encode (l.items level vs))
    (l.blank_indent (level + 1)) (l.blank_indent level) ?_ (fun v vs => ?_) vs
  · rw [l.items_nil, Utf8.encode_append]
    rfl
  · rw [l.items_cons, encode_cons_ascii (by decide), Utf8.encode_append, Utf8.encode_append]
    rfl

theorem encode_members (ms : List (String × Value)) :
    ∃ u, Utf8.encode (l.members level ms) = u ++ [0x7d] ∧
      SeparatedTail (ms.map (l.member (level + 1))) u := by
  refine exists_separatedTail (fun ms => Utf8.encode (l.members level ms))
    (l.blank_indent (level + 1)) (l.blank_indent level) ?_ (fun p ms => ?_) ms
  · rw [l.members_nil, Utf8.encode_append]
    rfl
  · obtain ⟨k, v⟩ := p
    rw [l.members_cons, encode_cons_ascii (by decide), Utf8.encode_append, Utf8.encode_append,
      l.encode_member]
    rfl

/-- A printed list holds the texts of its items. -/
theorem bytes_array (vs : List Value) :
    ∃ u, l.bytes level (.array vs) = 0x5b :: (u ++ [0x5d]) ∧
      Separated (vs.map (l.bytes (level + 1))) u := by
  cases vs with
  -- An empty list has its brackets side by side, in every layout.
  | nil => exact ⟨[], by rw [bytes, l.text_array_nil]; rfl, .nil Blank.nil⟩
  | cons v vs =>
      obtain ⟨u, hu, htail⟩ := l.encode_items level vs
      refine ⟨_, ?_, .cons (l.blank_indent (level + 1)) htail⟩
      rw [bytes, l.text_array_cons, encode_cons_ascii (by decide), Utf8.encode_append,
        Utf8.encode_append, hu]
      simp only [List.append_assoc]
      rfl

/-- A printed object holds the texts of its members. -/
theorem bytes_object (ms : List (String × Value)) :
    ∃ u, l.bytes level (.object ms) = 0x7b :: (u ++ [0x7d]) ∧
      Separated (ms.map (l.member (level + 1))) u := by
  cases ms with
  | nil => exact ⟨[], by rw [bytes, l.text_object_nil]; rfl, .nil Blank.nil⟩
  | cons p ms =>
      obtain ⟨k, v⟩ := p
      obtain ⟨u, hu, htail⟩ := l.encode_members level ms
      refine ⟨_, ?_, .cons (l.blank_indent (level + 1)) htail⟩
      rw [bytes, l.text_object_cons, encode_cons_ascii (by decide), Utf8.encode_append,
        Utf8.encode_append, l.encode_member, hu]
      simp only [List.append_assoc]
      rfl

/-- A printed member is a text of it if its printed value is a text of the value. -/
theorem spellsMember_member {value : List UInt8 → Prop} {p : String × Value}
    (h : value (l.bytes level p.2)) : SpellsMember value p.1 (l.member level p) := by
  refine ⟨_, [], _, _, spellsChars_flatMap_escape p.1.toList, Blank.nil, l.blank_gap, h, ?_⟩
  rw [member, stringText, Utf8.encode_append, encode_cons_ascii (by decide)]
  simp only [List.append_assoc, List.cons_append, List.nil_append]
  rfl

theorem spellsScalar_bytes {v : Value} (h : FitsScalar v) : SpellsScalar v (l.bytes level v) := by
  cases v with
  | null => exact congrArg Utf8.encode (l.text_null level)
  | bool b =>
      have htext := congrArg Utf8.encode (l.text_bool level b)
      cases b <;> exact htext
  | number k =>
      cases k with
      | int k => exact ⟨h, congrArg Utf8.encode (l.text_number level _)⟩
      | float x => exact h.elim
  | string s =>
      show SpellsString s (l.bytes level (.string s))
      rw [bytes, l.text_string]
      exact spellsString_stringText s
  | array vs => exact h.elim
  | object ms => exact h.elim

/-- The printed text of a document writes the document. Induction on the brackets that may be
open. -/
theorem writes (n : Nat) {v : Value} (h : Printable n v) : Writes n v (l.bytes level v) := by
  induction n generalizing level v with
  | zero =>
      have hscalar : FitsScalar v := by cases v <;> exact h
      have hspells := l.spellsScalar_bytes level hscalar
      cases v <;> exact hspells
  | succ n ih =>
      cases v with
      | array vs =>
          obtain ⟨u, hu, hseparated⟩ := l.bytes_array level vs
          refine ⟨_, u, ?_, hseparated, hu⟩
          rw [List.forall₂_map_right_iff, List.forall₂_same]
          exact fun w hw => ih _ (h w hw)
      | object ms =>
          obtain ⟨u, hu, hseparated⟩ := l.bytes_object level ms
          refine ⟨_, u, ?_, hseparated, hu⟩
          rw [List.forall₂_map_right_iff, List.forall₂_same]
          exact fun p hp => l.spellsMember_member _ (ih _ (h p hp))
      | null => exact l.spellsScalar_bytes level h
      | bool b => exact l.spellsScalar_bytes level h
      | number k => exact l.spellsScalar_bytes level h
      | string s => exact l.spellsScalar_bytes level h

end Layout

end PushRegistry.Json
