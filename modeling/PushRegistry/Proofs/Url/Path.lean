import PushRegistry.Proofs.Text.Percent
import PushRegistry.Url.Path

/-!
# `PushRegistry.Proofs.Url.Path`: segments of a path

The text of a path can be taken apart again at its slashes as long as no segment holds one
(`splitOn_text`). Appending a segment has three outcomes, which `push_cases` tells apart by
what is left of the segment when the ignored characters are dropped: a dot goes back to the
parent or leaves an empty segment, and everything else is appended in encoded form, so nothing
but empty and encoded segments is added (`forall_mem_extend`). Segments that are `Literal` are all
of the last kind, so that a whole list of them follows the path (`extend_of_literal`).

When a path is read, dots are resolved in any of their spellings; a segment with a colon is none
of these and stays (`exists_resolve_concat`).
-/

set_option autoImplicit false

namespace PushRegistry.Url

open PushRegistry.Text

/-! ### Ignored characters -/

/-- A text is left as it is exactly when it has no ignored characters. -/
theorem strip_eq_self_iff {cs : List Char} : strip cs = cs ↔ ∀ c ∈ cs, isIgnored c = false := by
  rw [strip, List.filter_eq_self]
  constructor
  · intro h c hc
    simpa using h c hc
  · intro h c hc
    simpa using h c hc

namespace Path

/-! ### Between the slashes -/

theorem text_cons (s : Segment) (rest : List Segment) : text (s :: rest) = '/' :: (s ++ text rest) := by
  rw [text, List.flatMap_cons]
  rfl

/-- The text behind the first slash splits into the segments. -/
theorem splitOn_append_text {s : Segment} {rest : List Segment} (hs : '/' ∉ s)
    (hrest : ∀ r ∈ rest, '/' ∉ r) : (s ++ text rest).splitOn '/' = s :: rest := by
  induction rest generalizing s with
  | nil => rw [text, List.flatMap_nil, List.append_nil, List.splitOn_eq_singleton hs]
  | cons r rest ih =>
      rw [text_cons, List.splitOn_append_cons_self_of_not_mem hs,
        ih (hrest r List.mem_cons_self) fun q hq => hrest q (List.mem_cons_of_mem r hq)]

/-- The text of a path splits into the segments, with nothing in front of the first slash. -/
theorem splitOn_text {segments : List Segment} (hne : segments ≠ [])
    (h : ∀ s ∈ segments, '/' ∉ s) : (text segments).splitOn '/' = [] :: segments := by
  cases segments with
  | nil => exact absurd rfl hne
  | cons s rest =>
      have hsplit := splitOn_append_text (h s List.mem_cons_self) fun r hr =>
        h r (List.mem_cons_of_mem s hr)
      have hnil : '/' ∉ ([] : List Char) := List.not_mem_nil
      rw [text_cons, ← List.nil_append ('/' :: _),
        List.splitOn_append_cons_self_of_not_mem hnil, hsplit]

/-- Only the path of one empty segment is written as a slash alone. -/
theorem text_eq_slash_iff {segments : List Segment} : text segments = ['/'] ↔ segments = [[]] := by
  constructor
  · intro h
    match segments with
    | [] => exact absurd h (by simp [text])
    | s :: rest =>
        rw [text_cons, List.cons_inj_right, List.append_eq_nil_iff] at h
        obtain ⟨rfl, hrest⟩ := h
        cases rest with
        | nil => rfl
        | cons r rest => exact absurd hrest (by rw [text_cons]; exact List.cons_ne_nil _ _)
  · rintro rfl
    rfl

theorem text_append (front rest : List Segment) : text (front ++ rest) = text front ++ text rest :=
  List.flatMap_append

theorem text_eq_intercalate {segments : List Segment} (hne : segments ≠ []) :
    text segments = '/' :: ['/'].intercalate segments := by
  induction segments with
  | nil => exact absurd rfl hne
  | cons s rest ih =>
      rw [text_cons]
      cases rest with
      | nil => simp [text]
      | cons r rest =>
          rw [ih (List.cons_ne_nil r rest), List.intercalate_cons_cons]
          simp

/-! ### Appending segments -/

/-- What becomes of a path when a segment that is no dot itself is appended. -/
theorem push_cases {segments : List Segment} {segment : List Char} (hroot : segments ≠ [[]])
    (hdot : segment ≠ ['.']) (hdots : segment ≠ ['.', '.']) :
    (strip segment = ['.', '.'] ∧ push segments segment = parent segments ++ [[]]) ∨
    (strip segment = ['.'] ∧ push segments segment = segments ++ [[]]) ∨
    (strip segment ≠ ['.', '.'] ∧ strip segment ≠ ['.'] ∧
      push segments segment = segments ++ [Percent.encode Percent.segmentSet (strip segment)]) := by
  have hunfold : push segments segment
      = if strip segment = ['.', '.'] then parent segments ++ [[]]
        else if strip segment = ['.'] then segments ++ [[]]
        else segments ++ [Percent.encode Percent.segmentSet (strip segment)] := by
    simp only [push, if_neg hroot, if_neg (not_or.mpr ⟨hdot, hdots⟩)]
  rw [hunfold]
  by_cases h2 : strip segment = ['.', '.']
  · -- What is left decides, not the segment as it was given.
    exact .inl ⟨h2, if_pos h2⟩
  · rw [if_neg h2]
    by_cases h1 : strip segment = ['.']
    · exact .inr (.inl ⟨h1, if_pos h1⟩)
    · exact .inr (.inr ⟨h2, h1, if_neg h1⟩)

/-- A segment without ignored characters and other than a dot is appended in encoded form. -/
theorem push_of_strip {segments : List Segment} {segment : List Char} (hroot : segments ≠ [[]])
    (hdot : segment ≠ ['.']) (hdots : segment ≠ ['.', '.']) (hdot' : strip segment ≠ ['.'])
    (hdots' : strip segment ≠ ['.', '.']) :
    push segments segment
      = segments ++ [Percent.encode Percent.segmentSet (strip segment)] := by
  rcases push_cases hroot hdot hdots with ⟨h, -⟩ | ⟨h, -⟩ | ⟨-, -, h⟩
  · exact absurd h hdots'
  · exact absurd h hdot'
  · exact h

theorem push_ne_nil {segments : List Segment} (h : segments ≠ []) (segment : List Char) :
    push segments segment ≠ [] := by
  unfold push
  split
  · exact h
  · dsimp only
    split
    · exact List.append_ne_nil_of_right_ne_nil _ (List.cons_ne_nil _ _)
    · split <;> exact List.append_ne_nil_of_right_ne_nil _ (List.cons_ne_nil _ _)

theorem mem_of_mem_parent {segments : List Segment} {s : Segment} (h : s ∈ parent segments) :
    s ∈ segments := by
  unfold parent at h
  split at h
  · split at h
    · exact h
    · exact List.dropLast_subset _ h
  · exact absurd h List.not_mem_nil

/-- What holds of the segments of a path, of the empty one and of everything encoded holds of all
segments after one more was appended. -/
theorem forall_mem_push {P : Segment → Prop} {segments : List Segment} (h : ∀ s ∈ segments, P s)
    (hnil : P []) (hencode : ∀ cs, P (Percent.encode Percent.segmentSet cs))
    (segment : List Char) : ∀ s ∈ push segments segment, P s := by
  have hconcat : ∀ {front : List Segment} {r : Segment}, (∀ s ∈ front, P s) → P r →
      ∀ s ∈ front ++ [r], P s := by
    intro front r hfront hr s hs
    rcases List.mem_append.mp hs with hs | hs
    · exact hfront s hs
    · rwa [List.mem_singleton.mp hs]
  have hbase : ∀ s ∈ (if segments = [[]] then [] else segments), P s := by
    intro s hs
    split at hs
    · exact absurd hs List.not_mem_nil
    · exact h s hs
  have hparent : ∀ s ∈ parent (if segments = [[]] then [] else segments), P s := fun s hs =>
    hbase s (mem_of_mem_parent hs)
  unfold push
  split
  · exact h
  · -- Two dots, one dot, and everything else.
    dsimp only
    split
    · exact hconcat hparent hnil
    · split
      · exact hconcat hbase hnil
      · exact hconcat hbase (hencode _)

theorem forall_mem_extend {P : Segment → Prop} {segments : List Segment}
    (h : ∀ s ∈ segments, P s) (hnil : P [])
    (hencode : ∀ cs, P (Percent.encode Percent.segmentSet cs)) (more : List (List Char)) :
    ∀ s ∈ extend segments more, P s := by
  induction more generalizing segments with
  | nil => exact h
  | cons m more ih => exact ih (forall_mem_push h hnil hencode m)

/-- No appended segment holds a character that is encoded, the mark of escapes apart. -/
theorem not_mem_of_mem_extend {c : Char} (hset : Percent.segmentSet c = true) (hmark : c ≠ '%')
    {segments : List Segment} (h : ∀ s ∈ segments, c ∉ s) (more : List (List Char)) :
    ∀ s ∈ extend segments more, c ∉ s :=
  forall_mem_extend h List.not_mem_nil (Percent.not_mem_encode_segment hset hmark) more

theorem slash_not_mem_of_mem_extend {segments : List Segment} (h : ∀ s ∈ segments, '/' ∉ s)
    (more : List (List Char)) : ∀ s ∈ extend segments more, '/' ∉ s :=
  not_mem_of_mem_extend (by decide) (by decide) h more

theorem extend_ne_nil {segments : List Segment} (h : segments ≠ []) (more : List (List Char)) :
    extend segments more ≠ [] := by
  induction more generalizing segments with
  | nil => exact h
  | cons m more ih => exact ih (push_ne_nil h m)

/-- The text of a path to which segments were appended splits into its segments. -/
theorem splitOn_text_extend {segments : List Segment} (hne : segments ≠ [])
    (h : ∀ s ∈ segments, '/' ∉ s) (more : List (List Char)) :
    (text (extend segments more)).splitOn '/' = [] :: extend segments more :=
  splitOn_text (extend_ne_nil hne more) (slash_not_mem_of_mem_extend h more)

/-- A segment that can be appended as it is: it is not empty, no dot, and has no ignored
characters. -/
structure Literal (segment : List Char) : Prop where
  ne_nil : segment ≠ []
  ne_dot : segment ≠ ['.']
  ne_dots : segment ≠ ['.', '.']
  strip_eq : strip segment = segment

/-- Literal segments follow in encoded form. -/
theorem extend_of_literal {segments : List Segment} {more : List (List Char)}
    (hroot : segments ≠ [[]]) (hmore : ∀ m ∈ more, Literal m) :
    extend segments more = segments ++ more.map (Percent.encode Percent.segmentSet) := by
  induction more generalizing segments with
  | nil => simp [extend]
  | cons m more ih =>
      have hm := hmore m List.mem_cons_self
      have hpush : push segments m = segments ++ [Percent.encode Percent.segmentSet m] := by
        rw [push_of_strip hroot hm.ne_dot hm.ne_dots (by rw [hm.strip_eq]; exact hm.ne_dot)
          (by rw [hm.strip_eq]; exact hm.ne_dots), hm.strip_eq]
      -- The path is no bare slash afterwards, since a literal segment is not empty.
      have hroot' : push segments m ≠ [[]] := by
        rw [hpush]
        intro h
        rcases List.append_eq_singleton_iff.mp h with ⟨-, h⟩ | ⟨-, h⟩
        · exact hm.ne_nil (Percent.encode_eq_nil_iff.mp (List.singleton_inj.mp h))
        · cases h
      show extend (push segments m) more = _
      rw [ih hroot' fun k hk => hmore k (List.mem_cons_of_mem m hk), hpush, List.map_cons,
        List.append_assoc, List.singleton_append]

/-- Below the root the first segment takes the place of the empty one. -/
theorem extend_root {more : List (List Char)} (hne : more ≠ []) (hmore : ∀ m ∈ more, Literal m) :
    extend [[]] more = more.map (Percent.encode Percent.segmentSet) := by
  cases more with
  | nil => exact absurd rfl hne
  | cons m more =>
      have hm := hmore m List.mem_cons_self
      have hpush : push [[]] m = push [] m := by
        simp only [push, if_neg (not_or.mpr ⟨hm.ne_dot, hm.ne_dots⟩)]
        rfl
      have hextend : extend [[]] (m :: more) = extend [] (m :: more) := by
        show extend (push [[]] m) more = extend (push [] m) more
        rw [hpush]
      rw [hextend, extend_of_literal (List.cons_ne_nil _ _).symm hmore, List.nil_append]

/-! ### Reading segments -/

theorem resolve_cons {segments : List Segment} {s : Segment} {rest : List Segment}
    (hne : rest ≠ []) : resolve segments (s :: rest) = resolve (step segments s false) rest := by
  cases rest with
  | nil => exact absurd rfl hne
  | cons r rest => rfl

/-- A segment with a colon is no spelling of a dot segment. -/
theorem not_dot_of_colon_mem {s : Segment} (h : ':' ∈ s) :
    isSingleDot s = false ∧ isDoubleDot s = false := by
  have hlower : ':' ∈ s.map Char.toLower := List.mem_map.mpr ⟨':', h, rfl⟩
  have hne : ∀ {t : Segment}, ':' ∉ t → s ≠ t := by
    rintro t ht rfl
    exact ht h
  have hne' : ∀ {t : Segment}, ':' ∉ t → s.map Char.toLower ≠ t := by
    rintro t ht rfl
    exact ht hlower
  constructor
  · rw [isSingleDot, Bool.or_eq_false_iff]
    exact ⟨beq_false_of_ne (hne (by decide)), beq_false_of_ne (hne' (by decide))⟩
  · simp only [isDoubleDot, Bool.or_eq_false_iff]
    exact ⟨⟨⟨beq_false_of_ne (hne' (by decide)), beq_false_of_ne (hne' (by decide))⟩,
      beq_false_of_ne (hne' (by decide))⟩, beq_false_of_ne (hne' (by decide))⟩

/-- A segment with a colon stays in the path, whatever stands before it. -/
theorem exists_resolve_concat {front : List Segment} {s : Segment} (hs : ':' ∈ s)
    (segments : List Segment) :
    ∃ above, resolve segments (front ++ [s, []]) = above ++ [s, []] := by
  induction front generalizing segments with
  | nil =>
      obtain ⟨hsingle, hdouble⟩ := not_dot_of_colon_mem hs
      have hempty : isSingleDot [] = false ∧ isDoubleDot [] = false := ⟨rfl, rfl⟩
      refine ⟨segments, ?_⟩
      show step (step segments s false) [] true = _
      simp [step, hsingle, hdouble, hempty]
  | cons r front ih =>
      obtain ⟨above, h⟩ := ih (step segments r false)
      refine ⟨above, ?_⟩
      rw [List.cons_append, resolve_cons (by simp), h]

end Path

end PushRegistry.Url
