import PushRegistry.Config.Toml.File
import PushRegistry.Proofs.Decimal.Numerals
import PushRegistry.Proofs.Text.Scan

/-!
# `PushRegistry.Proofs.Config.TomlInteger`: a file that holds one integer

A number on a line of its own is found after everything else that starts with a sign or a digit has
been refused: dates and times and doubles (`run_scalar`), then integers in other bases
(`exists_takes_value`). `parse?_integerFile` says what a file of one line holds. The digits must not
start with a zero that is too many: that zero would be a number of its own, and its line would not
end behind it.
-/

set_option autoImplicit false

namespace PushRegistry.Config.Toml

open PushRegistry.Decimal
open PushRegistry.Text
open PushRegistry.Text.Scan (Takes Refuses)

/-- A text that is a sign or none and then digits. Of the signs only the minus is kept. -/
inductive Signed : List Char → List Char → List Char → Prop
  | minus (digits : List Char) : Signed ('-' :: digits) ['-'] digits
  | plus (digits : List Char) : Signed ('+' :: digits) [] digits
  | bare (digits : List Char) : Signed digits [] digits

section
variable {text kept digits rest : List Char} {k : Nat} {n : Int} {c d : Char}

theorem exists_signed (h : Numeral.integer? 10 text = some n) : ∃ kept digits k,
    Signed text kept digits ∧ Numeral.natural? 10 digits = some k ∧
      n = if kept = ['-'] then -(Int.ofNat k) else Int.ofNat k := by
  obtain ⟨sign, digits, k, hsplit, hk, hn⟩ := Numeral.integer?_eq_some h
  unfold Numeral.splitSign at hsplit
  split at hsplit <;> cases hsplit
  · exact ⟨_, _, k, .minus _, hk, hn⟩
  · exact ⟨_, _, k, .plus _, hk, hn⟩
  · exact ⟨_, _, k, .bare _, hk, hn⟩

theorem exists_digit_cons (h : Numeral.natural? 10 digits = some k) :
    ∃ c more, digits = c :: more ∧ c.isDigit = true ∧ ∀ d ∈ more, d.isDigit = true := by
  obtain ⟨hne, hdigits⟩ := Numeral.natural?_eq_some h
  obtain ⟨c, more, rfl⟩ := List.exists_cons_of_ne_nil hne
  exact ⟨c, more, rfl, List.forall_mem_cons.mp hdigits⟩

/-- A character of a class is none of the marks outside of it. -/
theorem ne_of_class {p : Char → Bool} (h : p c = true) (hd : p d = false) : c ≠ d := by
  rintro rfl
  rw [h] at hd
  cases hd

theorem isBlank_of_class {p : Char → Bool} (h : p c = true) (hspace : p ' ' = false)
    (htab : p '\t' = false) : isBlank c = false := by
  simp [isBlank, ne_of_class h hspace, ne_of_class h htab]

theorem refuses_char_of_isDigit (h : c.isDigit = true) (hd : d.isDigit = false) :
    Refuses (Scan.char d) (c :: rest) :=
  .char fun e he => by
    cases he
    exact ne_of_class h hd

/-! ### Signs and digits -/

theorem takes_sign (h : Signed text kept digits) (hk : Numeral.natural? 10 digits = some k) :
    Takes sign (text ++ rest) kept (digits ++ rest) := by
  obtain ⟨c, more, rfl, hc, -⟩ := exists_digit_cons hk
  cases h with
  | minus => exact .orElse_left ((Takes.char '-' _).seqRight (.pure _ _))
  | plus =>
      have hminus : Refuses (Scan.char '-') ('+' :: (c :: more) ++ rest) :=
        .char fun d hd => by
          cases hd
          decide
      exact .orElse_right hminus.seqRight (.orElse_left ((Takes.char '+' _).seqRight (.pure _ _)))
  | bare =>
      have hminus : Refuses (Scan.char '-') (c :: more ++ rest) :=
        refuses_char_of_isDigit hc (by decide)
      have hplus : Refuses (Scan.char '+') (c :: more ++ rest) :=
        refuses_char_of_isDigit hc (by decide)
      exact .orElse_right hminus.seqRight (.orElse_right hplus.seqRight (.pure _ _))

/-- What may stand behind the digits of a number here: the end of its line, or digits that do not
belong to it. -/
def Ends (cs : List Char) : Prop := ∀ c ∈ cs.head?, c.isDigit = true ∨ c = '\n'

theorem Ends.refuses_char (h : Ends rest) (hd : d.isDigit = false) (hbreak : d ≠ '\n') :
    Refuses (Scan.char d) rest :=
  .char fun c hc => by
    rcases h c hc with hdigit | rfl
    · exact ne_of_class hdigit hd
    · exact hbreak.symm

theorem ends_of_digits (h : ∀ c ∈ digits, c.isDigit = true) : Ends (digits ++ ['\n']) := by
  cases digits with
  | nil => exact fun c hc => Or.inr (Option.some.inj hc).symm
  | cons d ds => exact fun c hc => Or.inl (Option.some.inj hc ▸ h d List.mem_cons_self)

/-- Digits are taken as far as they make one number: a zero in front of others is a number of its
own. -/
theorem exists_takes_decimalDigits (hk : Numeral.natural? 10 digits = some k) :
    ∃ whole more, digits = whole ++ more ∧
      Takes decimalDigits (digits ++ ['\n']) whole (more ++ ['\n']) ∧
      (∀ c ∈ more, c.isDigit = true) ∧
      (digits.head? = some '0' → whole = ['0']) ∧ (digits.head? ≠ some '0' → more = []) := by
  obtain ⟨c, tail, rfl, hc, htail⟩ := exists_digit_cons hk
  by_cases hzero : c = '0'
  · subst hzero
    refine ⟨['0'], tail, rfl, ?_, htail, fun _ => rfl, fun hne => absurd rfl hne⟩
    exact (Takes.peek _).bind ((Takes.char '0' _).bind (.pure _ _))
  · refine ⟨c :: tail, [], (List.append_nil _).symm, ?_, List.forall_mem_nil _,
      fun heq => absurd (Option.some.inj heq) hzero, fun _ => rfl⟩
    have hgroup : Takes (digitGroups Char.isDigit) (c :: tail ++ ['\n']) (c :: tail) ['\n'] := by
      have hseparator : Refuses (Scan.char '_') ['\n'] :=
        .char fun d hd => by
          cases hd
          decide
      refine (Takes.takeSome (List.cons_ne_nil c tail) (List.forall_mem_cons.mpr ⟨hc, htail⟩)
        (fun d hd => ?_)).bind ?_
      · cases hd
        decide
      · refine (Takes.get _).bind ((Takes.many_nil hseparator.bind_left _).bind ?_)
        rw [List.flatten_nil, List.append_nil]
        exact .pure _ _
    refine (Takes.peek _).bind ?_
    simp only [List.cons_append, List.head?_cons]
    split
    next heq => exact absurd (Option.some.inj heq) hzero
    next => exact hgroup

/-! ### What else starts with a digit -/

/-- Behind the first character of a number there are only its digits. -/
theorem tail_signed (hsigned : Signed text kept digits)
    (hk : Numeral.natural? 10 digits = some k) :
    ∀ c ∈ (text ++ ['\n']).tail, c.isDigit = true ∨ c = '\n' := by
  obtain ⟨c, more, rfl, hc, hmore⟩ := exists_digit_cons hk
  have hbreak : ∀ ds : List Char, (∀ d ∈ ds, d.isDigit = true) →
      ∀ d ∈ ds ++ ['\n'], d.isDigit = true ∨ d = '\n' := by
    intro ds hds d hd
    rcases List.mem_append.mp hd with hdigit | hend
    · exact Or.inl (hds d hdigit)
    · exact Or.inr (List.mem_singleton.mp hend)
  cases hsigned with
  | minus => exact hbreak _ (List.forall_mem_cons.mpr ⟨hc, hmore⟩)
  | plus => exact hbreak _ (List.forall_mem_cons.mpr ⟨hc, hmore⟩)
  | bare => exact hbreak _ hmore

theorem ends_of_eq_cons (hsigned : Signed text kept digits)
    (hk : Numeral.natural? 10 digits = some k) {taken : List Char}
    (h : text ++ ['\n'] = c :: (taken ++ rest)) : Ends rest := by
  have htail := tail_signed hsigned hk
  rw [h, List.tail_cons] at htail
  exact fun d hd => htail d (List.mem_append_right _ (List.mem_of_mem_head? hd))

theorem ends_of_takes_fixedNumber (hsigned : Signed text kept digits)
    (hk : Numeral.natural? 10 digits = some k) {count v : Nat}
    (h : Takes (fixedNumber (count + 1)) (text ++ ['\n']) v rest) : Ends rest := by
  obtain ⟨taken, middle, hcount, hpure⟩ := Takes.exists_of_bind h
  cases hpure
  obtain ⟨htext, hlength, -⟩ := hcount.eq_append_of_count
  obtain ⟨d, taken, rfl⟩ := List.exists_cons_of_length_eq_add_one hlength
  exact ends_of_eq_cons hsigned hk htext

/-- No date and no time is written with digits alone. -/
theorem refuses_dateTime (hsigned : Signed text kept digits)
    (hk : Numeral.natural? 10 digits = some k) : Refuses dateTime (text ++ ['\n']) := by
  have hdate : Refuses date (text ++ ['\n']) :=
    .bind_of fun year middle hyear =>
      .bind_left ((ends_of_takes_fixedNumber hsigned hk hyear).refuses_char (by decide) (by decide))
  have htime : Refuses time (text ++ ['\n']) := by
    refine .bind_of fun hour middle hhour => .bind_left ?_
    obtain ⟨v, middle', hnumber, hcheck⟩ := Takes.exists_of_bind hhour
    have hends := ends_of_takes_fixedNumber hsigned hk hnumber
    split at hcheck
    · cases hcheck
      exact hends.refuses_char (by decide) (by decide)
    · cases hcheck
  exact .bind_left (.orElse hdate.bind_left htime)

theorem refuses_decimalFloat (hsigned : Signed text kept digits)
    (hk : Numeral.natural? 10 digits = some k) : Refuses decimalFloat (text ++ ['\n']) := by
  obtain ⟨whole, more, -, htake, hmore, -⟩ := exists_takes_decimalDigits hk
  have hends := ends_of_digits hmore
  have hpoint : Refuses (Scan.char '.') (more ++ ['\n']) :=
    hends.refuses_char (by decide) (by decide)
  have hmark : Refuses exponent (more ++ ['\n']) := by
    refine .bind_left (.satisfy fun d hd => ?_)
    rcases hends d hd with hdigit | rfl
    · have hsmall : d ≠ 'e' := ne_of_class hdigit (by decide)
      have hcapital : d ≠ 'E' := ne_of_class hdigit (by decide)
      simp [hsmall, hcapital]
    · decide
  -- Neither a point nor an exponent follows, so this is no double.
  refine .bind (takes_sign hsigned hk) (.bind htake ?_)
  refine .bind (Takes.option_none hpoint.bind_left) (.bind (Takes.option_none hmark) ?_)
  exact .failure _

theorem refuses_specialFloat (hsigned : Signed text kept digits)
    (hk : Numeral.natural? 10 digits = some k) : Refuses specialFloat (text ++ ['\n']) := by
  obtain ⟨c, more, rfl, hc, -⟩ := exists_digit_cons hk
  refine .bind (takes_sign hsigned hk) (.bind_left ?_)
  have hletter : ∀ d, d.isDigit = false → Refuses (Scan.char d) (c :: more ++ ['\n']) :=
    fun d hd => refuses_char_of_isDigit hc hd
  exact .orElse (.seqRight (.bind_left (hletter 'i' (by decide))))
    (.seqRight (.bind_left (hletter 'n' (by decide))))

/-! ### Integers -/

/-- A number in decimal notation carries no mark of a base. -/
theorem refuses_radixInteger (hsigned : Signed text kept digits)
    (hk : Numeral.natural? 10 digits = some k) {mark : String} {letter : Char} {base : Nat}
    (hmark : mark.toList = ['0', letter]) (hletter : letter.isDigit = false)
    (hbreak : letter ≠ '\n') : Refuses (radixInteger mark base) (text ++ ['\n']) := by
  refine .bind_left ?_
  rw [Scan.literal, hmark]
  refine .bind_of fun _ middle hzero => .bind_left ?_
  have htext : text ++ ['\n'] = '0' :: ([] ++ middle) := hzero.eq_cons_of_char
  exact (ends_of_eq_cons hsigned hk htext).refuses_char hletter hbreak

theorem splitSign_of_isDigit (hc : c.isDigit = true) (more : List Char) :
    Numeral.splitSign (c :: more) = (none, c :: more) := by
  unfold Numeral.splitSign
  split
  next heq => exact absurd (List.head_eq_of_cons_eq heq) (ne_of_class hc (by decide))
  next heq => exact absurd (List.head_eq_of_cons_eq heq) (ne_of_class hc (by decide))
  next => rfl

/-- The sign that is kept is read with any digits. -/
theorem integer?_kept (hsigned : Signed text kept digits)
    (hk : Numeral.natural? 10 digits = some k) :
    Numeral.integer? 10 (kept ++ digits) =
      some (if kept = ['-'] then -(Int.ofNat k) else Int.ofNat k) := by
  obtain ⟨c, more, rfl, hc, -⟩ := exists_digit_cons hk
  cases hsigned with
  | minus => simp [Numeral.integer?, Numeral.splitSign, hk]
  | plus => simp [Numeral.integer?, splitSign_of_isDigit hc, hk]
  | bare => simp [Numeral.integer?, splitSign_of_isDigit hc, hk]

/-- No zero stands in front of other digits. -/
def Canonical (text : List Char) : Prop :=
  (Numeral.splitSign text).2.head? = some '0' → (Numeral.splitSign text).2 = ['0']

instance (text : List Char) : Decidable (Canonical text) :=
  inferInstanceAs (Decidable (_ → _))

theorem splitSign_signed (hsigned : Signed text kept digits)
    (hk : Numeral.natural? 10 digits = some k) : (Numeral.splitSign text).2 = digits := by
  obtain ⟨c, more, rfl, hc, -⟩ := exists_digit_cons hk
  cases hsigned with
  | minus => rfl
  | plus => rfl
  | bare => rw [splitSign_of_isDigit hc]

/-- The number at the front of a line: all of it, unless it starts with a zero that is too many. -/
theorem exists_takes_decimalInteger (h : Numeral.integer? 10 text = some n) :
    ∃ m more, Takes decimalInteger (text ++ ['\n']) m (more ++ ['\n']) ∧
      (∀ c ∈ more, c.isDigit = true) ∧ (more = [] ↔ Canonical text) ∧ (more = [] → m = n) := by
  obtain ⟨kept, digits, k, hsigned, hk, hn⟩ := exists_signed h
  obtain ⟨whole, more, hdigits, htake, hmore, hzero, hnonzero⟩ := exists_takes_decimalDigits hk
  have hread : ∀ m, Numeral.integer? 10 (kept ++ whole) = some m →
      Takes decimalInteger (text ++ ['\n']) m (more ++ ['\n']) := by
    intro m hm
    refine (takes_sign hsigned hk).bind (htake.bind ?_)
    rw [hm]
    exact .pure _ _
  have hcanonical : more = [] ↔ Canonical text := by
    rw [Canonical, splitSign_signed hsigned hk]
    constructor
    · intro hnil hhead
      rw [hdigits, hzero hhead, hnil, List.append_nil]
    · intro hall
      by_cases hhead : digits.head? = some '0'
      · have hlone := hall hhead
        rw [hdigits, hzero hhead] at hlone
        exact (List.cons.inj hlone).2
      · exact hnonzero hhead
  by_cases hwhole : more = []
  · have hn' : Numeral.integer? 10 (kept ++ whole) = some n := by
      rw [hwhole, List.append_nil] at hdigits
      rw [← hdigits, integer?_kept hsigned hk, hn]
    exact ⟨n, more, hread n hn', hmore, hcanonical, fun _ => rfl⟩
  · have hhead : digits.head? = some '0' := by
      by_contra hne
      exact hwhole (hnonzero hne)
    have hzero' : Numeral.integer? 10 (kept ++ whole) = some 0 := by
      rw [hzero hhead]
      cases hsigned <;> rfl
    exact ⟨0, more, hread 0 hzero', hmore, hcanonical, fun hnil => absurd hnil hwhole⟩

/-- An integer starts with a sign or a digit. -/
theorem exists_head (h : Numeral.integer? 10 text = some n) :
    ∃ c tail, text = c :: tail ∧ (c.isDigit ∨ c = '+' ∨ c = '-') := by
  obtain ⟨kept, digits, k, hsigned, hk, -⟩ := exists_signed h
  obtain ⟨c, tail, rfl, hc, -⟩ := exists_digit_cons hk
  cases hsigned with
  | minus => exact ⟨_, _, rfl, Or.inr (Or.inr rfl)⟩
  | plus => exact ⟨_, _, rfl, Or.inr (Or.inl rfl)⟩
  | bare => exact ⟨_, _, rfl, Or.inl hc⟩

theorem not_blank_of_integer? (h : Numeral.integer? 10 text = some n) :
    ∀ d ∈ (text ++ rest).head?, isBlank d = false := by
  obtain ⟨c, tail, rfl, hc⟩ := exists_head h
  rintro d ⟨⟩
  rcases hc with hdigit | rfl | rfl
  · exact isBlank_of_class hdigit (by decide) (by decide)
  · decide
  · decide

/-- Nothing else that starts with a sign or a digit is written like an integer. -/
theorem run_scalar (h : Numeral.integer? 10 text = some n) :
    scalar.run (text ++ ['\n']) = integer.run (text ++ ['\n']) := by
  obtain ⟨kept, digits, k, hsigned, hk, -⟩ := exists_signed h
  obtain ⟨c, tail, htext, hc⟩ := exists_head h
  have hpeek : Takes Scan.peek (text ++ ['\n']) (some c) (text ++ ['\n']) := by
    rw [htext]
    exact .peek _
  rw [scalar, StateT.run_bind, hpeek]
  simp only [Option.bind_eq_bind, Option.bind_some, if_pos hc]
  rw [Scan.run_orElse_of_refuses (refuses_dateTime hsigned hk),
    Scan.run_orElse_of_refuses (refuses_decimalFloat hsigned hk),
    Scan.run_orElse_of_refuses (refuses_specialFloat hsigned hk)]

/-- A value that starts with a sign or a digit is no string, no list and no table. -/
theorem run_value (hc : c.isDigit ∨ c = '+' ∨ c = '-') (depth : Nat) :
    (value (depth + 1)).run (c :: rest) = scalar.run (c :: rest) := by
  have hmarks : c ≠ '"' ∧ c ≠ '\'' ∧ c ≠ '[' ∧ c ≠ '\x7b' := by
    rcases hc with hc | rfl | rfl
    · exact ⟨ne_of_class hc (by decide), ne_of_class hc (by decide),
        ne_of_class hc (by decide), ne_of_class hc (by decide)⟩
    · decide
    · decide
  have hpeek : Takes Scan.peek (c :: rest) (some c) (c :: rest) := .peek _
  rw [value, StateT.run_bind, Takes.get, Option.bind_eq_bind, Option.bind_some, StateT.run_bind,
    hpeek, Option.bind_eq_bind, Option.bind_some]
  split
  next heq => exact absurd (Option.some.inj heq) hmarks.1
  next heq => exact absurd (Option.some.inj heq) hmarks.2.1
  next heq => exact absurd (Option.some.inj heq) hmarks.2.2.1
  next heq => exact absurd (Option.some.inj heq) hmarks.2.2.2
  next => rfl

/-- What a line says after the sign of equality: the number at its front, if it fits. -/
theorem exists_takes_value (h : Numeral.integer? 10 text = some n) :
    ∃ m more, (∀ c ∈ more, c.isDigit = true) ∧ (more = [] ↔ Canonical text) ∧ (more = [] → m = n) ∧
      (Numeral.FitsInt64 m →
        Takes (value depthLimit) (text ++ ['\n']) (.scalar (.int m)) (more ++ ['\n'])) ∧
      (¬ Numeral.FitsInt64 m → Refuses (value depthLimit) (text ++ ['\n'])) := by
  obtain ⟨kept, digits, k, hsigned, hk, -⟩ := exists_signed h
  obtain ⟨m, more, htake, hmore, hcanonical, hm⟩ := exists_takes_decimalInteger h
  have hbases : Takes (radixInteger "0x" 16 <|> radixInteger "0o" 8 <|> radixInteger "0b" 2 <|>
      decimalInteger) (text ++ ['\n']) m (more ++ ['\n']) :=
    .orElse_right (refuses_radixInteger hsigned hk rfl rfl (by decide))
      (.orElse_right (refuses_radixInteger hsigned hk rfl rfl (by decide))
        (.orElse_right (refuses_radixInteger hsigned hk rfl rfl (by decide)) htake))
  have hvalue : (value depthLimit).run (text ++ ['\n']) = integer.run (text ++ ['\n']) := by
    obtain ⟨c, tail, htext, hc⟩ := exists_head h
    rw [← run_scalar h, htext]
    exact run_value hc _
  refine ⟨m, more, hmore, hcanonical, hm, fun hfits => hvalue.trans ?_,
    fun hfits => hvalue.trans ?_⟩
  · refine hbases.bind ?_
    rw [Document.int?, if_pos hfits]
    exact .pure _ _
  · refine Refuses.bind hbases ?_
    rw [Document.int?, if_neg hfits]
    exact .failure _

/-! ### A line -/

/-- A key that needs no quotes. -/
structure Bare (key : List Char) : Prop where
  ne : key ≠ []
  all : ∀ c ∈ key, isBareKey c = true

theorem Bare.not_blank {key : List Char} (hkey : Bare key) :
    ∀ c ∈ (key ++ rest).head?, isBlank c = false := by
  obtain ⟨c, more, rfl⟩ := List.exists_cons_of_ne_nil hkey.ne
  rintro d ⟨⟩
  exact isBlank_of_class (hkey.all c List.mem_cons_self) (by decide) (by decide)

theorem Bare.head?_ne {key : List Char} (hkey : Bare key) (hd : isBareKey d = false) :
    (key ++ rest).head? ≠ some d := by
  obtain ⟨c, more, rfl⟩ := List.exists_cons_of_ne_nil hkey.ne
  exact fun heq => ne_of_class (hkey.all c List.mem_cons_self) hd (Option.some.inj heq)

theorem takes_blanks (h : ∀ c ∈ rest.head?, isBlank c = false) : Takes blanks rest () rest := by
  have hskip : Takes blanks rest () (rest.dropWhile isBlank) := .skipWhile rest
  rwa [(Scan.takeWhile_of_head? h).2] at hskip

theorem takes_blanks_after_space (h : ∀ c ∈ rest.head?, isBlank c = false) :
    Takes blanks (' ' :: rest) () rest := by
  have hskip : Takes blanks (' ' :: rest) () ((' ' :: rest).dropWhile isBlank) := .skipWhile _
  rwa [List.dropWhile_cons_of_pos (by decide), (Scan.takeWhile_of_head? h).2] at hskip

theorem takes_key {key : List Char} (hkey : Bare key) :
    Takes Toml.key (key ++ ' ' :: '=' :: rest) [String.ofList key] ('=' :: rest) := by
  have hfirst : Takes simpleKey (key ++ ' ' :: '=' :: rest) (String.ofList key)
      (' ' :: '=' :: rest) := by
    refine .orElse_left (.map (.takeSome hkey.ne hkey.all fun d hd => ?_))
    cases hd
    decide
  have hgap : Takes blanks (' ' :: '=' :: rest) () ('=' :: rest) :=
    takes_blanks_after_space fun d hd => by
      cases hd
      decide
  have hdot : Refuses (Scan.char '.') ('=' :: rest) :=
    .char fun d hd => by
      cases hd
      decide
  exact (takes_blanks hkey.not_blank).bind (hfirst.bind (hgap.bind ((Takes.get _).bind
    ((Takes.many_nil hdot.bind_left _).bind (.pure _ _)))))

/-- The file so far is one key with a value. -/
def single (key : List Char) (d : Document) : Progress :=
  ⟨[(String.ofList key, .value d)], []⟩

/-- A line with a key is what its value is. -/
theorem takes_assignment {key cs : List Char} {d : Document} (hkey : Bare key)
    (hcs : ∀ c ∈ cs.head?, isBlank c = false) (hvalue : Takes (value depthLimit) cs d rest) :
    Takes (assignment ⟨[], []⟩) (key ++ ' ' :: '=' :: ' ' :: cs) (single key d) rest := by
  refine (takes_key hkey).bind ((Takes.char '=' _).bind ((takes_blanks_after_space hcs).bind
    (hvalue.bind ?_)))
  exact .pure _ _

theorem refuses_assignment {key cs : List Char} (hkey : Bare key)
    (hcs : ∀ c ∈ cs.head?, isBlank c = false) (hvalue : Refuses (value depthLimit) cs) :
    Refuses (assignment ⟨[], []⟩) (key ++ ' ' :: '=' :: ' ' :: cs) :=
  .bind (takes_key hkey) (.bind (Takes.char '=' _) (.bind (takes_blanks_after_space hcs)
    hvalue.bind_left))

/-- A line that starts with a key is an assignment and what is left of its line. -/
theorem run_line {key cs : List Char} (hkey : Bare key) (p : Progress) :
    (line p).run (key ++ cs) = (do
      let p ← assignment p
      blanks
      let _ ← Scan.option comment
      return p : Scan Progress).run (key ++ cs) := by
  obtain ⟨c, more, rfl⟩ := List.exists_cons_of_ne_nil hkey.ne
  have hc : isBareKey c = true := hkey.all c List.mem_cons_self
  have hpeek : Takes Scan.peek (c :: more ++ cs) (some c) (c :: more ++ cs) := .peek _
  rw [line, StateT.run_bind, takes_blanks hkey.not_blank, Option.bind_eq_bind, Option.bind_some,
    StateT.run_bind, hpeek, Option.bind_eq_bind, Option.bind_some]
  split
  next heq => cases heq
  next heq => exact absurd (Option.some.inj heq) (ne_of_class hc (by decide))
  next heq => exact absurd (Option.some.inj heq) (ne_of_class hc (by decide))
  next heq => exact absurd (Option.some.inj heq) (ne_of_class hc (by decide))
  next heq => exact absurd (Option.some.inj heq) (ne_of_class hc (by decide))
  next => rfl

/-- What is left of a line behind its value. -/
theorem takes_line {key cs : List Char} {p p' : Progress} (hkey : Bare key) (hrest : Ends rest)
    (h : Takes (assignment p) (key ++ cs) p' rest) : Takes (line p) (key ++ cs) p' rest := by
  have hblank : ∀ c ∈ rest.head?, isBlank c = false := by
    intro c hc
    rcases hrest c hc with hdigit | rfl
    · exact isBlank_of_class hdigit (by decide) (by decide)
    · decide
  have hcomment : Refuses comment rest := .bind_left (hrest.refuses_char (by decide) (by decide))
  rw [Takes, run_line hkey]
  exact h.bind ((takes_blanks hblank).bind ((Takes.option_none hcomment).bind (.pure _ _)))

/-- A file of one line that ends behind its value. -/
theorem takes_lines {key cs : List Char} {p' : Progress} (hkey : Bare key)
    (h : Takes (assignment ⟨[], []⟩) (key ++ cs) p' ['\n']) (fuel : Nat) :
    Takes (lines (fuel + 2) ⟨[], []⟩) (key ++ cs) p' [] := by
  have hbreak : Takes newline ['\n'] () [] := .orElse_left (.char '\n' [])
  have hends : Ends ['\n'] := ends_of_digits (List.forall_mem_nil _)
  exact (takes_line hkey hends h).bind ((Takes.get _).bind (hbreak.bind (.pure _ _)))

/-- A file whose first line does not end behind its value. -/
theorem refuses_lines {key cs : List Char} {p' : Progress} (hkey : Bare key) (hc : c.isDigit = true)
    (h : Takes (assignment ⟨[], []⟩) (key ++ cs) p' (c :: rest)) (fuel : Nat) :
    Refuses (lines (fuel + 1) ⟨[], []⟩) (key ++ cs) := by
  have hends : Ends (c :: rest) := fun d hd => Or.inl (Option.some.inj hd ▸ hc)
  have hbreak : Refuses newline (c :: rest) :=
    .orElse (refuses_char_of_isDigit hc (by decide))
      (.bind_left (refuses_char_of_isDigit hc (by decide)))
  exact .bind (takes_line hkey hends h) (.bind (Takes.get _) hbreak.bind_left)

/-- A file with one key whose value is an integer. -/
def integerFile (key text : List Char) : List Char :=
  key ++ ' ' :: '=' :: ' ' :: (text ++ ['\n'])

/-- An integer that fits and has no zero too many is read to the end of its file. -/
theorem takes_lines_integerFile {key : List Char} (hkey : Bare key)
    (h : Numeral.integer? 10 text = some n) (hcanonical : Canonical text)
    (hfits : Numeral.FitsInt64 n) (fuel : Nat) :
    Takes (lines (fuel + 2) ⟨[], []⟩) (integerFile key text) (single key (.scalar (.int n))) [] := by
  obtain ⟨m, more, -, hnil, hm, htakes, -⟩ := exists_takes_value h
  obtain rfl := hnil.mpr hcanonical
  obtain rfl := hm rfl
  exact takes_lines hkey (takes_assignment hkey (not_blank_of_integer? h) (htakes hfits)) fuel

theorem refuses_lines_integerFile {key : List Char} (hkey : Bare key)
    (h : Numeral.integer? 10 text = some n) (hnot : ¬ (Canonical text ∧ Numeral.FitsInt64 n))
    (fuel : Nat) : Refuses (lines (fuel + 1) ⟨[], []⟩) (integerFile key text) := by
  obtain ⟨m, more, hmore, hnil, hm, htakes, hrefuses⟩ := exists_takes_value h
  by_cases hfits : Numeral.FitsInt64 m
  · have hassign : Takes (assignment ⟨[], []⟩) (integerFile key text)
        (single key (.scalar (.int m))) (more ++ ['\n']) :=
      takes_assignment hkey (not_blank_of_integer? h) (htakes hfits)
    cases more with
    | nil => exact absurd ⟨hnil.mp rfl, hm rfl ▸ hfits⟩ hnot
    | cons d ds => exact refuses_lines hkey (hmore d List.mem_cons_self) hassign fuel
  · have hassign : Refuses (assignment ⟨[], []⟩) (integerFile key text) :=
      refuses_assignment hkey (not_blank_of_integer? h) (hrefuses hfits)
    have hline : Refuses (line ⟨[], []⟩) (integerFile key text) := by
      rw [Refuses, integerFile, run_line hkey]
      exact hassign.bind_left
    exact hline.bind_left

/-- A file with one integer holds it, if no zero is too many in front of it and it fits 64 bits with
a sign. Otherwise it cannot be read. -/
theorem parse?_integerFile {key : List Char} (hkey : Bare key)
    (h : Numeral.integer? 10 text = some n) :
    parse? (integerFile key text) =
      if Canonical text ∧ Numeral.FitsInt64 n then
        some [(String.ofList key, Document.scalar (.int n))]
      else none := by
  have hmark : (integerFile key text).head? ≠ some '\uFEFF' := hkey.head?_ne (by decide)
  obtain ⟨fuel, hfuel⟩ : ∃ fuel, (integerFile key text).length = fuel + 1 :=
    ⟨_, (Nat.succ_pred_eq_of_pos (List.length_pos_iff.mpr (by simp [integerFile]))).symm⟩
  rw [parse?, if_neg hmark, hfuel]
  split
  next hboth =>
    rw [Scan.whole_of_takes (takes_lines_integerFile hkey h hboth.1 hboth.2 fuel)]
    rfl
  next hnot =>
    rw [Scan.whole_of_refuses (refuses_lines_integerFile hkey h hnot (fuel + 1))]
    rfl

end

end PushRegistry.Config.Toml
