import PushRegistry.CommandLine.Report
import PushRegistry.Proofs.Config.OneField
import PushRegistry.Proofs.Config.TomlString

/-!
# `PushRegistry.Proofs.Config.HostText`: a host that is read as a value

A host can be given in a variable, in a settings file and on the command line. The last two keep
every text as it is. A variable is first read as a switch position or a number if it can be, and
then printed again, because a host is a text. `Sources.load_host` says which hosts come through this
unchanged, for all texts and whatever else is set: those that are `Verbatim`.

Names and addresses of three labels and more are verbatim, since no number has two dots
(`verbatim_of_dots`). Addresses of one or two numbers often are not: `127.10` is printed as `127.1`,
which is another address (`Sources.not_forall_host_kept`).
-/

set_option autoImplicit false

namespace PushRegistry.Decimal.Numeral

/-! ### Texts with dots -/

theorem count_dropWhile_isDigit (cs : List Char) :
    (cs.dropWhile Char.isDigit).count '.' = cs.count '.' := by
  induction cs with
  | nil => rfl
  | cons c cs ih =>
      by_cases hc : c.isDigit = true
      · have hne : c ≠ '.' := by
          rintro rfl
          cases hc
        rw [List.dropWhile_cons_of_pos hc, ih, List.count_cons_of_ne hne]
      · rw [List.dropWhile_cons_of_neg hc]

theorem count_splitSign (cs : List Char) : (splitSign cs).2.count '.' = cs.count '.' := by
  unfold splitSign
  split
  · exact (List.count_cons_of_ne (by decide)).symm
  · exact (List.count_cons_of_ne (by decide)).symm
  · rfl

/-- An integer has no dot. -/
theorem count_of_integer? {cs : List Char} {n : Int} (h : integer? 10 cs = some n) :
    cs.count '.' = 0 := by
  obtain ⟨sign, digits, k, hsplit, hk, -⟩ := integer?_eq_some h
  have hdigits : digits.count '.' = 0 := by
    refine List.count_eq_zero.mpr fun hdot => ?_
    have hdigit := (natural?_eq_some hk).2 '.' hdot
    cases hdigit
  rw [← count_splitSign, hsplit]
  exact hdigits

theorem exponent?_of_dot {cs : List Char} (h : 0 < cs.count '.') : exponent? cs = none := by
  cases cs with
  | nil => simp at h
  | cons c rest =>
      rw [exponent?]
      by_cases hmark : c = 'e' ∨ c = 'E'
      · have hne : c ≠ '.' := by
          rintro rfl
          exact absurd hmark (by decide)
        rw [if_pos hmark]
        cases hread : integer? 10 rest with
        | none => rfl
        | some n =>
            rw [List.count_cons_of_ne hne, count_of_integer? hread] at h
            exact absurd h (Nat.lt_irrefl 0)
      · rw [if_neg hmark]

/-- A decimal numeral has one dot at most. -/
theorem decimal?_of_dots {cs : List Char} (h : 2 ≤ cs.count '.') (negative : Bool) :
    decimal? negative cs = none := by
  have hafter : 2 ≤ (cs.dropWhile Char.isDigit).count '.' := by
    rwa [count_dropWhile_isDigit]
  unfold decimal?
  dsimp only
  split
  next heq =>
    exfalso
    split at heq
    next rest hrest =>
      -- The second dot stands behind the fraction that the first one starts.
      rw [hrest, List.count_cons_self] at hafter
      rw [exponent?_of_dot (by rw [count_dropWhile_isDigit]; omega)] at heq
      cases heq
    next =>
      have hend : exponent? (cs.dropWhile Char.isDigit) = none := exponent?_of_dot (by omega)
      cases hend.symm.trans heq
  next => rfl

theorem binary64?_of_dots {cs : List Char} (h : 2 ≤ cs.count '.') : binary64? cs = none := by
  have hrest : 2 ≤ (splitSign cs).2.count '.' := by rwa [count_splitSign]
  have hmem : '.' ∈ lowerAscii (splitSign cs).2 :=
    List.mem_map.mpr ⟨'.', List.count_pos_iff.mp (by omega), rfl⟩
  have hword : ∀ {word : String}, '.' ∉ word.toList →
      String.ofList (lowerAscii (splitSign cs).2) ≠ word := by
    rintro word hnot rfl
    rw [String.toList_ofList] at hnot
    exact hnot hmem
  unfold binary64?
  dsimp only
  split
  next heq => exact absurd heq (hword (by decide))
  next heq => exact absurd heq (hword (by decide))
  next heq => exact absurd heq (hword (by decide))
  next => exact decimal?_of_dots hrest _

end PushRegistry.Decimal.Numeral

namespace PushRegistry.Config

open PushRegistry.CommandLine (Invocation)
open PushRegistry.Decimal
open PushRegistry.Text

/-! ### Verbatim texts -/

/-- A text that is the same after it was read as the value of a variable and printed again. -/
structure Verbatim (text : String) : Prop where
  /-- A switch position is in lower case. -/
  word : ∀ w ∈ ["true", "false"], Setting.normalize text = w → text = w
  /-- An integer that fits 64 bits with a sign has no plus and no zero too many. -/
  integer : ∀ n, Numeral.integer? 10 text.toList = some n → Numeral.FitsInt64 n →
    Numeral.Tidy text.toList
  /-- Any other number is the shortest positional numeral of the nearest double. -/
  float : ∀ x, Numeral.int64? 10 text.toList = none → Numeral.binary64? text.toList = some x →
    text.toList = floatStyle.text x

/-- A text with two dots is no number. -/
theorem verbatim_of_dots {text : String} (h : 2 ≤ text.toList.count '.') : Verbatim text := by
  refine ⟨fun w hw heq => ?_, fun n hn _ => ?_, fun x _ hx => ?_⟩
  · have hmem : '.' ∈ (Setting.normalize text).toList := by
      rw [Setting.normalize, String.toList_ofList]
      exact List.mem_map.mpr ⟨'.', List.count_pos_iff.mp (by omega), rfl⟩
    rw [heq] at hmem
    simp only [List.mem_cons, List.not_mem_nil, or_false] at hw
    rcases hw with rfl | rfl <;> exact absurd hmem (by decide)
  · have hcount := Numeral.count_of_integer? hn
    omega
  · rw [Numeral.binary64?_of_dots h] at hx
    cases hx

theorem verbatim_of_word {w : String} (hw : w ∈ ["true", "false"]) : Verbatim w := by
  have hall : ∀ w ∈ ["true", "false"],
      (∀ w' ∈ ["true", "false"], Setting.normalize w = w' → w = w') ∧
        Numeral.integer? 10 w.toList = none ∧ Numeral.binary64? w.toList = none := by decide
  obtain ⟨hword, hinteger, hfloat⟩ := hall w hw
  refine ⟨hword, fun n hn _ => ?_, fun x _ hx => ?_⟩
  · rw [hinteger] at hn
    cases hn
  · rw [hfloat] at hx
    cases hx

/-- A host is the printed form of what its text is read as, and the text itself exactly if it is
verbatim. -/
theorem exists_host (text : String) :
    ∃ host, Field.host.ofScalar? (Environment.value text) = some host ∧
      (host = text ↔ Verbatim text) := by
  have hwords : ∀ w ∈ ["true", "false"], Setting.normalize text = w →
      (w = text ↔ Verbatim text) := by
    intro w hw heq
    constructor
    · rintro rfl
      exact verbatim_of_word hw
    · intro hverbatim
      exact (hverbatim.word w hw heq).symm
  unfold Environment.value
  split
  next heq => exact ⟨"true", rfl, hwords "true" (by decide) heq⟩
  next heq => exact ⟨"false", rfl, hwords "false" (by decide) heq⟩
  next htrue hfalse =>
    have hnot : ∀ w ∈ ["true", "false"], Setting.normalize text = w → text = w := by
      intro w hw heq
      simp only [List.mem_cons, List.not_mem_nil, or_false] at hw
      rcases hw with rfl | rfl
      · exact absurd heq htrue
      · exact absurd heq hfalse
    cases hint : Numeral.int64? 10 text.toList with
    | some n =>
        obtain ⟨hn, hfits⟩ := Option.filter_eq_some_iff.mp hint
        refine ⟨toString n, rfl, ?_⟩
        rw [← String.toList_inj, Numeral.toList_toString_eq_iff hn]
        refine ⟨fun htidy => ⟨hnot, fun _ _ _ => htidy, fun x hnone => ?_⟩,
          fun hverbatim => hverbatim.integer n hn (of_decide_eq_true hfits)⟩
        rw [hint] at hnone
        cases hnone
    | none =>
        have hinteger : ∀ n, Numeral.integer? 10 text.toList = some n →
            ¬ Numeral.FitsInt64 n := by
          intro n hn hfits
          simp [Numeral.int64?, hn, Option.filter, hfits] at hint
        cases hfloat : Numeral.binary64? text.toList with
        | some x =>
            refine ⟨String.ofList (floatStyle.text x), rfl, ?_⟩
            rw [← String.toList_inj, String.toList_ofList]
            constructor
            · intro heq
              refine ⟨hnot, fun n hn hfits => absurd hfits (hinteger n hn), fun y _ hy => ?_⟩
              obtain rfl := Option.some.inj (hfloat.symm.trans hy)
              exact heq.symm
            · intro hverbatim
              exact (hverbatim.float x hint hfloat).symm
        | none =>
            refine ⟨text, rfl, iff_of_true rfl ?_⟩
            refine ⟨hnot, fun n hn hfits => absurd hfits (hinteger n hn), fun y _ hy => ?_⟩
            rw [hfloat] at hy
            cases hy

namespace Sources

/-- A settings file with a host between quotes. -/
def hostFile (host : String) : String := String.ofList (Toml.stringFile "host".toList host)

theorem load_hostFile (host : String) :
    Settings.load (ofFile (hostFile host)).files (ofFile (hostFile host)).given
      = some (.ok { Settings.default with host := host }) := by
  have hbare : Toml.Bare "host".toList := ⟨by decide, List.all_eq_true.mp (by decide)⟩
  have hparse : Toml.parse? (hostFile host).toList
      = some [(Field.host.key, .scalar (.text host))] := by
    rw [hostFile, String.toList_ofList, Toml.parse?_stringFile hbare]
    rfl
  refine (sets_ofFile hparse).load rfl fun g hg => ?_
  cases g with
  | host => exact absurd rfl hg
  | port => rfl
  | timeout => rfl
  | connectTimeout => rfl

/-- The host in a variable, when everything else suits its field: settings are found, unless a file
of variables stops the program, and their host is the text of the variable exactly if that text is
verbatim. The same text as a string in a
settings file is always the host, and so it is on a command line. -/
theorem load_host {c : Sources} {text : String} (hparsable : c.Parsable) (hplain : ∀ f, c.Plain f)
    (hgiven : c.given? .host = some text) (hothers : ∀ f, f ≠ .host → (c.value? f).isSome) :
    (c.Assignable →
      ∃ s, Settings.load c.files c.given = some (.ok s) ∧ (s.host = text ↔ Verbatim text)) ∧
    (¬ c.Assignable → Settings.load c.files c.given = none) ∧
    Settings.load (ofFile (hostFile text)).files (ofFile (hostFile text)).given
      = some (.ok { Settings.default with host := text }) ∧
    ∀ (i : Invocation) (s : Settings), i.host = some text → (i.settings s).host = text := by
  refine ⟨fun hassignable => ?_, load_eq_none_iff.mpr, load_hostFile text, fun i s hi => ?_⟩
  · obtain ⟨host, hhost, hverbatim⟩ := exists_host text
    have hvalue : c.value? .host = some host := by
      rw [value?, said?, hgiven]
      exact hhost
    have hall : ∀ f, (c.value? f).isSome := by
      intro f
      by_cases hf : f = .host
      · subst hf
        rw [hvalue]
        rfl
      · exact hothers f hf
    obtain ⟨s, hs⟩ := exists_load_of_isSome hassignable hparsable hplain hall
    refine ⟨s, hs, ?_⟩
    have hloaded : some host = some s.host :=
      hvalue.symm.trans ((load_eq_ok_iff hassignable hparsable hplain s).mp hs .host)
    rw [← Option.some.inj hloaded]
    exact hverbatim
  · simp only [Invocation.settings, hi]
    rfl

/-- An address of four numbers in a variable, below it a file that names another host. -/
theorem load_host_address :
    let c : Sources := ⟨[⟨"postal.toml", Utf8.ofString "host = 'other'\nport = 81\n"⟩],
      [("POSTAL_HOST", "127.0.0.10")]⟩
    (c.Parsable ∧ (∀ f, c.Plain f) ∧ c.given? .host = some "127.0.0.10" ∧
      ∀ f, f ≠ .host → (c.value? f).isSome) ∧
    ∃ s, Settings.load c.files c.given = some (.ok s) ∧ s.host = "127.0.0.10" := by
  intro c
  have hparsable : c.Parsable := by decide +kernel
  have hplain : ∀ f, c.Plain f := by decide +kernel
  have hgiven : c.given? .host = some "127.0.0.10" := by decide +kernel
  have hothers : ∀ f, f ≠ .host → (c.value? f).isSome := by decide +kernel
  have hassignable : c.Assignable := by decide +kernel
  obtain ⟨s, hs, hhost⟩ := (load_host hparsable hplain hgiven hothers).1 hassignable
  exact ⟨⟨hparsable, hplain, hgiven, hothers⟩, s, hs, hhost.mpr (verbatim_of_dots (by decide))⟩

/-- Not every host is kept: an address that is read as a number loses the zero at its end. -/
theorem not_forall_host_kept : ¬ ∀ (c : Sources) (text : String), c.Assignable → c.Parsable →
    (∀ f, c.Plain f) → c.given? .host = some text → (∀ f, f ≠ .host → (c.value? f).isSome) →
    ∃ s, Settings.load c.files c.given = some (.ok s) ∧ s.host = text := by
  intro h
  let c := ofVariable .host "127.10"
  have hassignable : c.Assignable := by decide +kernel
  have hparsable : c.Parsable := by decide +kernel
  have hplain : ∀ f, c.Plain f := by decide +kernel
  obtain ⟨s, hs, hhost⟩ :=
    h c "127.10" hassignable hparsable hplain (by decide +kernel) (by decide +kernel)
  have hvalue : c.value? .host = some "127.1" := by decide +kernel
  rw [(load_eq_ok_iff hassignable hparsable hplain s).mp hs .host] at hvalue
  have hprinted : s.host = "127.1" := Option.some.inj hvalue
  rw [hhost] at hprinted
  exact absurd hprinted (by decide)

end Sources

end PushRegistry.Config
