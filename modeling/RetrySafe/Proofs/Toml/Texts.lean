import Mathlib.Data.List.Basic
import RetrySafe.Toml.Text
import RetrySafe.Toml.Writer

/-!
# Reading TOML texts back

A text is written in a form that fits it, and read back from that form, as long as no quote follows.
Quotes at the end of a text of several lines stand right before the three that close it, so that
five may stand in a row.

## Main definitions

* `Closes` — no quote follows a text.
* `Style.Fits` — what a text has to be like for a form.

## Main results

* `basicChar_cases` — a character stands as it is, or as an escape that is read back.
* `Style.fits_of` — the form that is chosen fits.
* `text_form`, `text_textForm` — a text is read back from every form that fits.
-/

namespace RetrySafe.Toml

/-- No quote follows a text. -/
def Closes (rest : List Char) : Prop := ∀ c ∈ rest.head?, c ≠ '"' ∧ c ≠ '\''

/-- Characters that are told apart are different. -/
theorem ne_of_pred {p : Char → Bool} {c d : Char} (hc : p c = true) (hd : p d = false) : c ≠ d := by
  rintro rfl
  rw [hc] at hd
  cases hd

/-! ## Escapes -/

theorem hexDigit?_upperHex {n : Nat} (h : n < 16) : Json.hexDigit? (upperHex n) = some n := by
  have hall : ∀ n < 16, Json.hexDigit? (upperHex n) = some n := by decide
  exact hall n h

theorem toNat_lt_of_isHidden {c : Char} (h : isHidden c = true) : c.toNat < 128 := by
  simp only [isHidden, Bool.or_eq_true, Bool.and_eq_true, decide_eq_true_eq] at h
  omega

/-- A control character is read back from the number of its escape. -/
theorem escape_hidden {c : Char} (h : isHidden c = true) (rest : List Char) :
    escape ('u' :: '0' :: '0' :: upperHex (c.toNat / 16) :: upperHex (c.toNat % 16) :: rest) =
      some (c, rest) := by
  have hc := toNat_lt_of_isHidden h
  have hzero : Json.hexDigit? '0' = some 0 := by decide
  have hvalid : c.toNat.isValidChar := c.valid
  simp [escape, scalar?, hzero, hexDigit?_upperHex (show c.toNat / 16 < 16 by omega),
    hexDigit?_upperHex (show c.toNat % 16 < 16 by omega), hvalid, Nat.div_add_mod']

theorem isShown_of_not_isHidden {c : Char} (h : isHidden c = false) (hline : c ≠ '\n') :
    isShown c = true := by
  simp only [isHidden, isShown, Bool.or_eq_false_iff, Bool.and_eq_false_iff, Bool.or_eq_true,
    Bool.and_eq_true, decide_eq_false_iff_not, decide_eq_true_eq, not_not] at h ⊢
  grind

theorem ne_return_of_isShown {c : Char} (h : isShown c = true ∨ c = '\n') : c ≠ '\r' := by
  rintro rfl
  exact h.elim (by decide) (by decide)

/-- A character stands as it is, or as an escape that is read back. -/
theorem basicChar_cases (several : Bool) (c : Char) :
    (basicChar several c = [c] ∧ c ≠ '\\' ∧ (isShown c = true ∨ several = true ∧ c = '\n')) ∨
      ∃ code, basicChar several c = '\\' :: code ∧
        ∀ rest, escape (code ++ rest) = some (c, rest) ∧ continuation? (code ++ rest) = none := by
  unfold basicChar
  split
  · exact .inr ⟨['b'], rfl, fun _ => ⟨rfl, rfl⟩⟩
  · exact .inr ⟨['t'], rfl, fun _ => ⟨rfl, rfl⟩⟩
  · cases several with
    | false => exact .inr ⟨['n'], rfl, fun _ => ⟨rfl, rfl⟩⟩
    | true => exact .inl ⟨rfl, by decide, .inr ⟨rfl, rfl⟩⟩
  · exact .inr ⟨['f'], rfl, fun _ => ⟨rfl, rfl⟩⟩
  · exact .inr ⟨['r'], rfl, fun _ => ⟨rfl, rfl⟩⟩
  · exact .inr ⟨['\\'], rfl, fun _ => ⟨rfl, rfl⟩⟩
  · rename_i hline _ _ hbackslash
    split
    · rename_i hhidden
      exact .inr ⟨_, rfl, fun rest => ⟨escape_hidden hhidden rest, rfl⟩⟩
    · rename_i hshown
      exact .inl ⟨rfl, hbackslash, .inl (isShown_of_not_isHidden (by simpa using hshown) hline)⟩

/-! ## Basic texts -/

theorem basic_escape {c : Char} {code rest : List Char} (h : escape code = some (c, rest)) :
    basic ('\\' :: code) = (basic rest).map fun (text, rest) => (c :: text, rest) := by
  rw [basic, if_neg (by decide), if_pos rfl]
  split
  · rename_i hnone
    rw [h] at hnone
    cases hnone
  · rename_i hsome
    rw [h] at hsome
    cases hsome
    rfl

theorem basic_shown {c : Char} (hshown : isShown c = true) (hquote : c ≠ '"')
    (hbackslash : c ≠ '\\') (cs : List Char) :
    basic (c :: cs) = (basic cs).map fun (text, rest) => (c :: text, rest) := by
  rw [basic, if_neg hquote, if_neg hbackslash, if_pos hshown]

/-- A basic text of one line after its opening quote. -/
theorem basic_basicForm (cs rest : List Char) (quotes : Nat) :
    basic (basicForm false quotes cs ++ '"' :: rest) = some (cs, rest) := by
  induction cs generalizing quotes with
  | nil => rw [basicForm, List.nil_append, basic, if_pos rfl]
  | cons c cs ih =>
    by_cases hquote : c = '"'
    · have hescape : escape ('"' :: (basicForm false 0 cs ++ '"' :: rest)) =
          some ('"', basicForm false 0 cs ++ '"' :: rest) := rfl
      rw [hquote, basicForm, if_pos rfl, if_neg (by simp), List.cons_append, List.cons_append,
        basic_escape hescape, ih]
      rfl
    · rw [basicForm, if_neg hquote, List.append_assoc]
      rcases basicChar_cases false c with ⟨hform, hbackslash, hshown⟩ | ⟨code, hform, hcode⟩
      · have hshown := hshown.resolve_right fun h => Bool.false_ne_true h.1
        rw [hform, List.singleton_append, basic_shown hshown hquote hbackslash, ih]
        rfl
      · rw [hform, List.cons_append, basic_escape (hcode _).1, ih]
        rfl

/-! ## Quotes before the closing ones -/

/-- Up to two quotes before the closing three belong to the text. -/
theorem closingQuotes_run {quote : Char} {run rest : List Char} (hrun : ∀ c ∈ run, c = quote)
    (hlength : run.length ≤ 2) (hrest : ∀ c ∈ rest.head?, c ≠ quote) :
    closingQuotes quote (run ++ rest) = (run, rest) := by
  match run with
  | [] =>
    cases rest with
    | nil => rfl
    | cons c rest => simp [closingQuotes, hrest c rfl]
  | [a] =>
    cases rest with
    | nil => simp [closingQuotes, hrun a (by simp)]
    | cons c rest => simp [closingQuotes, hrun a (by simp), hrest c rfl]
  | [a, b] => simp [closingQuotes, hrun a (by simp), hrun b (by simp)]
  | _ :: _ :: _ :: _ =>
    simp only [List.length_cons] at hlength
    omega

/-- Quotes at the end of a text may as well stand after the closing three. -/
theorem run_append_closing {quote : Char} {run : List Char} (hrun : ∀ c ∈ run, c = quote)
    (rest : List Char) :
    run ++ quote :: quote :: quote :: rest = quote :: quote :: quote :: (run ++ rest) := by
  have hmove : ∀ rest, run ++ quote :: rest = quote :: (run ++ rest) := by
    intro rest
    rw [List.eq_replicate_of_mem hrun, ← List.singleton_append, ← List.append_assoc,
      ← List.replicate_succ', List.replicate_succ, List.cons_append]
  rw [hmove, hmove, hmove]

/-! ## Basic texts of several lines -/

theorem basicLines_closing (rest : List Char) :
    basicLines ('"' :: '"' :: '"' :: rest) = some (closingQuotes '"' rest) := by
  rw [basicLines]

theorem basicLines_escape {c : Char} {code rest : List Char} (h : escape code = some (c, rest))
    (hline : continuation? code = none) :
    basicLines ('\\' :: code) = (basicLines rest).map fun (text, rest) => (c :: text, rest) := by
  rw [basicLines, if_pos rfl]
  · split
    · rename_i hsome
      rw [hline] at hsome
      cases hsome
    · split
      · rename_i hnone
        rw [h] at hnone
        cases hnone
      · rename_i hsome
        rw [h] at hsome
        cases hsome
        rfl
  · exact fun _ h => absurd h (by decide)
  · exact fun _ h => absurd h (by decide)

theorem basicLines_shown {c : Char} {cs : List Char} (hshown : isShown c = true ∨ c = '\n')
    (hbackslash : c ≠ '\\') (hclosing : ¬['"', '"', '"'] <+: c :: cs) :
    basicLines (c :: cs) = (basicLines cs).map fun (text, rest) => (c :: text, rest) := by
  rw [basicLines, if_neg hbackslash, if_pos (by simpa using hshown)]
  · rintro rest rfl rfl
    exact hclosing (List.prefix_append ['"', '"', '"'] rest)
  · exact fun _ h => absurd h (ne_return_of_isShown hshown)

/-- A quote that does not start a character is escaped or counted. -/
theorem not_quote_basicChar (several : Bool) {c : Char} (hquote : c ≠ '"') (cs rest : List Char) :
    ¬ '"' :: cs <+: basicChar several c ++ rest := by
  rcases basicChar_cases several c with ⟨hform, -, -⟩ | ⟨code, hform, -⟩
  · rw [hform, List.singleton_append, List.cons_prefix_cons]
    exact fun h => hquote h.1.symm
  · rw [hform, List.cons_append, List.cons_prefix_cons]
    exact fun h => absurd h.1 (by decide)

/-- Three quotes in a row stand only where the text ends. -/
theorem run_of_prefix_basicForm {n quotes : Nat} {cs rest : List Char} (hquotes : quotes + n = 2)
    (h : List.replicate (n + 1) '"' <+: basicForm true quotes cs ++ '"' :: rest) :
    (∀ c ∈ cs, c = '"') ∧ cs.length ≤ n := by
  -- With every quote that is kept one fewer may follow; after two the next one is escaped.
  induction n generalizing quotes cs with
  | zero =>
    cases cs with
    | nil => simp
    | cons c cs =>
      exfalso
      by_cases hquote : c = '"'
      · rw [hquote, basicForm, if_pos rfl, if_neg (by omega)] at h
        simp at h
      · rw [basicForm, if_neg hquote, List.append_assoc] at h
        exact not_quote_basicChar true hquote _ _ h
  | succ n ih =>
    cases cs with
    | nil => simp
    | cons c cs =>
      by_cases hquote : c = '"'
      · rw [hquote, basicForm, if_pos rfl, if_pos ⟨rfl, by omega⟩, List.replicate_succ,
          List.cons_append, List.cons_prefix_cons] at h
        obtain ⟨hrun, hlength⟩ := ih (by omega) h.2
        exact ⟨by simpa [hquote] using hrun, Nat.succ_le_succ hlength⟩
      · rw [basicForm, if_neg hquote, List.append_assoc] at h
        exact absurd h (not_quote_basicChar true hquote _ _)

theorem basicForm_run {quotes : Nat} {run : List Char} (hrun : ∀ c ∈ run, c = '"')
    (hlength : quotes + run.length ≤ 2) : basicForm true quotes run = run := by
  induction run generalizing quotes with
  | nil => rfl
  | cons c run ih =>
    rw [List.length_cons] at hlength
    rw [hrun c List.mem_cons_self, basicForm, if_pos rfl, if_pos ⟨rfl, by omega⟩,
      ih (fun d hd => hrun d (List.mem_cons_of_mem _ hd)) (by omega)]

/-- A basic text of several lines after its opening quotes. -/
theorem basicLines_basicForm {cs rest : List Char} (hrest : Closes rest) {quotes : Nat}
    (hquotes : quotes ≤ 2) :
    basicLines (basicForm true quotes cs ++ '"' :: '"' :: '"' :: rest) = some (cs, rest) := by
  induction cs generalizing quotes with
  | nil =>
    have hclosing : closingQuotes '"' ([] ++ rest) = ([], rest) :=
      closingQuotes_run (by simp) (by simp) fun c hc => (hrest c hc).1
    rw [basicForm, List.nil_append, basicLines_closing]
    exact congrArg some hclosing
  | cons c cs ih =>
    have hescaped : ∀ code, escape (code ++ (basicForm true 0 cs ++ '"' :: '"' :: '"' :: rest)) =
          some (c, basicForm true 0 cs ++ '"' :: '"' :: '"' :: rest) →
        continuation? (code ++ (basicForm true 0 cs ++ '"' :: '"' :: '"' :: rest)) = none →
        basicLines ('\\' :: (code ++ (basicForm true 0 cs ++ '"' :: '"' :: '"' :: rest))) =
          some (c :: cs, rest) := by
      intro code hescape hline
      rw [basicLines_escape hescape hline, ih (Nat.zero_le 2)]
      rfl
    by_cases hclosing : ['"', '"', '"'] <+:
        basicForm true quotes (c :: cs) ++ '"' :: '"' :: '"' :: rest
    · -- The quotes are the last ones of the text and those that close it.
      obtain ⟨n, hn⟩ := Nat.exists_eq_add_of_le hquotes
      have hfewer : List.replicate (n + 1) '"' <+: ['"', '"', '"'] := by
        obtain rfl | rfl | rfl : n = 0 ∨ n = 1 ∨ n = 2 := by omega
        all_goals decide
      obtain ⟨hrun, hlength⟩ := run_of_prefix_basicForm hn.symm (hfewer.trans hclosing)
      rw [basicForm_run hrun (by omega), run_append_closing hrun, basicLines_closing]
      exact congrArg some (closingQuotes_run hrun (by omega) fun c hc => (hrest c hc).1)
    · -- Otherwise the reader goes on by one character, as it is or escaped.
      by_cases hquote : c = '"'
      · subst hquote
        rw [basicForm, if_pos rfl] at hclosing ⊢
        by_cases hfew : quotes < 2
        · rw [if_pos ⟨rfl, hfew⟩, List.cons_append] at hclosing ⊢
          rw [basicLines_shown (.inl rfl) (by decide) hclosing, ih (by omega)]
          rfl
        · rw [if_neg fun h => hfew h.2]
          exact hescaped ['"'] rfl rfl
      · rw [basicForm, if_neg hquote, List.append_assoc] at hclosing ⊢
        rcases basicChar_cases true c with ⟨hform, hbackslash, hshown⟩ | ⟨code, hform, hcode⟩
        · rw [hform, List.singleton_append] at hclosing ⊢
          rw [basicLines_shown (hshown.imp_right And.right) hbackslash hclosing,
            ih (Nat.zero_le 2)]
          rfl
        · rw [hform, List.cons_append]
          exact hescaped code (hcode _).1 (hcode _).2

/-! ## Literal texts -/

/-- A literal text of one line after its opening quote. -/
theorem literal_append {cs : List Char} (h : ∀ c ∈ cs, isLiteral c = true) (rest : List Char) :
    literal (cs ++ '\'' :: rest) = some (cs, rest) := by
  have hquote : isLiteral '\'' = false := rfl
  rw [literal, List.dropWhile_append_of_pos h, List.takeWhile_append_of_pos h,
    List.dropWhile_cons_of_neg (by simp [hquote]), List.takeWhile_cons_of_neg (by simp [hquote])]
  simp

theorem literalLines_shown {c : Char} {cs : List Char} (hshown : isShown c = true ∨ c = '\n')
    (hclosing : ¬['\'', '\'', '\''] <+: c :: cs) :
    literalLines (c :: cs) = (literalLines cs).map fun (text, rest) => (c :: text, rest) := by
  rw [literalLines, if_pos (by simpa using hshown)]
  · rintro rest rfl rfl
    exact hclosing (List.prefix_append ['\'', '\'', '\''] rest)
  · exact fun _ h => absurd h (ne_return_of_isShown hshown)

theorem holds_of_starts {run cs : List Char} (h : run <+: cs) : holds run cs = true := by
  cases cs with
  | nil => simpa [holds] using h
  | cons c cs => simp [holds, h]

/-- A run that a text does not hold can start in it only near its end. -/
theorem prefix_of_prefix_append {run cs rest : List Char} (hholds : holds run cs = false)
    (h : run <+: cs ++ rest) : cs <+: run ∧ cs.length < run.length := by
  by_cases hlength : run.length ≤ cs.length
  · have hstart := List.prefix_of_prefix_length_le h (List.prefix_append cs rest) hlength
    rw [holds_of_starts hstart] at hholds
    cases hholds
  · exact ⟨List.prefix_of_prefix_length_le (List.prefix_append cs rest) h (by omega), by omega⟩

/-- A literal text of several lines after its opening quotes. -/
theorem literalLines_append {cs rest : List Char} (hrest : Closes rest)
    (hshown : ∀ c ∈ cs, isShown c = true ∨ c = '\n')
    (hholds : holds ['\'', '\'', '\''] cs = false) :
    literalLines (cs ++ '\'' :: '\'' :: '\'' :: rest) = some (cs, rest) := by
  induction cs with
  | nil =>
    have hclosing : closingQuotes '\'' ([] ++ rest) = ([], rest) :=
      closingQuotes_run (by simp) (by simp) fun c hc => (hrest c hc).2
    rw [List.nil_append, literalLines]
    exact congrArg some hclosing
  | cons c cs ih =>
    by_cases hclosing : ['\'', '\'', '\''] <+: c :: cs ++ '\'' :: '\'' :: '\'' :: rest
    · -- The text holds no three quotes, so those found here are among the closing ones.
      obtain ⟨hstarts, hlength⟩ := prefix_of_prefix_append hholds hclosing
      have hrun : ∀ d ∈ c :: cs, d = '\'' := fun d hd => by simpa using hstarts.subset hd
      rw [run_append_closing hrun, literalLines]
      exact congrArg some
        (closingQuotes_run hrun (Nat.le_of_lt_succ hlength) fun c hc => (hrest c hc).2)
    · simp only [holds, Bool.or_eq_false_iff] at hholds
      rw [List.cons_append] at hclosing ⊢
      rw [literalLines_shown (hshown c List.mem_cons_self) hclosing,
        ih (fun d hd => hshown d (List.mem_cons_of_mem _ hd)) hholds.2]
      rfl

/-! ## The four forms -/

/-- What a text has to be like for a form. Every text fits the basic forms. -/
def Style.Fits (cs : List Char) : Style → Prop
  | .basic | .basicLines => True
  | .literal => cs ≠ [] ∧ ∀ c ∈ cs, isLiteral c = true
  | .literalLines =>
    (∀ c ∈ cs, isShown c = true ∨ c = '\n') ∧ holds ['\'', '\'', '\''] cs = false

theorem isShown_or_of_not_any_isHidden {cs : List Char} (h : cs.any isHidden = false) :
    ∀ c ∈ cs, isShown c = true ∨ c = '\n' := by
  intro c hc
  by_cases hline : c = '\n'
  · exact .inr hline
  · exact .inl (isShown_of_not_isHidden (by simpa using List.any_eq_false.1 h c hc) hline)

/-- The form that is chosen fits. -/
theorem Style.fits_of (cs : List Char) : (Style.of cs).Fits cs := by
  unfold Style.of
  simp only [Bool.not_eq_true']
  split
  · trivial
  · rename_i hbasic
    split
    · rename_i hliteral
      obtain ⟨hplain, hquote, hline⟩ := hliteral
      refine ⟨?_, fun c hc => ?_⟩
      · -- The empty text is basic.
        rintro rfl
        exact hbasic (by simp)
      · have hshown := isShown_or_of_not_any_isHidden hplain c hc
        have hline : c ≠ '\n' := fun h => by simp [h ▸ hc] at hline
        have hquote : c ≠ '\'' := fun h => by simp [h ▸ hc] at hquote
        simp [isLiteral, hshown.resolve_right hline, hquote]
    · split
      · trivial
      · split
        · rename_i hlines
          exact ⟨isShown_or_of_not_any_isHidden hlines.1, hlines.2⟩
        · split
          · trivial
          · trivial

/-- A text of several lines loses no line feed to its opening quotes. -/
theorem dropNewline_opening {cs body : List Char} (hbody : '\n' ∉ cs → newline? body = none) :
    dropNewline ((if cs.contains '\n' then ['\n'] else []) ++ body) = body := by
  by_cases hline : '\n' ∈ cs
  · simp [dropNewline, newline?, hline]
  · simp [dropNewline, hline, hbody hline]

theorem newline?_cons {c : Char} (hline : c ≠ '\n') (hreturn : c ≠ '\r') (cs : List Char) :
    newline? (c :: cs) = none := by
  unfold newline?
  split
  · rename_i heq
    exact absurd (List.cons.inj heq).1 hline
  · rename_i heq
    exact absurd (List.cons.inj heq).1 hreturn
  · rfl

theorem newline?_of_isShown {c : Char} (h : isShown c = true) (cs : List Char) :
    newline? (c :: cs) = none := by
  refine newline?_cons ?_ (ne_return_of_isShown (.inl h)) cs
  rintro rfl
  cases h

theorem newline?_basicForm {cs : List Char} (hline : '\n' ∉ cs) (rest : List Char) :
    newline? (basicForm true 0 cs ++ '"' :: rest) = none := by
  cases cs with
  | nil => rfl
  | cons c cs =>
    by_cases hquote : c = '"'
    · rw [hquote]
      rfl
    · rw [basicForm, if_neg hquote, List.append_assoc]
      rcases basicChar_cases true c with ⟨hform, -, hshown⟩ | ⟨code, hform, -⟩
      · have hshown := hshown.resolve_right fun h => hline (h.2 ▸ List.mem_cons_self)
        rw [hform, List.singleton_append, newline?_of_isShown hshown]
      · rw [hform]
        rfl

theorem text_basic {cs : List Char} (h : ¬['"', '"'] <+: cs) : text ('"' :: cs) = basic cs := by
  rw [text]
  rintro rest rfl
  exact h (List.prefix_append ['"', '"'] rest)

theorem text_literal {cs : List Char} (h : ¬['\'', '\''] <+: cs) :
    text ('\'' :: cs) = literal cs := by
  rw [text]
  rintro rest rfl
  exact h (List.prefix_append ['\'', '\''] rest)

/-- A text is read back from every form that fits. -/
theorem text_form {cs rest : List Char} {style : Style} (hstyle : style.Fits cs)
    (hrest : Closes rest) : text (style.form cs ++ rest) = some (cs, rest) := by
  cases style with
  | basic =>
    -- Two more quotes would open a text of several lines.
    have hsecond : ¬['"', '"'] <+: basicForm false 0 cs ++ '"' :: rest := by
      cases cs with
      | nil =>
        cases rest with
        | nil => decide
        | cons c rest => simpa [basicForm] using (hrest c rfl).1.symm
      | cons c cs =>
        by_cases hquote : c = '"'
        · simp [hquote, basicForm]
        · rw [basicForm, if_neg hquote, List.append_assoc]
          exact not_quote_basicChar false hquote _ _
    simp only [Style.form, List.cons_append, List.append_assoc, List.nil_append]
    rw [text_basic hsecond, basic_basicForm]
  | literal =>
    obtain ⟨hsome, hliteral⟩ := hstyle
    have hsecond : ¬['\'', '\''] <+: cs ++ '\'' :: rest := by
      cases cs with
      | nil => exact absurd rfl hsome
      | cons c cs =>
        have hc := hliteral c List.mem_cons_self
        simp only [isLiteral, Bool.and_eq_true, decide_eq_true_eq] at hc
        rw [List.cons_append, List.cons_prefix_cons]
        exact fun h => hc.2 h.1.symm
    simp only [Style.form, List.cons_append, List.append_assoc, List.nil_append]
    rw [text_literal hsecond, literal_append hliteral]
  | basicLines =>
    simp only [Style.form, List.cons_append, List.append_assoc, List.nil_append]
    rw [text, dropNewline_opening fun h => newline?_basicForm h _,
      basicLines_basicForm hrest (Nat.zero_le 2)]
  | literalLines =>
    obtain ⟨hshown, hholds⟩ := hstyle
    have hopening : '\n' ∉ cs → newline? (cs ++ '\'' :: '\'' :: '\'' :: rest) = none := by
      intro hline
      cases cs with
      | nil => rfl
      | cons c cs =>
        refine newline?_of_isShown ((hshown c List.mem_cons_self).resolve_right ?_) _
        exact fun h => hline (h ▸ List.mem_cons_self)
    simp only [Style.form, List.cons_append, List.append_assoc, List.nil_append]
    rw [text, dropNewline_opening hopening, literalLines_append hrest hshown hholds]

/-- A text is read back from its form. -/
theorem text_textForm (t : String) {rest : List Char} (hrest : Closes rest) :
    text (textForm t ++ rest) = some (t.toList, rest) :=
  text_form (Style.fits_of t.toList) hrest

end RetrySafe.Toml
