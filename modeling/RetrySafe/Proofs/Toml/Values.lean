import Mathlib.Data.List.Forall2
import RetrySafe.Proofs.Decimal.Digits
import RetrySafe.Proofs.Toml.Texts
import RetrySafe.Toml.Value

/-!
# Reading TOML values back

A value that is written is read back, followed by the end of its line, a comma or the bracket that
closes an array. Whole numbers are no dates and no floats, since none of those characters goes on
with one.

## Main definitions

* `EndsValue` — what may follow a value.

## Main results

* `scalar_ofInt` — integers.
* `value_scalarForm` — scalars.
* `value_valueForm` — scalars and arrays of them.
-/

namespace RetrySafe.Toml

open RetrySafe.Decimal (EndsDigits ofNat ofInt takeDigits sign)

/-- A text is over, or goes on with what may follow a value. -/
def EndsValue (rest : List Char) : Prop := ∀ c ∈ rest.head?, c = '\n' ∨ c = ',' ∨ c = ']'

variable {cs rest : List Char} {n : Nat}

theorem endsValue_cons {c : Char} (h : c = '\n' ∨ c = ',' ∨ c = ']') (cs : List Char) :
    EndsValue (c :: cs) := by
  intro d hd
  cases hd
  exact h

theorem EndsValue.closes (h : EndsValue rest) : Closes rest := by
  intro c hc
  rcases h c hc with rfl | rfl | rfl <;> decide

theorem EndsValue.endsDigits (h : EndsValue rest) : EndsDigits rest := by
  intro c hc
  rcases h c hc with rfl | rfl | rfl <;> rfl

/-! ## Whole numbers -/

theorem expect_eq_none {c : Char} (h : ∀ d ∈ cs.head?, d ≠ c) : expect c cs = none := by
  cases cs with
  | nil => rfl
  | cons d cs => exact if_neg (h d rfl)

theorem date_eq_none (h : (takeDigits 4 cs).1.length ≠ 4 ∨ expect '-' (takeDigits 4 cs).2 = none) :
    date cs = none := by
  unfold date
  rcases h with h | h <;> simp [h]

theorem time_eq_none (h : (takeDigits 2 cs).1.length ≠ 2 ∨ expect ':' (takeDigits 2 cs).2 = none) :
    time cs = none := by
  unfold time pair
  rcases h with h | h
  · simp [h]
  · by_cases hpair : (takeDigits 2 cs).1.length = 2 ∧ Decimal.value (takeDigits 2 cs).1 ≤ 23 <;>
      simp [h, hpair]

/-- After some of the digits of a number comes another one or what follows the number. -/
theorem head?_takeDigits (limit : Nat) {digits : List Char}
    (hdigits : ∀ c ∈ digits, c.isDigit = true) (hrest : EndsDigits rest) :
    ∀ c ∈ (takeDigits limit (digits ++ rest)).2.head?, c.isDigit = true ∨ c ∈ rest.head? := by
  induction digits generalizing limit with
  | nil =>
    have hnone : takeDigits limit ([] ++ rest) = ([], rest) :=
      Decimal.takeDigits_append (by simp) (Nat.zero_le _) (.inr hrest)
    rw [hnone]
    exact fun c hc => .inr hc
  | cons d digits ih =>
    cases limit with
    | zero =>
      intro c hc
      cases hc
      exact .inl (hdigits d List.mem_cons_self)
    | succ limit =>
      rw [List.cons_append, takeDigits, if_pos (hdigits d List.mem_cons_self)]
      exact ih limit fun c hc => hdigits c (List.mem_cons_of_mem _ hc)

theorem EndsValue.not_of_mem {c : Char} (h : EndsValue rest) (hc : c ∈ rest.head?) {d : Char}
    (hd : d ≠ '\n' ∧ d ≠ ',' ∧ d ≠ ']') : c ≠ d := by
  rintro rfl
  rcases h c hc with rfl | rfl | rfl <;> simp at hd

/-- No character of a whole number, or after it, goes on with a date or a time. -/
theorem moment_ofInt (n : Int) (hrest : EndsValue rest) : moment (ofInt n ++ rest) = none := by
  have hdigits : ∀ c ∈ ofNat n.natAbs, c.isDigit = true := fun _ => Decimal.isDigit_of_mem_ofNat
  have hnext : ∀ (limit : Nat) (d : Char), d.isDigit = false → d ≠ '\n' ∧ d ≠ ',' ∧ d ≠ ']' →
      expect d (takeDigits limit (ofNat n.natAbs ++ rest)).2 = none := by
    intro limit d hd hends
    -- After some of the digits comes another digit, or what ends the value.
    refine expect_eq_none fun c hc => ?_
    rcases head?_takeDigits limit hdigits hrest.endsDigits c hc with hc | hc
    · exact ne_of_pred hc hd
    · exact hrest.not_of_mem hc hends
  unfold moment
  by_cases hn : n < 0
  · rw [ofInt, if_pos hn, date_eq_none (.inl (by simp [takeDigits])),
      time_eq_none (.inl (by simp [takeDigits]))]
  · rw [ofInt, if_neg hn, date_eq_none (.inr (hnext 4 '-' rfl (by decide))),
      time_eq_none (.inr (hnext 2 ':' rfl (by decide)))]

theorem groupedRest_append {digits : List Char} (hdigits : ∀ c ∈ digits, c.isDigit = true)
    (hrest : EndsValue rest) : groupedRest Char.isDigit (digits ++ rest) = (digits, rest) := by
  induction digits with
  | nil =>
    cases rest with
    | nil => rfl
    | cons c rest =>
      have hc := hrest.endsDigits c rfl
      rw [List.nil_append, groupedRest, if_neg (by simp [hc])]
      rintro d cs rfl
      exact absurd rfl (hrest.not_of_mem rfl (by decide))
  | cons c digits ih =>
    have hc := hdigits c List.mem_cons_self
    rw [List.cons_append, groupedRest, if_pos hc,
      ih fun d hd => hdigits d (List.mem_cons_of_mem _ hd)]
    rintro d cs rfl
    cases hc

theorem exists_ofNat_cons (n : Nat) : ∃ c digits, ofNat n = c :: digits ∧ c.isDigit = true := by
  cases hn : ofNat n with
  | nil => exact absurd hn (Decimal.ofNat_ne_nil n)
  | cons c digits =>
    have hc : c ∈ ofNat n := hn ▸ List.mem_cons_self
    exact ⟨c, digits, rfl, Decimal.isDigit_of_mem_ofNat hc⟩

/-- The digits of a whole number. -/
theorem whole_ofNat (n : Nat) (hrest : EndsValue rest) :
    whole (ofNat n ++ rest) = some (ofNat n, rest) := by
  have hdigits : ∀ c ∈ ofNat n, c.isDigit = true := fun _ => Decimal.isDigit_of_mem_ofNat
  obtain ⟨c, digits, hn, hc⟩ := exists_ofNat_cons n
  by_cases hzero : c = '0'
  · -- A zero is all that is read, and all there is.
    subst hzero
    rw [hn, Decimal.ofNat_eq_zero_cons hn]
    rfl
  · rw [hn] at hdigits ⊢
    rw [List.cons_append, whole, grouped, if_pos hc, ← List.cons_append,
      groupedRest_append hdigits hrest]
    exact fun _ h => hzero (List.cons.inj h).1

theorem sign_ofInt (n : Int) (rest : List Char) :
    sign (ofInt n ++ rest) = (decide (n < 0), ofNat n.natAbs ++ rest) := by
  by_cases hn : n < 0
  · rw [ofInt, if_pos hn, decide_eq_true hn]
    rfl
  · obtain ⟨c, digits, hdigits, hc⟩ := exists_ofNat_cons n.natAbs
    rw [ofInt, if_neg hn, decide_eq_false hn, hdigits, List.cons_append, sign]
    · exact fun _ h => ne_of_pred hc rfl (List.cons.inj h).1
    · exact fun _ h => ne_of_pred hc rfl (List.cons.inj h).1

/-- A whole number has no fraction and no exponent. -/
theorem float_ofInt (n : Int) (hrest : EndsValue rest) : float (ofInt n ++ rest) = none := by
  obtain ⟨c, digits, hdigits, hc⟩ := exists_ofNat_cons n.natAbs
  have hfraction : fraction? rest = some (none, rest) := by
    unfold fraction?
    split
    · exact absurd rfl (hrest.not_of_mem rfl (by decide))
    · rfl
  have hexponent : exponent? rest = some (none, rest) := by
    unfold exponent?
    split
    · exact absurd rfl (hrest.not_of_mem rfl (by decide))
    · exact absurd rfl (hrest.not_of_mem rfl (by decide))
    · rfl
  unfold float
  rw [sign_ofInt]
  split
  · rename_i heq
    rw [hdigits] at heq
    exact absurd (List.cons.inj (congrArg Prod.snd heq)).1 (ne_of_pred hc rfl)
  · rename_i heq
    rw [hdigits] at heq
    exact absurd (List.cons.inj (congrArg Prod.snd heq)).1 (ne_of_pred hc rfl)
  · rename_i heq
    cases heq
    simp [whole_ofNat _ hrest, hfraction, hexponent]

/-- A whole number has no mark of another base. -/
theorem ofInt_append_ne (n : Int) (hrest : EndsValue rest) {c : Char}
    (hends : c ≠ '\n' ∧ c ≠ ',' ∧ c ≠ ']') (cs : List Char) :
    ofInt n ++ rest ≠ '0' :: c :: cs := by
  intro h
  by_cases hn : n < 0
  · rw [ofInt, if_pos hn, List.cons_append] at h
    exact absurd (List.cons.inj h).1 (by decide)
  · obtain ⟨d, digits, hdigits, -⟩ := exists_ofNat_cons n.natAbs
    rw [ofInt, if_neg hn, hdigits, List.cons_append, List.cons.injEq] at h
    rw [h.1] at hdigits
    rw [Decimal.ofNat_eq_zero_cons hdigits, List.nil_append] at h
    rw [h.2] at hrest
    exact hrest.not_of_mem rfl hends rfl

theorem integer_ofInt {n : Int} (hn : -0x8000000000000000 ≤ n ∧ n < 0x8000000000000000)
    (hrest : EndsValue rest) : integer (ofInt n ++ rest) = some (n, rest) := by
  have hvalue : (if n < 0 then -(n.natAbs : Int) else n.natAbs) = n := by
    split <;> omega
  rw [integer, sign_ofInt]
  · simp only [whole_ofNat _ hrest, Option.bind_eq_bind, Option.bind_some, Decimal.value_ofNat,
      decide_eq_true_eq, hvalue, inRange?, if_pos hn, Option.pure_def]
  · exact ofInt_append_ne n hrest (by decide)
  · exact ofInt_append_ne n hrest (by decide)
  · exact ofInt_append_ne n hrest (by decide)

/-- An integer of 64 bits. -/
theorem scalar_ofInt {n : Int} (hn : -0x8000000000000000 ≤ n ∧ n < 0x8000000000000000)
    (hrest : EndsValue rest) : scalar (ofInt n ++ rest) = some (.number (.int n), rest) := by
  rw [scalar, moment_ofInt n hrest, float_ofInt n hrest]
  simp [integer_ofInt hn hrest, Json.int]

/-! ## Scalars -/

/-- How a scalar starts: with no gap, and not like the end of an array. -/
def startsScalar (c : Char) : Bool :=
  c = 't' || c = 'f' || c = '-' || c.isDigit || c = '"' || c = '\''

theorem exists_textForm_cons (t : String) :
    ∃ c cs, textForm t = c :: cs ∧ (c = '"' ∨ c = '\'') := by
  unfold textForm
  cases Style.of t.toList with
  | basic | basicLines => exact ⟨_, _, rfl, .inl rfl⟩
  | literal | literalLines => exact ⟨_, _, rfl, .inr rfl⟩

theorem exists_ofInt_cons (n : Int) :
    ∃ c cs, ofInt n = c :: cs ∧ (c = '-' ∨ c.isDigit = true) := by
  unfold ofInt
  split
  · exact ⟨_, _, rfl, .inl rfl⟩
  · obtain ⟨c, digits, hdigits, hc⟩ := exists_ofNat_cons n.natAbs
    exact ⟨c, digits, hdigits, .inr hc⟩

theorem value_number {c : Char} (h : c = '-' ∨ c.isDigit = true) (depth : Nat) (cs : List Char) :
    value depth (c :: cs) = scalar (c :: cs) := by
  have hne : ∀ d, d ≠ '-' → d.isDigit = false → c ≠ d := by
    rintro d hminus hdigit rfl
    rw [hdigit] at h
    exact h.elim hminus Bool.false_ne_true
  rw [value, if_neg]
  · exact fun hquote => hquote.elim (hne _ (by decide) rfl) (hne _ (by decide) rfl)
  · exact hne _ (by decide) rfl
  · exact hne _ (by decide) rfl
  · exact hne _ (by decide) rfl
  · exact hne _ (by decide) rfl

theorem value_quoted {c : Char} (h : c = '"' ∨ c = '\'') (depth : Nat) (cs : List Char) :
    value depth (c :: cs) =
      (text (c :: cs)).map fun (t, rest) => (.str (String.ofList t), rest) := by
  rw [value, if_pos h] <;>
  · rintro rfl
    exact absurd h (by decide)

/-- A scalar is read back, whatever may follow it. -/
theorem value_scalarForm {v : Json} {form : List Char} (h : scalarForm? v = some form) (depth : Nat)
    (hrest : EndsValue rest) : value depth (form ++ rest) = some (v, rest) := by
  unfold scalarForm? at h
  split at h
  · rename_i b
    cases h
    cases b <;> simp [value, word]
  · rename_i n
    split at h
    · rename_i hn
      cases h
      obtain ⟨c, cs, hform, hc⟩ := exists_ofInt_cons n
      have hscalar := scalar_ofInt hn hrest
      rw [hform, List.cons_append] at hscalar ⊢
      rw [value_number hc, hscalar]
    · cases h
  · rename_i t
    cases h
    obtain ⟨c, cs, hform, hc⟩ := exists_textForm_cons t
    have htext := text_textForm t hrest.closes
    rw [hform, List.cons_append] at htext ⊢
    rw [value_quoted hc, htext]
    simp only [Option.map_some, String.ofList_toList]
  · cases h

/-- A scalar starts with a character of its own. -/
theorem exists_scalarForm_cons {v : Json} {form : List Char} (h : scalarForm? v = some form) :
    ∃ c cs, form = c :: cs ∧ startsScalar c = true := by
  unfold scalarForm? at h
  split at h
  · rename_i b
    cases h
    cases b
    · exact ⟨_, _, rfl, rfl⟩
    · exact ⟨_, _, rfl, rfl⟩
  · rename_i n
    split at h
    · cases h
      obtain ⟨c, cs, hform, hc⟩ := exists_ofInt_cons n
      exact ⟨c, cs, hform, by rcases hc with hc | hc <;> simp [startsScalar, hc]⟩
    · cases h
  · rename_i t
    cases h
    obtain ⟨c, cs, hform, hc⟩ := exists_textForm_cons t
    exact ⟨c, cs, hform, by rcases hc with hc | hc <;> simp [startsScalar, hc]⟩
  · cases h

/-! ## Arrays -/

/-- What a list is written as, one by one. -/
abbrev Written {α β : Type} (form? : α → Option β) : List α → List β → Prop :=
  List.Forall₂ fun a form => form? a = some form

theorem mapM_eq_some_iff {α β : Type} {form? : α → Option β} {as : List α} {forms : List β} :
    as.mapM form? = some forms ↔ Written form? as forms := by
  induction as generalizing forms with
  | nil => simp [Written, eq_comm]
  | cons a as ih =>
    rw [Written, List.forall₂_cons_left_iff, List.mapM_cons]
    simp only [Option.bind_eq_bind, Option.bind_eq_some_iff, Option.pure_def, Option.some_inj, ih]
    constructor
    · rintro ⟨form, hform, forms, hforms, rfl⟩
      exact ⟨form, forms, hform, hforms, rfl⟩
    · rintro ⟨form, forms, hform, hforms, rfl⟩
      exact ⟨form, hform, forms, hforms, rfl⟩

theorem isSpace_of_startsScalar {c : Char} (h : startsScalar c = true) : isSpace c = false := by
  simp [isSpace, ne_of_pred h (d := ' ') rfl, ne_of_pred h (d := '\t') rfl]

theorem skipGaps_startsScalar {c : Char} (h : startsScalar c = true) (cs : List Char) :
    skipGaps false (c :: cs) = c :: cs := by
  rw [skipGaps]
  · simp [isSpace_of_startsScalar h, ne_of_pred h (d := '#') rfl]
  · exact ne_of_pred h rfl
  · exact fun _ hreturn => absurd hreturn (ne_of_pred h rfl)

/-- An item that the closing bracket follows on its own line. -/
theorem items_last {item : ValueReader} {v : Json}
    (h : item cs = some (v, ',' :: '\n' :: ']' :: rest)) (fuel : Nat) :
    items item (fuel + 1) cs = some ([v], rest) := by
  simp [items, h, skipGaps, isSpace]

/-- An item that another one follows. -/
theorem items_next {item : ValueReader} {v : Json} {c : Char} {after : List Char}
    (h : item cs = some (v, ',' :: after)) (hgap : skipGaps false after = c :: rest) (hc : c ≠ ']')
    (fuel : Nat) :
    items item (fuel + 1) cs =
      (items item fuel (c :: rest)).map fun (vs, rest) => (v :: vs, rest) := by
  have hcomma : skipGaps false (',' :: after) = ',' :: after := rfl
  rw [items, h]
  simp only [Option.bind_eq_bind, Option.bind_some, hcomma, hgap]
  split
  · rename_i heq
    exact absurd (List.cons.inj heq).1 hc
  · cases items item fuel (c :: rest) <;> rfl

/-- The gap before an item on its own line. -/
theorem skipGaps_itemLines {c : Char} (hc : startsScalar c = true) (cs : List Char)
    (forms : List (List Char)) (rest : List Char) :
    skipGaps false ('\n' :: (itemLines ((c :: cs) :: forms) ++ rest)) =
      c :: (cs ++ ',' :: '\n' :: (itemLines forms ++ rest)) := by
  have hspaces (cs : List Char) :
      skipGaps false ('\n' :: ' ' :: ' ' :: ' ' :: ' ' :: cs) = skipGaps false cs := by
    simp [skipGaps, isSpace]
  simp only [itemLines, List.flatMap_cons, List.cons_append, List.append_assoc, List.nil_append]
  rw [hspaces, skipGaps_startsScalar hc]

/-- The items of an array of several lines, from the start of the first one. -/
theorem items_itemLines {v : Json} {form : List Char} {vs : List Json} {forms : List (List Char)}
    (hv : scalarForm? v = some form) (hvs : Written scalarForm? vs forms) (depth : Nat) {fuel : Nat}
    (hfuel : forms.length < fuel) (rest : List Char) :
    items (value depth) fuel (form ++ ',' :: '\n' :: (itemLines forms ++ ']' :: rest)) =
      some (v :: vs, rest) := by
  have hcomma : ∀ cs, EndsValue (',' :: cs) := endsValue_cons (.inr (.inl rfl))
  induction hvs generalizing v form fuel with
  | nil =>
    obtain ⟨fuel, rfl⟩ := Nat.exists_eq_add_of_lt hfuel
    exact items_last (value_scalarForm hv depth (hcomma _)) _
  | @cons w next vs forms hnext _ ih =>
    obtain ⟨fuel, rfl⟩ := Nat.exists_eq_add_of_lt hfuel
    -- After the comma and the gap the reader is at the start of the next item.
    obtain ⟨c, cs, rfl, hc⟩ := exists_scalarForm_cons hnext
    have hgap := skipGaps_itemLines hc cs forms (']' :: rest)
    rw [items_next (value_scalarForm hv depth (hcomma _)) hgap (ne_of_pred hc rfl),
      ← List.cons_append, ih hnext (by rw [List.length_cons]; omega)]
    rfl

theorem length_le_itemLines (forms : List (List Char)) :
    forms.length ≤ (itemLines forms).length := by
  induction forms with
  | nil => exact Nat.le_refl _
  | cons form forms ih =>
    simp only [itemLines, List.flatMap_cons, List.length_append, List.length_cons] at ih ⊢
    omega

theorem value_bracket (depth : Nat) (cs : List Char) :
    value (depth + 1) ('[' :: cs) =
      (array (value depth) cs).map fun (vs, rest) => (.arr vs, rest) := by
  rw [value]

theorem array_of_startsScalar {item : ValueReader} {c : Char} {after : List Char}
    (hgap : skipGaps false cs = c :: after) (hc : startsScalar c = true) :
    array item cs = items item ((c :: after).length + 1) (c :: after) := by
  unfold array
  rw [hgap]
  split
  · rename_i heq
    exact absurd (List.cons.inj heq).1 (ne_of_pred hc rfl)
  · rfl

/-- An array of scalars. -/
theorem value_arr {vs : List Json} {form : List Char} (h : valueForm? (.arr vs) = some form)
    (depth : Nat) (rest : List Char) :
    value (depth + 1) (form ++ rest) = some (.arr vs, rest) := by
  simp only [valueForm?, Option.bind_eq_bind, Option.bind_eq_some_iff, mapM_eq_some_iff] at h
  obtain ⟨forms, hforms, h⟩ := h
  cases hforms with
  | nil =>
    cases h
    rfl
  | @cons v first vs others hfirst hothers =>
    obtain ⟨c, cs, rfl, hc⟩ := exists_scalarForm_cons hfirst
    cases hothers with
    | nil =>
      cases h
      have hbracket : EndsValue (']' :: rest) := endsValue_cons (.inr (.inr rfl)) rest
      have hvalue := value_scalarForm hfirst depth hbracket
      have hclosing : skipGaps false (']' :: rest) = ']' :: rest := rfl
      simp only [List.cons_append, List.append_assoc, List.nil_append] at hvalue ⊢
      rw [value_bracket, array_of_startsScalar (skipGaps_startsScalar hc _) hc, items, hvalue]
      simp [hclosing]
    | @cons w second ws forms hsecond hforms =>
      cases h
      have hgap := skipGaps_itemLines hc cs (second :: forms) (']' :: rest)
      have hlines := length_le_itemLines (second :: forms)
      simp only [List.cons_append, List.append_assoc, List.nil_append]
      rw [value_bracket, array_of_startsScalar hgap hc, ← List.cons_append,
        items_itemLines hfirst (.cons hsecond hforms) depth]
      · rfl
      · simp only [List.length_append, List.length_cons] at hlines ⊢
        omega

/-- A scalar or an array of scalars is read back, whatever may follow it. -/
theorem value_valueForm {v : Json} {form : List Char} (h : valueForm? v = some form) (depth : Nat)
    (hrest : EndsValue rest) : value (depth + 1) (form ++ rest) = some (v, rest) := by
  cases v with
  | arr vs => exact value_arr h depth rest
  | _ =>
    simp only [valueForm?] at h
    exact value_scalarForm h (depth + 1) hrest

end RetrySafe.Toml
