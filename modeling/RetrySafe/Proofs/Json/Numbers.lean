import RetrySafe.Json.Reader
import RetrySafe.Json.Writer
import RetrySafe.Proofs.Decimal.Shortest

/-!
# Reading numbers back

Integers of 64 bits are read back as they were written. A double is read as some double: its digits
are gathered into a significand that does not exceed the written decimal, and what does not exceed
that is in range.

## Main definitions

* `EndsValue` — what may follow a value.

## Main results

* `unsignedNumber_ofNat` — whole numbers.
* `exists_unsignedNumber_magnitude` — doubles.
-/

namespace RetrySafe.Json

open Decimal (EndsDigits ofNat spanDigits Scientific tenTo)

/-- A text is over, or goes on with what may follow a value. -/
def EndsValue (cs : List Char) : Prop := ∀ c ∈ cs.head?, c = ',' ∨ c = ']' ∨ c = '\x7d'

variable {cs rest : List Char} {n : Nat} {negative : Bool}

theorem EndsValue.endsDigits (h : EndsValue rest) : EndsDigits rest := by
  intro c hc
  rcases h c hc with rfl | rfl | rfl <;> rfl

/-! ## Gathering digits -/

/-- What is gathered fits, and does not exceed the digits that it comes from. -/
theorem gather_le (hn : n < 2 ^ 64) (cs : List Char) :
    (gather n cs).1 < 2 ^ 64 ∧ (gather n cs).2.length ≤ cs.length ∧
      (gather n cs).1 * 10 ^ (gather n cs).2.length ≤ Nat.ofDigitChars 10 cs n := by
  induction cs generalizing n with
  | nil => exact ⟨hn, Nat.le_refl _, Nat.le_of_eq (Nat.mul_one n)⟩
  | cons c cs ih =>
    unfold gather
    dsimp only
    split
    · rename_i hfits
      obtain ⟨hword, hlength, hle⟩ := ih hfits
      refine ⟨hword, Nat.le_succ_of_le hlength, ?_⟩
      rw [Nat.ofDigitChars_cons, Nat.mul_comm 10]
      exact hle
    · exact ⟨hn, Nat.le_refl _, Decimal.le_ofDigitChars (c :: cs) n⟩

/-- Digits that fit are all gathered. -/
theorem gather_of_lt (h : Nat.ofDigitChars 10 cs n < 2 ^ 64) :
    gather n cs = (Nat.ofDigitChars 10 cs n, []) := by
  induction cs generalizing n with
  | nil => rfl
  | cons c cs ih =>
    rw [Nat.ofDigitChars_cons, Nat.mul_comm 10] at h ⊢
    have hfits : n * 10 + (c.toNat - 48) < 0x10000000000000000 := by
      refine Nat.lt_of_le_of_lt ?_ h
      refine Nat.le_trans ?_ (Decimal.le_ofDigitChars cs _)
      exact Nat.le_mul_of_pos_right _ (Nat.pow_pos (by decide))
    unfold gather
    rw [if_pos hfits]
    exact ih h

/-! ## Digits of a number -/

/-- Digits before the point of a number, or all there are. A number has no zero in front of its
digits. -/
structure IsDigits (cs : List Char) : Prop where
  digits : ∀ c ∈ cs, c.isDigit = true
  nonempty : cs ≠ []
  zero : ∀ rest, cs = '0' :: rest → rest = []

theorem isDigits_ofNat (n : Nat) : IsDigits (ofNat n) where
  digits := fun _ hc => Decimal.isDigit_of_mem_ofNat hc
  nonempty := Decimal.ofNat_ne_nil n
  zero := fun _ h => Decimal.ofNat_eq_zero_cons h

/-- What is read after the digits before a point. -/
def afterWhole (negative : Bool) (n : Nat) (rest : List Char) : Except Fault (Number × List Char) :=
  match rest with
  | '.' :: rest => fractionPart negative n 0 rest
  | 'e' :: _ | 'E' :: _ => afterDigits negative n 0 rest
  | rest => .ok (wholeNumber negative n, rest)

/-- A number that starts with some digits. -/
theorem unsignedNumber_append {digits : List Char} (hdigits : IsDigits digits)
    (hfits : Decimal.value digits < 2 ^ 64) (hrest : EndsDigits rest) :
    unsignedNumber negative (digits ++ rest) =
      afterWhole negative (Decimal.value digits) rest := by
  unfold unsignedNumber
  rw [Decimal.spanDigits_append_of_endsDigits hdigits.digits hrest]
  split
  · rename_i heq
    exact absurd (congrArg Prod.fst heq) hdigits.nonempty
  · rename_i heq
    exact absurd (congrArg Prod.fst heq) hdigits.nonempty
  · rename_i heq
    exact absurd (hdigits.zero _ (congrArg Prod.fst heq)) (List.cons_ne_nil _ _)
  · rename_i heq
    cases heq
    rw [gather_of_lt hfits]
    rfl

/-- A whole number. -/
theorem unsignedNumber_ofNat (hn : n < 2 ^ 64) (hrest : EndsValue rest) :
    unsignedNumber negative (ofNat n ++ rest) = .ok (wholeNumber negative n, rest) := by
  have hvalue := Decimal.value_ofNat n
  rw [unsignedNumber_append (isDigits_ofNat n) (by rwa [hvalue]) hrest.endsDigits, hvalue]
  unfold afterWhole
  split
  · rcases hrest '.' rfl with h | h | h <;> cases h
  · rcases hrest 'e' rfl with h | h | h <;> cases h
  · rcases hrest 'E' rfl with h | h | h <;> cases h
  · rfl

/-- The digits after the point. -/
theorem fractionPart_append {digits : List Char} (hdigits : ∀ c ∈ digits, c.isDigit = true)
    (hsome : digits ≠ []) (hrest : EndsDigits rest) :
    fractionPart negative n 0 (digits ++ rest) =
      afterDigits negative (gather n digits).1
        (0 - (digits.length - (gather n digits).2.length : Nat)) rest := by
  unfold fractionPart
  rw [Decimal.spanDigits_append_of_endsDigits hdigits hrest]
  split
  · rename_i heq
    exact absurd (congrArg Prod.fst heq) hsome
  · rename_i heq
    exact absurd (congrArg Prod.fst heq) hsome
  · rename_i heq
    cases heq
    rfl

/-- Without an exponent. -/
theorem afterDigits_of_endsValue {exponent : Int} (hrest : EndsValue rest) :
    afterDigits negative n exponent rest =
      (float negative n exponent).map fun number => (number, rest) := by
  unfold afterDigits
  split
  · rcases hrest 'e' rfl with h | h | h <;> cases h
  · rcases hrest 'E' rfl with h | h | h <;> cases h
  · cases float negative n exponent <;> rfl

/-- The sign of an exponent and its digits. -/
def exponentText (x : Int) : List Char := (if 0 ≤ x then '+' else '-') :: ofNat x.natAbs

/-- With an exponent. -/
theorem afterDigits_exponentText {exponent : Int} (x : Int) (hrest : EndsValue rest) :
    afterDigits negative n exponent ('e' :: (exponentText x ++ rest)) =
      if 0x80000000 ≤ x.natAbs then
        if n ≠ 0 ∧ 0 ≤ x then .error .numberOutOfRange
        else .ok (.float (.ofMagnitude negative 0), rest)
      else (float negative n (exponent + x)).map fun number => (number, rest) := by
  have hspan := Decimal.spanDigits_append_of_endsDigits
    (fun c hc => Decimal.isDigit_of_mem_ofNat (n := x.natAbs) hc) hrest.endsDigits
  obtain ⟨c, cs, hcons⟩ := List.exists_cons_of_ne_nil (Decimal.ofNat_ne_nil x.natAbs)
  have hvalue := Decimal.value_ofNat x.natAbs
  unfold exponentText
  rw [hcons] at hspan hvalue ⊢
  rw [List.cons_append] at hspan
  rcases Int.lt_or_le x 0 with hdown | hup
  · have hminus : exponent - (x.natAbs : Int) = exponent + x := by omega
    simp only [afterDigits, exponentPart, if_neg (Int.not_le.mpr hdown), List.cons_append, hspan,
      hvalue, if_true, hminus]
    cases float negative n (exponent + x) <;> simp [Int.not_le.mpr hdown, Except.map]
  · have hplus : exponent + (x.natAbs : Int) = exponent + x := by omega
    simp only [afterDigits, exponentPart, if_pos hup, List.cons_append, hspan, hvalue,
      Bool.false_eq_true, if_false, hplus]
    cases float negative n (exponent + x) <;> simp [hup, Except.map]

/-! ## Doubles -/

/-- What is gathered behind the point does not exceed the digits that it comes from. -/
theorem gather_ratio (hn : n < 2 ^ 64) (digits : List Char) :
    ((gather n digits).1 : ℚ) * 10 ^ (0 - ((digits.length - (gather n digits).2.length : Nat) : Int)) ≤
      (Nat.ofDigitChars 10 digits n : ℚ) * 10 ^ (-(digits.length : Int)) := by
  obtain ⟨-, hlength, hle⟩ := gather_le hn digits
  have hle' : ((gather n digits).1 : ℚ) * 10 ^ ((gather n digits).2.length : Int) ≤
      Nat.ofDigitChars 10 digits n := by
    rw [zpow_natCast]
    exact_mod_cast hle
  have hplaces : 0 - ((digits.length - (gather n digits).2.length : Nat) : Int) =
      ((gather n digits).2.length : Int) + -(digits.length : Int) := by omega
  rw [hplaces, zpow_add₀ (by norm_num), ← mul_assoc]
  exact mul_le_mul_of_nonneg_right hle' (by positivity)

/-- A significand and an exponent in range. -/
theorem exists_float {exponent : Int} (hword : n < 2 ^ 64)
    (hle : (n : ℚ) * 10 ^ exponent ≤ Decimal.readable) :
    ∃ x, float negative n exponent = .ok (.float x) := by
  have hreadable : 0 ≤ exponent → n * tenTo exponent.toNat ≤ Decimal.readable := by
    intro hup
    rw [← Int.toNat_of_nonneg hup, zpow_natCast] at hle
    unfold tenTo
    exact_mod_cast hle
  obtain ⟨x, hx⟩ := Decimal.Double.ofScientific?_isSome negative hword hreadable
  exact ⟨x, by rw [float, hx]⟩

/-- A significand that goes on with an exponent. -/
theorem exists_afterDigits_exponentText {exponent x : Int} (hword : n < 2 ^ 64)
    (hle : (n : ℚ) * 10 ^ (exponent + x) ≤ Decimal.readable) (hx : n ≠ 0 → x < 0x80000000)
    (hrest : EndsValue rest) :
    ∃ y, afterDigits negative n exponent ('e' :: (exponentText x ++ rest)) =
      .ok (.float y, rest) := by
  rw [afterDigits_exponentText x hrest]
  split
  · rename_i hfar
    have hsmall : ¬(n ≠ 0 ∧ 0 ≤ x) := by
      rintro ⟨hn, hup⟩
      have hlt := hx hn
      omega
    exact ⟨_, if_neg hsmall⟩
  · obtain ⟨y, hy⟩ := exists_float hword hle
    exact ⟨y, by rw [hy]; rfl⟩

/-- A number with a point. -/
theorem exists_unsignedNumber_point {whole places : List Char} (hwhole : IsDigits whole)
    (hlength : whole.length ≤ 16) (hplaces : ∀ c ∈ places, c.isDigit = true) (hsome : places ≠ [])
    (hle : (Decimal.value (whole ++ places) : ℚ) * 10 ^ (-(places.length : Int)) ≤ Decimal.readable)
    (hrest : EndsValue rest) :
    ∃ x, unsignedNumber negative (whole ++ '.' :: (places ++ rest)) = .ok (.float x, rest) := by
  have hfits : Decimal.value whole < 2 ^ 64 :=
    Nat.lt_trans (Nat.lt_of_lt_of_le (Decimal.value_lt hwhole.digits)
      (Nat.pow_le_pow_right (by decide) hlength)) (by decide)
  rw [unsignedNumber_append hwhole hfits (Decimal.endsDigits_cons rfl), afterWhole,
    fractionPart_append hplaces hsome hrest.endsDigits, afterDigits_of_endsValue hrest]
  have hgathered := gather_ratio hfits places
  rw [← Decimal.value_append] at hgathered
  obtain ⟨x, hx⟩ := exists_float (gather_le hfits places).1 (hgathered.trans hle)
  exact ⟨x, by rw [hx]; rfl⟩

theorem isDigits_take {n count : Nat} (hcount : 0 < count) : IsDigits ((ofNat n).take count) where
  digits := fun _ hc => Decimal.isDigit_of_mem_ofNat (List.mem_of_mem_take hc)
  nonempty := by
    rw [Ne, List.take_eq_nil_iff, not_or]
    exact ⟨Nat.ne_of_gt hcount, Decimal.ofNat_ne_nil n⟩
  zero := by
    intro rest h
    cases hn : ofNat n with
    | nil => exact absurd hn (Decimal.ofNat_ne_nil n)
    | cons c cs =>
      obtain ⟨count, rfl⟩ := Nat.exists_eq_add_of_lt hcount
      rw [hn, Nat.zero_add, List.take_succ_cons, List.cons.injEq] at h
      obtain ⟨rfl, rfl⟩ := h
      rw [Decimal.ofNat_eq_zero_cons hn, List.take_nil]

/-- A number that is not zero, with zeros behind it. -/
theorem isDigits_append_zeros (hn : 0 < n) (count : Nat) :
    IsDigits (ofNat n ++ List.replicate count '0') where
  digits := by
    intro c hc
    rcases List.mem_append.mp hc with hc | hc
    · exact Decimal.isDigit_of_mem_ofNat hc
    · rw [List.eq_of_mem_replicate hc]
      rfl
  nonempty := List.append_ne_nil_of_left_ne_nil (Decimal.ofNat_ne_nil n) _
  zero := by
    intro rest h
    cases hdigits : ofNat n with
    | nil => exact absurd hdigits (Decimal.ofNat_ne_nil n)
    | cons c cs =>
      rw [hdigits, List.cons_append, List.cons.injEq] at h
      obtain ⟨rfl, -⟩ := h
      have hvalue := Decimal.value_ofNat n
      rw [hdigits, Decimal.ofNat_eq_zero_cons hdigits] at hvalue
      exact absurd hvalue.symm (Nat.ne_of_gt hn)

/-- The exponent of a decimal in range is small. -/
theorem exponent_lt_of_le_readable {d : Scientific} (hpos : 0 < d.digits)
    (hd : d.size ≤ Decimal.readable) : ((ofNat d.digits).length : Int) + d.exponent - 1 < 309 := by
  have hfirst := Decimal.pow_le_of_ofNat hpos
  have hlength := List.length_pos_iff.mpr (Decimal.ofNat_ne_nil d.digits)
  have hlimit : (Decimal.readable : ℚ) < 10 ^ (309 : Int) := by
    have hcast (k : Nat) : ((tenTo k : Nat) : ℚ) = 10 ^ (k : Int) := by
      rw [zpow_natCast, tenTo, Nat.pow_eq]
      push_cast
      rfl
    rw [show (309 : Int) = ((309 : Nat) : Int) from rfl, ← hcast, Nat.cast_lt]
    exact Decimal.Double.readable_lt
  have hpower : (10 : ℚ) ^ (((ofNat d.digits).length : Int) + d.exponent - 1) ≤ d.size := by
    rw [show ((ofNat d.digits).length : Int) + d.exponent - 1 =
      ((ofNat d.digits).length - 1 : Nat) + d.exponent by omega, zpow_add₀ (by norm_num),
      zpow_natCast, Scientific.size]
    refine mul_le_mul_of_nonneg_right ?_ (by positivity)
    exact_mod_cast hfirst
  exact (zpow_lt_zpow_iff_right₀ (by norm_num : (1 : ℚ) < 10)).mp
    ((hpower.trans hd).trans_lt hlimit)

/-- A decimal in range, laid out with an exponent. -/
theorem exists_unsignedNumber_exponent {d : Scientific} {c : Char} {places : List Char}
    (hcons : ofNat d.digits = c :: places) (hpos : 0 < d.digits) (hd : d.size ≤ Decimal.readable)
    (hrest : EndsValue rest) :
    ∃ x, unsignedNumber negative (c :: ((if places = [] then [] else '.' :: places) ++
      'e' :: (exponentText ((ofNat d.digits).length + d.exponent - 1) ++ rest))) =
        .ok (.float x, rest) := by
  have hvalue := Decimal.value_ofNat d.digits
  have hfar := exponent_lt_of_le_readable hpos hd
  have hwhole : IsDigits [c] := by
    have htake := isDigits_take (n := d.digits) Nat.one_pos
    rwa [hcons, List.take_succ_cons, List.take_zero] at htake
  have hfits : Decimal.value [c] < 2 ^ 64 :=
    Nat.lt_trans (Decimal.value_lt hwhole.digits) (show 10 ^ 1 < 2 ^ 64 by decide)
  have hplaces : ∀ c ∈ places, c.isDigit = true := fun c hc =>
    Decimal.isDigit_of_mem_ofNat (hcons ▸ List.mem_cons_of_mem _ hc)
  unfold Scientific.size at hd
  rw [hcons] at hvalue hfar ⊢
  rw [List.length_cons] at hfar ⊢
  by_cases hnone : places = []
  · rw [if_pos hnone, List.nil_append, ← List.singleton_append,
      unsignedNumber_append hwhole hfits (Decimal.endsDigits_cons rfl), afterWhole]
    rw [hnone] at hvalue hfar ⊢
    refine exists_afterDigits_exponentText hfits ?_ (fun _ => by omega) hrest
    rw [hvalue, List.length_nil, Nat.zero_add, Nat.cast_one, add_sub_cancel_left, zero_add]
    exact hd
  · rw [if_neg hnone, List.cons_append, ← List.singleton_append (x := c),
      unsignedNumber_append hwhole hfits (Decimal.endsDigits_cons rfl), afterWhole,
      fractionPart_append hplaces hnone (Decimal.endsDigits_cons rfl)]
    refine exists_afterDigits_exponentText (gather_le hfits places).1 ?_ (fun _ => by omega) hrest
    have hgathered := gather_ratio hfits places
    rw [← Decimal.value_append, List.singleton_append, hvalue] at hgathered
    obtain ⟨x, hx⟩ : ∃ x : Int, x = ((places.length + 1 : Nat) : Int) + d.exponent - 1 := ⟨_, rfl⟩
    obtain ⟨place, hplace⟩ : ∃ place : Int, place =
      0 - ((places.length - (gather (Decimal.value [c]) places).2.length : Nat) : Int) := ⟨_, rfl⟩
    rw [← hx, ← hplace]
    rw [← hplace] at hgathered
    calc ((gather (Decimal.value [c]) places).1 : ℚ) * 10 ^ (place + x)
        = (gather (Decimal.value [c]) places).1 * 10 ^ place * 10 ^ x := by
          rw [zpow_add₀ (by norm_num), mul_assoc]
      _ ≤ d.digits * 10 ^ (-(places.length : Int)) * 10 ^ x :=
        mul_le_mul_of_nonneg_right hgathered (by positivity)
      _ = d.digits * 10 ^ d.exponent := by
        rw [mul_assoc, ← zpow_add₀ (by norm_num), show -(places.length : Int) + x = d.exponent by omega]
      _ ≤ Decimal.readable := hd

/-- A whole number in range, laid out with a zero behind the point. -/
theorem exists_unsignedNumber_whole {zeros : Nat} (hpos : 0 < n)
    (hlength : (ofNat n).length + zeros ≤ 16)
    (hle : (n : ℚ) * 10 ^ (zeros : Int) ≤ Decimal.readable) (hrest : EndsValue rest) :
    ∃ x, unsignedNumber negative
      ((ofNat n ++ List.replicate zeros '0') ++ '.' :: (['0'] ++ rest)) = .ok (.float x, rest) := by
  refine exists_unsignedNumber_point (isDigits_append_zeros hpos zeros) ?_ ?_
    (List.cons_ne_nil _ _) ?_ hrest
  · rw [List.length_append, List.length_replicate]
    exact hlength
  · intro c hc
    rw [List.mem_singleton.mp hc]
    rfl
  · rw [Decimal.value_append, Decimal.value_append, Decimal.value_ofNat, Nat.ofDigitChars_replicate_zero,
      Nat.ofDigitChars_cons, Nat.ofDigitChars_nil, Nat.sub_self, Nat.add_zero]
    push_cast
    rw [zpow_natCast] at hle
    rw [List.length_singleton, Nat.cast_one, zpow_neg_one]
    have hten : (10 : ℚ) * (10 ^ zeros * n) * 10⁻¹ = n * 10 ^ zeros := by ring
    rw [hten]
    exact hle

/-- A decimal in range, laid out with the point between its digits. -/
theorem exists_unsignedNumber_between {count : Nat} (hcount : 0 < count)
    (hlength : count < (ofNat n).length) (hshort : count ≤ 16)
    (hle : (n : ℚ) * 10 ^ (-((ofNat n).length - count : Nat) : Int) ≤ Decimal.readable)
    (hrest : EndsValue rest) :
    ∃ x, unsignedNumber negative ((ofNat n).take count ++ '.' :: ((ofNat n).drop count ++ rest)) =
      .ok (.float x, rest) := by
  refine exists_unsignedNumber_point (isDigits_take hcount) ?_
    (fun c hc => Decimal.isDigit_of_mem_ofNat (List.mem_of_mem_drop hc)) ?_ ?_ hrest
  · rw [List.length_take]
    omega
  · rw [Ne, List.drop_eq_nil_iff]
    exact Nat.not_le.mpr hlength
  · rw [List.take_append_drop, Decimal.value_ofNat, List.length_drop]
    exact hle

/-- A decimal in range, laid out with zeros behind the point. -/
theorem exists_unsignedNumber_behind {zeros : Nat}
    (hle : (n : ℚ) * 10 ^ (-(zeros + (ofNat n).length : Nat) : Int) ≤ Decimal.readable)
    (hrest : EndsValue rest) :
    ∃ x, unsignedNumber negative
        (ofNat 0 ++ '.' :: ((List.replicate zeros '0' ++ ofNat n) ++ rest)) = .ok (.float x, rest) := by
  refine exists_unsignedNumber_point (isDigits_ofNat 0) (by decide) ?_
    (List.append_ne_nil_of_right_ne_nil _ (Decimal.ofNat_ne_nil _)) ?_ hrest
  · intro c hc
    rcases List.mem_append.mp hc with hc | hc
    · rw [List.eq_of_mem_replicate hc]
      rfl
    · exact Decimal.isDigit_of_mem_ofNat hc
  · rw [Decimal.value_append, show Decimal.value (ofNat 0) = 0 from rfl]
    change (Decimal.value (_ ++ ofNat n) : ℚ) * _ ≤ _
    rw [Decimal.value_replicate_zero_append, Decimal.value_ofNat, List.length_append,
      List.length_replicate]
    exact hle

/-- A decimal in range, however it is laid out. -/
theorem exists_unsignedNumber_scientific {d : Scientific} (hpos : 0 < d.digits)
    (hd : d.size ≤ Decimal.readable) (hrest : EndsValue rest) :
    ∃ x, unsignedNumber negative (d.text ++ rest) = .ok (.float x, rest) := by
  have hexponent {c : Char} {places : List Char} (hcons : ofNat d.digits = c :: places) :=
    @exists_unsignedNumber_exponent rest negative d c places hcons hpos hd hrest
  unfold Scientific.size at hd
  unfold Scientific.text
  dsimp only
  split
  · rename_i hpoint
    split
    · rename_i hup
      obtain ⟨zeros, hzeros⟩ := Int.eq_ofNat_of_zero_le hup
      rw [hzeros] at hd hpoint ⊢
      rw [Int.toNat_natCast, List.append_assoc]
      exact exists_unsignedNumber_whole hpos (by omega) hd hrest
    · rename_i hdown
      rw [List.append_assoc, List.cons_append]
      refine exists_unsignedNumber_between (by omega) (by omega) (by omega) ?_ hrest
      rw [show -(((ofNat d.digits).length - ((ofNat d.digits).length + d.exponent).toNat : Nat) :
        Int) = d.exponent by omega]
      exact hd
  split
  · rename_i hpoint
    refine exists_unsignedNumber_behind ?_ hrest
    rw [show -(((-((ofNat d.digits).length + d.exponent)).toNat + (ofNat d.digits).length : Nat) :
      Int) = d.exponent by omega]
    exact hd
  · cases hcons : ofNat d.digits with
    | nil => exact absurd hcons (Decimal.ofNat_ne_nil _)
    | cons c places =>
      have hread := hexponent hcons
      rw [hcons] at hread
      cases places with
      | nil => exact hread
      | cons c' places =>
        rw [if_neg (List.cons_ne_nil _ _)] at hread
        simpa [exponentText] using hread

/-- The written form of a double without its sign. -/
def magnitudeText (bits : Nat) : List Char :=
  if bits = 0 then ['0', '.', '0'] else (Decimal.stripZeros 20 (Decimal.shortest bits)).text

/-- The largest double is above what is read of others, but it is read back as well. -/
theorem exists_unsignedNumber_largest (hrest : EndsValue rest) :
    ∃ x, unsignedNumber negative (magnitudeText (Decimal.infinityBits - 1) ++ rest) =
      .ok (.float x, rest) := by
  obtain ⟨places, hplaces⟩ : ∃ places, places =
    ['7', '9', '7', '6', '9', '3', '1', '3', '4', '8', '6', '2', '3', '1', '5', '7'] := ⟨_, rfl⟩
  have htext : magnitudeText (Decimal.infinityBits - 1) =
      ['1'] ++ '.' :: (places ++ 'e' :: exponentText 308) := by
    rw [hplaces]
    decide +kernel
  have hdigits : ∀ c ∈ places, c.isDigit = true := by simp [hplaces]
  have hgather : gather 1 places = (17976931348623157, []) := by
    rw [hplaces]
    decide +kernel
  have hlength : places.length = 16 := by rw [hplaces]; rfl
  have hfloat : ∃ x, float negative 17976931348623157 292 = .ok (.float x) := by
    have hsome : (Decimal.Double.ofScientific? negative 17976931348623157 292).isSome = true := by
      cases negative <;> decide +kernel
    obtain ⟨x, hx⟩ := Option.isSome_iff_exists.mp hsome
    exact ⟨x, by rw [float, hx]⟩
  have hwhole : IsDigits ['1'] := isDigits_ofNat 1
  have hone : Decimal.value ['1'] = 1 := rfl
  obtain ⟨x, hx⟩ := hfloat
  refine ⟨x, ?_⟩
  have hsplit : ['1'] ++ '.' :: (places ++ 'e' :: exponentText 308) ++ rest =
      ['1'] ++ '.' :: (places ++ 'e' :: (exponentText 308 ++ rest)) := by simp
  rw [htext, hsplit, unsignedNumber_append hwhole (by decide) (Decimal.endsDigits_cons rfl),
    afterWhole, hone, fractionPart_append hdigits (List.ne_nil_of_length_pos (by omega))
      (Decimal.endsDigits_cons rfl), hgather, afterDigits_exponentText 308 hrest, hlength,
    if_neg (by decide), List.length_nil,
    show (0 : Int) - ((16 - 0 : Nat) : Int) + 308 = 292 from rfl, hx]
  rfl

/-- A double that is written is read as a double. -/
theorem exists_unsignedNumber_magnitude {bits : Nat} (hfinite : bits < Decimal.infinityBits)
    (hrest : EndsValue rest) :
    ∃ x, unsignedNumber negative (magnitudeText bits ++ rest) = .ok (.float x, rest) := by
  rcases Nat.eq_zero_or_pos bits with rfl | hpos
  · change ∃ x, unsignedNumber negative (ofNat 0 ++ '.' :: (['0'] ++ rest)) = _
    refine exists_unsignedNumber_point (isDigits_ofNat 0) (by decide) (by simp)
      (List.cons_ne_nil _ _) ?_ hrest
    rw [show Decimal.value (ofNat 0 ++ ['0']) = 0 from rfl, Nat.cast_zero, zero_mul]
    exact Nat.cast_nonneg _
  by_cases hlargest : bits + 1 < Decimal.infinityBits
  · rw [magnitudeText, if_neg hpos.ne']
    exact exists_unsignedNumber_scientific (Decimal.digits_written_pos hpos)
      (Decimal.size_written_le_readable hlargest) hrest
  · obtain rfl : bits = Decimal.infinityBits - 1 := by omega
    exact exists_unsignedNumber_largest hrest

end RetrySafe.Json
