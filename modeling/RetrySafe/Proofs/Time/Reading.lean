import RetrySafe.Proofs.Decimal.Digits
import RetrySafe.Proofs.Time.Order

/-!
# Reading times back

A time that is written with six digits of a second, in a year of four digits, is read back without
what is below a microsecond; a leap second stays one.

## Main results

* `Date.toDays_ofDays`, `Date.isValid_ofDays` — the date of a day.
* `readStrict_micros` — a time that was written.
-/

namespace RetrySafe.Time

open RetrySafe.Decimal (padded value takeDigits EndsDigits)

/-! ## Dates -/

namespace Date

theorem toDays_ofDays (days : Int) : (ofDays days).toDays = days := by
  obtain ⟨year, month, day, hdays, -, hmonth, hday, hdate⟩ := ofDays_parts days
  -- Years are counted from March again, in eras of four hundred.
  have heras := yearStart_add_eras (year % 400) (year / 400)
  have hyear : year % 400 + year / 400 * 400 = year := by omega
  have hera : yearStart (year % 400) =
      year % 400 * 365 + year % 400 / 4 - year % 400 / 100 := by
    unfold yearStart
    omega
  rw [hyear, hera] at heras
  have hmarch : ((((if month < 10 then month + 3 else month - 9).toNat : Nat) : Int) + 9) % 12 =
      month := by split <;> omega
  have hshown : (if (if month < 10 then month + 3 else month - 9).toNat ≤ 2 then
      (if month < 10 then year else year + 1) - 1 else if month < 10 then year else year + 1) =
        year := by split <;> split <;> omega
  have hday' : (((day + 1).toNat : Nat) : Int) = day + 1 := by omega
  simp only [hdate, toDays, hmarch, hshown, hday']
  change year / 400 * 146097 + (year % 400 * 365 + year % 400 / 4 - year % 400 / 100 +
    (monthStart month + (day + 1) - 1)) - 719468 = days
  omega

theorem isValid_ofDays (days : Int) : (ofDays days).IsValid := by
  obtain ⟨year, month, day, hdays, hnext, hmonth, hday, hdate⟩ := ofDays_parts days
  have hlength : yearStart (year + 1) = yearStart year + if isLeapYear (year + 1) then 366 else 365 := by
    unfold yearStart isLeapYear
    simp only [Bool.and_eq_true, Bool.or_eq_true, decide_eq_true_eq]
    split <;> omega
  rw [hdate]
  unfold IsValid daysInMonth
  dsimp only
  by_cases hfebruary : month = 11
  · subst hfebruary
    unfold monthStart at hdays hday
    simp only [show ¬(11 : Int) < 10 by decide, if_false, show ((11 : Int) - 9).toNat = 2 by decide,
      if_true]
    refine ⟨by decide, by decide, by omega, ?_⟩
    cases hleap : isLeapYear (year + 1) with
    | true =>
      rw [hleap, if_pos rfl] at hlength
      rw [if_pos rfl]
      omega
    | false =>
      rw [hleap, if_neg Bool.false_ne_true] at hlength
      rw [if_neg Bool.false_ne_true]
      omega
  · have hother : (if month < 10 then month + 3 else month - 9).toNat ≠ 2 := by split <;> omega
    unfold monthStart at hday
    rw [if_neg hother]
    by_cases hautumn : month < 10
    · simp only [hautumn, if_true]
      refine ⟨by omega, by omega, by omega, ?_⟩
      split <;> omega
    · simp only [hautumn, if_false]
      refine ⟨by omega, by omega, by omega, ?_⟩
      split <;> omega

end Date

/-! ## Fields -/

theorem exactDigits_padded {width n : Nat} (hwidth : 0 < width) (hn : n < 10 ^ width)
    (rest : List Char) : exactDigits width (padded width n ++ rest) = .ok (n, rest) := by
  have hlength := length_padded hwidth hn
  have htake : takeDigits width (padded width n ++ rest) = (padded width n, rest) :=
    Decimal.takeDigits_append (fun c hc => isDigit_of_mem_padded hc) (Nat.le_of_eq hlength)
      (.inl hlength)
  simp [exactDigits, htake, hlength, Decimal.value_padded]

/-- Microseconds before the letter of an offset of zero. -/
theorem fraction_padded {n : Nat} (hn : n < 10 ^ 6) :
    fraction ('.' :: (padded 6 n ++ ['Z'])) = .ok (n * 1000, ['Z']) := by
  have hlength := length_padded (w := 6) (by decide) hn
  have htake : takeDigits 9 (padded 6 n ++ ['Z']) = (padded 6 n, ['Z']) :=
    Decimal.takeDigits_append (fun c hc => isDigit_of_mem_padded hc) (by omega)
      (.inr (Decimal.endsDigits_cons rfl))
  have hsome : padded 6 n ≠ [] := List.ne_nil_of_length_eq_add_one hlength
  simp [fraction, htake, hlength, hsome, Decimal.value_padded]

/-- A text has at least as many bytes as characters. -/
theorem length_le_utf8ByteSize (text : String) : text.toList.length ≤ text.utf8ByteSize := by
  obtain ⟨cs, rfl⟩ : ∃ cs, text = String.ofList cs := ⟨text.toList, String.ofList_toList.symm⟩
  rw [String.toList_ofList]
  induction cs with
  | nil => exact Nat.zero_le _
  | cons c cs ih =>
    have hc := c.utf8Size_pos
    rw [String.ofList_cons, String.utf8ByteSize_append, String.utf8ByteSize_singleton,
      List.length_cons]
    omega

theorem bind_read {α β : Type} {reader : Reader α} {next : α → Reader β} {cs rest : List Char}
    {a : α} (h : reader cs = .ok (a, rest)) : (reader >>= next) cs = next a rest := by
  simp [bind, StateT.bind, Except.bind, h]

theorem oneOf_cons {choices : List Char} {c : Char} (h : choices.contains c = true)
    (rest : List Char) : oneOf choices (c :: rest) = .ok ((), rest) := if_pos h

theorem require_read {condition : Bool} {fault : Fault} (h : condition = true) (cs : List Char) :
    (liftM (require condition fault) : Reader Unit) cs = .ok ((), cs) := by
  rw [h]
  rfl

/-! ## Times -/

namespace Instant

theorem hasPlainYear_inCalendar {t : Instant} (ht : t.HasPlainYear) : t.InCalendar := by
  obtain ⟨hlow, hhigh⟩ := ht
  constructor <;> omega

/-- The fields of a time make it up again, up to a microsecond. -/
theorem assemble_fields {t : Instant} (ht : t.HasPlainYear) :
    assemble t.date (t.secondOfDay / 3600) (t.secondOfDay / 60 % 60)
      (t.secondOfDay % 60 + t.nanos / 1000000000) (t.nanos % 1000000000 / 1000 * 1000) 0 =
        .ok t.truncated := by
  obtain ⟨hour, minute, second, leap, micros, hhour, hminute, hsecond, hleap, hmicros, hseconds,
    hnanos, -, hlt, -, hle, hlast⟩ := clock_parts t
  rw [hhour, hminute, hsecond, hleap, hmicros]
  -- A leap second is read as second 60, and counts as the second before it.
  have hwhole : t.date.toDays * 86400 +
      ((hour * 3600 + minute * 60 + min (second + leap) 59 : Nat) : Int) - 0 = t.seconds := by
    rw [date, Date.toDays_ofDays]
    omega
  have hpart : (if second + leap = 60 then 1000000000 + micros * 1000 else micros * 1000) =
      t.truncated.nanos := by
    change _ = t.nanos - t.nanos % 1000
    split <;> omega
  have hof : of? t.seconds t.truncated.nanos = some t.truncated :=
    dif_pos ⟨t.truncated.nanos_lt, t.truncated.leap⟩
  have hcalendar : t.truncated.InCalendar := hasPlainYear_inCalendar ht
  unfold assemble
  simp only [hwhole, hpart, hof]
  simp [require, hcalendar, bind, Except.bind, pure, Except.pure]

/-- The fields of a written time are below the powers of ten of their widths. -/
theorem fields_lt {t : Instant} (ht : t.HasPlainYear) :
    t.date.year.toNat < 10 ^ 4 ∧ t.date.month < 10 ^ 2 ∧ t.date.day < 10 ^ 2 ∧
      t.secondOfDay / 3600 ≤ 23 ∧ t.secondOfDay / 60 % 60 ≤ 59 ∧
      t.secondOfDay % 60 + t.nanos / 1000000000 ≤ 60 ∧ t.nanos % 1000000000 / 1000 < 10 ^ 6 := by
  obtain ⟨hnonneg, hyear⟩ := ht
  have hbounds : t.date.month ≤ 12 ∧ t.date.day ≤ 31 := Date.ofDays_bounds _
  have hsecond : t.secondOfDay < 86400 := by unfold secondOfDay; omega
  have hnanos := t.nanos_lt
  refine ⟨?_, ?_, ?_, ?_, ?_, ?_, ?_⟩ <;> omega

/-- The fields of a written time stand one after the other. -/
theorem strict_micros {t : Instant} (ht : t.HasPlainYear) :
    strict t.micros.toList = .ok (t.truncated, []) := by
  have hyear : (t.date.year.toNat : Int) = t.date.year := Int.toNat_of_nonneg ht.1
  have hvalid : t.date.IsValid := Date.isValid_ofDays _
  obtain ⟨hyear', hmonth, hday, hhour, hminute, hsecond, hmicros⟩ := fields_lt ht
  rw [toList_micros ht, strict,
    bind_read (exactDigits_padded (by decide) hyear' _), bind_read (oneOf_cons (by decide) _),
    bind_read (exactDigits_padded (by decide) hmonth _), bind_read (oneOf_cons (by decide) _),
    bind_read (exactDigits_padded (by decide) hday _), hyear,
    bind_read (require_read (decide_eq_true hvalid) _), bind_read (oneOf_cons (by decide) _),
    bind_read (exactDigits_padded (by decide) (by omega) _), bind_read (oneOf_cons (by decide) _),
    bind_read (exactDigits_padded (by decide) (by omega) _), bind_read (oneOf_cons (by decide) _),
    bind_read (exactDigits_padded (by decide) (by omega) _), bind_read (fraction_padded hmicros),
    bind_read (require_read (decide_eq_true ⟨hhour, hminute, hsecond⟩) _),
    bind_read (show strictOffset ['Z'] = .ok (0, []) from rfl),
    bind_read (show (liftM (checkOffset 0) : Reader Unit) [] = .ok ((), []) from rfl),
    bind_read (show (get : Reader (List Char)) [] = .ok ([], []) from rfl),
    bind_read (require_read List.isEmpty_nil _)]
  change (liftM (assemble t.date _ _ _ _ 0) : Reader Instant) [] = _
  rw [assemble_fields ht]
  rfl

theorem le_utf8ByteSize_micros {t : Instant} (ht : t.HasPlainYear) :
    19 ≤ t.micros.utf8ByteSize := by
  obtain ⟨hyear, hmonth, -, -, -, -, hmicros⟩ := fields_lt ht
  have hyears := length_padded (by decide) hyear
  have hmonths := length_padded (by decide) hmonth
  have hparts := length_padded (by decide) hmicros
  refine Nat.le_trans ?_ (length_le_utf8ByteSize _)
  simp only [toList_micros ht, List.length_append, List.length_cons]
  omega

/-- A time that was written. -/
theorem readStrict_micros {t : Instant} (ht : t.HasPlainYear) :
    readStrict t.micros = .ok t.truncated := by
  rw [readStrict, decide_eq_true (le_utf8ByteSize_micros ht), require, if_pos rfl, StateT.run',
    strict_micros ht]
  rfl

/-- Nothing more is cut off a second time. -/
theorem truncated_truncated (t : Instant) : t.truncated.truncated = t.truncated := by
  have hnanos : t.nanos - t.nanos % 1000 - (t.nanos - t.nanos % 1000) % 1000 =
      t.nanos - t.nanos % 1000 := by omega
  simp only [truncated, hnanos]

end Instant

end RetrySafe.Time
