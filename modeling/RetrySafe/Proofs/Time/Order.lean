import Mathlib.Algebra.Group.Nat.Defs
import RetrySafe.Time.Rfc3339

/-!
# The order of times

Times that are written with six digits of a second are ordered as texts as they are in time, as long
as their years have four digits. Texts of one width compare by their first different field; a field
is a number with zeros in front. Dates compare by their days, because the years of the calendar, its
months and their days follow each other without a gap.

## Main definitions

* `Clock.Precedes` — a clock comes from another one by readings.
* `Instant.HasPlainYear` — the year has four digits.

## Main results

* `padded_lt_padded`, `padded_append_lt_iff` — numbers of one width.
* `Date.ofDays_lt` — the dates of two days.
* `Instant.micros_lt_micros_iff`, `Instant.not_micros_lt_micros` — times as texts.
-/

namespace RetrySafe.Time

open RetrySafe.Decimal (padded ofNat value)

/-! ## Texts of one width -/

section Texts

variable {l l' s s' : List Char} {w m n : Nat}

/-- What starts with texts of one width compares by these first. -/
theorem append_lt_append_iff (hlength : l.length = l'.length) :
    l ++ s < l' ++ s' ↔ l < l' ∨ l = l' ∧ s < s' := by
  -- By induction on the first text; the second one has as many characters.
  induction l generalizing l' with
  | nil =>
    obtain rfl := List.length_eq_zero_iff.mp hlength.symm
    simp
  | cons c l ih =>
    match l' with
    | c' :: l' =>
      have hlength' : l.length = l'.length := by simpa using hlength
      have hrest := ih hlength'
      simp only [List.cons_append, List.cons_lt_cons_iff, hrest, List.cons.injEq]
      constructor
      · rintro (hc | ⟨rfl, hl | ⟨rfl, hs⟩⟩)
        · exact .inl (.inl hc)
        · exact .inl (.inr ⟨rfl, hl⟩)
        · exact .inr ⟨⟨rfl, rfl⟩, hs⟩
      · rintro ((hc | ⟨rfl, hl⟩) | ⟨⟨rfl, rfl⟩, hs⟩)
        · exact .inl hc
        · exact .inr ⟨rfl, .inl hl⟩
        · exact .inr ⟨rfl, .inr ⟨rfl, hs⟩⟩

theorem length_padded (hw : 0 < w) (hn : n < 10 ^ w) : (padded w n).length = w := by
  have hlength : (ofNat n).length ≤ w := (Nat.length_toDigits_le_iff (by decide) hw).mpr hn
  rw [padded, List.length_append, List.length_replicate, Nat.sub_add_cancel hlength]

theorem isDigit_of_mem_padded {c : Char} (hc : c ∈ padded w n) : c.isDigit := by
  rcases List.mem_append.mp hc with hzero | hdigit
  · rw [List.eq_of_mem_replicate hzero]
    decide
  · exact Nat.isDigit_of_mem_toDigits (by decide) (by decide) hdigit

/-- The last digit of a padded number. -/
theorem padded_succ (hw : 0 < w) (n : Nat) :
    padded (w + 1) n = padded w (n / 10) ++ [Nat.digitChar (n % 10)] := by
  by_cases hn : n < 10
  · rw [Nat.div_eq_of_lt hn, Nat.mod_eq_of_lt hn]
    simp only [padded, ofNat, Nat.toDigits_of_lt_base hn, Nat.toDigits_zero, List.length_singleton]
    obtain ⟨k, rfl⟩ : ∃ k, w = k + 1 := ⟨w - 1, by omega⟩
    simp [List.replicate_succ']
  · have hdigits : ofNat n = ofNat (n / 10) ++ [Nat.digitChar (n % 10)] :=
      Nat.toDigits_of_base_le (by decide) (by omega)
    rw [padded, padded, hdigits, List.length_append, List.length_singleton, Nat.add_sub_add_right,
      List.append_assoc]

theorem digitChar_lt_digitChar (hm : m < n) (hn : n < 10) :
    Nat.digitChar m < Nat.digitChar n := by
  have hall : ∀ n < 10, ∀ m < n, Nat.digitChar m < Nat.digitChar n := by decide
  exact hall n hn m hm

theorem padded_lt_padded (hn : n < 10 ^ (w + 1)) (hmn : m < n) :
    padded (w + 1) m < padded (w + 1) n := by
  -- By induction on the width: without their last digits the numbers are in order, or equal.
  induction w generalizing m n with
  | zero =>
    have hsmall (k : Nat) (hk : k < 10) : padded 1 k = [Nat.digitChar k] := by
      simp [padded, ofNat, Nat.toDigits_of_lt_base hk]
    rw [hsmall m (by omega), hsmall n (by omega), List.cons_lt_cons_iff]
    exact .inl (digitChar_lt_digitChar hmn (by omega))
  | succ w ih =>
    have hn' : n / 10 < 10 ^ (w + 1) := by rw [Nat.pow_succ] at hn; omega
    have hlength : (padded (w + 1) (m / 10)).length = (padded (w + 1) (n / 10)).length := by
      rw [length_padded (Nat.succ_pos w) (by omega), length_padded (Nat.succ_pos w) hn']
    rw [padded_succ (Nat.succ_pos w), padded_succ (Nat.succ_pos w), append_lt_append_iff hlength]
    by_cases htens : m / 10 < n / 10
    · exact .inl (ih hn' htens)
    · have htens' : m / 10 = n / 10 := by omega
      refine .inr ⟨by rw [htens'], ?_⟩
      rw [List.cons_lt_cons_iff]
      exact .inl (digitChar_lt_digitChar (by omega) (Nat.mod_lt n (by decide)))

/-- Fields of one width compare as numbers, and what follows counts where they are equal. -/
theorem padded_append_lt_iff (hm : m < 10 ^ (w + 1)) (hn : n < 10 ^ (w + 1)) :
    padded (w + 1) m ++ s < padded (w + 1) n ++ s' ↔ m < n ∨ m = n ∧ s < s' := by
  have hlength : (padded (w + 1) m).length = (padded (w + 1) n).length := by
    rw [length_padded (Nat.succ_pos w) hm, length_padded (Nat.succ_pos w) hn]
  rw [append_lt_append_iff hlength]
  rcases Nat.lt_trichotomy m n with h | rfl | h
  · simp [h, padded_lt_padded hn h]
  · simp only [List.lt_irrefl, Nat.lt_irrefl, true_and, false_or]
  · have hlt := padded_lt_padded hm h
    have hnot : ¬padded (w + 1) m < padded (w + 1) n := List.lt_asymm hlt
    have hne : padded (w + 1) m ≠ padded (w + 1) n := fun heq => List.lt_irrefl _ (heq ▸ hlt)
    simp [hnot, hne, Nat.lt_asymm h, Nat.ne_of_gt h]

end Texts

/-! ## Dates -/

namespace Date

/-- The days before a year that is counted from March. -/
def yearStart (year : Int) : Int := 365 * year + year / 4 - year / 100 + year / 400

/-- The days of a year before a month; both are counted from March. -/
def monthStart (month : Int) : Int := (153 * month + 2) / 5

theorem yearStart_mono {y z : Int} (h : y ≤ z) : yearStart y ≤ yearStart z := by
  unfold yearStart
  omega

theorem monthStart_mono {m n : Int} (h : m ≤ n) : monthStart m ≤ monthStart n := by
  unfold monthStart
  omega

/-- A day of an era, by its century, its four years, its year and its day. -/
theorem dayOfEra_parts {doe : Int} (hdoe : 0 ≤ doe) (hdoe' : doe < 146097) :
    ∃ century four year day : Int, doe = 36524 * century + 1461 * four + 365 * year + day ∧
      (0 ≤ century ∧ century ≤ 3) ∧ (0 ≤ four ∧ four ≤ 24) ∧ (0 ≤ year ∧ year ≤ 3) ∧
      (0 ≤ day ∧ day ≤ 365) ∧ (day = 365 → year = 3 ∧ (four = 24 → century = 3)) := by
  -- The last century, and the last year of four, are one day longer than the others.
  obtain ⟨century, hcentury⟩ : ∃ century, century = min 3 (doe / 36524) := ⟨_, rfl⟩
  obtain ⟨four, hfour⟩ : ∃ four, four = (doe - 36524 * century) / 1461 := ⟨_, rfl⟩
  obtain ⟨year, hyear⟩ : ∃ year, year = min 3 ((doe - 36524 * century - 1461 * four) / 365) :=
    ⟨_, rfl⟩
  refine ⟨century, four, year, doe - 36524 * century - 1461 * four - 365 * year, ?_, ?_, ?_, ?_, ?_,
    ?_⟩ <;> omega

/-- The year of a day of an era. -/
theorem yearOfEra_eq {doe century four year day : Int}
    (hdoe : doe = 36524 * century + 1461 * four + 365 * year + day)
    (hcentury : 0 ≤ century ∧ century ≤ 3) (hfour : 0 ≤ four ∧ four ≤ 24)
    (hyear : 0 ≤ year ∧ year ≤ 3) (hday : 0 ≤ day ∧ day ≤ 365)
    (hleap : day = 365 → year = 3 ∧ (four = 24 → century = 3)) :
    (doe - doe / 1460 + doe / 36524 - doe / 146096) / 365 = 100 * century + 4 * four + year := by
  -- Each of the three divisions corrects for the leap days of one kind.
  have hlast : doe / 146096 = if doe = 146096 then 1 else 0 := by split <;> omega
  have hcenturies : doe / 36524 = if doe = 146096 then century + 1 else century := by
    split <;> omega
  have hfours : doe / 1460 =
      25 * century + four + (24 * century + four + 365 * year + day) / 1460 := by omega
  have hshift : (24 * century + four + 365 * year + day) / 1460 =
      if 1460 ≤ 24 * century + four + 365 * year + day then 1 else 0 := by split <;> omega
  rw [hlast, hcenturies, hfours, hshift]
  split <;> split <;> omega

theorem yearStart_add_eras (year era : Int) :
    yearStart (year + era * 400) = era * 146097 + yearStart year := by
  unfold yearStart
  omega

/-- The day of the year, and that the year has so many days. -/
theorem dayOfYear_eq {doe century four year day : Int}
    (hdoe : doe = 36524 * century + 1461 * four + 365 * year + day)
    (hcentury : 0 ≤ century ∧ century ≤ 3) (hfour : 0 ≤ four ∧ four ≤ 24)
    (hyear : 0 ≤ year ∧ year ≤ 3) (hday : 0 ≤ day ∧ day ≤ 365)
    (hleap : day = 365 → year = 3 ∧ (four = 24 → century = 3)) :
    doe = yearStart (100 * century + 4 * four + year) + day ∧
      doe < yearStart (100 * century + 4 * four + year + 1) := by
  -- With the year in its three parts, each division of it is one of the parts, and of the next year
  -- at most one more.
  have hfours : (100 * century + 4 * four + year) / 4 = 25 * century + four := by omega
  have hhundreds : (100 * century + 4 * four + year) / 100 = century := by omega
  have heras : (100 * century + 4 * four + year) / 400 = 0 := by omega
  have hfours' : (100 * century + 4 * four + year + 1) / 4 =
      25 * century + four + if year = 3 then 1 else 0 := by split <;> omega
  have hhundreds' : (100 * century + 4 * four + year + 1) / 100 =
      century + if four = 24 ∧ year = 3 then 1 else 0 := by split <;> omega
  have heras' : (100 * century + 4 * four + year + 1) / 400 =
      if century = 3 ∧ four = 24 ∧ year = 3 then 1 else 0 := by split <;> omega
  unfold yearStart
  rw [hfours, hhundreds, heras, hfours', hhundreds', heras']
  refine ⟨by omega, ?_⟩
  split <;> split <;> split <;> omega

/-- The year and the day of the year of a day of an era. -/
theorem dayOfEra_year {doe : Int} (hdoe : 0 ≤ doe) (hdoe' : doe < 146097) :
    ∃ year day : Int, (doe - doe / 1460 + doe / 36524 - doe / 146096) / 365 = year ∧
      (0 ≤ year ∧ year < 400) ∧ (0 ≤ day ∧ day ≤ 365) ∧
      doe = yearStart year + day ∧ doe < yearStart (year + 1) := by
  obtain ⟨century, four, year, day, hsplit, hcentury, hfour, hyear, hday, hleap⟩ :=
    dayOfEra_parts hdoe hdoe'
  refine ⟨100 * century + 4 * four + year, day,
    yearOfEra_eq hsplit hcentury hfour hyear hday hleap, ?_, hday,
    dayOfYear_eq hsplit hcentury hfour hyear hday hleap⟩
  clear hsplit hleap
  omega

/-- The date of a day counts years, months and days from March, within their bounds. -/
theorem ofDays_parts (days : Int) :
    ∃ year month day : Int, days + 719468 = yearStart year + monthStart month + day ∧
      days + 719468 < yearStart (year + 1) ∧ (0 ≤ month ∧ month ≤ 11) ∧
      (0 ≤ day ∧ monthStart month + day < monthStart (month + 1)) ∧
      ofDays days =
        ⟨if month < 10 then year else year + 1,
          (if month < 10 then month + 3 else month - 9).toNat, (day + 1).toNat⟩ := by
  -- The eras are split off first, each of four hundred years and as many days as any other.
  obtain ⟨doe, hdoe⟩ : ∃ doe, doe = (days + 719468) % 146097 := ⟨_, rfl⟩
  obtain ⟨era, hera⟩ : ∃ era, era = (days + 719468) / 146097 := ⟨_, rfl⟩
  have hdays : days + 719468 = era * 146097 + doe := by omega
  have hdoe' : 0 ≤ doe ∧ doe < 146097 := by omega
  obtain ⟨year, day, hyear, hbounds, hday, hstart, hnext⟩ := dayOfEra_year hdoe'.1 hdoe'.2
  have hday' : doe - (365 * year + year / 4 - year / 100) = day := by
    rw [hstart, yearStart, Int.ediv_eq_zero_of_lt hbounds.1 hbounds.2]
    omega
  obtain ⟨month, hmonth⟩ : ∃ month, month = (5 * day + 2) / 153 := ⟨_, rfl⟩
  have hdate : ofDays days =
      ⟨if (if month < 10 then month + 3 else month - 9) ≤ 2 then year + era * 400 + 1
        else year + era * 400,
        (if month < 10 then month + 3 else month - 9).toNat,
        (day - (153 * month + 2) / 5 + 1).toNat⟩ := by
    simp only [ofDays, ← hdoe, ← hera, hyear, hday', ← hmonth]
  clear hdoe hera hyear
  refine ⟨year + era * 400, month, day - monthStart month, ?_, ?_, ?_, ?_, ?_⟩
  · rw [yearStart_add_eras]
    omega
  · rw [Int.add_right_comm, yearStart_add_eras]
    omega
  · omega
  · unfold monthStart
    omega
  · rw [hdate]
    -- January and February belong to the year that began in March before them.
    by_cases hautumn : month < 10
    · have hlate : ¬month + 3 ≤ 2 := by omega
      simp only [hautumn, hlate, if_true, if_false, monthStart]
    · have hearly : month - 9 ≤ 2 := by omega
      simp only [hautumn, hearly, if_true, if_false, monthStart]

/-- The date of a later day is later: by its year, or else its month, or else its day. -/
theorem ofDays_lt {a b : Int} (hab : a < b) :
    (ofDays a).year < (ofDays b).year ∨ (ofDays a).year = (ofDays b).year ∧
      ((ofDays a).month < (ofDays b).month ∨ (ofDays a).month = (ofDays b).month ∧
        (ofDays a).day < (ofDays b).day) := by
  obtain ⟨year, month, day, ha, ha', hmonth, hday, hdate⟩ := ofDays_parts a
  obtain ⟨year', month', day', hb, hb', hmonth', hday', hdate'⟩ := ofDays_parts b
  -- A year ends before the next one begins, and so does a month.
  have hyears : year ≤ year' := by
    refine Int.not_lt.mp fun hlt => ?_
    have hmono := yearStart_mono (y := year' + 1) (z := year) (by omega)
    have hstart : 0 ≤ monthStart month := monthStart_mono (m := 0) hmonth.1
    omega
  have hmonths : year = year' → month ≤ month' := by
    rintro rfl
    refine Int.not_lt.mp fun hlt => ?_
    have hmono := monthStart_mono (m := month' + 1) (n := month) (by omega)
    omega
  have hdays : year = year' → month = month' → day < day' := by
    rintro rfl rfl
    omega
  rw [hdate, hdate']
  clear ha ha' hb hb' hdate hdate'
  dsimp only
  split <;> split <;> omega

theorem ofDays_bounds (days : Int) : (ofDays days).month ≤ 12 ∧ (ofDays days).day ≤ 31 := by
  obtain ⟨year, month, day, -, -, hmonth, hday, hdate⟩ := ofDays_parts days
  rw [hdate]
  unfold monthStart at hday
  constructor
  · dsimp only
    split <;> omega
  · dsimp only
    omega

theorem ofDays_year_mono {a b : Int} (hab : a ≤ b) : (ofDays a).year ≤ (ofDays b).year := by
  rcases Int.lt_or_eq_of_le hab with hlt | rfl
  · rcases ofDays_lt hlt with h | ⟨h, -⟩
    · exact Int.le_of_lt h
    · exact Int.le_of_eq h
  · exact Int.le_refl _

end Date

/-! ## Times -/

namespace Instant

variable {a b : Instant}

/-- The year has four digits. -/
def HasPlainYear (t : Instant) : Prop := 0 ≤ t.date.year ∧ t.date.year ≤ 9999

theorem toList_micros {t : Instant} (ht : t.HasPlainYear) :
    t.micros.toList = padded 4 t.date.year.toNat ++ '-' :: (padded 2 t.date.month ++ '-' ::
      (padded 2 t.date.day ++ 'T' :: (padded 2 (t.secondOfDay / 3600) ++ ':' ::
        (padded 2 (t.secondOfDay / 60 % 60) ++ ':' ::
          (padded 2 (t.secondOfDay % 60 + t.nanos / 1000000000) ++ '.' ::
            (padded 6 (t.nanos % 1000000000 / 1000) ++ ['Z'])))))) := by
  simp [micros, Date.text, yearText, clockText, show 0 ≤ t.date.year ∧ t.date.year ≤ 9999 from ht]

/-- Times compare as texts by their fields, one after the other. -/
theorem micros_lt_micros_fields (ha : a.HasPlainYear) (hb : b.HasPlainYear) :
    a.micros < b.micros ↔
      a.date.year.toNat < b.date.year.toNat ∨ a.date.year.toNat = b.date.year.toNat ∧
      (a.date.month < b.date.month ∨ a.date.month = b.date.month ∧
      (a.date.day < b.date.day ∨ a.date.day = b.date.day ∧
      (a.secondOfDay / 3600 < b.secondOfDay / 3600 ∨ a.secondOfDay / 3600 = b.secondOfDay / 3600 ∧
      (a.secondOfDay / 60 % 60 < b.secondOfDay / 60 % 60 ∨
        a.secondOfDay / 60 % 60 = b.secondOfDay / 60 % 60 ∧
      (a.secondOfDay % 60 + a.nanos / 1000000000 < b.secondOfDay % 60 + b.nanos / 1000000000 ∨
        a.secondOfDay % 60 + a.nanos / 1000000000 = b.secondOfDay % 60 + b.nanos / 1000000000 ∧
      a.nanos % 1000000000 / 1000 < b.nanos % 1000000000 / 1000))))) := by
  have hdate (t : Instant) : t.date.month ≤ 12 ∧ t.date.day ≤ 31 := Date.ofDays_bounds _
  have hsecond (t : Instant) : t.secondOfDay < 86400 := by
    unfold secondOfDay
    omega
  have hnanos (t : Instant) : t.nanos < 2000000000 := t.nanos_lt
  rw [String.lt_iff, toList_micros ha, toList_micros hb]
  obtain ⟨ha, ha'⟩ := ha
  obtain ⟨hb, hb'⟩ := hb
  have hda := hdate a
  have hdb := hdate b
  have hsa := hsecond a
  have hsb := hsecond b
  have hna := hnanos a
  have hnb := hnanos b
  rw [padded_append_lt_iff (by omega) (by omega), List.cons_lt_cons_self,
    padded_append_lt_iff (by omega) (by omega), List.cons_lt_cons_self,
    padded_append_lt_iff (by omega) (by omega), List.cons_lt_cons_self,
    padded_append_lt_iff (by omega) (by omega), List.cons_lt_cons_self,
    padded_append_lt_iff (by omega) (by omega), List.cons_lt_cons_self,
    padded_append_lt_iff (by omega) (by omega), List.cons_lt_cons_self,
    padded_append_lt_iff (by omega) (by omega)]
  simp only [List.lt_irrefl, and_false, or_false]

theorem truncated_lt_truncated :
    a.truncated < b.truncated ↔
      a.seconds < b.seconds ∨ a.seconds = b.seconds ∧ a.nanos / 1000 < b.nanos / 1000 := by
  have hnanos (n : Nat) : n - n % 1000 = 1000 * (n / 1000) := by omega
  change a.seconds < b.seconds ∨ a.seconds = b.seconds ∧ a.nanos - a.nanos % 1000 <
    b.nanos - b.nanos % 1000 ↔ _
  rw [hnanos, hnanos, Nat.mul_lt_mul_left (by decide)]

/-- The fields of the clock count the seconds of the day and the microseconds. -/
theorem clock_parts (t : Instant) :
    ∃ hour minute second leap micros : Nat, t.secondOfDay / 3600 = hour ∧
      t.secondOfDay / 60 % 60 = minute ∧ t.secondOfDay % 60 = second ∧
      t.nanos / 1000000000 = leap ∧ t.nanos % 1000000000 / 1000 = micros ∧
      t.seconds = t.seconds / 86400 * 86400 + (3600 * hour + 60 * minute + second) ∧
      t.nanos / 1000 = 1000000 * leap + micros ∧ minute < 60 ∧ second < 60 ∧ micros < 1000000 ∧
      leap ≤ 1 ∧ (leap = 1 → second = 59) := by
  have hnanos := t.nanos_lt
  have hleap := t.leap
  refine ⟨_, _, _, _, _, rfl, rfl, rfl, rfl, rfl, ?_⟩
  unfold secondOfDay
  refine ⟨?_, ?_, ?_, ?_, ?_, ?_, ?_⟩ <;> omega

/-- Inside a day, hours, minutes, seconds and microseconds count up; a leap second is the last one
of its minute. -/
theorem clock_lt_iff (hday : a.seconds / 86400 = b.seconds / 86400) :
    (a.secondOfDay / 3600 < b.secondOfDay / 3600 ∨ a.secondOfDay / 3600 = b.secondOfDay / 3600 ∧
      (a.secondOfDay / 60 % 60 < b.secondOfDay / 60 % 60 ∨
        a.secondOfDay / 60 % 60 = b.secondOfDay / 60 % 60 ∧
      (a.secondOfDay % 60 + a.nanos / 1000000000 < b.secondOfDay % 60 + b.nanos / 1000000000 ∨
        a.secondOfDay % 60 + a.nanos / 1000000000 = b.secondOfDay % 60 + b.nanos / 1000000000 ∧
      a.nanos % 1000000000 / 1000 < b.nanos % 1000000000 / 1000))) ↔
      a.seconds < b.seconds ∨ a.seconds = b.seconds ∧ a.nanos / 1000 < b.nanos / 1000 := by
  obtain ⟨h, m, s, l, u, hh, hm, hs, hl, hu, hseconds, hmicros, hbounds⟩ := clock_parts a
  obtain ⟨h', m', s', l', u', hh', hm', hs', hl', hu', hseconds', hmicros', hbounds'⟩ :=
    clock_parts b
  rw [hh, hm, hs, hl, hu, hmicros, hh', hm', hs', hl', hu', hmicros']
  clear hh hm hs hl hu hmicros hh' hm' hs' hl' hu' hmicros'
  omega

/-- Times of plain years are ordered as texts as they are in time, up to a microsecond. -/
theorem micros_lt_micros_iff (ha : a.HasPlainYear) (hb : b.HasPlainYear) :
    a.micros < b.micros ↔ a.truncated < b.truncated := by
  rw [micros_lt_micros_fields ha hb, truncated_lt_truncated]
  obtain ⟨ha, ha'⟩ := ha
  obtain ⟨hb, hb'⟩ := hb
  -- Two different days are told apart by their dates, and one day by its clock.
  rcases Int.lt_trichotomy (a.seconds / 86400) (b.seconds / 86400) with hday | hday | hday
  · have hdate := Date.ofDays_lt hday
    change a.date.year < b.date.year ∨ a.date.year = b.date.year ∧ (a.date.month < b.date.month ∨
      a.date.month = b.date.month ∧ a.date.day < b.date.day) at hdate
    constructor
    · intro
      exact .inl (by omega)
    · intro
      rcases hdate with h | ⟨h, h' | ⟨h', h''⟩⟩
      · exact .inl (by omega)
      · exact .inr ⟨by rw [h], .inl h'⟩
      · exact .inr ⟨by rw [h], .inr ⟨h', .inl h''⟩⟩
  · have hdate : a.date = b.date := congrArg Date.ofDays hday
    simp only [hdate, Nat.lt_irrefl, false_or, true_and]
    exact clock_lt_iff hday
  · have hdate := Date.ofDays_lt hday
    change b.date.year < a.date.year ∨ b.date.year = a.date.year ∧ (b.date.month < a.date.month ∨
      b.date.month = a.date.month ∧ b.date.day < a.date.day) at hdate
    constructor
    · intro h
      omega
    · intro h
      omega

/-- A time is not later as a text than a later time of a plain year. Before the year 0 the text
starts with a sign, which comes before all digits. -/
theorem not_micros_lt_micros (hab : a ≤ b) (hb : b.HasPlainYear) : ¬b.micros < a.micros := by
  have hseconds : a.seconds < b.seconds ∨ a.seconds = b.seconds ∧ a.nanos ≤ b.nanos := hab
  have hyear : a.date.year ≤ b.date.year := Date.ofDays_year_mono (by omega)
  by_cases hnegative : a.date.year < 0
  · obtain ⟨rest, hrest⟩ : ∃ rest, a.micros.toList = '-' :: rest := by
      have hplain : ¬(0 ≤ a.date.year ∧ a.date.year ≤ 9999) := by omega
      simp [micros, Date.text, yearText, hplain, hnegative]
    obtain ⟨digit, rest', hrest', hdigit⟩ :
        ∃ digit rest', b.micros.toList = digit :: rest' ∧ digit.isDigit := by
      have hlength : (padded 4 b.date.year.toNat).length = 4 :=
        length_padded (by decide) (by have := hb.1; have := hb.2; omega)
      obtain ⟨digit, digits, hdigits⟩ := List.exists_cons_of_length_eq_add_one hlength
      refine ⟨digit, _, by rw [toList_micros hb, hdigits, List.cons_append], ?_⟩
      exact isDigit_of_mem_padded (hdigits ▸ List.mem_cons_self)
    rw [String.lt_iff, hrest, hrest', List.cons_lt_cons_iff]
    rintro (hlt | ⟨rfl, -⟩)
    · have hzero : '0'.toNat ≤ digit.toNat := (Char.isDigit_iff_toNat.mp hdigit).1
      have hsign : digit.toNat < '-'.toNat := Char.lt_def.mp hlt
      exact absurd (Nat.lt_of_le_of_lt hzero hsign) (by decide)
    · exact absurd hdigit (by decide)
  · have ha : a.HasPlainYear := ⟨by omega, Int.le_trans hyear hb.2⟩
    rw [micros_lt_micros_iff hb ha, truncated_lt_truncated]
    omega

end Instant

namespace Clock

/-- The second clock comes from the first one by readings. -/
structure Precedes (earlier later : Clock) : Prop where
  reading : earlier.reading = later.reading
  taken : earlier.taken ≤ later.taken

namespace Precedes

variable {a b c : Clock}

theorem refl (a : Clock) : a.Precedes a := ⟨rfl, Nat.le_refl _⟩

theorem trans (h : a.Precedes b) (h' : b.Precedes c) : a.Precedes c :=
  ⟨h.reading.trans h'.reading, Nat.le_trans h.taken h'.taken⟩

theorem advanced (a : Clock) : a.Precedes a.advanced := ⟨rfl, Nat.le_succ _⟩

end Precedes

end Clock

end RetrySafe.Time
