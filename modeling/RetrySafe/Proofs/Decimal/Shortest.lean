import RetrySafe.Decimal.Shortest
import RetrySafe.Proofs.Decimal.Digits
import RetrySafe.Proofs.Decimal.Scientific

/-!
# The size of a written double

The decimal that stands for a double lies among the reals that round to it, so it does not exceed
the upper end of them. But for the largest double this is never more than what is read.

## Main definitions

* `Scientific.size` — the number that a decimal is.
* `Double.upperEnd` — half way to the next double.

## Main results

* `size_shortest_le` — the shortest decimal does not exceed the upper end.
* `digits_written_pos`, `size_written_le_readable` — the written decimal.
-/

namespace RetrySafe.Decimal

open Double (significandOf exponentOf)

/-- The number that a decimal is. -/
def Scientific.size (d : Scientific) : ℚ := d.digits * 10 ^ d.exponent

/-- Half way from the number of some magnitude bits to the next one. -/
def Double.upperEnd (bits : Nat) : ℚ := (4 * significandOf bits + 2) * 2 ^ (exponentOf bits - 2)

/-- The two ways of writing a power, as a factor and as a divisor. -/
theorem zpow_mul_toNat {b : ℚ} (hb : b ≠ 0) (k : Int) : b ^ k * b ^ (-k).toNat = b ^ k.toNat := by
  rw [← zpow_natCast, ← zpow_natCast, ← zpow_add₀ hb]
  congr 1
  omega

/-- The two sides of a comparison are those that are compared, up to a factor. -/
theorem compareScaled_eq (a : Nat) (i : Int) (n : Nat) (j : Int) :
    ∃ (left right : Nat) (factor : ℚ), 0 < factor ∧ (left : ℚ) = a * 10 ^ i * factor ∧
      (right : ℚ) = n * 2 ^ j * factor ∧ compareScaled a i n j = compare left right := by
  have hten := zpow_mul_toNat (show (10 : ℚ) ≠ 0 by norm_num) i
  have htwo := zpow_mul_toNat (show (2 : ℚ) ≠ 0 by norm_num) j
  refine ⟨_, _, 10 ^ (-i).toNat * 2 ^ (-j).toNat, by positivity, ?_, ?_, rfl⟩
  · rw [Nat.shiftLeft_eq, tenTo, Nat.pow_eq]
    push_cast
    rw [← hten]
    ring
  · rw [Nat.shiftLeft_eq, tenTo, Nat.pow_eq]
    push_cast
    rw [← htwo]
    ring

theorem le_of_compareScaled {a n : Nat} {i j : Int} (h : compareScaled a i n j ≠ .gt) :
    (a : ℚ) * 10 ^ i ≤ n * 2 ^ j := by
  obtain ⟨left, right, factor, hfactor, hleft, hright, heq⟩ := compareScaled_eq a i n j
  rw [heq, Nat.compare_ne_gt] at h
  refine le_of_mul_le_mul_right ?_ hfactor
  rw [← hleft, ← hright]
  exact_mod_cast h

theorem ge_of_compareScaled {a n : Nat} {i j : Int} (h : compareScaled a i n j ≠ .lt) :
    (n : ℚ) * 2 ^ j ≤ a * 10 ^ i := by
  obtain ⟨left, right, factor, hfactor, hleft, hright, heq⟩ := compareScaled_eq a i n j
  rw [heq, Nat.compare_ne_lt] at h
  refine le_of_mul_le_mul_right ?_ hfactor
  rw [← hleft, ← hright]
  exact_mod_cast h

theorem size_le_upperEnd {bits : Nat} {d : Scientific} (h : readsBack bits d = true) :
    d.size ≤ Double.upperEnd bits := by
  unfold readsBack at h
  have habove : compareScaled d.digits d.exponent (4 * significandOf bits + 2)
      (exponentOf bits - 2) ≠ .gt := by
    intro hgt
    simp [hgt] at h
  have hle := le_of_compareScaled habove
  push_cast at hle
  exact hle

theorem significandOf_pos {bits : Nat} (h : 0 < bits) : 0 < significandOf bits := by
  unfold significandOf
  split
  · exact h
  · exact Nat.add_pos_left (by decide) _

theorem size_pos {bits : Nat} {d : Scientific} (hbits : 0 < bits) (h : readsBack bits d = true) :
    0 < d.size := by
  have hsignificand := significandOf_pos hbits
  unfold readsBack at h
  dsimp only at h
  generalize hlow : (if (bits % binade = 0 && 1 < bits / binade) = true then
    4 * significandOf bits - 1 else 4 * significandOf bits - 2) = low at h
  have hlow' : 0 < low := by
    rw [← hlow]
    split <;> omega
  have hbelow : compareScaled d.digits d.exponent low (exponentOf bits - 2) ≠ .lt := by
    intro hlt
    simp [hlt] at h
  have hle := ge_of_compareScaled hbelow
  have hpos : (0 : ℚ) < low * 2 ^ (exponentOf bits - 2) := by positivity
  exact hpos.trans_le hle

/-- What stands on a grid reads back. -/
theorem readsBack_of_onGrid? {bits : Nat} {exponent : Int} {d : Scientific}
    (h : onGrid? bits exponent = some d) : readsBack bits d = true := by
  unfold onGrid? at h
  dsimp only at h
  generalize (significandOf bits * tenTo (-exponent).toNat) <<< (exponentOf bits).toNat = num,
    tenTo exponent.toNat <<< (-exponentOf bits).toNat = den at h
  have hbounds := roundDiv_bounds num den
  split at h
  · rename_i hfloor hceiling
    cases h
    rcases Nat.lt_or_eq_of_le hbounds.1 with hlt | heq
    · rwa [show roundDiv num den = num / den + 1 by omega]
    · rwa [← heq]
  · rename_i hfloor hceiling
    cases h
    exact hfloor
  · rename_i hfloor hceiling
    cases h
    exact hceiling
  · cases h

/-- The shortest decimal reads back, or is the exact value. -/
theorem shortest_cases (bits : Nat) :
    readsBack bits (shortest bits) = true ∨ (shortest bits).size = Double.size bits := by
  unfold shortest
  dsimp only
  split
  · rename_i found hfound
    obtain ⟨n, -, hn⟩ := List.exists_of_findSome?_eq_some hfound
    exact .inl (readsBack_of_onGrid? hn)
  · have htwo := zpow_mul_toNat (show (2 : ℚ) ≠ 0 by norm_num) (exponentOf bits)
    right
    rw [Scientific.size, Double.size, Nat.shiftLeft_eq, zpow_neg, zpow_natCast,
      show (10 : ℚ) = 5 * 2 by norm_num, mul_pow]
    push_cast [Nat.pow_eq]
    rw [← htwo]
    field_simp

theorem size_shortest_pos {bits : Nat} (hbits : 0 < bits) : 0 < (shortest bits).size := by
  rcases shortest_cases bits with hreads | hexact
  · exact size_pos hbits hreads
  · have hsignificand := significandOf_pos hbits
    rw [hexact, Double.size]
    positivity

theorem size_shortest_le (bits : Nat) : (shortest bits).size ≤ Double.upperEnd bits := by
  rcases shortest_cases bits with hreads | hexact
  · exact size_le_upperEnd hreads
  · rw [hexact, Double.size, Double.upperEnd, zpow_sub₀ two_ne_zero]
    have hpos : (0 : ℚ) < 2 ^ exponentOf bits := by positivity
    rw [show (2 : ℚ) ^ (2 : Int) = 4 by norm_num]
    have hsignificand : (0 : ℚ) ≤ significandOf bits := Nat.cast_nonneg _
    field_simp
    linarith

theorem size_stripZeros (steps : Nat) (d : Scientific) : (stripZeros steps d).size = d.size := by
  induction steps generalizing d with
  | zero => rfl
  | succ steps ih =>
    unfold stripZeros
    split
    · rename_i hzero
      rw [ih, Scientific.size, Scientific.size, zpow_add_one₀ (by norm_num)]
      have hdigits : d.digits = d.digits / 10 * 10 := by omega
      have hcast : (d.digits : ℚ) = (d.digits / 10 : Nat) * 10 := by exact_mod_cast hdigits
      rw [hcast]
      ring
    · rfl

/-- But for the largest double, the upper end is read. -/
theorem upperEnd_le_readable {bits : Nat} (h : bits + 1 < infinityBits) :
    Double.upperEnd bits ≤ readable := by
  have hbits := Nat.div_add_mod bits binade
  have hlt : bits % binade < binade := Nat.mod_lt _ (by decide)
  have hreadable : readable = 36028797018963962 * 2 ^ 969 := by decide +kernel
  have hreadable' : (readable : ℚ) = 36028797018963962 * 2 ^ (969 : Int) := by
    have hcast (k : Nat) :
        ((36028797018963962 * 2 ^ k : Nat) : ℚ) = 36028797018963962 * 2 ^ (k : Int) := by
      rw [zpow_natCast]
      push_cast
      rfl
    rw [hreadable, hcast, Nat.cast_ofNat]
  unfold Double.upperEnd significandOf exponentOf
  generalize bits / binade = field at hbits ⊢
  generalize bits % binade = rest at hbits hlt ⊢
  unfold infinityBits at h
  unfold binade at h hbits hlt ⊢
  rw [hreadable']
  by_cases hlast : field = 2046
  · -- In the last field there are two doubles at least above this one.
    subst hlast
    have hrest : rest ≤ 4503599627370494 := by omega
    have hrest' : (rest : ℚ) ≤ 4503599627370494 := by exact_mod_cast hrest
    rw [if_neg (by decide), show ((max 2046 1 : Nat) : Int) - 1075 - 2 = 969 by decide]
    refine mul_le_mul_of_nonneg_right ?_ (by positivity)
    push_cast
    linarith
  · have hplace : ((max field 1 : Nat) : Int) - 1075 - 2 ≤ 968 := by omega
    have hsignificand : (if field = 0 then bits else 4503599627370496 + rest) ≤
        9007199254740991 := by
      split <;> omega
    have hsignificand' : ((if field = 0 then bits else 4503599627370496 + rest : Nat) : ℚ) ≤
        9007199254740991 := by exact_mod_cast hsignificand
    calc _ ≤ (4 * 9007199254740991 + 2 : ℚ) * 2 ^ (968 : Int) := by
          refine mul_le_mul (by linarith) (zpow_le_zpow_right₀ one_le_two hplace) (by positivity)
            (by norm_num)
      _ ≤ 36028797018963962 * 2 ^ ((968 : Int) + 1) := by
        rw [zpow_add_one₀ two_ne_zero]
        have hpos : (0 : ℚ) < 2 ^ (968 : Int) := by positivity
        generalize (2 : ℚ) ^ (968 : Int) = place at hpos ⊢
        linarith

/-- The written decimal is not zero. -/
theorem digits_written_pos {bits : Nat} (hbits : 0 < bits) :
    0 < (stripZeros 20 (shortest bits)).digits := by
  have hpos := size_shortest_pos hbits
  rw [← size_stripZeros 20, Scientific.size] at hpos
  by_contra hzero
  rw [Nat.eq_zero_of_not_pos hzero, Nat.cast_zero, zero_mul] at hpos
  exact lt_irrefl _ hpos

/-- But for the largest double, the written decimal is read. -/
theorem size_written_le_readable {bits : Nat} (h : bits + 1 < infinityBits) :
    (stripZeros 20 (shortest bits)).size ≤ readable := by
  rw [size_stripZeros]
  exact (size_shortest_le bits).trans (upperEnd_le_readable h)

end RetrySafe.Decimal
