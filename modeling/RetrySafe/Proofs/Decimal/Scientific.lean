import RetrySafe.Proofs.Decimal.Rounding

/-!
# Scaling by powers of ten

A decimal is read in two roundings, one of its significand and one after scaling by a power of ten.
The result is a double wherever the decimal stays below the number half way between the two largest
doubles: for each power of ten the largest significand that is possible is tried, and of smaller
ones the result is smaller.

## Main definitions

* `readable` — the number half way between the two largest doubles.

## Main results

* `Double.ofScientific?_isSome` — what does not exceed it is read.
-/

namespace RetrySafe.Decimal

/-- The number half way between the two largest doubles. -/
def readable : Nat := 2 ^ 1024 - 3 * 2 ^ 970

namespace Double

variable {bits power : Nat}

/-! ## Powers of ten -/

/-- The bits of one. -/
def oneBits : Nat := 1023 * binade

/-- The bits of `2 ^ 64`. -/
def wordBits : Nat := (1023 + 64) * binade

theorem tenTo_mono {k : Nat} (h : power ≤ k) : tenTo power ≤ tenTo k :=
  Nat.pow_le_pow_right (by decide) h

/-- A power of ten has a nearest double, which is one or more. -/
theorem nearest?_tenTo (hpower : power ≤ 308) :
    ∃ ten, nearest? (tenTo power) 1 = some ten ∧ oneBits ≤ ten := by
  have hlargest : nearest? (tenTo 308) 1 = some 0x7FE1CCF385EBC8A0 := by decide +kernel
  have hsmallest : nearest? 1 1 = some oneBits := by decide +kernel
  have hle : (tenTo power : ℚ) / (1 : Nat) ≤ tenTo 308 / (1 : Nat) := by
    have hpow := tenTo_mono hpower
    gcongr
  have hge : ((1 : Nat) : ℚ) / (1 : Nat) ≤ tenTo power / (1 : Nat) := by
    have hpow : 1 ≤ tenTo power := Nat.one_le_pow _ _ (by decide)
    gcongr
  obtain ⟨ten, -, hten⟩ := nearest?_mono Nat.one_pos Nat.one_pos hle hlargest
  obtain ⟨one, hone, hone'⟩ := nearest?_mono Nat.one_pos Nat.one_pos hge hten
  rw [hsmallest] at hone'
  cases hone'
  exact ⟨ten, hten, hone⟩

/-! ## Scaling -/

/-- Scaling up multiplies. -/
theorem scale?_up (bits : Nat) {ten : Nat} (hten : nearest? (tenTo power) 1 = some ten) :
    ∃ num den : Nat, 0 < den ∧ (num : ℚ) / den = size bits * size ten ∧
      scale? bits power true = nearest? num den := by
  refine ⟨_, _, shiftLeft_pos Nat.one_pos _, ?_, by rw [scale?, hten]; rfl⟩
  have hshift := shiftLeft_div_shiftLeft (significandOf bits * significandOf ten) 1
    (-(exponentOf bits + exponentOf ten))
  rw [neg_neg] at hshift
  rw [hshift, size, size, zpow_add₀ two_ne_zero]
  push_cast
  ring

/-- Scaling down divides. -/
theorem scale?_down (bits : Nat) {ten : Nat} (hten : nearest? (tenTo power) 1 = some ten)
    (hone : oneBits ≤ ten) :
    ∃ num den : Nat, 0 < den ∧ (num : ℚ) / den = size bits / size ten ∧
      scale? bits power false = nearest? num den := by
  have hpos : 0 < significandOf ten := by
    unfold significandOf
    split
    · exact Nat.lt_of_lt_of_le (by decide) hone
    · exact Nat.add_pos_left (by decide) _
  refine ⟨_, _, shiftLeft_pos hpos _, ?_, by rw [scale?, hten]; rfl⟩
  have hshift := shiftLeft_div_shiftLeft (significandOf bits) (significandOf ten)
    (exponentOf ten - exponentOf bits)
  rw [neg_sub] at hshift
  have hpos' : (0 : ℚ) < significandOf ten := Nat.cast_pos.mpr hpos
  rw [hshift, size, size, zpow_sub₀ two_ne_zero]
  field_simp

/-- Scaled down, a number below `2 ^ 64` stays below. -/
theorem scale?_down_le (hbits : bits ≤ wordBits) (hpower : power ≤ 308) :
    ∃ scaled ≤ wordBits, scale? bits power false = some scaled := by
  obtain ⟨ten, hten, hone⟩ := nearest?_tenTo hpower
  obtain ⟨num, den, hden, hratio, hscale⟩ := scale?_down bits hten hone
  have hword : nearest? (2 ^ 64) 1 = some wordBits := by decide +kernel
  have hsize : size wordBits = 2 ^ 64 := by
    unfold size
    rw [show significandOf wordBits = 2 ^ 52 by decide +kernel,
      show exponentOf wordBits = 12 by decide +kernel]
    norm_num
  have hsizeOne : size oneBits = 1 := by
    unfold size
    rw [show significandOf oneBits = 2 ^ 52 by decide +kernel,
      show exponentOf oneBits = -52 by decide +kernel]
    norm_num
  have hle : (num : ℚ) / den ≤ (2 ^ 64 : Nat) / (1 : Nat) := by
    have hbits' := size_mono hbits
    have hten' := size_mono hone
    rw [hsize] at hbits'
    rw [hsizeOne] at hten'
    rw [hratio, div_le_iff₀ (by linarith)]
    push_cast
    nlinarith
  rw [hscale]
  exact nearest?_mono hden Nat.one_pos hle hword

/-- In steps, too. -/
theorem scaleSteps?_down {exponent : Int} (steps : Nat) (hexponent : exponent < 0)
    (hbits : bits ≤ wordBits) : ∃ scaled, scaleSteps? steps bits exponent = some scaled := by
  induction steps generalizing bits exponent with
  | zero => exact ⟨0, rfl⟩
  | succ steps ih =>
    unfold scaleSteps?
    have hdown : decide (0 ≤ exponent) = false := decide_eq_false (by omega)
    split
    · rename_i hsmall
      obtain ⟨scaled, -, hscaled⟩ := scale?_down_le hbits hsmall
      exact ⟨scaled, by rw [hdown, hscaled]⟩
    split
    · exact ⟨0, rfl⟩
    split
    · omega
    · obtain ⟨scaled, hle, hscaled⟩ := scale?_down_le hbits (Nat.le_refl 308)
      rw [hscaled]
      exact ih (by omega) hle

/-! ## Reading -/

/-- The largest significand of 64 bits that a power of ten leaves readable. -/
def largest (power : Nat) : Nat := min (2 ^ 64 - 1) (readable / tenTo power)

theorem largest_scaled (hpower : power ≤ 308) :
    ∃ bits scaled, nearest? (largest power) 1 = some bits ∧ scale? bits power true = some scaled := by
  have hall : ∀ power ∈ List.range 309,
      ((nearest? (largest power) 1).bind (scale? · power true)).isSome = true := by decide +kernel
  have hsome := hall power (List.mem_range.mpr (by omega))
  obtain ⟨scaled, hscaled⟩ := Option.isSome_iff_exists.mp hsome
  obtain ⟨bits, hbits, hscale⟩ := Option.bind_eq_some_iff.mp hscaled
  exact ⟨bits, scaled, hbits, hscale⟩

/-- Scaled up, what does not exceed the largest significand is a double. -/
theorem scale?_up_isSome {significand : Nat} (hpower : power ≤ 308)
    (hle : significand ≤ largest power) (hbits : nearest? significand 1 = some bits) :
    ∃ scaled, scale? bits power true = some scaled := by
  obtain ⟨most, scaled, hmost, hscaled⟩ := largest_scaled hpower
  obtain ⟨ten, hten, -⟩ := nearest?_tenTo hpower
  obtain ⟨num, den, hden, hratio, hscale⟩ := scale?_up bits hten
  obtain ⟨num', den', hden', hratio', hscale'⟩ := scale?_up most hten
  have hless : bits ≤ most := by
    have hwhole : (significand : ℚ) / (1 : Nat) ≤ largest power / (1 : Nat) := by gcongr
    obtain ⟨bits', hle', hbits'⟩ := nearest?_mono Nat.one_pos Nat.one_pos hwhole hmost
    rw [hbits] at hbits'
    cases hbits'
    exact hle'
  have hratios : (num : ℚ) / den ≤ num' / den' := by
    rw [hratio, hratio']
    exact mul_le_mul_of_nonneg_right (size_mono hless) (size_nonneg ten)
  obtain ⟨result, -, hresult⟩ := nearest?_mono hden hden' hratios (hscale' ▸ hscaled)
  exact ⟨result, hscale ▸ hresult⟩

theorem readable_lt : readable < tenTo 309 := by decide +kernel

/-- What does not exceed the number half way between the two largest doubles is read. -/
theorem ofScientific?_isSome {significand : Nat} {exponent : Int} (negative : Bool)
    (hword : significand < 2 ^ 64)
    (hreadable : 0 ≤ exponent → significand * tenTo exponent.toNat ≤ readable) :
    ∃ x, ofScientific? negative significand exponent = some x := by
  obtain ⟨bits, hle, hbits⟩ : ∃ bits ≤ wordBits, nearest? significand 1 = some bits := by
    have hwhole : (significand : ℚ) / (1 : Nat) ≤ (2 ^ 64 : Nat) / (1 : Nat) := by
      gcongr
    have hlargest : nearest? (2 ^ 64) 1 = some wordBits := by decide +kernel
    exact nearest?_mono Nat.one_pos Nat.one_pos hwhole hlargest
  suffices hscaled : ∃ scaled, scaleSteps? (exponent.natAbs / 308 + 1) bits exponent = some scaled by
    obtain ⟨scaled, hscaled⟩ := hscaled
    exact ⟨ofMagnitude negative scaled, by rw [ofScientific?, hbits]; simp [hscaled]⟩
  rcases Int.lt_or_le exponent 0 with hdown | hup
  · exact scaleSteps?_down _ hdown hle
  obtain ⟨power, rfl⟩ := Int.eq_ofNat_of_zero_le hup
  have hproduct := hreadable hup
  rw [Int.toNat_natCast] at hproduct
  unfold scaleSteps?
  rw [Int.natAbs_natCast, decide_eq_true hup]
  by_cases hpower : power ≤ 308
  · rw [if_pos hpower]
    refine scale?_up_isSome hpower (Nat.le_min.mpr ⟨by omega, ?_⟩) hbits
    have hpos : 0 < tenTo power := Nat.pow_pos (by decide)
    rwa [Nat.le_div_iff_mul_le hpos]
  · -- Beyond there is only zero.
    have hzero : significand = 0 := by
      have hten : tenTo 309 ≤ tenTo power := tenTo_mono (by omega)
      have hlt := readable_lt
      by_contra hpos
      have hone : 1 ≤ significand := by omega
      nlinarith
    subst hzero
    have hbits' : bits = 0 := by
      have hnone : nearest? 0 1 = some 0 := rfl
      rw [hnone] at hbits
      cases hbits
      rfl
    exact ⟨0, by rw [if_neg hpower, if_pos hbits']⟩

end Double

end RetrySafe.Decimal
