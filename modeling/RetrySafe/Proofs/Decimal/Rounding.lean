import Mathlib.Algebra.Order.Field.Power
import Mathlib.Algebra.Order.Field.Rat
import Mathlib.Tactic.FieldSimp
import Mathlib.Tactic.Linarith
import Mathlib.Tactic.Positivity
import Mathlib.Tactic.Ring
import RetrySafe.Decimal.Double

/-!
# Rounding is monotone

Of two numbers the smaller one never rounds to the larger double. So whatever does not exceed a
number that has a nearest double has one itself.

## Main definitions

* `Double.size` — the number that some magnitude bits stand for.
* `roundedBits` — the bits of the nearest double, as if there were no largest one.

## Main results

* `roundDiv_mono` — rounding to whole numbers.
* `binaryExponent_spec` — the power of two below a quotient.
* `nearest?_mono` — rounding to doubles.
* `Double.size_mono` — larger bits stand for larger numbers.
-/

namespace RetrySafe.Decimal

/-! ## Whole numbers -/

section Whole

variable {num den num' den' c : Nat}

/-- Rounded to a whole number: the whole part or one more. -/
theorem roundDiv_bounds (num den : Nat) :
    num / den ≤ roundDiv num den ∧ roundDiv num den ≤ num / den + 1 := by
  unfold roundDiv
  dsimp only
  split
  · omega
  split <;> omega

theorem roundDiv_mono (hden : 0 < den) (hden' : 0 < den') (h : num * den' ≤ num' * den) :
    roundDiv num den ≤ roundDiv num' den' := by
  have hfloor : num / den ≤ num' / den' := by
    rw [Nat.le_div_iff_mul_le hden']
    refine Nat.le_of_mul_le_mul_right ?_ hden
    calc num / den * den' * den = num / den * den * den' := Nat.mul_right_comm _ _ _
      _ ≤ num * den' := Nat.mul_le_mul_right _ (Nat.div_mul_le_self num den)
      _ ≤ num' * den := h
  have hbounds := roundDiv_bounds num den
  have hbounds' := roundDiv_bounds num' den'
  rcases Nat.lt_or_eq_of_le hfloor with hlt | heq
  · omega
  · -- Both have the same whole part, so their rests decide.
    have hnum := Nat.div_add_mod num den
    have hnum' := Nat.div_add_mod num' den'
    rw [heq] at hnum
    unfold roundDiv
    dsimp only
    rw [heq]
    generalize num' / den' = whole, num % den = rest, num' % den' = rest' at hnum hnum' ⊢
    have hrest : rest * den' ≤ rest' * den := by
      rw [← hnum, ← hnum'] at h
      nlinarith
    have hover : den < 2 * rest → den' < 2 * rest' := fun hlt => by
      by_contra hle
      nlinarith
    have hhalf : den ≤ 2 * rest → den' ≤ 2 * rest' := fun hle => by
      by_contra hlt
      nlinarith
    split
    · split
      · omega
      split <;> omega
    split <;> split <;> first | omega | (split <;> omega)

/-- A number that does not exceed a whole number rounds to no more. -/
theorem roundDiv_le (hden : 0 < den) (h : num ≤ c * den) : roundDiv num den ≤ c := by
  have hwhole : roundDiv c 1 = c := by simp [roundDiv, Nat.mod_one]
  have hmono : roundDiv num den ≤ roundDiv c 1 :=
    roundDiv_mono hden Nat.one_pos (by rwa [Nat.mul_one])
  rwa [hwhole] at hmono

/-- A number that reaches a whole number rounds to no less. -/
theorem le_roundDiv (hden : 0 < den) (h : c * den ≤ num) : c ≤ roundDiv num den :=
  Nat.le_trans ((Nat.le_div_iff_mul_le hden).mpr h) (roundDiv_bounds num den).1

end Whole

/-! ## Quotients -/

section Quotients

variable {num den num' den' : Nat}

/-- A quotient of two numbers that are shifted so that it is divided by a power of two. -/
theorem shiftLeft_div_shiftLeft (num den : Nat) (q : Int) :
    ((num <<< (-q).toNat : Nat) : ℚ) / ((den <<< q.toNat : Nat) : ℚ) = num / den * 2 ^ (-q) := by
  rw [Nat.shiftLeft_eq, Nat.shiftLeft_eq]
  push_cast
  obtain ⟨n, rfl | rfl⟩ := q.eq_nat_or_neg
  · simp
    field_simp
  · simp
    field_simp

theorem shiftLeft_le_shiftLeft_iff (hden : 0 < den) (k : Int) :
    den <<< k.toNat ≤ num <<< (-k).toNat ↔ (2 : ℚ) ^ k ≤ num / den := by
  have hshift := shiftLeft_div_shiftLeft num den k
  have hpos : (0 : ℚ) < (den <<< k.toNat : Nat) := by
    rw [Nat.shiftLeft_eq]
    positivity
  rw [← Nat.cast_le (α := ℚ), ← one_le_div hpos, hshift, zpow_neg, ← div_eq_mul_inv,
    one_le_div (by positivity)]

/-- The power of two below a quotient. -/
theorem binaryExponent_spec (hnum : 0 < num) (hden : 0 < den) :
    (2 : ℚ) ^ binaryExponent num den ≤ num / den ∧
      (num : ℚ) / den < 2 ^ (binaryExponent num den + 1) := by
  have hden' : (0 : ℚ) < den := Nat.cast_pos.mpr hden
  -- The logarithms of the two numbers give the power but for one.
  have hnumLow : (2 : ℚ) ^ (num.log2 : Int) ≤ num := by
    exact_mod_cast Nat.log2_self_le hnum.ne'
  have hnumHigh : (num : ℚ) < 2 ^ ((num.log2 : Int) + 1) := by
    exact_mod_cast Nat.lt_log2_self
  have hdenLow : (2 : ℚ) ^ (den.log2 : Int) ≤ den := by
    exact_mod_cast Nat.log2_self_le hden.ne'
  have hdenHigh : (den : ℚ) < 2 ^ ((den.log2 : Int) + 1) := by
    exact_mod_cast Nat.lt_log2_self
  have hhigh : (num : ℚ) / den < 2 ^ ((num.log2 : Int) - den.log2 + 1) := by
    rw [div_lt_iff₀ hden']
    calc (num : ℚ) < 2 ^ ((num.log2 : Int) + 1) := hnumHigh
      _ = 2 ^ ((num.log2 : Int) - den.log2 + 1) * 2 ^ (den.log2 : Int) := by
        rw [← zpow_add₀ two_ne_zero]
        congr 1
        ring
      _ ≤ 2 ^ ((num.log2 : Int) - den.log2 + 1) * den := by gcongr
  have hlow : (2 : ℚ) ^ ((num.log2 : Int) - den.log2 - 1) ≤ num / den := by
    rw [le_div_iff₀ hden']
    calc (2 : ℚ) ^ ((num.log2 : Int) - den.log2 - 1) * den
        ≤ 2 ^ ((num.log2 : Int) - den.log2 - 1) * 2 ^ ((den.log2 : Int) + 1) := by gcongr
      _ = 2 ^ (num.log2 : Int) := by
        rw [← zpow_add₀ two_ne_zero]
        congr 1
        ring
      _ ≤ num := hnumLow
  unfold binaryExponent
  dsimp only
  split
  · rename_i hreaches
    exact ⟨(shiftLeft_le_shiftLeft_iff hden _).mp hreaches, hhigh⟩
  · rename_i hmisses
    rw [shiftLeft_le_shiftLeft_iff hden, not_le] at hmisses
    exact ⟨hlow, by rwa [Int.sub_add_cancel]⟩

/-- Of two quotients the smaller one has the smaller power of two. -/
theorem binaryExponent_mono (hnum : 0 < num) (hden : 0 < den) (hnum' : 0 < num') (hden' : 0 < den')
    (h : (num : ℚ) / den ≤ num' / den') : binaryExponent num den ≤ binaryExponent num' den' := by
  have hlow := (binaryExponent_spec hnum hden).1
  have hhigh := (binaryExponent_spec hnum' hden').2
  have hlt := (zpow_lt_zpow_iff_right₀ (one_lt_two : (1 : ℚ) < 2)).mp ((hlow.trans h).trans_lt hhigh)
  omega

end Quotients

/-! ## Doubles -/

section Doubles

variable {num den num' den' : Nat}

/-- The exponent of the last digit that the nearest double keeps. -/
def lastPlace (num den : Nat) : Int := max (binaryExponent num den - 52) (-1074)

/-- The bits of the nearest double, as if there were no largest one. -/
def roundedBits (num den : Nat) : Nat :=
  (lastPlace num den + 1074).toNat * binade +
    roundDiv (num <<< (-lastPlace num den).toNat) (den <<< (lastPlace num den).toNat)

theorem nearest?_of_pos (hnum : 0 < num) : nearest? num den =
    if roundedBits num den < infinityBits then some (roundedBits num den) else none :=
  if_neg hnum.ne'

theorem shiftLeft_pos (hden : 0 < den) (k : Nat) : 0 < den <<< k := by
  rw [Nat.shiftLeft_eq]
  positivity

/-- The digits of a double do not reach further than its places. -/
theorem place_le (hnum : 0 < num) (hden : 0 < den) :
    roundDiv (num <<< (-lastPlace num den).toNat) (den <<< (lastPlace num den).toNat) ≤
      2 * binade := by
  have hpos := shiftLeft_pos hden (lastPlace num den).toNat
  refine roundDiv_le hpos ?_
  have hplace : binaryExponent num den + 1 + -lastPlace num den ≤ 53 := by
    unfold lastPlace
    omega
  have hratio : ((num <<< (-lastPlace num den).toNat : Nat) : ℚ) /
      ((den <<< (lastPlace num den).toNat : Nat) : ℚ) ≤ ((2 * binade : Nat) : ℚ) := by
    rw [shiftLeft_div_shiftLeft]
    calc (num : ℚ) / den * 2 ^ (-lastPlace num den)
        ≤ 2 ^ (binaryExponent num den + 1) * 2 ^ (-lastPlace num den) := by
          gcongr
          exact (binaryExponent_spec hnum hden).2.le
      _ = 2 ^ (binaryExponent num den + 1 + -lastPlace num den) := by
        rw [← zpow_add₀ two_ne_zero]
      _ ≤ 2 ^ (53 : Int) := zpow_le_zpow_right₀ one_le_two hplace
      _ = ((2 * binade : Nat) : ℚ) := by norm_num [binade]
  rw [div_le_iff₀ (by exact_mod_cast hpos)] at hratio
  exact_mod_cast hratio

/-- Above the smallest place, the digits of a double begin with its first place. -/
theorem le_place (hnum : 0 < num) (hden : 0 < den) (hplace : -1074 < lastPlace num den) :
    binade ≤
      roundDiv (num <<< (-lastPlace num den).toNat) (den <<< (lastPlace num den).toNat) := by
  have hpos := shiftLeft_pos hden (lastPlace num den).toNat
  refine le_roundDiv hpos ?_
  have hplace' : (52 : Int) = binaryExponent num den + -lastPlace num den := by
    unfold lastPlace at hplace ⊢
    omega
  have hratio : ((binade : Nat) : ℚ) ≤ ((num <<< (-lastPlace num den).toNat : Nat) : ℚ) /
      ((den <<< (lastPlace num den).toNat : Nat) : ℚ) := by
    rw [shiftLeft_div_shiftLeft]
    calc ((binade : Nat) : ℚ) = 2 ^ (52 : Int) := by norm_num [binade]
      _ = 2 ^ binaryExponent num den * 2 ^ (-lastPlace num den) := by
        rw [hplace', zpow_add₀ two_ne_zero]
      _ ≤ (num : ℚ) / den * 2 ^ (-lastPlace num den) := by
        gcongr
        exact (binaryExponent_spec hnum hden).1
  rw [le_div_iff₀ (by exact_mod_cast hpos)] at hratio
  exact_mod_cast hratio

theorem roundedBits_mono (hnum : 0 < num) (hden : 0 < den) (hnum' : 0 < num') (hden' : 0 < den')
    (h : (num : ℚ) / den ≤ num' / den') : roundedBits num den ≤ roundedBits num' den' := by
  have hexponent := binaryExponent_mono hnum hden hnum' hden' h
  have hle : lastPlace num den ≤ lastPlace num' den' := by
    unfold lastPlace
    omega
  have hsmallest : -1074 ≤ lastPlace num den := le_max_right _ _
  unfold roundedBits
  rcases Int.lt_or_eq_of_le hle with hlt | heq
  · -- The smaller one ends before the place at which the larger one begins.
    have hends := place_le hnum hden
    have hbegins := le_place hnum' hden' (by omega)
    have hplaces : (lastPlace num den + 1074).toNat + 1 ≤ (lastPlace num' den' + 1074).toNat := by
      omega
    nlinarith
  · rw [heq]
    have hpos := shiftLeft_pos hden (lastPlace num' den').toNat
    have hpos' := shiftLeft_pos hden' (lastPlace num' den').toNat
    refine Nat.add_le_add_left (roundDiv_mono hpos hpos' ?_) _
    have hratio : (num : ℚ) / den * 2 ^ (-lastPlace num' den') ≤
        num' / den' * 2 ^ (-lastPlace num' den') := by gcongr
    rw [← shiftLeft_div_shiftLeft, ← shiftLeft_div_shiftLeft,
      div_le_div_iff₀ (by exact_mod_cast hpos) (by exact_mod_cast hpos')] at hratio
    exact_mod_cast hratio

/-- Rounding to doubles. -/
theorem nearest?_mono {bits' : Nat} (hden : 0 < den) (hden' : 0 < den')
    (h : (num : ℚ) / den ≤ num' / den') (hnearest : nearest? num' den' = some bits') :
    ∃ bits ≤ bits', nearest? num den = some bits := by
  rcases Nat.eq_zero_or_pos num with rfl | hnum
  · exact ⟨0, Nat.zero_le _, rfl⟩
  have hnum' : 0 < num' := by
    have hpos : (0 : ℚ) < num / den := by positivity
    have hpos' := hpos.trans_le h
    by_contra hzero
    obtain rfl : num' = 0 := by omega
    simp at hpos'
  have hle := roundedBits_mono hnum hden hnum' hden' h
  rw [nearest?_of_pos hnum'] at hnearest
  rw [nearest?_of_pos hnum]
  split at hnearest
  · rename_i hlt
    cases hnearest
    exact ⟨_, hle, if_pos (Nat.lt_of_le_of_lt hle hlt)⟩
  · cases hnearest

end Doubles

namespace Double

/-- The number that some magnitude bits stand for. -/
def size (bits : Nat) : ℚ := significandOf bits * 2 ^ exponentOf bits

theorem size_nonneg (bits : Nat) : 0 ≤ size bits := by
  unfold size
  positivity

theorem size_mono {bits bits' : Nat} (h : bits ≤ bits') : size bits ≤ size bits' := by
  have hfield : bits / binade ≤ bits' / binade := Nat.div_le_div_right h
  have hbits := Nat.div_add_mod bits binade
  have hbits' := Nat.div_add_mod bits' binade
  have hlt : bits % binade < binade := Nat.mod_lt _ (by decide)
  unfold size significandOf exponentOf
  generalize bits / binade = field, bits' / binade = field' at hfield hbits hbits' ⊢
  by_cases hsame : max (field) 1 = max (field') 1
  · -- In one place the significands decide. The first two fields share theirs.
    rw [hsame]
    refine mul_le_mul_of_nonneg_right (Nat.cast_le.mpr ?_) (by positivity)
    rcases Nat.lt_or_eq_of_le hfield with hless | heq
    · rw [if_pos (by omega), if_neg (by omega)]
      have hzero : field = 0 := by omega
      rw [hzero, Nat.mul_zero, Nat.zero_add] at hbits
      omega
    · rw [heq] at hbits ⊢
      split <;> omega
  · have hless : max (field) 1 + 1 ≤ max (field') 1 := by omega
    generalize hplace : max (field) 1 = place, hplace' : max (field') 1 = place'
      at hless
    have hsignificand : ((if field = 0 then bits else binade + bits % binade : Nat) : ℚ) ≤
        2 * (binade : Nat) := by
      have hbound : (if field = 0 then bits else binade + bits % binade) ≤ 2 * binade := by
        split
        · rename_i hzero
          rw [hzero, Nat.mul_zero, Nat.zero_add] at hbits
          omega
        · omega
      exact_mod_cast hbound
    have hsignificand' : ((binade : Nat) : ℚ) ≤
        ((if field' = 0 then bits' else binade + bits' % binade : Nat) : ℚ) := by
      rw [if_neg (by omega)]
      exact_mod_cast Nat.le_add_right _ _
    calc _ ≤ 2 * ((binade : Nat) : ℚ) * 2 ^ ((place : Int) - 1075) :=
          mul_le_mul_of_nonneg_right hsignificand (by positivity)
      _ = ((binade : Nat) : ℚ) * 2 ^ ((place : Int) - 1075 + 1) := by
        rw [zpow_add_one₀ two_ne_zero]
        ring
      _ ≤ ((binade : Nat) : ℚ) * 2 ^ ((place' : Int) - 1075) :=
        mul_le_mul_of_nonneg_left (zpow_le_zpow_right₀ one_le_two (by omega)) (by positivity)
      _ ≤ _ := mul_le_mul_of_nonneg_right hsignificand' (by positivity)

end Double

end RetrySafe.Decimal
