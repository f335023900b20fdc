import Mathlib.Algebra.Group.Nat.Defs
import Mathlib.Tactic.ByContra
import RetrySafe.Decimal.Digits

/-!
# Reading digits back

Digits that were written are read back, as long as no other digit follows them or no more are asked
for.

## Main definitions

* `EndsDigits` — a text does not start with a digit.

## Main results

* `takeDigits_append`, `spanDigits_append_of_endsDigits` — the digits that a text starts with.
* `value_padded` — the value of padded digits.
* `value_lt`, `pow_le_of_ofNat` — how large a number of some digits is.
-/

namespace RetrySafe.Decimal

/-- A text does not start with a digit. -/
def EndsDigits (cs : List Char) : Prop := ∀ c ∈ cs.head?, c.isDigit = false

theorem endsDigits_cons {c : Char} {cs : List Char} (h : c.isDigit = false) :
    EndsDigits (c :: cs) := by
  intro d hd
  cases hd
  exact h

/-- All digits are taken, as long as there are no more of them than asked for. -/
theorem takeDigits_append {limit : Nat} {digits rest : List Char}
    (hdigits : ∀ c ∈ digits, c.isDigit = true) (hlimit : digits.length ≤ limit)
    (hrest : digits.length = limit ∨ EndsDigits rest) :
    takeDigits limit (digits ++ rest) = (digits, rest) := by
  induction digits generalizing limit with
  | nil =>
    cases limit with
    | zero => rfl
    | succ limit =>
      obtain hrest := hrest.resolve_left (Nat.succ_ne_zero _).symm
      cases rest with
      | nil => rfl
      | cons c cs => simp [takeDigits, hrest c rfl]
  | cons c digits ih =>
    cases limit with
    | zero => cases hlimit
    | succ limit =>
      have hc : c.isDigit = true := hdigits c List.mem_cons_self
      have htake := ih (fun d hd => hdigits d (List.mem_cons_of_mem _ hd))
        (Nat.le_of_succ_le_succ hlimit) (hrest.imp_left Nat.succ.inj)
      simp [takeDigits, hc, htake]

/-- All digits are taken. -/
theorem spanDigits_append_of_endsDigits {digits rest : List Char}
    (hdigits : ∀ c ∈ digits, c.isDigit = true) (hrest : EndsDigits rest) :
    spanDigits (digits ++ rest) = (digits, rest) := by
  unfold spanDigits
  rw [List.takeWhile_append_of_pos hdigits, List.dropWhile_append_of_pos hdigits]
  cases rest with
  | nil => simp
  | cons c cs => simp [hrest c rfl]

theorem isDigit_of_mem_ofNat {n : Nat} {c : Char} (hc : c ∈ ofNat n) : c.isDigit = true :=
  Nat.isDigit_of_mem_toDigits (by decide) (by decide) hc

theorem value_replicate_zero_append (k : Nat) (digits : List Char) :
    value (List.replicate k '0' ++ digits) = value digits := by
  rw [value, Nat.ofDigitChars_append, Nat.ofDigitChars_replicate_zero, Nat.mul_zero, value]

theorem value_padded (width n : Nat) : value (padded width n) = n := by
  rw [padded, value_replicate_zero_append, value_ofNat]

theorem value_append (digits digits' : List Char) :
    value (digits ++ digits') = Nat.ofDigitChars 10 digits' (value digits) :=
  Nat.ofDigitChars_append 0

/-! ## The size of digits -/

theorem toNat_le_of_isDigit {c : Char} (h : c.isDigit = true) : c.toNat - '0'.toNat ≤ 9 := by
  have hle : c.toNat ≤ '9'.toNat := (Char.isDigit_iff_toNat.mp h).2
  have hnine : '9'.toNat = 57 := rfl
  have hzero : '0'.toNat = 48 := rfl
  omega

/-- Digits that follow a number make it larger. -/
theorem le_ofDigitChars (digits : List Char) (n : Nat) :
    n * 10 ^ digits.length ≤ Nat.ofDigitChars 10 digits n := by
  induction digits generalizing n with
  | nil => simp
  | cons c digits ih =>
    rw [Nat.ofDigitChars_cons, List.length_cons, Nat.pow_succ]
    refine Nat.le_trans ?_ (ih _)
    rw [Nat.mul_comm (10 ^ digits.length), ← Nat.mul_assoc, Nat.mul_comm n]
    exact Nat.mul_le_mul_right _ (Nat.le_add_right _ _)

/-- Digits that follow a number do not bring it to the next one. -/
theorem ofDigitChars_lt {digits : List Char} (hdigits : ∀ c ∈ digits, c.isDigit = true) (n : Nat) :
    Nat.ofDigitChars 10 digits n < (n + 1) * 10 ^ digits.length := by
  induction digits generalizing n with
  | nil => simp
  | cons c digits ih =>
    have hc := toNat_le_of_isDigit (hdigits c List.mem_cons_self)
    have hrest := ih (fun d hd => hdigits d (List.mem_cons_of_mem _ hd))
      (10 * n + (c.toNat - '0'.toNat))
    rw [Nat.ofDigitChars_cons, List.length_cons, Nat.pow_succ]
    refine Nat.lt_of_lt_of_le hrest ?_
    rw [Nat.mul_comm (10 ^ digits.length), ← Nat.mul_assoc]
    exact Nat.mul_le_mul_right _ (by omega)

theorem value_lt {digits : List Char} (hdigits : ∀ c ∈ digits, c.isDigit = true) :
    value digits < 10 ^ digits.length := by
  have hlt := ofDigitChars_lt hdigits 0
  rwa [Nat.zero_add, Nat.one_mul] at hlt

theorem ofNat_ne_nil (n : Nat) : ofNat n ≠ [] := Nat.toDigits_ne_nil

/-- A number of more than one digit does not begin with a zero. -/
theorem ofNat_eq_zero_cons {n : Nat} {digits : List Char} (h : ofNat n = '0' :: digits) :
    digits = [] := by
  by_contra hsome
  have hpos : 0 < digits.length := List.length_pos_iff.mpr hsome
  have hvalue : value digits = n := by
    have hn := value_ofNat n
    rw [h] at hn
    exact hn
  have hdigits : ∀ c ∈ digits, c.isDigit = true := fun c hc =>
    isDigit_of_mem_ofNat (h ▸ List.mem_cons_of_mem _ hc)
  -- Without the zero the digits are as many as the number can have.
  have hlength : (ofNat n).length ≤ digits.length :=
    (Nat.length_toDigits_le_iff (by decide) hpos).mpr (hvalue ▸ value_lt hdigits)
  rw [h, List.length_cons] at hlength
  omega

/-- A number is at least the power of ten of its first digit. -/
theorem pow_le_of_ofNat {n : Nat} (hn : 0 < n) : 10 ^ ((ofNat n).length - 1) ≤ n := by
  have hpos := List.length_pos_iff.mpr (ofNat_ne_nil n)
  by_contra hlt
  by_cases hone : (ofNat n).length = 1
  · rw [hone] at hlt
    omega
  · have hlength : (ofNat n).length ≤ (ofNat n).length - 1 :=
      (Nat.length_toDigits_le_iff (by decide) (by omega)).mpr (by omega)
    omega

end RetrySafe.Decimal
