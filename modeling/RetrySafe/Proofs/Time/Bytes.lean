import Mathlib.Data.List.Basic
import RetrySafe.Proofs.Time.Reading

/-!
# Times as bytes

A time of a plain year is written with characters of one byte each, and always with as many of them. Texts
of such characters come in one order, whether their characters are compared or their bytes, so who compares
the bytes of two times compares the times.

## Main definitions

* `Text.bytes` — the bytes that a text is stored as.
* `Text.IsAscii` — a text whose characters are of one byte each.

## Main results

* `Text.bytes_lt_bytes_iff` — texts of such characters compare as their bytes do.
* `Instant.length_bytes_micros`, `Instant.bytes_micros_lt_iff` — written times as bytes.
-/

namespace RetrySafe

namespace Text

/-- The bytes that a text is stored as. -/
def bytes (text : String) : List UInt8 := text.toUTF8.data.toList

/-- All characters are of one byte. -/
def IsAscii (text : String) : Prop := ∀ c ∈ text.toList, c.val ≤ 127

variable {c d : Char} {l l' : List Char} {s t : String}

theorem toNat_toUInt8 (hc : c.val ≤ 127) : c.toUInt8.toNat = c.toNat := by
  have hsmall : c.val.toNat ≤ 127 := hc
  rw [Char.toUInt8, UInt32.toNat_toUInt8, Nat.mod_eq_of_lt (Nat.lt_of_le_of_lt hsmall (by decide))]
  rfl

theorem toUInt8_lt_iff (hc : c.val ≤ 127) (hd : d.val ≤ 127) : c.toUInt8 < d.toUInt8 ↔ c < d := by
  rw [UInt8.lt_iff_toNat_lt, toNat_toUInt8 hc, toNat_toUInt8 hd]
  exact Iff.rfl

theorem toUInt8_inj (hc : c.val ≤ 127) (hd : d.val ≤ 127) : c.toUInt8 = d.toUInt8 ↔ c = d := by
  rw [← UInt8.toNat_inj, toNat_toUInt8 hc, toNat_toUInt8 hd, Char.toNat_inj]

theorem bytes_of_isAscii (h : IsAscii s) : bytes s = s.toList.map Char.toUInt8 := by
  obtain ⟨cs, rfl⟩ : ∃ cs, s = String.ofList cs := ⟨s.toList, String.ofList_toList.symm⟩
  have hencode : bytes (String.ofList cs) = cs.flatMap String.utf8EncodeChar := by
    rw [bytes, String.toUTF8, String.toByteArray_ofList, List.utf8Encode, List.toList_data_toByteArray]
  rw [IsAscii, String.toList_ofList] at h
  rw [hencode, String.toList_ofList, List.map_eq_flatMap]
  exact List.flatMap_congr fun c hc =>
    String.utf8EncodeChar_eq_singleton (Char.utf8Size_eq_one_iff.mpr (h c hc))

/-- Characters of one byte come in the order of their bytes, one after the other. -/
theorem map_toUInt8_lt_iff (h : ∀ c ∈ l, c.val ≤ 127) (h' : ∀ c ∈ l', c.val ≤ 127) :
    l.map Char.toUInt8 < l'.map Char.toUInt8 ↔ l < l' := by
  induction l generalizing l' with
  | nil => cases l' <;> simp
  | cons c l ih =>
    cases l' with
    | nil => simp
    | cons d l' =>
      obtain ⟨hc, hl⟩ := List.forall_mem_cons.mp h
      obtain ⟨hd, hl'⟩ := List.forall_mem_cons.mp h'
      rw [List.map_cons, List.map_cons, List.cons_lt_cons_iff, List.cons_lt_cons_iff,
        toUInt8_lt_iff hc hd, toUInt8_inj hc hd, ih hl hl']

/-- Texts of characters of one byte compare as their bytes do. -/
theorem bytes_lt_bytes_iff (hs : IsAscii s) (ht : IsAscii t) : bytes s < bytes t ↔ s < t := by
  rw [bytes_of_isAscii hs, bytes_of_isAscii ht, map_toUInt8_lt_iff hs ht, String.lt_iff]

theorem length_bytes_of_isAscii (h : IsAscii s) : (bytes s).length = s.toList.length := by
  rw [bytes_of_isAscii h, List.length_map]

end Text

namespace Time.Instant

open Decimal (padded)

variable {a b t : Instant}

/-- A time is written with digits, two letters, and marks between. -/
theorem isAscii_micros (ht : t.HasPlainYear) : Text.IsAscii t.micros := by
  have hdigits {c : Char} {width n : Nat} (hc : c ∈ padded width n) : c.val ≤ 127 := by
    have := (Char.isDigit_iff_toNat.mp (isDigit_of_mem_padded hc)).2
    exact Nat.le_trans this (by decide)
  intro c hc
  rw [toList_micros ht] at hc
  simp only [List.mem_append, List.mem_cons, List.not_mem_nil, or_false] at hc
  rcases hc with h | rfl | h | rfl | h | rfl | h | rfl | h | rfl | h | rfl | h | rfl
  any_goals exact hdigits h
  all_goals decide

theorem length_toList_micros (ht : t.HasPlainYear) : t.micros.toList.length = 27 := by
  obtain ⟨hyear, hmonth, hday, hhour, hminute, hsecond, hmicros⟩ := fields_lt ht
  simp only [toList_micros ht, List.length_append, List.length_cons, List.length_nil]
  rw [length_padded (by decide) hyear, length_padded (by decide) hmonth, length_padded (by decide) hday,
    length_padded (by decide) (by omega), length_padded (by decide) (by omega),
    length_padded (by decide) (by omega), length_padded (by decide) hmicros]

/-- All times of plain years are written with as many bytes. -/
theorem length_bytes_micros (ht : t.HasPlainYear) : (Text.bytes t.micros).length = 27 := by
  rw [Text.length_bytes_of_isAscii (isAscii_micros ht), length_toList_micros ht]

/-- Times of plain years are ordered as bytes as they are in time, up to a microsecond. -/
theorem bytes_micros_lt_iff (ha : a.HasPlainYear) (hb : b.HasPlainYear) :
    Text.bytes a.micros < Text.bytes b.micros ↔ a.truncated < b.truncated := by
  rw [Text.bytes_lt_bytes_iff (isAscii_micros ha) (isAscii_micros hb), micros_lt_micros_iff ha hb]

end Time.Instant

end RetrySafe
