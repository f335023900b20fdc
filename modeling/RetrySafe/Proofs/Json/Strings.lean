import RetrySafe.Json.Reader
import RetrySafe.Json.Writer

/-!
# Reading strings back

A string that is written between quotes is read back, whatever characters it has.

## Main results

* `escape_cases` — a character stands as it is, or as an escape that is read back.
* `string_escape` — a string after its opening quote.
-/

namespace RetrySafe.Json

theorem hexDigit?_digitChar {n : Nat} (h : n < 16) : hexDigit? (Nat.digitChar n) = some n := by
  have hall : ∀ n < 16, hexDigit? (Nat.digitChar n) = some n := by decide
  exact hall n h

/-- The digits of a control character. -/
theorem hex4_of_lt {n : Nat} (h : n < 0x20) :
    hex4 n = ['0', '0', Nat.digitChar (n / 16), Nat.digitChar (n % 16)] := by
  have hall : ∀ n < 0x20, hex4 n = ['0', '0', Nat.digitChar (n / 16), Nat.digitChar (n % 16)] := by
    decide
  exact hall n h

theorem codeUnit_hex4 {n : Nat} (h : n < 0x20) (rest : List Char) :
    codeUnit (hex4 n ++ rest) = .ok (n, rest) := by
  have hzero : hexDigit? '0' = some 0 := by decide
  rw [hex4_of_lt h]
  simp only [List.cons_append, List.nil_append, codeUnit, hzero,
    hexDigit?_digitChar (show n / 16 < 16 by omega), hexDigit?_digitChar (show n % 16 < 16 by omega)]
  rw [show ((0 * 16 + 0) * 16 + n / 16) * 16 + n % 16 = n by omega]

theorem unicodeEscape_hex4 {c : Char} (h : c.toNat < 0x20) (rest : List Char) :
    unicodeEscape (hex4 c.toNat ++ rest) = .ok (c, rest) := by
  have hlow : ¬(0xDC00 ≤ c.toNat ∧ c.toNat ≤ 0xDFFF) := by omega
  have hplane : c.toNat < 0xD800 ∨ 0xDBFF < c.toNat := by omega
  unfold unicodeEscape
  rw [codeUnit_hex4 h]
  simp [bind, Except.bind, hlow, hplane, pure, Except.pure]

/-- A character stands as it is, or as an escape that is read back. -/
theorem escape_cases (c : Char) :
    (escape c = [c] ∧ c ≠ '"' ∧ c ≠ '\\' ∧ ¬c.toNat < 0x20) ∨
      ∃ code, escape c = '\\' :: code ∧ ∀ rest, escaped (code ++ rest) = .ok (c, rest) := by
  unfold escape
  split
  · exact .inr ⟨['"'], rfl, fun _ => rfl⟩
  · exact .inr ⟨['\\'], rfl, fun _ => rfl⟩
  · exact .inr ⟨['b'], rfl, fun _ => rfl⟩
  · exact .inr ⟨['f'], rfl, fun _ => rfl⟩
  · exact .inr ⟨['n'], rfl, fun _ => rfl⟩
  · exact .inr ⟨['r'], rfl, fun _ => rfl⟩
  · exact .inr ⟨['t'], rfl, fun _ => rfl⟩
  · rename_i hquote hbackslash _ _ _ _ _
    split
    · rename_i hcontrol
      exact .inr ⟨'u' :: hex4 c.toNat, rfl, fun rest => unicodeEscape_hex4 hcontrol rest⟩
    · rename_i hshown
      exact .inl ⟨rfl, hquote, hbackslash, hshown⟩

/-- The rest of a string, with as much fuel as it has characters. -/
theorem stringRest_escape {cs soFar rest : List Char} {fuel : Nat} (hfuel : cs.length < fuel) :
    stringRest fuel soFar (cs.flatMap escape ++ '"' :: rest) =
      .ok (String.ofList (soFar.reverse ++ cs), rest) := by
  induction cs generalizing soFar fuel with
  | nil =>
    obtain ⟨fuel, rfl⟩ := Nat.exists_eq_add_of_lt hfuel
    simp [stringRest]
  | cons c cs ih =>
    obtain ⟨fuel, rfl⟩ := Nat.exists_eq_add_of_lt hfuel
    have hrest : stringRest ((c :: cs).length + fuel) (c :: soFar) (cs.flatMap escape ++ '"' :: rest) =
        .ok (String.ofList (soFar.reverse ++ c :: cs), rest) := by
      rw [ih (by rw [List.length_cons]; omega)]
      simp
    rw [List.flatMap_cons, List.append_assoc]
    rcases escape_cases c with ⟨hescape, hquote, hbackslash, hshown⟩ | ⟨code, hescape, hcode⟩
    · rw [hescape, List.singleton_append, stringRest, if_neg hquote, if_neg hbackslash,
        if_neg hshown, hrest]
    · rw [hescape, List.cons_append, stringRest, if_neg (by decide), if_pos rfl, hcode]
      exact hrest

theorem length_le_flatMap_escape (cs : List Char) : cs.length ≤ (cs.flatMap escape).length := by
  induction cs with
  | nil => exact Nat.le_refl _
  | cons c cs ih =>
    have hc : 1 ≤ (escape c).length := by
      rcases escape_cases c with ⟨hescape, -⟩ | ⟨code, hescape, -⟩ <;>
      · rw [hescape, List.length_cons]
        omega
    rw [List.flatMap_cons, List.length_append, List.length_cons]
    omega

/-- A string after its opening quote. -/
theorem string_escape (text : String) (rest : List Char) :
    string (text.toList.flatMap escape ++ '"' :: rest) = .ok (text, rest) := by
  have hlength := length_le_flatMap_escape text.toList
  unfold string
  rw [stringRest_escape, List.reverse_nil, List.nil_append, String.ofList_toList]
  rw [List.length_append]
  omega

end RetrySafe.Json
