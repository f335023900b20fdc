/-!
# Texts made of parts

A text is cut at every separator, so the empty text has one part, the empty one. Cutting and joining
undo each other on parts that hold no separator.

## Main definitions

* `split`, `join` — the parts of a text, and the text of some parts.

## Main results

* `join_split` — joining the parts of a text gives the text.
* `split_join` — cutting a text joined from parts without separators gives the parts.
-/

namespace RetrySafe.Text

/-- The parts of a text between separators. -/
def split (sep : Char) : List Char → List (List Char)
  | [] => [[]]
  | c :: cs =>
    if c = sep then [] :: split sep cs
    else
      match split sep cs with
      | [] => [[c]]
      | part :: parts => (c :: part) :: parts

/-- The parts written one after the other, a separator between each two. -/
def join (sep : Char) : List (List Char) → List Char
  | [] => []
  | [part] => part
  | part :: parts => part ++ sep :: join sep parts

theorem split_ne_nil (sep : Char) (cs : List Char) : split sep cs ≠ [] := by
  cases cs with
  | nil => simp [split]
  | cons c cs =>
    simp only [split]
    split
    · simp
    · split <;> simp

theorem join_cons_of_ne_nil {sep : Char} {parts : List (List Char)} (h : parts ≠ [])
    (part : List Char) : join sep (part :: parts) = part ++ sep :: join sep parts := by
  cases parts with
  | nil => exact absurd rfl h
  | cons _ _ => rfl

/-- Joining the parts of a text gives the text. -/
theorem join_split (sep : Char) (cs : List Char) : join sep (split sep cs) = cs := by
  induction cs with
  | nil => rfl
  | cons c cs ih =>
    simp only [split]
    split
    · next h =>
      rw [join_cons_of_ne_nil (split_ne_nil sep cs), ih, h, List.nil_append]
    · cases hs : split sep cs with
      | nil => exact absurd hs (split_ne_nil sep cs)
      | cons part parts =>
        rw [hs] at ih
        cases parts with
        | nil => simpa [join] using ih
        | cons _ _ => simpa [join] using ih

theorem split_eq_singleton {sep : Char} {cs : List Char} (h : sep ∉ cs) : split sep cs = [cs] := by
  induction cs with
  | nil => rfl
  | cons c cs ih =>
    have hc : c ≠ sep := fun e => h (by simp [e])
    have hcs : sep ∉ cs := fun e => h (by simp [e])
    simp [split, hc, ih hcs]

theorem split_append_sep {sep : Char} {part : List Char} (h : sep ∉ part) (rest : List Char) :
    split sep (part ++ sep :: rest) = part :: split sep rest := by
  induction part with
  | nil => simp [split]
  | cons c part ih =>
    have hc : c ≠ sep := fun e => h (by simp [e])
    have hpart : sep ∉ part := fun e => h (by simp [e])
    simp [split, hc, ih hpart]

/-- Cutting a text joined from parts without separators gives the parts. -/
theorem split_join {sep : Char} {parts : List (List Char)} (hne : parts ≠ [])
    (h : ∀ part ∈ parts, sep ∉ part) : split sep (join sep parts) = parts := by
  induction parts with
  | nil => exact absurd rfl hne
  | cons part parts ih =>
    have hpart : sep ∉ part := h part (by simp)
    cases parts with
    | nil => exact split_eq_singleton hpart
    | cons next parts =>
      rw [join_cons_of_ne_nil (by simp), split_append_sep hpart,
        ih (by simp) fun p hp => h p (by simp [hp])]

end RetrySafe.Text
