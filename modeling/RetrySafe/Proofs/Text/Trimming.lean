import Mathlib.Data.List.TakeWhile
import RetrySafe.Text.Blank

/-!
# Texts without blanks at their ends

Trimming a text takes blanks away at its two ends, and leaves none there.

## Main definitions

* `IsTrimmed` — no blank at either end.
* `Trims` — what is left of a text without the blanks at its ends.

## Main results

* `trims_iff` — trimming leaves what is left without the blanks at the ends.
* `trim_eq_self_iff`, `trim_eq_nil_iff` — what trimming tells of a text.
-/

namespace RetrySafe.Text

variable {cs core : List Char}

/-- A text without a blank at either end. -/
def IsTrimmed (cs : List Char) : Prop :=
  (∀ c, cs.head? = some c → isBlank c = false) ∧ ∀ c, cs.getLast? = some c → isBlank c = false

/-- A text is another one between blanks, and that one has none at its ends. -/
def Trims (cs core : List Char) : Prop :=
  (∃ before behind, cs = before ++ core ++ behind ∧ (∀ c ∈ before, isBlank c = true) ∧
    ∀ c ∈ behind, isBlank c = true) ∧ IsTrimmed core

theorem trimStart_eq_self_iff :
    trimStart cs = cs ↔ ∀ c, cs.head? = some c → isBlank c = false := by
  cases cs with
  | nil => simp [trimStart]
  | cons c cs => simp [trimStart, List.dropWhile_eq_self_iff]

theorem head?_trimStart {c : Char} (h : (trimStart cs).head? = some c) : isBlank c = false := by
  have hhead := List.head?_dropWhile_not isBlank cs
  rw [← trimStart, h] at hhead
  exact hhead

theorem takeWhile_append_trimStart (cs : List Char) : cs.takeWhile isBlank ++ trimStart cs = cs :=
  List.takeWhile_append_dropWhile

/-- Blanks in front make no difference. -/
theorem trimStart_append {before : List Char} (h : ∀ c ∈ before, isBlank c = true) :
    trimStart (before ++ cs) = trimStart cs :=
  List.dropWhile_append_of_pos h

theorem trims_trim (cs : List Char) : Trims cs (trim cs) := by
  -- What is taken away at the end is what stands in front of the reversed text.
  have hend : trim cs ++ ((trimStart cs).reverse.takeWhile isBlank).reverse = trimStart cs := by
    rw [trim, ← List.reverse_append, takeWhile_append_trimStart, List.reverse_reverse]
  refine ⟨⟨cs.takeWhile isBlank, ((trimStart cs).reverse.takeWhile isBlank).reverse, ?_, ?_, ?_⟩,
    ?_, ?_⟩
  · rw [List.append_assoc, hend, takeWhile_append_trimStart]
  · exact fun c hc => List.mem_takeWhile_imp hc
  · exact fun c hc => List.mem_takeWhile_imp (List.mem_reverse.mp hc)
  · intro c hc
    have hhead : (trimStart cs).head? = some c := by
      rw [← hend, List.head?_append, hc, Option.some_or]
    exact head?_trimStart hhead
  · intro c hc
    rw [trim, List.getLast?_reverse] at hc
    exact head?_trimStart hc

/-- Trimming leaves what is left without the blanks at the ends. -/
theorem trims_iff : Trims cs core ↔ trim cs = core := by
  refine ⟨?_, fun h => h ▸ trims_trim cs⟩
  rintro ⟨⟨before, behind, rfl, hbefore, hbehind⟩, hfirst, hlast⟩
  rw [List.append_assoc, trim, trimStart_append hbefore]
  have hreversed : ∀ c ∈ behind.reverse, isBlank c = true :=
    fun c hc => hbehind c (List.mem_reverse.mp hc)
  cases core with
  | nil =>
    -- There are blanks only, and none of them is left in front.
    have hnone : trimStart behind = [] := List.dropWhile_eq_nil_iff.mpr hbehind
    rw [List.nil_append, hnone]
    rfl
  | cons c core =>
    rw [List.cons_append, trimStart_eq_self (hfirst c rfl), ← List.cons_append,
      List.reverse_append, trimStart_append hreversed, trimStart_eq_self_iff.mpr,
      List.reverse_reverse]
    rwa [List.head?_reverse]

theorem trim_eq_self_iff : trim cs = cs ↔ IsTrimmed cs := by
  rw [← trims_iff]
  exact ⟨And.right, fun h => ⟨⟨[], [], by simp, by simp, by simp⟩, h⟩⟩

theorem trim_eq_nil_iff : trim cs = [] ↔ ∀ c ∈ cs, isBlank c = true := by
  rw [← trims_iff]
  constructor
  · rintro ⟨⟨before, behind, rfl, hbefore, hbehind⟩, -⟩ c hc
    rw [List.append_nil] at hc
    exact (List.mem_append.mp hc).elim (hbefore c) (hbehind c)
  · intro h
    exact ⟨⟨cs, [], by simp, h, by simp⟩, by simp [IsTrimmed]⟩

end RetrySafe.Text
