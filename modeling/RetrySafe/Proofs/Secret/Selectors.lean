import Mathlib.Data.Set.List
import RetrySafe.Proofs.Results
import RetrySafe.Proofs.Secret.Access

/-!
# What selectors match

A selector is read part by part. A part that is an asterisk stands for any part of a key, and any other
part for itself; the last part decides over the length of a key. The scan that compares a selector with a
key agrees with this, whatever stands in the selector.

## Main definitions

* `IsSelectorPart` — what may stand between the dots of a selector.
* `Selects` — what the parts of a selector say about the parts of a key.

## Main results

* `Selector.parse_eq_ok_iff`, `Selector.exists_parse_iff` — which texts are selectors.
* `Selector.coverAll_iff` — the scan agrees with what the parts say.
* `selectors_decide` — what selectors and filters admit.
-/

namespace RetrySafe.Secret

/-- What stands between the dots of a text. -/
def partsOf (text : String) : List (List Char) := Text.split '.' text.toList

theorem Key.partsOf_text (key : Key) : partsOf key.text = key.segments.map Segment.chars := by
  rw [partsOf, text, String.toList_ofList, split_chars]

theorem Key.length_partsOf_text (key : Key) : (partsOf key.text).length = key.segments.length := by
  rw [partsOf_text, List.length_map]

/-! ## Texts of selectors -/

/-- What may stand between the dots of a selector: an asterisk, or characters none of which is one. -/
def IsSelectorPart (part : List Char) : Prop := part ≠ [] ∧ (part = ['*'] ∨ '*' ∉ part)

namespace Pattern

/-- A pattern for one segment has other characters than the asterisk. -/
theorem chars_exactly_ne (segment : Segment) : segment.chars ≠ ['*'] := fun h =>
  segment.isSegment.2.2 (h ▸ List.mem_singleton_self '*')

theorem of?_eq_some_iff {part : List Char} {pattern : Pattern} :
    of? part = some pattern ↔ pattern.chars = part := by
  unfold of?
  split
  next h =>
    subst h
    cases pattern with
    | any => simp [chars]
    | exactly segment => simp [chars, chars_exactly_ne]
  next h =>
    cases pattern with
    | any => simp [chars, Ne.symm h]
    | exactly segment => simp [chars, Segment.of?_eq_some_iff]

theorem isSelectorPart_chars (pattern : Pattern) : IsSelectorPart pattern.chars := by
  cases pattern with
  | any => exact ⟨List.cons_ne_nil _ _, .inl rfl⟩
  | exactly segment => exact ⟨segment.isSegment.1, .inr segment.isSegment.2.2⟩

/-- What stands between dots holds none, so it is a pattern if it may stand in a selector. -/
theorem exists_chars_eq {part : List Char} (hdot : '.' ∉ part) (h : IsSelectorPart part) :
    ∃ pattern : Pattern, pattern.chars = part := by
  obtain ⟨hne, rfl | hstar⟩ := h
  · exact ⟨any, rfl⟩
  · exact ⟨exactly ⟨part, hne, hdot, hstar⟩, rfl⟩

theorem covers_iff {pattern : Pattern} {segment : Segment} :
    pattern.covers segment = true ↔ pattern.chars = ['*'] ∨ pattern.chars = segment.chars := by
  cases pattern with
  | any => simp [covers, chars]
  | exactly s =>
    have hequal : s = segment ↔ s.chars = segment.chars := by
      cases s
      cases segment
      simp
    simp [covers, chars, chars_exactly_ne, hequal]

end Pattern

namespace Selector

variable {text : String} {selector : Selector} {error : Error}

/-- The parts of a text that is read as a selector are the characters of its patterns. -/
theorem parse_eq_ok_iff :
    parse text = .ok selector ↔
      partsOf text = selector.patterns.map Pattern.chars := by
  have hpatterns {patterns : List Pattern} :
      (Text.split '.' text.toList).mapM Pattern.of? = some patterns ↔
        patterns.map Pattern.chars = partsOf text :=
    mapM_eq_some_iff_map fun _ _ => Pattern.of?_eq_some_iff
  constructor
  · intro h
    unfold parse at h
    dsimp only at h
    split at h
    · cases h
    split at h
    next first rest hread =>
      obtain rfl := Except.ok.inj h
      exact (hpatterns.mp hread).symm
    next => cases h
  · intro h
    have hne : [] ∉ Text.split '.' text.toList := by
      intro hempty
      rw [← partsOf, h] at hempty
      obtain ⟨pattern, -, hchars⟩ := List.mem_map.mp hempty
      exact pattern.isSelectorPart_chars.1 hchars
    unfold parse
    dsimp only
    rw [if_neg hne, hpatterns.mpr h.symm]
    rfl

/-- A text is a selector if each of its parts may stand in one. -/
theorem exists_parse_iff :
    (∃ selector, parse text = .ok selector) ↔
      ∀ part ∈ partsOf text, IsSelectorPart part := by
  constructor
  · rintro ⟨selector, h⟩ part hpart
    rw [parse_eq_ok_iff.mp h] at hpart
    obtain ⟨pattern, -, rfl⟩ := List.mem_map.mp hpart
    exact pattern.isSelectorPart_chars
  · intro h
    have hrange : partsOf text ∈ Set.range (List.map Pattern.chars) := by
      rw [Set.range_list_map]
      exact fun part hpart =>
        Pattern.exists_chars_eq (fun hdot => (Text.mem_of_mem_split hpart hdot).2 rfl) (h part hpart)
    obtain ⟨patterns, hpatterns⟩ := hrange
    cases patterns with
    | nil => exact absurd hpatterns.symm (Text.split_ne_nil _ _)
    | cons first rest => exact ⟨⟨first, rest⟩, parse_eq_ok_iff.mpr hpatterns.symm⟩

end Selector

/-! ## Matching -/

/-- What the parts of a selector say about the parts of a key. -/
@[mk_iff]
structure Selects (parts segments : List (List Char)) : Prop where
  /-- A part that is not the last one is an asterisk or stands in the key, in the same place. -/
  inner : ∀ i, i + 1 < parts.length → parts[i]? = some ['*'] ∨ parts[i]? = segments[i]?
  /-- A last part that is an asterisk stands for one or more parts, and any other one for the last
  part of a key of the same length. -/
  last : parts.getLast? = some ['*'] ∧ parts.length ≤ segments.length ∨
    parts.getLast? ≠ some ['*'] ∧ segments.length = parts.length ∧
      parts.getLast? = segments.getLast?

namespace Selects

variable {part segment : List Char} {parts segments : List (List Char)}

theorem singleton_iff :
    Selects [part] segments ↔ part = ['*'] ∧ segments ≠ [] ∨ part ≠ ['*'] ∧ segments = [part] := by
  have hinner : ∀ i, i + 1 < [part].length → [part][i]? = some ['*'] ∨ [part][i]? = segments[i]? :=
    fun i hi => absurd hi (by simp)
  rw [selects_iff, and_iff_right hinner, List.getLast?_singleton, ne_eq, Option.some_inj]
  refine or_congr (and_congr_right fun _ => ?_) (and_congr_right fun _ => ?_)
  · exact List.length_pos_iff
  · constructor
    · rintro ⟨hlength, hlast⟩
      obtain ⟨segment, rfl⟩ := List.length_eq_one_iff.mp hlength
      rw [List.getLast?_singleton, Option.some_inj] at hlast
      rw [hlast]
    · rintro rfl
      exact ⟨rfl, rfl⟩

theorem not_nil (h : parts ≠ []) : ¬Selects parts [] := by
  have hpos := List.length_pos_of_ne_nil h
  rintro ⟨-, ⟨-, hlength⟩ | ⟨-, hlength, -⟩⟩
  · exact absurd hlength (Nat.not_le.mpr hpos)
  · exact absurd hlength (Nat.ne_of_lt hpos)

/-- The first part is compared with the first part of the key, the others with the others. -/
theorem cons_iff (h : parts ≠ []) :
    Selects (part :: parts) (segment :: segments) ↔
      (part = ['*'] ∨ part = segment) ∧ Selects parts segments := by
  have hpos := List.length_pos_of_ne_nil h
  have hinner : (∀ i, i + 1 < (part :: parts).length →
      (part :: parts)[i]? = some ['*'] ∨ (part :: parts)[i]? = (segment :: segments)[i]?) ↔
      (part = ['*'] ∨ part = segment) ∧
        ∀ i, i + 1 < parts.length → parts[i]? = some ['*'] ∨ parts[i]? = segments[i]? := by
    rw [← Nat.and_forall_add_one]
    simp [hpos]
  -- The last parts are those of the others, as keys of the same length have others as well.
  have hlast (hlength : segments.length = parts.length) :
      (segment :: segments).getLast? = segments.getLast? :=
    List.getLast?_cons_of_ne_nil (List.ne_nil_of_length_pos (hlength ▸ hpos))
  rw [selects_iff, selects_iff, hinner, and_assoc, List.getLast?_cons_of_ne_nil h,
    List.length_cons, List.length_cons, Nat.add_le_add_iff_right, Nat.add_right_cancel_iff]
  refine and_congr_right fun _ => and_congr_right fun _ => or_congr_right <|
    and_congr_right fun _ => and_congr_right fun hlength => ?_
  rw [hlast hlength]

/-- What a last asterisk selects it selects together with what lies below. -/
theorem of_isPrefix {more : List (List Char)} (hstar : parts.getLast? = some ['*'])
    (h : Selects parts segments) (hbelow : segments <+: more) : Selects parts more := by
  obtain ⟨hinner, ⟨-, hlength⟩ | ⟨hnot, -⟩⟩ := h
  · obtain ⟨below, rfl⟩ := hbelow
    refine ⟨fun i hi => ?_, .inl ⟨hstar, ?_⟩⟩
    · rw [List.getElem?_append_left (Nat.lt_of_lt_of_le (Nat.lt_of_succ_lt hi) hlength)]
      exact hinner i hi
    · rw [List.length_append]
      exact Nat.le_add_right_of_le hlength
  · exact absurd hstar hnot

theorem length_le (h : Selects parts segments) : parts.length ≤ segments.length := by
  obtain ⟨-, ⟨-, hlength⟩ | ⟨-, hlength, -⟩⟩ := h
  · exact hlength
  · exact Nat.le_of_eq hlength.symm

theorem length_eq (hstar : parts.getLast? ≠ some ['*']) (h : Selects parts segments) :
    segments.length = parts.length := by
  obtain ⟨-, ⟨h, -⟩ | ⟨-, hlength, -⟩⟩ := h
  · exact absurd h hstar
  · exact hlength

end Selects

namespace Selector

variable {text : String} {selector : Selector} {key : Key}

/-- A last pattern for one segment covers that segment alone. -/
theorem coverAll_exactly_iff {pattern segment : Segment} {segments : List Segment} :
    coverAll [.exactly pattern] (segment :: segments) = true ↔
      Selects [pattern.chars] ((segment :: segments).map Segment.chars) := by
  rw [Selects.singleton_iff, coverAll, Bool.and_eq_true, coverAll, List.isEmpty_iff,
    Pattern.covers_iff]
  · have hne := Pattern.chars_exactly_ne pattern
    simp only [Pattern.chars, hne, false_or, false_and, ne_eq, not_false_eq_true, true_and,
      List.map_cons, List.cons.injEq, List.map_eq_nil_iff]
    rw [eq_comm]
  · exact fun h => nomatch h

/-- The scan agrees with what the parts say, for the patterns that are left and the segments that are
left. -/
theorem coverAll_iff {patterns : List Pattern} {segments : List Segment} (h : patterns ≠ []) :
    coverAll patterns segments = true ↔
      Selects (patterns.map Pattern.chars) (segments.map Segment.chars) := by
  -- A last asterisk ends the scan; before it, and where there is none, it goes on part by part.
  fun_induction coverAll patterns segments with
  | case1 segments => exact absurd rfl h
  | case2 pattern patterns => simp [Selects.not_nil]
  | case3 segment segments => simp [Selects.singleton_iff, Pattern.chars]
  | case4 pattern patterns segment segments hnot ih =>
    cases patterns with
    | nil =>
      cases pattern with
      | any => exact absurd rfl (hnot rfl)
      | exactly pattern => exact coverAll_exactly_iff
    | cons next patterns =>
      rw [Bool.and_eq_true, ih (List.cons_ne_nil _ _), Pattern.covers_iff]
      exact (Selects.cons_iff (List.cons_ne_nil _ _)).symm

/-- A selector matches what its text says. -/
theorem covers_iff (h : parse text = .ok selector) :
    selector.covers key = true ↔ Selects (partsOf text) (partsOf key.text) := by
  rw [parse_eq_ok_iff.mp h, Key.partsOf_text]
  exact coverAll_iff (List.cons_ne_nil _ _)

end Selector

/-! ## Filters -/

namespace Filter

variable {texts : List String} {filter : Filter} {key : Key}

theorem mapM_of_parse (h : parse texts = .ok filter) :
    texts.mapM Selector.parse = .ok filter.selectors := by
  obtain ⟨selectors, hread, h⟩ := bind_ok h
  rw [hread, ← Except.ok.inj h]

/-- A filter of written selectors admits what one of them selects. -/
theorem admits_iff_of_parse (h : parse texts = .ok filter) :
    filter.admits key = true ↔ ∃ text ∈ texts, Selects (partsOf text) (partsOf key.text) := by
  have hread := forall₂_of_mapM_eq_ok (mapM_of_parse h)
  rw [admits_iff]
  generalize filter.selectors = selectors at hread ⊢
  clear h
  induction hread with
  | nil => simp
  | cons hselector _ ih => simp [Selector.covers_iff hselector, ih]

theorem admits_all (key : Key) : all.admits key = true := rfl

end Filter

/-- **Selectors and filters mean what they say.** A text is a selector exactly if what stands between
its dots is never empty and has no asterisk but one that stands alone. Such a selector matches the keys
that its parts select. If it ends in an asterisk, it matches with a key everything below it, and no key
with fewer parts than it has, such as the one that is left without the asterisk; if not, it matches only
keys of its own length. A filter admits what one of its selectors matches, so the one of the asterisk
admits every key, and the one without selectors none. -/
theorem selectors_decide :
    (∀ text, (∃ selector, Selector.parse text = .ok selector) ↔
        ∀ part ∈ partsOf text, part ≠ [] ∧ (part = ['*'] ∨ '*' ∉ part)) ∧
      (∀ text selector, Selector.parse text = .ok selector →
        (∀ key, selector.covers key = true ↔ Selects (partsOf text) (partsOf key.text)) ∧
        ((partsOf text).getLast? = some ['*'] → ∀ key,
          (selector.covers key = true → ∀ below, below.StartsWith key → selector.covers below = true) ∧
          (key.segments.length < (partsOf text).length → selector.covers key = false)) ∧
        ((partsOf text).getLast? ≠ some ['*'] → ∀ key, selector.covers key = true →
          key.segments.length = (partsOf text).length)) ∧
      (∀ (filter : Filter) (key : Key), filter.admits key = true ↔
        ∃ selector ∈ filter.selectors, selector.covers key = true) ∧
      (∀ texts filter, Filter.parse texts = .ok filter → ∀ key, filter.admits key = true ↔
        ∃ text ∈ texts, Selects (partsOf text) (partsOf key.text)) ∧
      ∀ key, Filter.all.admits key = true ∧ Filter.none.admits key = false := by
  refine ⟨fun text => Selector.exists_parse_iff, fun text selector h => ⟨?_, ?_, ?_⟩,
    fun _ _ => Filter.admits_iff, fun _ _ h _ => Filter.admits_iff_of_parse h,
    fun key => ⟨Filter.admits_all key, rfl⟩⟩
  · exact fun key => Selector.covers_iff h
  · intro hstar key
    refine ⟨fun hcovers below hbelow => ?_, fun hshort => Bool.eq_false_iff.mpr fun hcovers => ?_⟩
    · have hselects := (Selector.covers_iff h).mp hcovers
      refine (Selector.covers_iff h).mpr (hselects.of_isPrefix hstar ?_)
      rw [Key.partsOf_text, Key.partsOf_text]
      exact List.IsPrefix.map _ hbelow
    · have hle := ((Selector.covers_iff h).mp hcovers).length_le
      rw [Key.length_partsOf_text] at hle
      exact absurd hshort (Nat.not_lt.mpr hle)
  · intro hstar key hcovers
    rw [← Key.length_partsOf_text]
    exact ((Selector.covers_iff h).mp hcovers).length_eq hstar

namespace Aws

def aws : Segment := ⟨['a', 'w', 's'], by decide⟩

def s3 : Segment := ⟨['s', '3'], by decide⟩

def region : Segment := ⟨['r', 'e', 'g', 'i', 'o', 'n'], by decide⟩

/-- Asterisks in the middle and at the end. -/
def selector : Selector := ⟨.exactly aws, [.any, .any]⟩

/-- A selector with two asterisks matches with a key what lies below it, but not what is left without
its last asterisk; one that ends in a segment is as long as its keys. -/
theorem selectors_decide_aws :
    (∀ below : Key, below.StartsWith ⟨aws, [s3, region]⟩ → selector.covers below = true) ∧
      selector.covers ⟨aws, [s3]⟩ = false ∧
      (∀ key, (⟨.exactly aws, [.any, .exactly region]⟩ : Selector).covers key = true →
        key.segments.length = 3) ∧
      ¬∃ selector, Selector.parse "aws.s*.region" = .ok selector := by
  obtain ⟨hparse, hselector, -⟩ := selectors_decide
  obtain ⟨-, hstar, -⟩ := hselector "aws.*.*" selector rfl
  obtain ⟨-, -, hexact⟩ := hselector "aws.*.region" ⟨.exactly aws, [.any, .exactly region]⟩ rfl
  refine ⟨(hstar rfl _).1 rfl, (hstar rfl _).2 (by decide), hexact (by decide), ?_⟩
  rw [hparse]
  intro h
  exact absurd (h ['s', '*'] (by decide)) (by decide)

end Aws

end RetrySafe.Secret
