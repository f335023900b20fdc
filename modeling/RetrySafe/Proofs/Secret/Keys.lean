import Mathlib.Data.List.Basic
import RetrySafe.Secret.Error

/-!
# Keys and their texts

A text is a key if it is not empty, has no asterisk and no empty part between dots. Reading it gives the
one key that is written like that; of several flaws the first in this order is the one reported.

## Main definitions

* `HasFlaw` — what is wrong with a text that is no key.

## Main results

* `Key.text_of_parse` — a key is written as the text it was read from.
* `Key.parse_eq_error_iff` — a text that has a flaw is refused for it.
* `exists_flaw_iff` — a text has a flaw unless a key is written like that.
-/

namespace RetrySafe

namespace Text

/-- The parts of a text hold its characters but the separators. -/
theorem mem_of_mem_split {sep c : Char} {part cs : List Char} (hpart : part ∈ split sep cs)
    (hc : c ∈ part) : c ∈ cs ∧ c ≠ sep := by
  induction cs generalizing part with
  | nil =>
    obtain rfl := List.mem_singleton.mp hpart
    exact absurd hc List.not_mem_nil
  | cons d cs ih =>
    rw [split] at hpart
    by_cases hsep : d = sep
    · rw [if_pos hsep] at hpart
      rcases List.mem_cons.mp hpart with rfl | hpart
      · exact absurd hc List.not_mem_nil
      · exact ⟨List.mem_cons_of_mem _ (ih hpart hc).1, (ih hpart hc).2⟩
    rw [if_neg hsep] at hpart
    cases hparts : split sep cs with
    | nil => exact absurd hparts (split_ne_nil sep cs)
    | cons first parts =>
      rw [hparts] at hpart ih
      rcases List.mem_cons.mp hpart with rfl | hpart
      · rcases List.mem_cons.mp hc with rfl | hc
        · exact ⟨List.mem_cons_self, hsep⟩
        · have := ih List.mem_cons_self hc
          exact ⟨List.mem_cons_of_mem _ this.1, this.2⟩
      · have := ih (List.mem_cons_of_mem _ hpart) hc
        exact ⟨List.mem_cons_of_mem _ this.1, this.2⟩

end Text

namespace Secret

theorem Segment.of?_eq_some_iff {chars : List Char} {segment : Segment} :
    Segment.of? chars = some segment ↔ segment.chars = chars := by
  unfold Segment.of?
  split
  next h =>
    rw [Option.some_inj]
    exact ⟨fun e => e ▸ rfl, fun e => by subst e; rfl⟩
  next h =>
    constructor
    · intro e
      cases e
    · rintro rfl
      exact absurd segment.isSegment h

theorem Segment.chars_injective : Function.Injective Segment.chars := by
  rintro ⟨chars, _⟩ ⟨_, _⟩ rfl
  rfl

/-- Reading undoes writing in a whole list if it does so in each place. -/
theorem mapM_eq_some_iff_map {α β : Type} {read : α → Option β} {write : β → α}
    (h : ∀ a b, read a = some b ↔ write b = a) {as : List α} {bs : List β} :
    as.mapM read = some bs ↔ bs.map write = as := by
  induction as generalizing bs with
  | nil => cases bs <;> simp
  | cons a as ih => cases bs <;> simp [List.mapM_cons, Option.bind_eq_some_iff, h, ih]

theorem mapM_of?_eq_some_iff {parts : List (List Char)} {segments : List Segment} :
    parts.mapM Segment.of? = some segments ↔ segments.map Segment.chars = parts :=
  mapM_eq_some_iff_map fun _ _ => Segment.of?_eq_some_iff

/-- Parts of which each is a segment. -/
theorem exists_mapM_of? {parts : List (List Char)} (h : ∀ part ∈ parts, IsSegment part) :
    ∃ segments, parts.mapM Segment.of? = some segments := by
  refine ⟨parts.pmap Segment.mk h, mapM_of?_eq_some_iff.mpr ?_⟩
  rw [List.map_pmap, List.pmap_eq_map, List.map_id']

/-- What is wrong with a text that is no key. -/
inductive HasFlaw (text : String) : Flaw → Prop
  | empty (h : text = "") : HasFlaw text .emptyKey
  | wildcard (h : '*' ∈ text.toList) : HasFlaw text .wildcardInKey
  | segment (hne : text ≠ "") (hwildcard : '*' ∉ text.toList)
      (h : [] ∈ Text.split '.' text.toList) : HasFlaw text .emptySegmentInKey

/-- The parts of a text without asterisks are segments unless they are empty. -/
theorem isSegment_of_mem_split {text : String} (hwildcard : '*' ∉ text.toList) {part : List Char}
    (hpart : part ∈ Text.split '.' text.toList) (hne : part ≠ []) : IsSegment part :=
  ⟨hne, fun hdot => (Text.mem_of_mem_split hpart hdot).2 rfl,
    fun hstar => hwildcard (Text.mem_of_mem_split hpart hstar).1⟩

namespace Key

variable {text : String} {key : Key} {flaw : Flaw}

/-- A key is written as the text it was read from. -/
theorem text_of_parse (h : parse text = .ok key) : key.text = text := by
  unfold parse at h
  split at h
  · cases h
  split at h
  · cases h
  split at h
  · rename_i first rest hsegments
    cases h
    have hchars : chars ⟨first, rest⟩ = text.toList := by
      rw [chars, segments, mapM_of?_eq_some_iff.mp hsegments, Text.join_split]
    rw [Key.text, hchars, String.ofList_toList]
  · cases h

theorem text_injective {other : Key} (h : key.text = other.text) : key = other := by
  have hparse := key.parse_text
  rw [h, other.parse_text] at hparse
  exact (Except.ok.inj hparse).symm

/-- A text that has a flaw is refused for it. -/
theorem parse_of_hasFlaw (h : HasFlaw text flaw) : parse text = .error flaw := by
  cases h with
  | empty h =>
    subst h
    rfl
  | wildcard h =>
    have hne : text.toList ≠ [] := List.ne_nil_of_mem h
    rw [parse, if_neg hne, if_pos h]
  | segment hne hwildcard h =>
    rw [parse, if_neg (mt String.toList_eq_nil_iff.mp hne), if_neg hwildcard]
    have hfails : ∀ first rest,
        (Text.split '.' text.toList).mapM Segment.of? ≠ some (first :: rest) := by
      intro first rest hsome
      -- An empty part would have to be the characters of a segment.
      rw [← mapM_of?_eq_some_iff.mp hsome] at h
      obtain ⟨segment, -, hempty⟩ := List.mem_map.mp h
      exact segment.isSegment.1 hempty
    split
    · rename_i first rest hsome
      exact absurd hsome (hfails first rest)
    · rfl

/-- A text without a flaw is a key. -/
theorem exists_flaw_or_parse (text : String) :
    (∃ flaw, HasFlaw text flaw) ∨ ∃ key, parse text = .ok key := by
  by_cases hempty : text = ""
  · exact .inl ⟨_, .empty hempty⟩
  by_cases hwildcard : '*' ∈ text.toList
  · exact .inl ⟨_, .wildcard hwildcard⟩
  by_cases hsegment : [] ∈ Text.split '.' text.toList
  · exact .inl ⟨_, .segment hempty hwildcard hsegment⟩
  obtain ⟨segments, hsegments⟩ := exists_mapM_of? fun part hpart =>
    isSegment_of_mem_split hwildcard hpart fun e => hsegment (e ▸ hpart)
  rw [parse, if_neg (mt String.toList_eq_nil_iff.mp hempty), if_neg hwildcard, hsegments]
  cases segments with
  | nil => exact absurd (mapM_of?_eq_some_iff.mp hsegments).symm (Text.split_ne_nil _ _)
  | cons first rest => exact .inr ⟨_, rfl⟩

/-- A text is refused for the flaw that it has. -/
theorem parse_eq_error_iff : parse text = .error flaw ↔ HasFlaw text flaw := by
  refine ⟨fun h => ?_, parse_of_hasFlaw⟩
  obtain ⟨other, hflaw⟩ | ⟨key, hkey⟩ := exists_flaw_or_parse text
  · rw [parse_of_hasFlaw hflaw] at h
    exact Except.error.inj h ▸ hflaw
  · rw [hkey] at h
    cases h

theorem read_text (key : Key) : read key.text = .ok key := by
  rw [read, parse_text]

theorem read_of_hasFlaw (h : HasFlaw text flaw) : read text = .error (.illegal text flaw) := by
  rw [read, parse_of_hasFlaw h]

end Key

/-- A text has a flaw unless a key is written like that. -/
theorem exists_flaw_iff {text : String} :
    (∃ flaw, HasFlaw text flaw) ↔ ∀ key : Key, key.text ≠ text := by
  constructor
  · rintro ⟨flaw, hflaw⟩ key rfl
    have hparse := Key.parse_of_hasFlaw hflaw
    rw [key.parse_text] at hparse
    cases hparse
  · intro h
    obtain hflaw | ⟨key, hkey⟩ := Key.exists_flaw_or_parse text
    · exact hflaw
    · exact absurd (Key.text_of_parse hkey) (h key)

end Secret

end RetrySafe
