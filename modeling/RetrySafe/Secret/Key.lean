import RetrySafe.Text.Separated

/-!
# Secret keys

A key is a list of one or more segments, written with dots between them, such as `pg.password`. A
segment is not empty and holds neither a dot nor an asterisk.

## Main definitions

* `Segment`, `Key` — segments and keys.
* `Key.text`, `Key.parse` — the written form and its reader.
* `Key.join` — a key below another.
* `Key.StartsWith` — a key equals another or lies below it.

## Main results

* `Key.parse_text` — the written form of a key reads back.
* `Key.segments_join` — the segments of a joined key.
-/

namespace RetrySafe.Secret

/-- What a segment has to be. -/
def IsSegment (chars : List Char) : Prop := chars ≠ [] ∧ '.' ∉ chars ∧ '*' ∉ chars

instance (chars : List Char) : Decidable (IsSegment chars) := by unfold IsSegment; infer_instance

/-- A part of a key between dots. -/
structure Segment where
  chars : List Char
  isSegment : IsSegment chars
  deriving DecidableEq

/-- The segment written as a text, if it is one. -/
def Segment.of? (chars : List Char) : Option Segment :=
  if h : IsSegment chars then some ⟨chars, h⟩ else none

/-- A key. -/
structure Key where
  first : Segment
  rest : List Segment
  deriving DecidableEq

/-- Why a text is not a key or not a selector. -/
inductive Flaw
  | emptyKey
  | wildcardInKey
  | emptySegmentInKey
  | emptySegmentInSelector
  | partialWildcard
  deriving DecidableEq, Repr

/-- The phrase for a flaw. -/
def Flaw.reason : Flaw → String
  | emptyKey => "key is empty"
  | wildcardInKey => "wildcards are not allowed"
  | emptySegmentInKey => "key contains an empty segment"
  | emptySegmentInSelector => "selector contains an empty segment"
  | partialWildcard => "'*' must be a whole segment"

namespace Key

/-- The segments from the first on. -/
def segments (key : Key) : List Segment := key.first :: key.rest

/-- The characters of the written form. -/
def chars (key : Key) : List Char := Text.join '.' (key.segments.map Segment.chars)

/-- The written form. -/
def text (key : Key) : String := String.ofList key.chars

/-- A key with more segments. -/
def extend (key : Key) (more : List Segment) : Key := ⟨key.first, key.rest ++ more⟩

/-- The key `relative` below another key. -/
def join (key relative : Key) : Key := key.extend relative.segments

/-- A key equals `base` or lies below it. -/
def StartsWith (key base : Key) : Prop := base.segments <+: key.segments

instance (key base : Key) : Decidable (key.StartsWith base) := by
  unfold StartsWith; infer_instance

/-- The order of keys is that of their texts. -/
def order (a b : Key) : Ordering := compare a.text b.text

/-- Read a key. An empty text, an asterisk and an empty segment are refused, in this order. -/
def parse (text : String) : Except Flaw Key :=
  if text.toList = [] then .error .emptyKey
  else if '*' ∈ text.toList then .error .wildcardInKey
  else
    match (Text.split '.' text.toList).mapM Segment.of? with
    | some (first :: rest) => .ok ⟨first, rest⟩
    | _ => .error .emptySegmentInKey

theorem segments_extend (key : Key) (more : List Segment) :
    (key.extend more).segments = key.segments ++ more := rfl

theorem segments_join (key relative : Key) :
    (key.join relative).segments = key.segments ++ relative.segments := rfl

theorem mapM_of?_map_chars (segments : List Segment) :
    (segments.map Segment.chars).mapM Segment.of? = some segments := by
  induction segments with
  | nil => rfl
  | cons s segments ih => simp [List.mapM_cons, Segment.of?, s.isSegment, ih]

theorem split_chars (key : Key) :
    Text.split '.' key.chars = key.segments.map Segment.chars := by
  refine Text.split_join (by simp [segments]) ?_
  intro part h
  obtain ⟨s, -, rfl⟩ := List.mem_map.1 h
  exact s.isSegment.2.1

/-- A key has a first character, and no asterisk. -/
theorem chars_ne_nil (key : Key) : key.chars ≠ [] := by
  intro h
  have := split_chars key
  rw [h] at this
  simp only [Text.split, segments, List.map_cons] at this
  exact key.first.isSegment.1 (List.cons.inj this).1.symm

theorem mem_join {sep c : Char} {parts : List (List Char)} (h : c ∈ Text.join sep parts) :
    c = sep ∨ ∃ part ∈ parts, c ∈ part := by
  induction parts with
  | nil => simp [Text.join] at h
  | cons part parts ih =>
    cases parts with
    | nil => exact Or.inr ⟨part, by simp, by simpa [Text.join] using h⟩
    | cons next parts =>
      rw [Text.join_cons_of_ne_nil (by simp)] at h
      simp only [List.mem_append, List.mem_cons] at h
      rcases h with h | h | h
      · exact Or.inr ⟨part, by simp, h⟩
      · exact Or.inl h
      · rcases ih h with h | ⟨p, hp, h⟩
        · exact Or.inl h
        · exact Or.inr ⟨p, by simp [hp], h⟩

theorem wildcard_not_mem_chars (key : Key) : '*' ∉ key.chars := by
  intro h
  rcases mem_join h with h | ⟨part, hp, h⟩
  · exact absurd h (by decide)
  · obtain ⟨s, -, rfl⟩ := List.mem_map.1 hp
    exact s.isSegment.2.2 h

/-- The written form of a key reads back. -/
theorem parse_text (key : Key) : parse key.text = .ok key := by
  have hs : (Text.split '.' key.chars).mapM Segment.of? = some key.segments := by
    rw [split_chars, mapM_of?_map_chars]
  simp [parse, text, chars_ne_nil, wildcard_not_mem_chars, hs, segments]

end Key

end RetrySafe.Secret
