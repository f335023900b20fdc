import Mathlib.Data.List.Infix
import RetrySafe.Proofs.Results
import RetrySafe.Proofs.Secret.Views

/-!
# Keys and what lies below them

A key is as good as its text: cut at its dots, the text gives the segments, and a key below another one
is written with a dot between the two. So to lie below a key is to go on behind it after a dot. This
orders keys like the places of a tree, and a policy opens what lies below its bases; a key that only begins
with the same characters as a base is not opened.

## Main results

* `Text.split_eq_splitOn` — texts are cut as lists are.
* `Key.exists_parse_iff`, `Key.exists_parse_intercalate` — the texts that are keys.
* `Key.text_join_eq_foldl` — a key below another is written segment by segment.
* `Key.startsWith_iff_join`, `Key.startsWith_iff_text` — a key and what lies below it.
* `Policy.under_iff_exists_text`, `Policy.under_join` — what a policy opens, by its texts and below a key.
* `keys_compose` — keys as texts, below one another, and under a policy.
-/

namespace RetrySafe

/-- Texts are cut as lists are. -/
theorem Text.split_eq_splitOn (sep : Char) (cs : List Char) : split sep cs = cs.splitOn sep := by
  induction cs with
  | nil => rfl
  | cons c cs ih =>
    rw [split, List.splitOn_cons_eq_if_modifyHead, ih]
    by_cases hsep : c = sep
    · rw [if_pos hsep, if_pos (beq_iff_eq.mpr hsep)]
    · rw [if_neg hsep, if_neg (mt beq_iff_eq.mp hsep)]
      cases hparts : cs.splitOn sep with
      | nil => exact absurd hparts (List.splitOn_ne_nil sep cs)
      | cons part parts => rfl

namespace Secret

namespace Key

variable {a b c key base other relative : Key} {text : String}

/-! ## Texts -/

theorem ext_segments (h : key.segments = other.segments) : key = other := by
  obtain ⟨first, rest⟩ := key
  obtain ⟨rfl, rfl⟩ := List.cons.inj h
  rfl

/-- The segments of a key stand between the dots of its text. -/
theorem splitOn_text (key : Key) : key.text.toList.splitOn '.' = key.segments.map Segment.chars := by
  rw [text, String.toList_ofList, ← Text.split_eq_splitOn, split_chars]

theorem parse_eq_ok_iff : parse text = .ok key ↔ key.text = text :=
  ⟨text_of_parse, fun h => h ▸ key.parse_text⟩

/-- Which texts are keys. -/
theorem exists_parse_iff : (∃ key, parse text = .ok key) ↔
    text ≠ "" ∧ '*' ∉ text.toList ∧ [] ∉ text.toList.splitOn '.' := by
  rw [← Text.split_eq_splitOn]
  constructor
  · rintro ⟨key, hkey⟩
    -- A flaw would have been reported.
    have hnone (flaw : Flaw) : ¬HasFlaw text flaw := fun hflaw => by
      rw [parse_of_hasFlaw hflaw] at hkey
      cases hkey
    have hne : text ≠ "" := fun h => hnone _ (.empty h)
    have hwildcard : '*' ∉ text.toList := fun h => hnone _ (.wildcard h)
    exact ⟨hne, hwildcard, fun h => hnone _ (.segment hne hwildcard h)⟩
  · rintro ⟨hne, hwildcard, hsegment⟩
    obtain ⟨flaw, hflaw⟩ | hkey := exists_flaw_or_parse text
    · cases hflaw with
      | empty h => exact absurd h hne
      | wildcard h => exact absurd h hwildcard
      | segment _ _ h => exact absurd h hsegment
    · exact hkey

/-- Parts that may be segments make up a key with dots between them. -/
theorem exists_parse_intercalate {parts : List (List Char)} (hne : parts ≠ [])
    (hparts : ∀ part ∈ parts, IsSegment part) :
    ∃ key, parse (String.ofList (['.'].intercalate parts)) = .ok key ∧
      key.segments.map Segment.chars = parts := by
  obtain ⟨segments, hsegments⟩ := exists_mapM_of? hparts
  obtain rfl := mapM_of?_eq_some_iff.mp hsegments
  cases segments with
  | nil => exact absurd rfl hne
  | cons first rest =>
    -- The text of these segments is cut into them, and so it is them with dots between.
    have htext : text ⟨first, rest⟩ =
        String.ofList (['.'].intercalate ((first :: rest).map Segment.chars)) := by
      change _ = String.ofList (['.'].intercalate ((segments ⟨first, rest⟩).map Segment.chars))
      rw [← splitOn_text, List.intercalate_splitOn, String.ofList_toList]
    exact ⟨⟨first, rest⟩, parse_eq_ok_iff.mpr htext, rfl⟩

/-- The segments are written one after the other, each behind a dot. -/
theorem text_extend_eq_foldl (key : Key) (more : List Segment) :
    (key.extend more).text =
      (more.map Segment.chars).foldl (fun text part => text ++ "." ++ String.ofList part) key.text := by
  -- What is written at any time is the text of a key, to which the other segments are added.
  induction more generalizing key with
  | nil => rw [extend, List.append_nil, List.map_nil, List.foldl_nil]
  | cons segment more ih =>
    have hone : (key.extend [segment]).text = key.text ++ "." ++ String.ofList segment.chars := by
      rw [text, chars_extend, List.flatMap_singleton, String.ofList_append, String.ofList_cons,
        String.append_assoc]
      rfl
    have hmore : key.extend (segment :: more) = (key.extend [segment]).extend more :=
      ext_segments (by simp [segments_extend])
    rw [hmore, ih, hone, List.map_cons, List.foldl_cons]

/-- A key below another is written segment by segment. -/
theorem text_join_eq_foldl (key relative : Key) :
    (key.join relative).text = (relative.text.toList.splitOn '.').foldl
      (fun text part => text ++ "." ++ String.ofList part) key.text := by
  rw [join, text_extend_eq_foldl, splitOn_text]

theorem join_left_cancel (h : base.join relative = base.join other) : relative = other := by
  have htext := congrArg text h
  rw [text_join, text_join, String.append_right_inj] at htext
  exact text_injective htext

/-! ## The order of keys -/

theorem startsWith_self (key : Key) : key.StartsWith key := List.prefix_rfl

theorem StartsWith.trans (h : a.StartsWith b) (h' : b.StartsWith c) : a.StartsWith c :=
  List.IsPrefix.trans h' h

theorem StartsWith.antisymm (h : a.StartsWith b) (h' : b.StartsWith a) : a = b :=
  ext_segments (List.IsPrefix.eq_of_length_le h' (List.IsPrefix.length_le h))

/-- Two keys that a third one starts with lie on one way to it. -/
theorem StartsWith.or (h : c.StartsWith a) (h' : c.StartsWith b) : a.StartsWith b ∨ b.StartsWith a :=
  (List.prefix_or_prefix_of_prefix h h').symm

theorem startsWith_join (base relative : Key) : (base.join relative).StartsWith base :=
  List.prefix_append _ _

/-- A key lies below another one, or is it, if it is that one with a key below it. -/
theorem startsWith_iff_join :
    key.StartsWith base ↔ key = base ∨ ∃! relative, key = base.join relative := by
  constructor
  · intro h
    by_cases hsame : key = base
    · exact .inl hsame
    · obtain ⟨relative, rfl⟩ := isBelow_iff.mp ⟨h, hsame⟩
      exact .inr ⟨relative, rfl, fun _ hother => (join_left_cancel hother).symm⟩
  · rintro (rfl | ⟨relative, rfl, -⟩)
    · exact startsWith_self key
    · exact startsWith_join base relative

theorem startsWith_iff_splitOn :
    key.StartsWith base ↔ base.text.toList.splitOn '.' <+: key.text.toList.splitOn '.' := by
  rw [splitOn_text, splitOn_text]
  exact (List.prefix_map_iff_of_injective Segment.chars_injective).symm

/-- What is written behind a key and a dot lies below the key. -/
theorem startsWith_iff_text :
    key.StartsWith base ↔ key.text = base.text ∨ ∃ rest, key.text = base.text ++ "." ++ rest := by
  constructor
  · intro h
    obtain rfl | ⟨relative, rfl, -⟩ := startsWith_iff_join.mp h
    · exact .inl rfl
    · exact .inr ⟨relative.text, text_join base relative⟩
  · rintro (h | ⟨rest, h⟩)
    · rw [text_injective h]
      exact startsWith_self base
    · -- A dot ends a part, so what is before it is cut as the base is.
      have hchars : key.text.toList = base.text.toList ++ '.' :: rest.toList := by
        rw [h, String.toList_append, String.toList_append, List.append_assoc]
        rfl
      rw [startsWith_iff_splitOn, hchars, List.splitOn_append_cons_self]
      exact List.prefix_append _ _

end Key

/-! ## Policies -/

namespace Policy

variable {texts : List String} {bases : List Key} {context : Context} {key : Key}

/-- The bases of a policy are written as the texts that they were read from. -/
theorem texts_of_bases (h : Policy.bases texts = .ok bases) : texts = bases.map Key.text := by
  have hread {text : String} {base : Key} (h : Key.read text = .ok base) : text = base.text := by
    unfold Key.read at h
    split at h
    · rename_i hparse
      cases h
      exact (Key.text_of_parse hparse).symm
    · cases h
  have htexts := (forall₂_of_mapM_eq_ok h).imp fun _ _ => hread
  rwa [← List.forall₂_eq_eq_eq, List.forall₂_map_right_iff]

/-- What holds of the keys below one key, said by its text, holds of what a policy opens. -/
theorem under_iff_exists_text {Opens : String → Prop}
    (h : ∀ base : Key, key.StartsWith base ↔ Opens base.text) (hbases : Policy.bases texts = .ok bases) :
    under bases context key = true ↔ ∃ text ∈ texts, Opens text := by
  have hunder : under bases context key = true ↔ ∃ base ∈ bases, key.StartsWith base := under_iff
  rw [hunder, texts_of_bases hbases]
  constructor
  · rintro ⟨base, hbase, hkey⟩
    exact ⟨base.text, List.mem_map_of_mem hbase, (h base).mp hkey⟩
  · rintro ⟨_, htext, hkey⟩
    obtain ⟨base, hbase, rfl⟩ := List.mem_map.mp htext
    exact ⟨base, hbase, (h base).mpr hkey⟩

theorem under_join (h : under bases context key = true) (relative : Key) :
    under bases context (key.join relative) = true := by
  obtain ⟨base, hbase, hkey⟩ := under_iff.mp h
  exact under_iff.mpr ⟨base, hbase, hkey.trans (Key.startsWith_join key relative)⟩

end Policy

/-- **Keys compose.** A text is a key if it is not empty, has no asterisk, and has no empty part between
dots. The parts are the segments of the key, which make up the text again, and any parts that may be
segments make up a key. A key below another one is written with a dot between the two and has the
segments of both; it does not matter which keys are joined first. A key starts with another one if its
parts do, which is to be that key or to lie below it at one place only. This orders keys, and two keys that
a third one starts with are in order themselves. A policy opens the keys whose parts start with those of
one of its texts, so that a dot follows the text if anything does, and with a key all that lies below. -/
theorem keys_compose :
    (∀ text : String, (∃ key, Key.parse text = .ok key) ↔
        text ≠ "" ∧ '*' ∉ text.toList ∧ [] ∉ text.toList.splitOn '.') ∧
      (∀ text key, (Key.parse text = .ok key ↔ key.text = text) ∧
        key.segments.map Segment.chars = key.text.toList.splitOn '.' ∧
        ['.'].intercalate (key.segments.map Segment.chars) = key.text.toList) ∧
      (∀ parts : List (List Char), parts ≠ [] → (∀ part ∈ parts, IsSegment part) →
        ∃ key, Key.parse (String.ofList (['.'].intercalate parts)) = .ok key ∧
          key.segments.map Segment.chars = parts) ∧
      (∀ a b c : Key, (a.join b).join c = a.join (b.join c)) ∧
      (∀ a b : Key,
        (a.join b).text = (b.text.toList.splitOn '.').foldl
          (fun text part => text ++ "." ++ String.ofList part) a.text ∧
        Key.parse (a.text ++ "." ++ b.text) = .ok (a.join b) ∧
        (a.join b).segments = a.segments ++ b.segments) ∧
      (∀ a b : Key,
        (a.StartsWith b ↔ b.text.toList.splitOn '.' <+: a.text.toList.splitOn '.') ∧
        (a.StartsWith b ↔ a = b ∨ ∃! relative, a = b.join relative)) ∧
      (∀ a : Key, a.StartsWith a) ∧
      (∀ a b c : Key, a.StartsWith b → b.StartsWith c → a.StartsWith c) ∧
      (∀ a b : Key, a.StartsWith b → b.StartsWith a → a = b) ∧
      (∀ a b c : Key, c.StartsWith a → c.StartsWith b → a.StartsWith b ∨ b.StartsWith a) ∧
      ∀ texts bases, Policy.bases texts = .ok bases → ∀ context key,
        (Policy.under bases context key = true ↔
          ∃ text ∈ texts, text.toList.splitOn '.' <+: key.text.toList.splitOn '.') ∧
        (Policy.under bases context key = true ↔
          ∃ text ∈ texts, key.text = text ∨ ∃ rest, key.text = text ++ "." ++ rest) ∧
        (Policy.under bases context key = true →
          ∀ relative, Policy.under bases context (key.join relative) = true) := by
  refine ⟨fun _ => Key.exists_parse_iff, fun text key => ⟨Key.parse_eq_ok_iff, ?_, ?_⟩,
    fun _ => Key.exists_parse_intercalate, Key.join_assoc,
    fun a b => ⟨Key.text_join_eq_foldl a b, ?_, Key.segments_join a b⟩,
    fun _ _ => ⟨Key.startsWith_iff_splitOn, Key.startsWith_iff_join⟩, Key.startsWith_self,
    fun _ _ _ => Key.StartsWith.trans, fun _ _ => Key.StartsWith.antisymm,
    fun _ _ _ => Key.StartsWith.or, fun texts bases hbases context key => ⟨?_, ?_, Policy.under_join⟩⟩
  · exact key.splitOn_text.symm
  · rw [← key.splitOn_text]
    exact List.intercalate_splitOn '.'
  · rw [← Key.text_join]
    exact Key.parse_text _
  · exact Policy.under_iff_exists_text (fun _ => Key.startsWith_iff_splitOn) hbases
  · exact Policy.under_iff_exists_text (fun _ => Key.startsWith_iff_text) hbases

namespace Public

/-- The texts of a policy. -/
def texts : List String := ["public", "shared.readonly"]

/-- The parts of a key below the first of them. -/
def tokenParts : List (List Char) := ["public".toList, "token".toList]

/-- The parts of a key that begins with the same characters, but not with the same part. -/
def publicityParts : List (List Char) := ["publicity".toList, "token".toList]

/-- What lies below a text of a policy is opened, and what only begins with its characters is not. -/
theorem keys_compose_public :
    ∃ bases token publicity, Policy.bases texts = .ok bases ∧
      Key.parse "public.token" = .ok token ∧ Key.parse "publicity.token" = .ok publicity ∧
      ∀ context, Policy.under bases context token = true ∧
        Policy.under bases context publicity = false := by
  obtain ⟨-, hparse, hparts, -, -, -, -, -, -, -, hpolicy⟩ := keys_compose
  obtain ⟨token, htoken, -⟩ := hparts tokenParts (by decide) (by decide)
  obtain ⟨publicity, hpublicity, -⟩ := hparts publicityParts (by decide) (by decide)
  obtain ⟨bases, hbases⟩ : ∃ bases, Policy.bases texts = .ok bases := ⟨_, rfl⟩
  refine ⟨bases, token, publicity, hbases, htoken, hpublicity, fun context => ⟨?_, ?_⟩⟩
  · rw [(hpolicy texts bases hbases context token).1, ((hparse _ token).1.mp htoken)]
    decide
  · rw [← Bool.not_eq_true, (hpolicy texts bases hbases context publicity).1,
      ((hparse _ publicity).1.mp hpublicity)]
    decide

end Public

end Secret

end RetrySafe
