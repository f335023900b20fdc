import RetrySafe.Proofs.Secret.Access
import RetrySafe.Proofs.Text.Trimming
import RetrySafe.Secret.Template

/-!
# What a template is replaced by

The outline of a template lists its references in order, each with the literal text before it, and the
literal text behind the last of them. A reference stands at the first place that has an opening with a
closing brace behind it, ends at the first such brace, and the others are looked for behind it. Every
template has one outline. To render a template is to ask for the keys of the outline, one after the
other until one of them fails, and to put the values where the references were.

## Main definitions

* `Outline`, `Outlines` — references with the literal texts around them, and those of a template.
* `Outline.render` — the text of an outline with values for its references.
* `Rendered` — what rendering an outline comes to, value by value.

## Main results

* `outlines_pieces`, `Outlines.unique` — every template has an outline, and no other one.
* `Outline.render_cons`, `render_eq` — rendering a template is rendering its outline.
* `references_replaced` — which references a template has, and what rendering makes of them.
-/

namespace RetrySafe.Secret

/-! ## Outlines -/

/-- A reference with the literal text before it: what stands between its opening and its closing
brace. -/
structure Reference where
  literal : List Char
  content : List Char
  deriving DecidableEq

/-- The key that a reference asks for. -/
def Reference.key (reference : Reference) : String := String.ofList (Text.trim reference.content)

/-- The references of a template, and the literal text behind the last of them. -/
structure Outline where
  references : List Reference
  ending : List Char
  deriving DecidableEq

/-- At a place of a text stands an opening that has a closing brace behind it. -/
def OpensAt (cs : List Char) (place : Nat) : Prop :=
  ∃ behind, cs.drop place = opening ++ behind ∧ '\x7d' ∈ behind

/-- The outline of a template. -/
inductive Outlines : List Char → Outline → Prop
  /-- Nothing is a reference. -/
  | ending {cs : List Char} (hnone : ∀ place, ¬OpensAt cs place) : Outlines cs ⟨[], cs⟩
  /-- A reference up to the first closing brace, and no place before it that has an opening with a
  closing brace behind it. -/
  | reference {cs literal content rest : List Char} {outline : Outline}
      (hcs : cs = literal ++ (opening ++ (content ++ '\x7d' :: rest)))
      (hcontent : '\x7d' ∉ content) (hfirst : ∀ place < literal.length, ¬OpensAt cs place)
      (hrest : Outlines rest outline) :
      Outlines cs ⟨⟨literal, content⟩ :: outline.references, outline.ending⟩

section Scanning

variable {c : Char} {cs content rest : List Char} {outline other : Outline}

theorem reference?_opening (hcontent : '\x7d' ∉ content) (rest : List Char) :
    reference? (opening ++ (content ++ '\x7d' :: rest)) = some (content, rest) := by
  have hother : ∀ c ∈ content, (c != '\x7d') = true :=
    fun c hc => bne_iff_ne.mpr fun h => hcontent (h ▸ hc)
  have hafter : afterOpening? (opening ++ (content ++ '\x7d' :: rest)) =
      some (content ++ '\x7d' :: rest) := by
    simp [afterOpening?]
  simp only [reference?, hafter, List.dropWhile_append_of_pos hother,
    List.takeWhile_append_of_pos hother]
  simp

theorem opensAt_append (literal content rest : List Char) :
    OpensAt (literal ++ (opening ++ (content ++ '\x7d' :: rest))) literal.length :=
  ⟨_, List.drop_left, by simp⟩

/-- At the start of a text stands a reference if there is an opening with a closing brace behind it. -/
theorem opensAt_zero_iff : OpensAt cs 0 ↔ ∃ content rest, reference? cs = some (content, rest) := by
  constructor
  · rintro ⟨behind, hcs, hbrace⟩
    obtain ⟨content, rest, rfl, hcontent⟩ := List.eq_append_cons_of_mem hbrace
    rw [List.drop_zero] at hcs
    exact ⟨content, rest, hcs ▸ reference?_opening hcontent rest⟩
  · rintro ⟨content, rest, h⟩
    rw [reference?_eq h, Piece.source, List.append_assoc, List.append_assoc]
    exact opensAt_append [] content rest

theorem brace_notMem_of_reference? (h : reference? cs = some (content, rest)) : '\x7d' ∉ content := by
  unfold reference? at h
  split at h
  · cases h
  split at h
  · cases h
  obtain ⟨rfl, rfl⟩ := Prod.mk.inj (Option.some.inj h)
  intro hbrace
  exact absurd (List.mem_takeWhile_imp hbrace) (by decide)

/-! ## The outline of a template -/

/-- An outline with a character in front. -/
def Outline.withChar (c : Char) : Outline → Outline
  | ⟨[], ending⟩ => ⟨[], c :: ending⟩
  | ⟨⟨literal, content⟩ :: references, ending⟩ => ⟨⟨c :: literal, content⟩ :: references, ending⟩

/-- The outline that some pieces make up. -/
def Outline.ofPieces : List Piece → Outline
  | [] => ⟨[], []⟩
  | .char c :: pieces => (ofPieces pieces).withChar c
  | .reference content :: pieces =>
    ⟨⟨[], content⟩ :: (ofPieces pieces).references, (ofPieces pieces).ending⟩

theorem Outlines.withChar (h : Outlines cs outline) (hnone : ¬OpensAt (c :: cs) 0) :
    Outlines (c :: cs) (outline.withChar c) := by
  -- The places of the longer text are the first one, and those of the text behind it.
  cases h with
  | ending hrest =>
    refine .ending fun place => ?_
    cases place with
    | zero => exact hnone
    | succ place => exact hrest place
  | reference hcs hcontent hfirst hrest =>
    refine .reference (congrArg (c :: ·) hcs) hcontent (fun place hplace => ?_) hrest
    cases place with
    | zero => exact hnone
    | succ place => exact hfirst place (Nat.lt_of_succ_lt_succ hplace)

/-- Every template has an outline. -/
theorem outlines_pieces (cs : List Char) : Outlines cs (.ofPieces (pieces cs)) := by
  fun_induction pieces cs with
  | case1 =>
    refine .ending ?_
    rintro place ⟨behind, h, -⟩
    rw [List.drop_nil] at h
    cases h
  | case2 c cs content rest h ih =>
    have hcs := reference?_eq h
    rw [Piece.source, List.append_assoc, List.append_assoc] at hcs
    exact .reference hcs (brace_notMem_of_reference? h)
      (fun place hplace => absurd hplace place.not_lt_zero) ih
  | case3 c cs h ih =>
    refine ih.withChar fun hopens => ?_
    obtain ⟨content, rest, hsome⟩ := opensAt_zero_iff.mp hopens
    rw [h] at hsome
    cases hsome

/-- A template has no other outline. -/
theorem Outlines.unique (h : Outlines cs outline) (h' : Outlines cs other) : outline = other := by
  induction h generalizing other with
  | ending hnone =>
    cases h' with
    | ending => rfl
    | reference hcs => exact absurd (hcs ▸ opensAt_append _ _ _) (hnone _)
  | @reference cs literal content rest outline hcs hcontent hfirst _ ih =>
    cases h' with
    | ending hnone => exact absurd (hcs ▸ opensAt_append _ _ _) (hnone _)
    | @reference _ literal' content' rest' outline' hcs' hcontent' hfirst' hrest' =>
      -- Neither of the two first references stands before the other one.
      have hlength : literal.length = literal'.length := by
        refine Nat.le_antisymm (Nat.le_of_not_lt fun hlt => ?_) (Nat.le_of_not_lt fun hlt => ?_)
        · exact hfirst _ hlt (hcs' ▸ opensAt_append _ _ _)
        · exact hfirst' _ hlt (hcs ▸ opensAt_append _ _ _)
      obtain ⟨rfl, hsame⟩ := List.append_inj (hcs.symm.trans hcs') hlength
      have hread := reference?_opening hcontent rest
      rw [hsame, reference?_opening hcontent' rest'] at hread
      obtain ⟨rfl, rfl⟩ := Prod.mk.inj (Option.some.inj hread)
      -- They end at the same place too, and the same text is behind them.
      rw [ih hrest']

/-- A template without references is literal text. -/
theorem Outlines.eq_ending (h : Outlines cs outline) (hnone : outline.references = []) :
    outline = ⟨[], cs⟩ := by
  cases h with
  | ending => rfl
  | reference => cases hnone

/-- A template has references if its outline has. -/
theorem hasReferences_iff {template : String} (h : Outlines template.toList outline) :
    hasReferences template = true ↔ outline.references ≠ [] := by
  rw [h.unique (outlines_pieces _), hasReferences]
  -- By induction on the pieces; a character in front makes no difference.
  induction pieces template.toList with
  | nil => simp [Outline.ofPieces]
  | cons piece pieces ih =>
    cases piece with
    | reference content => simp [Outline.ofPieces]
    | char c =>
      rw [List.any_cons, Bool.false_or, ih, Outline.ofPieces]
      rcases Outline.ofPieces pieces with ⟨_ | ⟨_, _⟩, _⟩ <;> simp [Outline.withChar]

end Scanning

/-! ## Rendering -/

section Rendering

variable {m : Type → Type} [Monad m] [LawfulMonad m] {provider : Provider m}

/-- The value of a reference, behind the literal text before it. -/
def Reference.render {m : Type → Type} [Monad m] (provider : Provider m) (reference : Reference) :
    ExceptT Error m (List Char) := do
  return reference.literal ++ (← provider.require reference.key).toList

/-- An outline with the values of its references in their places. -/
def Outline.render {m : Type → Type} [Monad m] (provider : Provider m) (outline : Outline) :
    ExceptT Error m (List Char) := do
  return (← outline.references.mapM (Reference.render provider)).flatten ++ outline.ending

/-- Values may be found or missing in any way: a provider can answer like any program. -/
theorem exists_require_eq (ask : String → ExceptT Error m String) :
    ∃ provider : Provider m, provider.require = ask := by
  refine ⟨fun text => some <$> ask text, funext fun text => ?_⟩
  simp [Provider.require]

theorem Outline.render_nil (ending : List Char) :
    Outline.render provider ⟨[], ending⟩ = pure ending := by
  simp [Outline.render]

/-- The first reference is asked for before the others. -/
theorem Outline.render_cons (reference : Reference) (outline : Outline) :
    Outline.render provider ⟨reference :: outline.references, outline.ending⟩ = (do
      let value ← provider.require reference.key
      let text ← outline.render provider
      return reference.literal ++ value.toList ++ text) := by
  simp [Outline.render, Reference.render]

theorem Outline.render_withChar (c : Char) (outline : Outline) :
    (outline.withChar c).render provider = (c :: ·) <$> outline.render provider := by
  obtain ⟨references, ending⟩ := outline
  cases references with
  | nil => simp [Outline.withChar, Outline.render]
  | cons reference references =>
    simp [Outline.withChar, Outline.render, Reference.render, Reference.key]

theorem render_ofPieces (pieces : List Piece) :
    (Outline.ofPieces pieces).render provider =
      List.flatten <$> pieces.mapM (Piece.render provider) := by
  induction pieces with
  | nil => simp [Outline.ofPieces, Outline.render_nil]
  | cons piece pieces ih =>
    cases piece with
    | char c => simp [Outline.ofPieces, Outline.render_withChar, ih, Piece.render]
    | reference content =>
      rw [Outline.ofPieces, Outline.render_cons, ih]
      simp [Piece.render, Reference.key]

/-- To render a template is to render its outline. -/
theorem render_eq {template : String} {outline : Outline} (h : Outlines template.toList outline) :
    render provider template = String.ofList <$> outline.render provider := by
  rw [h.unique (outlines_pieces _), render_ofPieces, render]
  simp

end Rendering

/-! ## What rendering comes to -/

section Runs

variable {σ : Type} {provider : Provider (StateM σ)} {ending : List Char} {references : List Reference}
  {s s' : σ} {result : Except Error (List Char)}

/-- What rendering an outline comes to, and the state after it: each reference in turn is asked for and
replaced by its value, and the first that fails ends it. -/
inductive Rendered (provider : Provider (StateM σ)) (ending : List Char) :
    List Reference → σ → Except Error (List Char) → σ → Prop
  | done (s : σ) : Rendered provider ending [] s (.ok ending) s
  /-- None is asked for behind the one that fails. -/
  | failed {reference : Reference} {references : List Reference} {error : Error} {s s' : σ}
      (hasked : ((provider.require reference.key).run.run s).run = (.error error, s')) :
      Rendered provider ending (reference :: references) s (.error error) s'
  | replaced {reference : Reference} {references : List Reference} {value : String} {s s' s'' : σ}
      {result : Except Error (List Char)}
      (hasked : ((provider.require reference.key).run.run s).run = (.ok value, s'))
      (hrest : Rendered provider ending references s' result s'') :
      Rendered provider ending (reference :: references) s
        (result.map fun text => reference.literal ++ value.toList ++ text) s''

theorem run_of_rendered (h : Rendered provider ending references s result s') :
    ((Outline.render provider ⟨references, ending⟩).run.run s).run = (result, s') := by
  induction h with
  | done s =>
    rw [Outline.render_nil]
    rfl
  | @failed reference references error s s' hasked =>
    rw [Outline.render_cons reference ⟨references, ending⟩, ExceptT.run_bind, StateT.run_bind,
      Id.run_bind, hasked]
    rfl
  | @replaced reference references value s s' s'' result hasked _ ih =>
    rw [Outline.render_cons reference ⟨references, ending⟩, ExceptT.run_bind, StateT.run_bind,
      Id.run_bind, hasked]
    dsimp only
    rw [ExceptT.run_bind, StateT.run_bind, Id.run_bind, ih]
    cases result <;> rfl

/-- Rendering comes to something. -/
theorem exists_rendered (provider : Provider (StateM σ)) (ending : List Char)
    (references : List Reference) (s : σ) :
    ∃ result s', Rendered provider ending references s result s' := by
  induction references generalizing s with
  | nil => exact ⟨_, _, .done s⟩
  | cons reference references ih =>
    obtain ⟨⟨answer, s'⟩, hasked⟩ :
        ∃ p, ((provider.require reference.key).run.run s).run = p := ⟨_, rfl⟩
    cases answer with
    | error error => exact ⟨_, _, .failed hasked⟩
    | ok value =>
      obtain ⟨result, s'', hrest⟩ := ih s'
      exact ⟨_, _, .replaced hasked hrest⟩

theorem rendered_iff :
    ((Outline.render provider ⟨references, ending⟩).run.run s).run = (result, s') ↔
      Rendered provider ending references s result s' := by
  -- Rendering comes to one thing only, since it is a function.
  refine ⟨fun h => ?_, run_of_rendered⟩
  obtain ⟨result', s'', hrendered⟩ := exists_rendered provider ending references s
  rw [run_of_rendered hrendered] at h
  obtain ⟨rfl, rfl⟩ := Prod.mk.inj h
  exact hrendered

end Runs

/-- **References are replaced once, from left to right.** A template has one outline, whose references
ask for what stands in them without the blanks at its ends. It has references if this outline has, and
to render it is to ask for them in order and to put their values in their places, the literal texts as
they stand; where there are none nothing is asked for and the template stays as it is. So over any
state rendering comes to what the references come to one after the other: to the error of the first
that fails, with none asked for behind it, or to the text with all values, as they are. Nothing is
assumed of the provider, which can answer like any program. -/
theorem references_replaced (template : String) :
    (∃! outline, Outlines template.toList outline) ∧
      ∀ outline, Outlines template.toList outline →
        (∀ reference ∈ outline.references, Text.Trims reference.content reference.key.toList) ∧
        (hasReferences template = true ↔ outline.references ≠ []) ∧
        (∀ (m : Type → Type) [Monad m] [LawfulMonad m],
          (∀ ask : String → ExceptT Error m String, ∃ provider : Provider m, provider.require = ask) ∧
          ∀ provider : Provider m,
            render provider template = String.ofList <$> outline.render provider ∧
            (hasReferences template = false → render provider template = pure template)) ∧
        ∀ (σ : Type) (provider : Provider (StateM σ)) (s s' : σ) (result : Except Error String),
          ((render provider template).run.run s).run = (result, s') ↔
            ∃ text, Rendered provider outline.ending outline.references s text s' ∧
              result = text.map String.ofList := by
  refine ⟨⟨_, outlines_pieces _, fun other h => h.unique (outlines_pieces _)⟩, fun outline h => ?_⟩
  refine ⟨fun reference _ => ?_, hasReferences_iff h, fun m _ _ => ?_, ?_⟩
  · rw [Reference.key, String.toList_ofList]
    exact Text.trims_trim _
  · refine ⟨exists_require_eq, fun provider => ⟨render_eq h, fun hnone => ?_⟩⟩
    have hempty : outline.references = [] := by
      by_contra hne
      rw [(hasReferences_iff h).mpr hne] at hnone
      cases hnone
    rw [render_eq h, h.eq_ending hempty, Outline.render_nil, map_pure, String.ofList_toList]
  · intro σ provider s s' result
    rw [render_eq h, ExceptT.run_map, StateT.run_map, Id.run_map]
    constructor
    · intro hrun
      obtain ⟨rfl, rfl⟩ := Prod.mk.inj hrun
      exact ⟨_, rendered_iff.mp rfl, rfl⟩
    · rintro ⟨text, hrendered, rfl⟩
      rw [rendered_iff.mpr hrendered]

namespace Postgres

/-- A reference with blanks, one with an opening inside, and an opening that is never closed. -/
def address : String := "a$\x7bsecret: pg.user \x7db$\x7bsecret:pg.$\x7bsecret:x\x7dc$\x7bsecret:"

/-- Notes what it is asked for, and finds some values. -/
def noting (values : List (String × String)) : Provider (StateM (List String)) := fun text => do
  modify (· ++ [text])
  return values.lookup text

/-- The outline of the template: the second reference ends at the first brace. -/
def addressOutline : Outline where
  references := [⟨"a".toList, " pg.user ".toList⟩, ⟨"b".toList, "pg.$\x7bsecret:x".toList⟩]
  ending := "c$\x7bsecret:".toList

/-- A value that looks like a reference stays as it is, and behind a value that is missing nothing is
asked for. -/
theorem references_replaced_postgres :
    Outlines address.toList addressOutline ∧
      ((render (noting [("pg.user", "$\x7bsecret:x\x7d"), ("pg.$\x7bsecret:x", "2")])
          address).run.run []).run =
        (.ok "a$\x7bsecret:x\x7db2c$\x7bsecret:", ["pg.user", "pg.$\x7bsecret:x"]) ∧
      ((render (noting []) address).run.run []).run = (.error (.notFound "pg.user"), ["pg.user"]) := by
  have houtline : Outlines address.toList addressOutline := by
    have hpieces : Outline.ofPieces (pieces address.toList) = addressOutline := by decide +kernel
    exact hpieces ▸ outlines_pieces address.toList
  obtain ⟨-, -, -, hruns⟩ := (references_replaced address).2 addressOutline houtline
  refine ⟨houtline, ?_, ?_⟩
  · exact (hruns _ _ _ _ _).mpr ⟨_, .replaced rfl (.replaced rfl (.done _)), rfl⟩
  · exact (hruns _ _ _ _ _).mpr ⟨_, .failed rfl, rfl⟩

end Postgres

end RetrySafe.Secret
