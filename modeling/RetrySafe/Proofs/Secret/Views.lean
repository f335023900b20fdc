import RetrySafe.Proofs.Secret.Grants
import RetrySafe.Proofs.Secret.Noninterference

/-!
# Views below a key

A view below a key asks in place of a written key for that key below its own. Views can be narrowed
further; the keys that they are made with come to one key, written with dots between theirs, and a view
made with that one answers alike. What is no key does not get past a view, so whatever a task asks, all
that gets past lies below the key of the view.

## Main definitions

* `Key.joinAll` — what some keys come to, each one below those before.
* `Key.IsBelow` — a key lies strictly below another.
* `Provider.noted` — a provider that notes what it is asked for.
* `Resolver.Grants` — a resolver has an answer for a key, be it that there is no value.

## Main results

* `Key.text_joinAll` — how the key of some keys is written.
* `within_texts`, `below_below` — a view that is narrowed is one view.
* `asked_allBelow` — a task that has a view asks for nothing but what lies below it.
* `views_confined` — what a view answers, asks for and grants.
-/

namespace RetrySafe.Secret

/-! ## Keys below one another -/

namespace Key

/-- What some keys come to, each one below those before. -/
def joinAll (first : Key) : List Key → Key
  | [] => first
  | next :: rest => first.join (joinAll next rest)

/-- A key lies strictly below another. -/
def IsBelow (key base : Key) : Prop := key.StartsWith base ∧ key ≠ base

variable (base key next relative : Key) (rest : List Key)

theorem join_assoc : (base.join key).join relative = base.join (key.join relative) := by
  rw [join, join, join, join, extend, extend, extend, segments_extend, List.append_assoc]

theorem joinAll_join : joinAll (base.join next) rest = base.join (joinAll next rest) := by
  cases rest with
  | nil => rfl
  | cons after rest => exact join_assoc base next _

theorem joinAll_append (more : List Key) :
    joinAll base (rest ++ next :: more) = (joinAll base rest).join (joinAll next more) := by
  induction rest generalizing base with
  | nil => rfl
  | cons after rest ih => rw [List.cons_append, joinAll, joinAll, ih, join_assoc]

/-- A key below another is written with a dot between them. -/
theorem text_join : (base.join relative).text = base.text ++ "." ++ relative.text := by
  have hrelative : relative.chars =
      relative.first.chars ++ relative.rest.flatMap fun segment => '.' :: segment.chars :=
    chars_extend ⟨relative.first, []⟩ relative.rest
  rw [text, text, text, join, chars_extend, segments, List.flatMap_cons, List.cons_append, ← hrelative,
    String.ofList_append, String.ofList_cons, String.append_assoc]
  rfl

theorem text_joinAll : (joinAll base rest).text = String.intercalate "." ((base :: rest).map text) := by
  induction rest generalizing base with
  | nil => exact String.intercalate_singleton.symm
  | cons next rest ih =>
    rw [joinAll, text_join, ih, List.map_cons, List.map_cons, List.map_cons,
      String.intercalate_cons_cons]

theorem text_joinAll_join :
    ((joinAll base rest).join key).text =
      String.intercalate "." ((base :: rest).map text ++ [key.text]) := by
  have hlast : (joinAll base rest).join key = joinAll base (rest ++ [key]) :=
    (joinAll_append base key rest []).symm
  rw [hlast, text_joinAll, ← List.cons_append, List.map_append, List.map_singleton]

variable {base key}

/-- What lies strictly below a key is that key with another one below it. -/
theorem isBelow_iff : key.IsBelow base ↔ ∃ relative, key = base.join relative := by
  constructor
  · -- Behind the segments of the base there are more, which are a key of their own.
    rintro ⟨⟨more, hmore⟩, hne⟩
    obtain ⟨first, rest⟩ := key
    obtain ⟨rfl, rfl⟩ := List.cons.inj hmore
    cases more with
    | nil => exact absurd (congrArg (Key.mk _) (List.append_nil _)) hne
    | cons segment more => exact ⟨⟨segment, more⟩, rfl⟩
  · rintro ⟨relative, rfl⟩
    refine ⟨⟨relative.segments, rfl⟩, fun h => ?_⟩
    have hsegments : base.segments ++ relative.segments = base.segments := congrArg segments h
    exact List.cons_ne_nil _ _ (List.append_right_eq_self.mp hsegments)

end Key

/-! ## Views of views -/

section Views

variable {m : Type → Type} [Monad m]

theorem scopeBase_texts (base : Key) (keys : List Key) :
    scopeBase (some base) (keys.map Key.text) = .ok (some (base.joinAll keys)) := by
  induction keys generalizing base with
  | nil => rfl
  | cons key keys ih =>
    rw [List.map_cons, scopeBase, Key.read_text, Key.joinAll, ← Key.joinAll_join]
    exact ih (base.join key)

/-- A view that is narrowed step by step. -/
theorem within_texts (provider : Provider m) (first : Key) (rest : List Key) :
    provider.within ((first :: rest).map Key.text) = .ok (provider.below (first.joinAll rest)) := by
  have hbase : scopeBase none ((first :: rest).map Key.text) = .ok (some (first.joinAll rest)) := by
    rw [List.map_cons, scopeBase, Key.read_text]
    exact scopeBase_texts first rest
  rw [Provider.within, hbase]

variable [LawfulMonad m] {text : String} {flaw : Flaw}

/-- What is no key does not get past a view. -/
theorem below_of_hasFlaw (h : HasFlaw text flaw) (provider : Provider m) (base : Key) :
    provider.below base text = throw (.illegal text flaw) := by
  rw [Provider.below, Key.read_of_hasFlaw h, mk_error_bind]

theorem below_text (provider : Provider m) (base key : Key) :
    provider.below base key.text = provider (base.join key).text := by
  rw [Provider.below, Key.read_text, mk_ok_bind]

/-- The view below a key of the view below another key. -/
theorem below_below (provider : Provider m) (base key : Key) :
    (provider.below base).below key = provider.below (base.join key) := by
  funext text
  obtain ⟨flaw, hflaw⟩ | ⟨relative, hkey⟩ := Key.exists_flaw_or_parse text
  · rw [below_of_hasFlaw hflaw, below_of_hasFlaw hflaw]
  · obtain rfl := Key.text_of_parse hkey
    rw [below_text, below_text, below_text, Key.join_assoc]

/-- A view of a view, each of them narrowed step by step. -/
theorem within_within (provider : Provider m) (first next : Key) (rest more : List Key) :
    (provider.below (first.joinAll rest)).within ((next :: more).map Key.text) =
      provider.within ((first :: rest ++ next :: more).map Key.text) := by
  rw [within_texts, below_below, List.cons_append, within_texts, Key.joinAll_append]

end Views

/-! ## What is asked for -/

section Asking

variable {σ : Type}

/-- A provider that notes what it is asked for, behind what was asked for before. -/
def Provider.noted (provider : Provider (StateM σ)) : Provider (StateM (List String × σ)) :=
  fun text => ExceptT.mk fun before =>
    let result := (provider text).run.run before.2
    pure (result.run.1, before.1 ++ [text], result.run.2)

variable (provider : Provider (StateM σ)) (base : Key)

theorem run_below_of_hasFlaw {text : String} {flaw : Flaw} (h : HasFlaw text flaw)
    (asked : List String) (s : σ) :
    ((provider.noted.below base text).run.run (asked, s)).run =
      (.error (.illegal text flaw), asked, s) := by
  rw [below_of_hasFlaw h]
  rfl

theorem run_below_text (key : Key) (asked : List String) (s : σ) :
    ((provider.noted.below base key.text).run.run (asked, s)).run =
      (((provider (base.join key).text).run.run s).run.1, asked ++ [(base.join key).text],
        ((provider (base.join key).text).run.run s).run.2) := by
  rw [below_text]
  rfl

/-- A view refuses a text without a question exactly if the text is no key. -/
theorem run_below_eq_illegal_iff {text : String} {flaw : Flaw} {s : σ} :
    ((provider.noted.below base text).run.run ([], s)).run = (.error (.illegal text flaw), [], s) ↔
      HasFlaw text flaw := by
  refine ⟨fun h => ?_, fun h => run_below_of_hasFlaw provider base h [] s⟩
  obtain ⟨other, hother⟩ | ⟨key, hkey⟩ := Key.exists_flaw_or_parse text
  · rw [run_below_of_hasFlaw provider base hother] at h
    obtain ⟨-, hflaw⟩ := Error.illegal.inj (Except.error.inj (Prod.mk.inj h).1)
    exact hflaw ▸ hother
  · -- A key is asked for, so something was noted.
    obtain rfl := Key.text_of_parse hkey
    rw [run_below_text] at h
    cases (Prod.mk.inj (Prod.mk.inj h).2).1

/-- All that was asked for lies strictly below a key. -/
def AllBelow (base : Key) (asked : List String) : Prop :=
  ∀ text ∈ asked, ∃ key : Key, key.text = text ∧ key.IsBelow base

/-- One and the same state, in which all that was asked for so far lies strictly below a key. -/
def StaysBelow (base : Key) (before before' : List String × σ) : Prop :=
  before = before' ∧ AllBelow base before.1

theorem below_staysBelow : (provider.noted.below base).IsBlind (StaysBelow base) := by
  rintro text ⟨asked, s⟩ _ ⟨rfl, hasked⟩
  obtain ⟨flaw, hflaw⟩ | ⟨key, hkey⟩ := Key.exists_flaw_or_parse text
  · -- Nothing is noted.
    rw [run_below_of_hasFlaw provider base hflaw]
    exact ⟨rfl, rfl, hasked⟩
  · obtain rfl := Key.text_of_parse hkey
    rw [run_below_text]
    refine ⟨rfl, rfl, fun other hother => ?_⟩
    obtain hother | hother := List.mem_append.mp hother
    · exact hasked other hother
    · obtain rfl := List.mem_singleton.mp hother
      exact ⟨_, rfl, Key.isBelow_iff.mpr ⟨key, rfl⟩⟩

/-- Whatever a task asks of a view, step after step, in further views and for templates too. -/
theorem asked_allBelow (task : List Answer → Question) (steps : Nat) (s : σ) :
    AllBelow base
      (((provider.noted.below base).transcript task steps).run ([], s)).run.2.1 := by
  have hstart : StaysBelow base ([], s) ([], s) := ⟨rfl, fun text h => absurd h List.not_mem_nil⟩
  exact ((below_staysBelow provider base).transcript task steps _ _ hstart).2.2

end Asking

/-! ## What is granted -/

/-- A provider has an answer over a vault, be it that there is no value. -/
def Provider.Grants (provider : Provider (StateM Vault)) (vault : Vault) (text : String) : Prop :=
  ∃ found, ((provider text).run.run vault).run.1 = .ok found

section Granting

variable {resolver : Resolver} {vault : Vault} {base key : Key}

/-- A resolver grants the keys that may be read, whatever the vault holds. -/
theorem grants_iff :
    (resolver.provider Vault.source).Grants vault key.text ↔
      ∃ target, resolver.authorize key = .ok target := by
  rw [Provider.Grants]
  cases hverdict : resolver.authorize key with
  | error error =>
    rw [provider_of_refused hverdict]
    constructor
    · rintro ⟨found, hfound⟩
      cases hfound
    · rintro ⟨target, htarget⟩
      cases htarget
  | ok target =>
    rw [provider_of_authorized hverdict]
    refine iff_of_true ?_ ⟨target, rfl⟩
    cases hown : vault.get? ⟨resolver.context.project, .project, target.text⟩ with
    | some value => exact ⟨some value, congrArg Prod.fst (fetch_own hown)⟩
    | none => exact ⟨_, congrArg Prod.fst (fetch_default hown)⟩

/-- A view grants what the provider behind it grants below the key of the view. -/
theorem exists_grants_below_iff {provider : Provider (StateM Vault)} :
    (∃ relative : Key, base.join relative = key ∧ (provider.below base).Grants vault relative.text) ↔
      key.IsBelow base ∧ provider.Grants vault key.text := by
  rw [Key.isBelow_iff]
  constructor
  · rintro ⟨relative, rfl, hgrants⟩
    rw [Provider.Grants, below_text] at hgrants
    exact ⟨⟨relative, rfl⟩, hgrants⟩
  · rintro ⟨⟨relative, rfl⟩, hgrants⟩
    refine ⟨relative, rfl, ?_⟩
    rw [Provider.Grants, below_text]
    exact hgrants

/-- A view grants nothing to a text that is no key. -/
theorem exists_text_of_grants {provider : Provider (StateM Vault)} {text : String}
    (h : (provider.below base).Grants vault text) : ∃ relative : Key, relative.text = text := by
  obtain ⟨flaw, hflaw⟩ | ⟨relative, hkey⟩ := Key.exists_flaw_or_parse text
  · obtain ⟨found, hfound⟩ := h
    rw [below_of_hasFlaw hflaw] at hfound
    cases hfound
  · exact ⟨relative, Key.text_of_parse hkey⟩

end Granting

/-- **Views are confined.** Narrow a view with one key after the other. It is the view below one key, the
one that is written with dots between theirs; so it is made with that key in one step too, and further
views of it are views with more keys. A text has a flaw exactly if it is no key. Over any provider the
view refuses such a text for its flaw, and answers any other as the provider does for the key that is
written with all of them.
It asks for that key and nothing else, or for nothing at all exactly if the text is no key; and whatever a
task asks, step after step, all that it asks for lies strictly below the key of the view. Over a resolver
the view grants the keys below its own that the resolver grants, and no others. -/
theorem views_confined (first : Key) (rest : List Key) :
    (first.joinAll rest).text = String.intercalate "." ((first :: rest).map Key.text) ∧
      (∀ text, (∃ flaw, HasFlaw text flaw) ↔ ∀ key : Key, key.text ≠ text) ∧
      (∀ (m : Type → Type) [Monad m] [LawfulMonad m] (provider : Provider m),
        provider.within ((first :: rest).map Key.text) =
            .ok (provider.below (first.joinAll rest)) ∧
          provider.within [String.intercalate "." ((first :: rest).map Key.text)] =
            .ok (provider.below (first.joinAll rest)) ∧
          (∀ next more, (provider.below (first.joinAll rest)).within ((next :: more).map Key.text) =
            provider.within ((first :: rest ++ next :: more).map Key.text)) ∧
          (∀ text flaw, HasFlaw text flaw →
            provider.below (first.joinAll rest) text = throw (.illegal text flaw)) ∧
          ∀ key : Key, provider.below (first.joinAll rest) key.text =
            provider (String.intercalate "." ((first :: rest).map Key.text ++ [key.text]))) ∧
      (∀ (σ : Type) (provider : Provider (StateM σ)) (s : σ),
        (∀ text flaw,
          ((provider.noted.below (first.joinAll rest) text).run.run ([], s)).run =
            (.error (.illegal text flaw), [], s) ↔ HasFlaw text flaw) ∧
          (∀ key : Key,
            ((provider.noted.below (first.joinAll rest) key.text).run.run ([], s)).run.2.1 =
              [String.intercalate "." ((first :: rest).map Key.text ++ [key.text])]) ∧
          ∀ task steps, AllBelow (first.joinAll rest)
            (((provider.noted.below (first.joinAll rest)).transcript task steps).run ([], s)).run.2.1) ∧
      ∀ (resolver : Resolver) (vault : Vault) (key : Key),
        ((∃ text, String.intercalate "." ((first :: rest).map Key.text ++ [text]) = key.text ∧
            ((resolver.provider Vault.source).below (first.joinAll rest)).Grants vault text) ↔
          key.IsBelow (first.joinAll rest) ∧ (resolver.provider Vault.source).Grants vault key.text) ∧
        ((resolver.provider Vault.source).Grants vault key.text ↔
          ∃ target, resolver.authorize key = .ok target) := by
  refine ⟨Key.text_joinAll first rest, fun _ => exists_flaw_iff, ?_, ?_, ?_⟩
  · intro m _ _ provider
    refine ⟨within_texts provider first rest, ?_, fun next more => ?_, ?_, fun key => ?_⟩
    · rw [← Key.text_joinAll]
      exact within_texts provider (first.joinAll rest) []
    · exact within_within provider first next rest more
    · exact fun text flaw h => below_of_hasFlaw h provider _
    · rw [below_text, Key.text_joinAll_join]
  · intro σ provider s
    refine ⟨fun text flaw => run_below_eq_illegal_iff provider _, fun key => ?_, fun task steps => ?_⟩
    · rw [run_below_text, Key.text_joinAll_join]
      rfl
    · exact asked_allBelow provider _ task steps s
  · intro resolver vault key
    refine ⟨?_, grants_iff⟩
    rw [← exists_grants_below_iff]
    constructor
    · rintro ⟨text, htext, hgrants⟩
      obtain ⟨relative, rfl⟩ := exists_text_of_grants hgrants
      rw [← Key.text_joinAll_join] at htext
      exact ⟨relative, Key.text_injective htext, hgrants⟩
    · rintro ⟨relative, rfl, hgrants⟩
      exact ⟨relative.text, (Key.text_joinAll_join first relative rest).symm, hgrants⟩

namespace Postgres

/-- Below two keys a text with an empty part is refused without a question, and another one is granted
under the name that it has for the resolver. -/
theorem views_confined_postgres :
    (((resolver.provider Vault.source).noted.below ⟨pg, [db2]⟩ "user.").run.run ([], vault)).run =
        (.error (.illegal "user." .emptySegmentInKey), [], vault) ∧
      ((resolver.provider Vault.source).below ⟨pg, [db2]⟩ "user") =
        (resolver.provider Vault.source "pg.db2.user") ∧
      ∃ text, String.intercalate "." ["pg", "db2", text] = "pg.db2.user" ∧
        ((resolver.provider Vault.source).below ⟨pg, [db2]⟩).Grants vault text := by
  have hflaw : HasFlaw "user." .emptySegmentInKey := .segment (by decide) (by decide) (by decide)
  obtain ⟨-, -, hviews, hasked, hgranted⟩ := views_confined ⟨pg, []⟩ [⟨db2, []⟩]
  obtain ⟨-, -, -, -, hkey⟩ := hviews _ (resolver.provider Vault.source)
  have hbelow : (Key.mk pg [db2, user]).IsBelow ⟨pg, [db2]⟩ :=
    Key.isBelow_iff.mpr ⟨⟨user, []⟩, rfl⟩
  refine ⟨((hasked _ (resolver.provider Vault.source) vault).1 _ _).mpr hflaw, hkey ⟨user, []⟩, ?_⟩
  have hgrant := hgranted resolver vault ⟨pg, [db2, user]⟩
  exact hgrant.1.mpr ⟨hbelow, hgrant.2.mpr ⟨_, rfl⟩⟩

end Postgres

end RetrySafe.Secret
