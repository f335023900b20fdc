import RetrySafe.Proofs.Association
import RetrySafe.Proofs.Secret.Access
import RetrySafe.Secret.Template

/-!
# Secrets that a task may not read

A task asks for values, through views below some keys, and for templates, each time in the light of the
answers so far. What it is answered depends on the slots that it may read alone: those of its project
whose key is the target of some key. Two vaults that agree there give the same answers, so a value in any
other slot makes no difference.

## Main definitions

* `Question`, `Provider.transcript` — what a task asks for, and what it is answered.
* `Resolver.Reaches` — a slot that a task may read.
* `Alike` — two vaults that agree on these slots.
* `Blind` — a program that answers the same from states that are alike.

## Main results

* `Blind.bind`, `Blind.mapM` — programs made of blind ones are blind.
* `provider_isBlind` — the resolver is blind if its source is where the task may read.
* `unread_unseen` — vaults that are alike give the same answers.
-/

namespace RetrySafe.Secret

/-! ## Tasks -/

/-- What a task asks for, in a view below some written keys, each one below those before. -/
inductive Question
  /-- A value that there has to be. -/
  | value (within : List String) (key : String)
  /-- A value that there may be. -/
  | optional (within : List String) (key : String)
  /-- A template with references. -/
  | template (within : List String) (template : String)

/-- What a task is answered. -/
abbrev Answer := Except Error (Option String)

section Questions

variable {m : Type → Type} [Monad m]

/-- The view below some written keys; no keys, no view. -/
def Provider.within (provider : Provider m) (keys : List String) : Except Error (Provider m) :=
  match scopeBase none keys with
  | .error error => .error error
  | .ok none => .ok provider
  | .ok (some base) => .ok (provider.below base)

/-- The program that answers a question to a view. -/
def Provider.inView {α : Type} (provider : Provider m) (keys : List String)
    (program : Provider m → ExceptT Error m α) : ExceptT Error m α :=
  match provider.within keys with
  | .error error => throw error
  | .ok view => program view

/-- The answer to a question. -/
def Provider.answer (provider : Provider m) : Question → ExceptT Error m (Option String)
  | .value within key => provider.inView within fun view => do return some (← view.require key)
  | .optional within key => provider.inView within fun view => view key
  | .template within template =>
    provider.inView within fun view => do return some (← render view template)

/-- The answers to so many questions of a task, each of which may depend on the answers before. -/
def Provider.transcript (provider : Provider m) (task : List Answer → Question) :
    Nat → m (List Answer)
  | 0 => return []
  | steps + 1 => do
    let answers ← provider.transcript task steps
    let answer ← (provider.answer (task answers)).run
    return answers ++ [answer]

end Questions

/-! ## Programs that cannot tell states apart -/

section Blindness

variable {σ : Type} {alike : σ → σ → Prop} {α β : Type}

/-- A program that answers the same from states that are alike, and leaves states that are alike. -/
def Blind (alike : σ → σ → Prop) (program : StateM σ α) : Prop :=
  ∀ s s', alike s s' →
    (program.run s).run.1 = (program.run s').run.1 ∧
      alike (program.run s).run.2 (program.run s').run.2

namespace Blind

theorem pure (a : α) : Blind alike (Pure.pure a) := fun _ _ h => ⟨rfl, h⟩

theorem bind {program : StateM σ α} {next : α → StateM σ β} (hprogram : Blind alike program)
    (hnext : ∀ a, Blind alike (next a)) : Blind alike (program >>= next) := by
  intro s s' h
  obtain ⟨hanswer, hafter⟩ := hprogram s s' h
  rw [StateT.run_bind, StateT.run_bind, Id.run_bind, Id.run_bind, ← hanswer]
  exact hnext _ _ _ hafter

/-- Programs that may fail, one after the other. -/
theorem andThen {program : ExceptT Error (StateM σ) α} {next : α → ExceptT Error (StateM σ) β}
    (hprogram : Blind alike program.run) (hnext : ∀ a, Blind alike (next a).run) :
    Blind alike (program >>= next).run := by
  rw [ExceptT.run_bind]
  refine hprogram.bind fun result => ?_
  cases result with
  | error error => exact pure _
  | ok a => exact hnext a

theorem mapM {program : α → ExceptT Error (StateM σ) β} (h : ∀ a, Blind alike (program a).run)
    (as : List α) : Blind alike (as.mapM program).run := by
  induction as with
  | nil =>
    rw [List.mapM_nil]
    exact pure _
  | cons a as ih =>
    rw [List.mapM_cons]
    exact (h a).andThen fun _ => ih.andThen fun _ => pure _

end Blind

/-- A provider all of whose answers are blind. -/
def Provider.IsBlind (alike : σ → σ → Prop) (provider : Provider (StateM σ)) : Prop :=
  ∀ key, Blind alike (provider key).run

namespace Provider.IsBlind

variable {provider : Provider (StateM σ)} (h : provider.IsBlind alike)

include h

theorem require (key : String) : Blind alike (provider.require key).run := by
  refine (h key).andThen fun value => ?_
  cases value with
  | none => exact .pure _
  | some value => exact .pure _

theorem below (base : Key) : (provider.below base).IsBlind alike := by
  intro key
  rw [Provider.below]
  cases Key.read key with
  | error error =>
    rw [mk_error_bind]
    exact .pure _
  | ok relative =>
    rw [mk_ok_bind]
    exact h _

theorem render (template : String) : Blind alike (Secret.render provider template).run := by
  refine (Blind.mapM (fun piece => ?_) (pieces template.toList)).andThen fun _ => .pure _
  cases piece with
  | char c => exact .pure _
  | reference content => exact (h.require _).andThen fun _ => .pure _

theorem inView {keys : List String} {program : Provider (StateM σ) → ExceptT Error (StateM σ) α}
    (hprogram : ∀ view : Provider (StateM σ), view.IsBlind alike → Blind alike (program view).run) :
    Blind alike (provider.inView keys program).run := by
  rw [Provider.inView, Provider.within]
  cases scopeBase none keys with
  | error error => exact .pure _
  | ok base =>
    cases base with
    | none => exact hprogram _ h
    | some base => exact hprogram _ (h.below base)

theorem answer (question : Question) : Blind alike (provider.answer question).run := by
  cases question with
  | value within key =>
    exact h.inView fun view hview => (hview.require key).andThen fun _ => .pure _
  | optional within key => exact h.inView fun view hview => hview key
  | template within template =>
    exact h.inView fun view hview => (hview.render template).andThen fun _ => .pure _

/-- Every step of a task, by induction on their number. -/
theorem transcript (task : List Answer → Question) (steps : Nat) :
    Blind alike (provider.transcript task steps) := by
  induction steps with
  | zero => exact .pure _
  | succ steps ih => exact ih.bind fun answers => (h.answer _).bind fun _ => .pure _

end Provider.IsBlind

/-- A resolver is blind if its source is, in the project of the task and for the targets of keys. -/
theorem provider_isBlind {resolver : Resolver} {source : Source (StateM σ)}
    (hsource : ∀ key target, resolver.authorize key = .ok target → ∀ scope,
      Blind alike (source resolver.context.project scope target).run) :
    (resolver.provider source).IsBlind alike := by
  intro text
  obtain ⟨flaw, hflaw⟩ | ⟨key, hkey⟩ := Key.exists_flaw_or_parse text
  · rw [provider_of_hasFlaw hflaw]
    exact .pure _
  obtain rfl := Key.text_of_parse hkey
  cases hverdict : resolver.authorize key with
  | error error =>
    rw [provider_of_refused hverdict]
    exact .pure _
  | ok target =>
    rw [provider_of_authorized hverdict]
    refine (hsource key target hverdict .project).andThen fun value => ?_
    cases value with
    | some value => exact .pure _
    | none => exact hsource key target hverdict .projectDefault

end Blindness

/-! ## Vaults -/

/-- A slot that a task may read: one of its project, whose key is the target of some key. -/
def Resolver.Reaches (resolver : Resolver) (slot : Slot) : Prop :=
  slot.project = resolver.context.project ∧
    ∃ key target, resolver.authorize key = .ok target ∧ target.text = slot.key

/-- Two vaults that agree on the slots that a task may read. -/
def Alike (resolver : Resolver) (vault vault' : Vault) : Prop :=
  ∀ slot, resolver.Reaches slot → vault.get? slot = vault'.get? slot

theorem source_isBlind {resolver : Resolver} {key target : Key}
    (h : resolver.authorize key = .ok target) (scope : Scope) :
    Blind (Alike resolver) (Vault.source resolver.context.project scope target).run := by
  intro vault vault' halike
  have hslot : resolver.Reaches ⟨resolver.context.project, scope, target.text⟩ :=
    ⟨rfl, key, target, h, rfl⟩
  exact ⟨congrArg Except.ok (halike _ hslot), halike⟩

theorem failing_isBlind {σ : Type} {alike : σ → σ → Prop} {source : Source (StateM σ)}
    (outages : List Outage) {project : Int} {scope : Scope} {key : Key}
    (h : Blind alike (source project scope key).run) :
    Blind alike (source.failing outages project scope key).run := by
  rw [Source.failing]
  split
  · exact .pure _
  · exact h

/-- What a task is answered over a vault, where some lookups fail. -/
def Vault.transcript (vault : Vault) (outages : List Outage) (resolver : Resolver)
    (task : List Answer → Question) (steps : Nat) : List Answer :=
  (((resolver.provider (Vault.source.failing outages)).transcript task steps).run vault).run.1

theorem transcript_eq_of_alike {resolver : Resolver} {vault vault' : Vault}
    (h : Alike resolver vault vault') (outages : List Outage) (task : List Answer → Question)
    (steps : Nat) :
    vault.transcript outages resolver task steps = vault'.transcript outages resolver task steps :=
  ((provider_isBlind fun _ _ hkey scope =>
    failing_isBlind outages (source_isBlind hkey scope)).transcript task steps _ _ h).1

theorem get?_put_ne {slot other : Slot} (h : other ≠ slot) (vault : Vault) (value : String) :
    (vault.put slot value).get? other = vault.get? other :=
  (Association.lookup_cons_ne h _ _).trans (Association.lookup_filter_ne h _)

theorem get?_delete_ne {slot other : Slot} (h : other ≠ slot) (vault : Vault) :
    (vault.delete slot).get? other = vault.get? other :=
  Association.lookup_filter_ne h _

/-- **What a task may not read makes no difference.** Let a task ask whatever it likes, in the light of
the answers so far. Two vaults that agree on the slots that it may read give the same answers and errors
at every step, whichever lookups fail. So a value in any other slot can be put there, changed or deleted
and nothing that the task is answered changes: in a slot of another project, and in one of its own whose
key is not the target of any key. -/
theorem unread_unseen (resolver : Resolver) (outages : List Outage)
    (task : List Answer → Question) (steps : Nat) :
    (∀ vault vault', Alike resolver vault vault' →
        vault.transcript outages resolver task steps =
          vault'.transcript outages resolver task steps) ∧
      ∀ (vault : Vault) (slot : Slot), (slot.project ≠ resolver.context.project ∨
          ∀ key target, resolver.authorize key = .ok target → target.text ≠ slot.key) →
        (∀ value, (vault.put slot value).transcript outages resolver task steps =
          vault.transcript outages resolver task steps) ∧
        (vault.delete slot).transcript outages resolver task steps =
          vault.transcript outages resolver task steps := by
  refine ⟨fun vault vault' h => transcript_eq_of_alike h outages task steps, ?_⟩
  intro vault slot hslot
  have hne : ∀ other, resolver.Reaches other → other ≠ slot := by
    rintro other ⟨hproject, key, target, hkey, htarget⟩ rfl
    exact hslot.elim (fun h => h hproject) fun h => h key target hkey htarget
  refine ⟨fun value => transcript_eq_of_alike (fun other h => ?_) outages task steps,
    transcript_eq_of_alike (fun other h => ?_) outages task steps⟩
  · exact get?_put_ne (hne other h) vault value
  · exact get?_delete_ne (hne other h) vault

namespace Postgres

/-- All that the task may read lies below `shared`. -/
theorem first_of_authorize {key target : Key} (h : resolver.authorize key = .ok target) :
    target.first = shared.first := by
  have hgrants {path : List Segment} {grant : Grant} (hleads : LeadsTo (.node resolver.grants.root) path
      grant) : (∃ children, grant = .node children) ∨ grant = .remount shared := by
    obtain _ | ⟨hchild, hleads⟩ := hleads
    · exact .inl ⟨_, rfl⟩
    obtain ⟨-, rfl⟩ := Association.lookup_singleton_eq_some.mp hchild
    obtain _ | ⟨hchild, hleads⟩ := hleads
    · exact .inl ⟨_, rfl⟩
    obtain ⟨-, rfl⟩ := Association.lookup_singleton_eq_some.mp hchild
    cases hleads
    exact .inr rfl
  cases (Resolver.authorize_iff (rfl : resolver.policy = .under [shared])).mp h with
  | allowed hfilter hkey hleads =>
    obtain ⟨children, hgrant⟩ | hgrant := hgrants hleads <;> cases hgrant
  | remounted hfilter hkey hleads =>
    obtain ⟨children, hgrant⟩ | hgrant := hgrants hleads <;> cases hgrant
    rfl
  | accessible hfilter hgrant hpolicy =>
    obtain ⟨base, hbase, hle⟩ := hpolicy
    obtain rfl := List.mem_singleton.mp hbase
    exact (List.cons_prefix_cons.mp hle).1.symm

/-- The task asks for a value, and writes what it is answered into a template for another one. -/
def task : List Answer → Question
  | [] => .optional ["pg"] "db2.user"
  | _ => .template ["pg", "db2"] "$\x7bsecret: user \x7d@host"

/-- The value under the original name of a remounted key is not seen. -/
theorem unread_unseen_postgres :
    (vault.delete ⟨1, .project, "pg.db2.user"⟩).transcript [] resolver task 2 =
        [.ok (some "etl"), .ok (some "etl@host")] := by
  have hunread : ∀ key target, resolver.authorize key = .ok target →
      target.text ≠ "pg.db2.user" := by
    intro key target hkey htext
    have htarget : target = ⟨pg, [db2, user]⟩ := Key.text_injective htext
    have hfirst := first_of_authorize hkey
    rw [htarget] at hfirst
    exact absurd hfirst (by decide)
  rw [((unread_unseen resolver [] task 2).2 vault ⟨1, .project, "pg.db2.user"⟩ (.inr hunread)).2]
  decide +kernel

end Postgres

end RetrySafe.Secret
