import RetrySafe.Proofs.Secret.Keys
import RetrySafe.Secret.Resolver
import RetrySafe.Secret.Vault

/-!
# Who may read which secret

What a task may read is said by rules: the filter has to admit the key; then a grant that the segments
of the key lead to decides, and where there is none the bases of the policy. The resolver follows these
rules, asks the store only where they name a key to read, and then for that key alone.

## Main definitions

* `LeadsTo` — the grant that a path of segments leads to.
* `Ungranted` — no grant decides over a key.
* `Ruled` — what the rules say about a key.
* `Answered` — what a task is answered by the resolver over a vault.

## Main results

* `lookup_eq_none_iff`, `lookup_of_allow`, `lookup_of_remount` — what a tree of grants hands out.
* `authorize_iff` — the resolver follows the rules.
* `access_decided` — and so the rules decide what a task is answered.
-/

namespace RetrySafe.Secret

/-! ## Grants -/

/-- The grant that a path of segments leads to. -/
inductive LeadsTo : Grant → List Segment → Grant → Prop
  | stop (grant : Grant) : LeadsTo grant [] grant
  | down {children : List (Segment × Grant)} {segment : Segment} {path : List Segment}
      {child grant : Grant} (hchild : children.lookup segment = some child)
      (hpath : LeadsTo child path grant) : LeadsTo (.node children) (segment :: path) grant

/-- No grant decides over a key: a refusal stands on the way, a segment is missing, or the way ends
before a grant. -/
inductive Ungranted (tree : GrantTree) (key : Key) : Prop
  | refused {path rest : List Segment} (hkey : key.segments = path ++ rest)
      (hgrant : LeadsTo (.node tree.root) path .deny)
  | missing {path rest : List Segment} {segment : Segment} {children : List (Segment × Grant)}
      (hkey : key.segments = path ++ segment :: rest)
      (hgrant : LeadsTo (.node tree.root) path (.node children))
      (hmissing : children.lookup segment = none)
  | unfinished {children : List (Segment × Grant)}
      (hgrant : LeadsTo (.node tree.root) key.segments (.node children))

/-- The key to read when a grant is met and some segments are still to be walked. -/
def Grant.follow (requested : Key) : Grant → List Segment → Option Key
  | .allow, _ => some requested
  | .deny, _ => none
  | .remount base, rest => some (base.extend rest)
  | .node children, rest => GrantTree.walk requested children rest

/-- A walk goes on from the grant that its first segments lead to. -/
theorem LeadsTo.follow {grant target : Grant} {path : List Segment} (h : LeadsTo grant path target)
    (requested : Key) (rest : List Segment) :
    grant.follow requested (path ++ rest) = target.follow requested rest := by
  induction h with
  | stop grant => rfl
  | @down children segment path child grant hchild hpath ih =>
    rw [List.cons_append, ← ih, Grant.follow, GrantTree.walk, hchild]
    cases child <;> rfl

namespace GrantTree

variable {tree : GrantTree} {key base : Key} {path rest : List Segment}

theorem lookup_eq_follow (tree : GrantTree) (key : Key) :
    tree.lookup key = (Grant.node tree.root).follow key key.segments := rfl

theorem lookup_of_leadsTo {grant : Grant} (hkey : key.segments = path ++ rest)
    (hgrant : LeadsTo (.node tree.root) path grant) :
    tree.lookup key = grant.follow key rest := by
  rw [lookup_eq_follow, hkey, hgrant.follow]

/-- A grant hands the key out under its own name. -/
theorem lookup_of_allow (hkey : key.segments = path ++ rest)
    (hgrant : LeadsTo (.node tree.root) path .allow) : tree.lookup key = some key :=
  lookup_of_leadsTo hkey hgrant

/-- A remount replaces the segments on the way to it. -/
theorem lookup_of_remount (hkey : key.segments = path ++ rest)
    (hgrant : LeadsTo (.node tree.root) path (.remount base)) :
    tree.lookup key = some (base.extend rest) :=
  lookup_of_leadsTo hkey hgrant

theorem lookup_of_ungranted (h : Ungranted tree key) : tree.lookup key = none := by
  cases h with
  | refused hkey hgrant => exact lookup_of_leadsTo hkey hgrant
  | missing hkey hgrant hmissing =>
    rw [lookup_of_leadsTo hkey hgrant, Grant.follow, walk, hmissing]
  | unfinished hgrant =>
    rw [lookup_of_leadsTo (List.append_nil _).symm hgrant, Grant.follow, walk]

/-- Every walk meets a grant, a segment that is missing, or the end of the key. -/
theorem exists_leadsTo (segments : List Segment) (scope : List (Segment × Grant)) :
    ∃ path rest grant, segments = path ++ rest ∧ LeadsTo (.node scope) path grant ∧
      ∀ children, grant = .node children →
        rest = [] ∨ ∃ segment more, rest = segment :: more ∧ children.lookup segment = none := by
  induction segments generalizing scope with
  | nil => exact ⟨[], [], _, rfl, .stop _, fun _ _ => .inl rfl⟩
  | cons segment segments ih =>
    cases hchild : scope.lookup segment with
    | none =>
      refine ⟨[], segment :: segments, _, rfl, .stop _, fun children h => .inr ⟨_, _, rfl, ?_⟩⟩
      cases h
      exact hchild
    | some child =>
      by_cases hnode : ∃ children, child = .node children
      · obtain ⟨children, rfl⟩ := hnode
        obtain ⟨path, rest, grant, rfl, hgrant, hend⟩ := ih children
        exact ⟨segment :: path, rest, grant, rfl, .down hchild hgrant, hend⟩
      · exact ⟨[segment], segments, child, rfl, .down hchild (.stop _),
          fun children h => absurd ⟨children, h⟩ hnode⟩

/-- A key is granted under its own name or another one, or no grant decides over it. -/
theorem lookup_cases (tree : GrantTree) (key : Key) :
    (∃ path rest, key.segments = path ++ rest ∧ LeadsTo (.node tree.root) path .allow) ∨
      (∃ path rest base, key.segments = path ++ rest ∧
        LeadsTo (.node tree.root) path (.remount base)) ∨ Ungranted tree key := by
  obtain ⟨path, rest, grant, hkey, hgrant, hend⟩ := exists_leadsTo key.segments tree.root
  cases grant with
  | allow => exact .inl ⟨path, rest, hkey, hgrant⟩
  | deny => exact .inr (.inr (.refused hkey hgrant))
  | remount base => exact .inr (.inl ⟨path, rest, base, hkey, hgrant⟩)
  | node children =>
    obtain rfl | ⟨segment, more, rfl, hmissing⟩ := hend children rfl
    · rw [List.append_nil] at hkey
      exact .inr (.inr (.unfinished (hkey ▸ hgrant)))
    · exact .inr (.inr (.missing hkey hgrant hmissing))

/-- Nothing is handed out exactly where no grant decides. -/
theorem lookup_eq_none_iff : tree.lookup key = none ↔ Ungranted tree key := by
  refine ⟨fun hnone => ?_, lookup_of_ungranted⟩
  obtain ⟨path, rest, hkey, hgrant⟩ | ⟨path, rest, base, hkey, hgrant⟩ | h := lookup_cases tree key
  · rw [lookup_of_allow hkey hgrant] at hnone
    cases hnone
  · rw [lookup_of_remount hkey hgrant] at hnone
    cases hnone
  · exact h

end GrantTree

/-! ## The rules -/

/-- What the rules say about a key: the filter first, then the grants, then the bases of the policy. -/
inductive Ruled (resolver : Resolver) (bases : List Key) (key : Key) : Except Error Key → Prop
  | filtered (hfilter : ∀ selector ∈ resolver.filter.selectors, selector.covers key = false) :
      Ruled resolver bases key (.error (.filtered key))
  | allowed {path rest : List Segment}
      (hfilter : ∃ selector ∈ resolver.filter.selectors, selector.covers key = true)
      (hkey : key.segments = path ++ rest)
      (hgrant : LeadsTo (.node resolver.grants.root) path .allow) :
      Ruled resolver bases key (.ok key)
  | remounted {path rest : List Segment} {base : Key}
      (hfilter : ∃ selector ∈ resolver.filter.selectors, selector.covers key = true)
      (hkey : key.segments = path ++ rest)
      (hgrant : LeadsTo (.node resolver.grants.root) path (.remount base)) :
      Ruled resolver bases key (.ok (base.extend rest))
  | accessible (hfilter : ∃ selector ∈ resolver.filter.selectors, selector.covers key = true)
      (hgrant : Ungranted resolver.grants key)
      (hpolicy : ∃ base ∈ bases, base.segments <+: key.segments) :
      Ruled resolver bases key (.ok key)
  | denied (hfilter : ∃ selector ∈ resolver.filter.selectors, selector.covers key = true)
      (hgrant : Ungranted resolver.grants key)
      (hpolicy : ∀ base ∈ bases, ¬ base.segments <+: key.segments) :
      Ruled resolver bases key (.error (.denied key))

theorem Filter.admits_iff {filter : Filter} {key : Key} :
    filter.admits key = true ↔ ∃ selector ∈ filter.selectors, selector.covers key = true :=
  List.any_eq_true

theorem Policy.under_iff {bases : List Key} {context : Context} {key : Key} :
    under bases context key = true ↔ ∃ base ∈ bases, base.segments <+: key.segments := by
  rw [under, List.any_eq_true]
  exact exists_congr fun base => and_congr_right fun _ => decide_eq_true_iff

namespace Resolver

variable {resolver : Resolver} {bases : List Key} {key : Key}

theorem authorize_filtered (h : resolver.filter.admits key = false) :
    resolver.authorize key = .error (.filtered key) := by
  rw [authorize, h]
  rfl

theorem authorize_granted {target : Key} (hfilter : resolver.filter.admits key = true)
    (hgrant : resolver.grants.lookup key = some target) : resolver.authorize key = .ok target := by
  rw [authorize, hfilter, hgrant]
  rfl

theorem authorize_ungranted (hfilter : resolver.filter.admits key = true)
    (hgrant : resolver.grants.lookup key = none) :
    resolver.authorize key =
      if resolver.policy resolver.context key then .ok key else .error (.denied key) := by
  rw [authorize, hfilter, hgrant]
  rfl

variable (hpolicy : resolver.policy = .under bases)

include hpolicy

theorem authorize_of_ruled {verdict : Except Error Key} (h : Ruled resolver bases key verdict) :
    resolver.authorize key = verdict := by
  cases h with
  | filtered hfilter =>
    refine authorize_filtered (Bool.eq_false_iff.mpr fun hadmits => ?_)
    obtain ⟨selector, hmem, hcovers⟩ := Filter.admits_iff.mp hadmits
    rw [hfilter selector hmem] at hcovers
    cases hcovers
  | allowed hfilter hkey hgrant =>
    exact authorize_granted (Filter.admits_iff.mpr hfilter) (GrantTree.lookup_of_allow hkey hgrant)
  | remounted hfilter hkey hgrant =>
    exact authorize_granted (Filter.admits_iff.mpr hfilter) (GrantTree.lookup_of_remount hkey hgrant)
  | accessible hfilter hgrant hbase =>
    rw [authorize_ungranted (Filter.admits_iff.mpr hfilter) (GrantTree.lookup_of_ungranted hgrant),
      hpolicy, if_pos (Policy.under_iff.mpr hbase)]
  | denied hfilter hgrant hbase =>
    rw [authorize_ungranted (Filter.admits_iff.mpr hfilter) (GrantTree.lookup_of_ungranted hgrant),
      hpolicy, if_neg]
    intro hunder
    obtain ⟨base, hmem, hle⟩ := Policy.under_iff.mp hunder
    exact hbase base hmem hle

omit hpolicy in
/-- The rules say something about every key. -/
theorem exists_ruled (resolver : Resolver) (bases : List Key) (key : Key) :
    ∃ verdict, Ruled resolver bases key verdict := by
  by_cases hfilter : ∃ selector ∈ resolver.filter.selectors, selector.covers key = true
  · obtain ⟨path, rest, hkey, hgrant⟩ | ⟨path, rest, base, hkey, hgrant⟩ | hgrant :=
      GrantTree.lookup_cases resolver.grants key
    · exact ⟨_, .allowed hfilter hkey hgrant⟩
    · exact ⟨_, .remounted hfilter hkey hgrant⟩
    · by_cases hbase : ∃ base ∈ bases, base.segments <+: key.segments
      · exact ⟨_, .accessible hfilter hgrant hbase⟩
      · exact ⟨_, .denied hfilter hgrant fun base hmem hle => hbase ⟨base, hmem, hle⟩⟩
  · refine ⟨_, .filtered fun selector hmem => Bool.eq_false_iff.mpr fun hcovers => ?_⟩
    exact hfilter ⟨selector, hmem, hcovers⟩

/-- The resolver follows the rules. -/
theorem authorize_iff {verdict : Except Error Key} :
    resolver.authorize key = verdict ↔ Ruled resolver bases key verdict := by
  refine ⟨?_, authorize_of_ruled hpolicy⟩
  rintro rfl
  obtain ⟨verdict, hruled⟩ := exists_ruled resolver bases key
  rwa [authorize_of_ruled hpolicy hruled]

end Resolver

/-! ## Answers -/

section Programs

variable {m : Type → Type} [Monad m] [LawfulMonad m]

theorem mk_ok_bind {α β : Type} (a : α) (next : α → ExceptT Error m β) :
    ((ExceptT.mk (pure (.ok a)) : ExceptT Error m α) >>= next) = next a := by
  refine ExceptT.ext ?_
  rw [ExceptT.run_bind, ExceptT.run_mk, pure_bind]

theorem mk_error_bind {α β : Type} (error : Error) (next : α → ExceptT Error m β) :
    ((ExceptT.mk (pure (.error error)) : ExceptT Error m α) >>= next) = throw error := by
  refine ExceptT.ext ?_
  rw [ExceptT.run_bind, ExceptT.run_mk, pure_bind, ExceptT.run_throw]

variable {resolver : Resolver} {source : Source m} {key target : Key} {error : Error}
  {text : String} {flaw : Flaw}

/-- A text that is no key is refused, without a look at the source. -/
theorem provider_of_hasFlaw (h : HasFlaw text flaw) :
    resolver.provider source text = throw (.illegal text flaw) := by
  rw [Resolver.provider, Key.read_of_hasFlaw h, mk_error_bind]

/-- A key that is refused is, without a look at the source. -/
theorem provider_of_refused (h : resolver.authorize key = .error error) :
    resolver.provider source key.text = throw error := by
  rw [Resolver.provider, Key.read_text, mk_ok_bind, h, mk_error_bind]

/-- In place of a key that may be read its target is fetched. -/
theorem provider_of_authorized (h : resolver.authorize key = .ok target) :
    resolver.provider source key.text = resolver.fetch source target := by
  rw [Resolver.provider, Key.read_text, mk_ok_bind, h, mk_ok_bind]

end Programs

/-- What a task is answered that asks for a written key, and the vault after that. The value of the
project is looked up first, and its default only where there is none. -/
inductive Answered (resolver : Resolver) (bases : List Key) (vault : Vault) (text : String) :
    Except Error (Option String) → Vault → Prop
  | illegal {flaw : Flaw} (htext : ∀ key : Key, key.text ≠ text) (hflaw : HasFlaw text flaw) :
      Answered resolver bases vault text (.error (.illegal text flaw)) vault
  | refused {key : Key} {error : Error} (htext : key.text = text)
      (hrules : Ruled resolver bases key (.error error)) :
      Answered resolver bases vault text (.error error) vault
  | own {key target : Key} {value : String} (htext : key.text = text)
      (hrules : Ruled resolver bases key (.ok target))
      (hown : vault.get? ⟨resolver.context.project, .project, target.text⟩ = some value) :
      Answered resolver bases vault text (.ok (some value))
        { vault with lookups := vault.lookups + 1 }
  | default {key target : Key} (htext : key.text = text)
      (hrules : Ruled resolver bases key (.ok target))
      (hown : vault.get? ⟨resolver.context.project, .project, target.text⟩ = none) :
      Answered resolver bases vault text
        (.ok (vault.get? ⟨resolver.context.project, .projectDefault, target.text⟩))
        { vault with lookups := vault.lookups + 2 }

/-- What a task is answered that needs a value. -/
def required (text : String) : Except Error (Option String) → Except Error String
  | .ok (some value) => .ok value
  | .ok none => .error (.notFound text)
  | .error error => .error error

section Vaults

variable {resolver : Resolver} {bases : List Key} {vault : Vault} {target : Key} {text : String}

theorem fetch_own {value : String}
    (hown : vault.get? ⟨resolver.context.project, .project, target.text⟩ = some value) :
    ((resolver.fetch Vault.source target).run.run vault).run =
      (.ok (some value), { vault with lookups := vault.lookups + 1 }) := by
  have hfirst : ((Vault.source resolver.context.project .project target).run.run vault).run =
      (.ok (some value), { vault with lookups := vault.lookups + 1 }) :=
    Prod.ext (congrArg Except.ok hown) rfl
  rw [Resolver.fetch, ExceptT.run_bind, StateT.run_bind, Id.run_bind, hfirst]
  rfl

theorem fetch_default
    (hown : vault.get? ⟨resolver.context.project, .project, target.text⟩ = none) :
    ((resolver.fetch Vault.source target).run.run vault).run =
      (.ok (vault.get? ⟨resolver.context.project, .projectDefault, target.text⟩),
        { vault with lookups := vault.lookups + 2 }) := by
  have hfirst : ((Vault.source resolver.context.project .project target).run.run vault).run =
      (.ok none, { vault with lookups := vault.lookups + 1 }) :=
    Prod.ext (congrArg Except.ok hown) rfl
  rw [Resolver.fetch, ExceptT.run_bind, StateT.run_bind, Id.run_bind, hfirst]
  rfl

theorem require_run (provider : Provider (StateM Vault)) (vault : Vault) (text : String) :
    ((provider.require text).run.run vault).run =
      (required text ((provider text).run.run vault).run.1,
        ((provider text).run.run vault).run.2) := by
  rw [Provider.require, ExceptT.run_bind, StateT.run_bind, Id.run_bind]
  obtain ⟨answer, after⟩ := ((provider text).run.run vault).run
  rcases answer with error | _ | value <;> rfl

variable (hpolicy : resolver.policy = .under bases)

include hpolicy

theorem provider_of_answered {answer : Except Error (Option String)} {after : Vault}
    (h : Answered resolver bases vault text answer after) :
    ((resolver.provider Vault.source text).run.run vault).run = (answer, after) := by
  cases h with
  | illegal htext hflaw =>
    rw [provider_of_hasFlaw hflaw]
    rfl
  | refused htext hrules =>
    subst htext
    rw [provider_of_refused ((Resolver.authorize_iff hpolicy).mpr hrules)]
    rfl
  | own htext hrules hown =>
    subst htext
    rw [provider_of_authorized ((Resolver.authorize_iff hpolicy).mpr hrules), fetch_own hown]
  | default htext hrules hown =>
    subst htext
    rw [provider_of_authorized ((Resolver.authorize_iff hpolicy).mpr hrules), fetch_default hown]

omit hpolicy in
/-- Every text is answered. -/
theorem exists_answered (resolver : Resolver) (bases : List Key) (vault : Vault) (text : String) :
    ∃ answer after, Answered resolver bases vault text answer after := by
  by_cases htext : ∃ key : Key, key.text = text
  · obtain ⟨key, htext⟩ := htext
    obtain ⟨verdict, hrules⟩ := Resolver.exists_ruled resolver bases key
    cases verdict with
    | error error => exact ⟨_, _, .refused htext hrules⟩
    | ok target =>
      cases hown : vault.get? ⟨resolver.context.project, .project, target.text⟩ with
      | some value => exact ⟨_, _, .own htext hrules hown⟩
      | none => exact ⟨_, _, .default htext hrules hown⟩
  · have hno : ∀ key : Key, key.text ≠ text := fun key hkey => htext ⟨key, hkey⟩
    obtain ⟨flaw, hflaw⟩ := exists_flaw_iff.mpr hno
    exact ⟨_, _, .illegal hno hflaw⟩

theorem provider_iff {answer : Except Error (Option String)} {after : Vault} :
    ((resolver.provider Vault.source text).run.run vault).run = (answer, after) ↔
      Answered resolver bases vault text answer after := by
  refine ⟨fun h => ?_, provider_of_answered hpolicy⟩
  obtain ⟨answer', after', hanswered⟩ := exists_answered resolver bases vault text
  rw [provider_of_answered hpolicy hanswered] at h
  cases h
  exact hanswered

/-- **Access.** The rules decide what a task is answered, by filter, grants and bases in this order; a
policy that denies everything has no bases. Over a vault, what a task is answered is what the rules and
the vault say, with a value that is missing an error where one is needed. Over any source, a text that
is no key and a key that is refused fail without a look at it, and in place of any other key its target
alone is looked up, for the project and then, if that has no value, as a default. -/
theorem access_decided :
    (∀ vault text answer after,
        ((resolver.provider Vault.source text).run.run vault).run = (answer, after) ↔
          Answered resolver bases vault text answer after) ∧
      (∀ vault text answer after,
        (((resolver.provider Vault.source).require text).run.run vault).run = (answer, after) ↔
          ∃ found, Answered resolver bases vault text found after ∧ answer = required text found) ∧
      ∀ (m : Type → Type) [Monad m] [LawfulMonad m] (source : Source m),
        (∀ text flaw, HasFlaw text flaw →
          resolver.provider source text = throw (.illegal text flaw)) ∧
        (∀ key error, Ruled resolver bases key (.error error) →
          resolver.provider source key.text = throw error) ∧
        ∀ key target, Ruled resolver bases key (.ok target) →
          resolver.provider source key.text = (do
            match ← source resolver.context.project .project target with
            | some value => return some value
            | none => source resolver.context.project .projectDefault target) := by
  refine ⟨fun vault text answer after => provider_iff hpolicy, ?_, ?_⟩
  · intro vault text answer after
    rw [require_run, Prod.mk.injEq]
    constructor
    · rintro ⟨rfl, rfl⟩
      exact ⟨_, (provider_iff hpolicy).mp rfl, rfl⟩
    · rintro ⟨found, hanswered, rfl⟩
      rw [provider_of_answered hpolicy hanswered]
      exact ⟨rfl, rfl⟩
  · intro m _ _ source
    refine ⟨fun text flaw => provider_of_hasFlaw, fun key error hrules => ?_, ?_⟩
    · exact provider_of_refused ((Resolver.authorize_iff hpolicy).mpr hrules)
    · intro key target hrules
      exact provider_of_authorized ((Resolver.authorize_iff hpolicy).mpr hrules)

end Vaults

namespace Postgres

def pg : Segment := ⟨['p', 'g'], by decide⟩

def db2 : Segment := ⟨['d', 'b', '2'], by decide⟩

def db3 : Segment := ⟨['d', 'b', '3'], by decide⟩

def user : Segment := ⟨['u', 's', 'e', 'r'], by decide⟩

/-- A key that every task may read, and what lies below it. -/
def shared : Key := ⟨⟨['s', 'h', 'a', 'r', 'e', 'd'], by decide⟩, []⟩

/-- A task that may ask for what lies below `pg`, and finds what lies below `pg.db2` in another
place. -/
def resolver : Resolver where
  context := { project := 1, workflow := "daily", task := "+load" }
  policy := .under [shared]
  grants := ⟨[(pg, .node [(db2, .remount shared)])]⟩
  filter := ⟨[⟨.exactly pg, [.any]⟩]⟩

/-- A default in that place, and a value where it is not read. -/
def vault : Vault where
  entries := [(⟨1, .projectDefault, "shared.user"⟩, "etl"), (⟨1, .project, "pg.db2.user"⟩, "root")]

/-- The default is read in place of the key that is asked for; a key that neither a grant nor a base is
for is denied; and a value that is missing is named by the key that was asked for. -/
theorem access_decided_postgres :
    Answered resolver [shared] vault "pg.db2.user" (.ok (some "etl")) { vault with lookups := 2 } ∧
      Answered resolver [shared] vault "pg.db3" (.error (.denied ⟨pg, [db3]⟩)) vault ∧
      (((resolver.provider Vault.source).require "pg.db2.pg").run.run vault).run =
        (.error (.notFound "pg.db2.pg"), { vault with lookups := 2 }) := by
  obtain ⟨hoptional, hrequired, -⟩ :=
    access_decided (rfl : resolver.policy = .under [shared])
  refine ⟨(hoptional _ _ _ _).mp rfl, (hoptional _ _ _ _).mp rfl, ?_⟩
  exact (hrequired _ _ _ _).mpr ⟨.ok none, (hoptional _ _ _ _).mp rfl, rfl⟩

end Postgres

end RetrySafe.Secret
