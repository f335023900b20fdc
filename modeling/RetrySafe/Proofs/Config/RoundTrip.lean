import Mathlib.Data.Option.Basic
import RetrySafe.Config.Written
import RetrySafe.Proofs.Files.Saved
import RetrySafe.Proofs.Toml.Documents

/-!
# Reading configurations back

A configuration is written unless one of its integers needs more than 64 bits with a sign, and then
it is read back with the sections that it had, whatever its texts are; so is one that was saved to a
file.

## Main definitions

* `Config.IsTyped` — the integers are of the types of their fields.
* `Config.integers` — the integers of the sections that are present.

## Main results

* `Config.toml?_eq_error_iff` — what cannot be written.
* `Config.ofToml_of_toml?` — what is written is read back.
* `Config.survives_writing` — both, for texts and files.
-/

namespace RetrySafe

/-! ## Types of integers -/

namespace Json

/-- An integer is of a type. -/
def IntegerType.Holds (type : IntegerType) (n : Int) : Prop := type.low ≤ n ∧ n ≤ type.high

instance (type : IntegerType) (n : Int) : Decidable (type.Holds n) :=
  inferInstanceAs (Decidable (_ ∧ _))

theorem integer_of_holds {type : IntegerType} {n : Int} (h : type.Holds n) :
    integer type (.int n) = .ok n := if_pos h

theorem natural_of_holds {type : IntegerType} {n : Nat} (h : type.Holds n) :
    natural type (.nat n) = .ok n := by
  rw [natural, nat, integer_of_holds h]
  rfl

end Json

namespace Config

open Json.IntegerType (i32 u32 u64 usize)

/-- The integers of the section are of the types of their fields. -/
structure Attempts.IsTyped (s : Attempts) : Prop where
  site : i32.Holds s.site
  maxActive : u64.Holds s.maxActive
  maxParamsBytes : usize.Holds s.maxParamsBytes

/-- The integers of the section are of the types of their fields. -/
structure Guard.IsTyped (s : Guard) : Prop where
  cleanupSecs : u64.Holds s.cleanupSecs

/-- The integers of the section are of the types of their fields. -/
structure Backoff.IsTyped (s : Backoff) : Prop where
  initialSecs : u64.Holds s.initialSecs
  maxSecs : u64.Holds s.maxSecs

/-- The integers of the section are of the types of their fields. -/
structure Task.IsTyped (s : Task) : Prop where
  roundTimeoutSecs : u64.Holds s.roundTimeoutSecs
  maxRounds : u32.Holds s.maxRounds

/-! ## Sections -/

theorem record_of_checks {type : Json.RecordType} {members : Members}
    (h : ∀ member ∈ members, type.check member = .ok ()) :
    Json.record type (.obj members) = .ok members := by
  have hall : members.forM type.check = .ok () := by
    induction members with
    | nil => rfl
    | cons member members ih =>
      rw [List.forM, h member List.mem_cons_self]
      exact ih fun other hother => h other (List.mem_cons_of_mem _ hother)
  rw [Json.record]
  simp only [hall]
  rfl

theorem check_of {type : Json.RecordType} {name : String} {α : Type} {reader : Json.Typed α}
    (hfield : type.fields.find? (·.name = name) = some (.of name reader)) {v : Json} {a : α}
    (h : reader v = .ok a) : type.check (name, v) = .ok () := by
  rw [Json.RecordType.check, hfield]
  simp only [Json.Field.of, h]
  rfl

theorem optional_obj {α : Type} {reader : Json.Typed α} {members : Members} {a : α}
    (h : reader (.obj members) = .ok a) : Json.optional reader (.obj members) = .ok (some a) := by
  rw [Json.optional, h]
  · rfl
  · exact Json.noConfusion

theorem list_string? (texts : List String) :
    Json.list Json.string? (.arr (texts.map .str)) = .ok texts := by
  rw [Json.list]
  induction texts with
  | nil => rfl
  | cons text texts ih =>
    rw [List.map_cons, List.mapM_cons, ih]
    rfl

theorem Attempts.ofJson_members {s : Attempts} (h : s.IsTyped) :
    ofJson (.obj (Toml.present s.members)) = .ok s := by
  have hpresent : Toml.present s.members = s.members := rfl
  have hsite := Json.integer_of_holds h.site
  have hactive := Json.natural_of_holds h.maxActive
  have hbytes := Json.natural_of_holds h.maxParamsBytes
  rw [ofJson, hpresent, record_of_checks]
  · simp [members, Members.withDefault, Members.get?_cons, hsite, hactive, hbytes, bind,
      Except.bind, pure, Except.pure]
  · simp only [members, List.forall_mem_cons]
    exact ⟨check_of rfl hsite, check_of rfl hactive, check_of rfl hbytes, by simp⟩

theorem Guard.ofJson_members {s : Guard} (h : s.IsTyped) :
    ofJson (.obj (Toml.present s.members)) = .ok s := by
  have hpresent : Toml.present s.members = s.members := rfl
  have hstrict : Json.boolean (.bool s.strict) = .ok s.strict := rfl
  have hname : Json.string? (.str s.statusTable) = .ok s.statusTable := rfl
  have hsecs := Json.natural_of_holds h.cleanupSecs
  rw [ofJson, hpresent, record_of_checks]
  · simp [members, Members.withDefault, Members.get?_cons, hstrict, hname, hsecs, bind, Except.bind,
      pure, Except.pure]
  · simp only [members, List.forall_mem_cons]
    exact ⟨check_of rfl hstrict, check_of rfl hname, check_of rfl hsecs, by simp⟩

theorem Backoff.ofJson_members {s : Backoff} (h : s.IsTyped) :
    ofJson (.obj (Toml.present s.members)) = .ok s := by
  have hpresent : Toml.present s.members = s.members := rfl
  have hinitial := Json.natural_of_holds h.initialSecs
  have hmax := Json.natural_of_holds h.maxSecs
  rw [ofJson, hpresent, record_of_checks]
  · simp [members, Members.withDefault, Members.get?_cons, hinitial, hmax, bind, Except.bind,
      pure, Except.pure]
  · simp only [members, List.forall_mem_cons]
    exact ⟨check_of rfl hinitial, check_of rfl hmax, by simp⟩

theorem Task.ofJson_members {s : Task} (h : s.IsTyped) :
    ofJson (.obj (Toml.present s.members)) = .ok s := by
  have hpresent : Toml.present s.members = s.members := rfl
  have hsecs := Json.natural_of_holds h.roundTimeoutSecs
  have hrounds := Json.natural_of_holds h.maxRounds
  rw [ofJson, hpresent, record_of_checks]
  · simp [members, Members.withDefault, Members.get?_cons, hsecs, hrounds, bind, Except.bind,
      pure, Except.pure]
  · simp only [members, List.forall_mem_cons]
    exact ⟨check_of rfl hsecs, check_of rfl hrounds, by simp⟩

theorem Secrets.ofJson_members (s : Secrets) : ofJson (.obj (Toml.present s.members)) = .ok s := by
  have hpresent : Toml.present s.members = s.members := rfl
  have hkeys := list_string? s.defaultAccess
  rw [ofJson, hpresent, record_of_checks]
  · simp [members, Members.withDefault, Members.get?_cons, hkeys, bind, Except.bind,
      pure, Except.pure]
  · simp only [members, List.forall_mem_cons]
    exact ⟨check_of rfl hkeys, by simp⟩

theorem Database.ofJson_members (s : Database) :
    ofJson (.obj (Toml.present s.members)) = .ok s := by
  obtain ⟨_ | path⟩ := s
  · rfl
  · rfl

theorem Logging.ofJson_members (s : Logging) : ofJson (.obj (Toml.present s.members)) = .ok s := by
  obtain ⟨level, _ | path⟩ := s
  · rfl
  · rfl

/-! ## The sections of a configuration -/

/-- The integers are of the types of their fields. -/
structure IsTyped (c : Config) : Prop where
  attempts : ∀ s ∈ c.attempts, s.IsTyped
  guard : ∀ s ∈ c.guard, s.IsTyped
  backoff : ∀ s ∈ c.backoff, s.IsTyped
  task : ∀ s ∈ c.task, s.IsTyped

/-- The sections by name, with their members where they are present. -/
def sections (c : Config) : List (String × Option Members) :=
  [("database", c.database.map (·.members)), ("attempts", c.attempts.map (·.members)),
    ("guard", c.guard.map (·.members)), ("backoff", c.backoff.map (·.members)),
    ("secrets", c.secrets.map (·.members)), ("task", c.task.map (·.members)),
    ("logging", c.logging.map (·.members))]

/-- The sections that are present. -/
def presentSections (sections : List (String × Option Members)) : List (String × Members) :=
  sections.filterMap fun (name, members?) => members?.map (name, ·)

theorem tables_eq (c : Config) : c.tables = presentSections c.sections := rfl

theorem forall_presentSections {sections : List (String × Option Members)}
    {p : String × Members → Prop} :
    (∀ table ∈ presentSections sections, p table) ↔
      ∀ entry ∈ sections, ∀ members ∈ entry.2, p (entry.1, members) := by
  rw [presentSections, List.forall_mem_filterMap]
  exact forall₂_congr fun entry _ => Option.forall_mem_map

theorem names_presentSections (sections : List (String × Option Members)) :
    ((presentSections sections).map Prod.fst).Sublist (sections.map Prod.fst) := by
  induction sections with
  | nil => exact .slnil
  | cons entry sections ih =>
    obtain ⟨name, _ | members⟩ := entry
    · exact ih.cons name
    · exact ih.cons_cons name

/-- A section is found by its name. -/
theorem get?_presentSections {sections : List (String × Option Members)}
    (hnames : (sections.map Prod.fst).Nodup) {name : String} {members? : Option Members}
    (h : (name, members?) ∈ sections) :
    Members.get? ((presentSections sections).map Toml.tableMember) name =
      members?.map fun members => .obj (Toml.present members) := by
  induction sections with
  | nil => cases h
  | cons entry sections ih =>
    rw [List.map_cons, List.nodup_cons] at hnames
    rcases List.mem_cons.1 h with rfl | hmem
    · cases members? with
      | some members => exact (Members.get?_cons _ _ _ _).trans (if_pos rfl)
      | none =>
        -- An absent section has no entry, and no other one has its name.
        refine Members.get?_eq_none fun hname => hnames.1 ?_
        have hpresent := (names_presentSections sections).subset
        rw [List.map_map] at hname
        exact hpresent hname
    · have hne : entry.1 ≠ name := fun heq => hnames.1 (List.mem_map.2 ⟨_, hmem, heq.symm⟩)
      obtain ⟨other, _ | members⟩ := entry
      · exact ih hnames.2 hmem
      · exact ((Members.get?_cons _ _ _ _).trans (if_neg hne)).trans (ih hnames.2 hmem)

theorem forall_tables {c : Config} {p : String × Members → Prop} :
    (∀ table ∈ c.tables, p table) ↔
      (∀ s ∈ c.database, p ("database", s.members)) ∧
      (∀ s ∈ c.attempts, p ("attempts", s.members)) ∧
      (∀ s ∈ c.guard, p ("guard", s.members)) ∧
      (∀ s ∈ c.backoff, p ("backoff", s.members)) ∧
      (∀ s ∈ c.secrets, p ("secrets", s.members)) ∧ (∀ s ∈ c.task, p ("task", s.members)) ∧
      (∀ s ∈ c.logging, p ("logging", s.members)) := by
  rw [tables_eq, forall_presentSections]
  simp only [sections, List.forall_mem_cons, Option.forall_mem_map, List.not_mem_nil, false_imp_iff,
    implies_true, and_true]

theorem isTable_of {name : String} {members : Members} (keys : List String)
    (hkeys : members.keys = keys) (hname : Toml.IsBareKey name)
    (hbare : ∀ key ∈ keys, Toml.IsBareKey key) (hdistinct : keys.Nodup) :
    Toml.IsTable (name, members) where
  name := hname
  keys := hkeys ▸ hbare
  distinct := hkeys ▸ hdistinct

theorem isTable_tables (c : Config) : ∀ table ∈ c.tables, Toml.IsTable table := by
  refine forall_tables.2 ⟨?_, ?_, ?_, ?_, ?_, ?_, ?_⟩
  · exact fun s _ => isTable_of ["path"] rfl (by decide) (by decide) (by decide)
  · exact fun s _ => isTable_of ["site_id", "max_active_attempts", "max_params_bytes"] rfl
      (by decide) (by decide) (by decide)
  · exact fun s _ => isTable_of ["strict", "status_table", "status_table_cleanup_secs"] rfl
      (by decide) (by decide) (by decide)
  · exact fun s _ => isTable_of ["initial_interval_secs", "max_interval_secs"] rfl
      (by decide) (by decide) (by decide)
  · exact fun s _ => isTable_of ["default_access"] rfl (by decide) (by decide) (by decide)
  · exact fun s _ => isTable_of ["round_timeout_secs", "max_rounds"] rfl
      (by decide) (by decide) (by decide)
  · exact fun s _ => isTable_of ["level", "json_dir"] rfl (by decide) (by decide) (by decide)

theorem names_sections (c : Config) : (c.sections.map Prod.fst).Nodup := by
  have hnames : c.sections.map Prod.fst =
      ["database", "attempts", "guard", "backoff", "secrets", "task", "logging"] := rfl
  rw [hnames]
  decide

/-- A section that is present is read back from its members. -/
def ReadsBack {α : Type} (reader : Json.Typed α) (membersOf : α → Members) (s? : Option α) : Prop :=
  ∀ s ∈ s?, reader (.obj (Toml.present (membersOf s))) = .ok s

section ReadsBack

variable {α : Type} {reader : Json.Typed α} {membersOf : α → Members} {s? : Option α}

theorem ReadsBack.optional (h : ReadsBack reader membersOf s?) (c : Config) (name : String)
    (hs : (name, s?.map membersOf) ∈ c.sections) :
    Members.optional (c.tables.map Toml.tableMember) name reader = .ok s? := by
  rw [Members.optional, tables_eq, get?_presentSections (names_sections c) hs]
  cases s? with
  | none => rfl
  | some s => exact optional_obj (h s rfl)

theorem ReadsBack.check (h : ReadsBack reader membersOf s?) {type : Json.RecordType} {name : String}
    (hfield : type.fields.find? (·.name = name) = some (.of name (Json.optional reader))) :
    ∀ s ∈ s?, type.check (Toml.tableMember (name, membersOf s)) = .ok () :=
  fun s hs => check_of hfield (optional_obj (h s hs))

end ReadsBack

/-- The document of the sections that are present is read back. -/
theorem ofJson_tables {c : Config} (hc : c.IsTyped) :
    ofJson (.obj (c.tables.map Toml.tableMember)) = .ok c := by
  -- Each section is read back by itself; what is absent stays absent.
  have hdatabase : ReadsBack Database.ofJson Database.members c.database :=
    fun s _ => s.ofJson_members
  have hattempts : ReadsBack Attempts.ofJson Attempts.members c.attempts :=
    fun s hs => Attempts.ofJson_members (hc.attempts s hs)
  have hguard : ReadsBack Guard.ofJson Guard.members c.guard :=
    fun s hs => Guard.ofJson_members (hc.guard s hs)
  have hbackoff : ReadsBack Backoff.ofJson Backoff.members c.backoff :=
    fun s hs => Backoff.ofJson_members (hc.backoff s hs)
  have hsecrets : ReadsBack Secrets.ofJson Secrets.members c.secrets :=
    fun s _ => s.ofJson_members
  have htask : ReadsBack Task.ofJson Task.members c.task :=
    fun s hs => Task.ofJson_members (hc.task s hs)
  have hlogging : ReadsBack Logging.ofJson Logging.members c.logging :=
    fun s _ => s.ofJson_members
  rw [ofJson, record_of_checks]
  · simp only [bind, Except.bind, pure, Except.pure,
      hdatabase.optional c "database" (by simp [sections]),
      hattempts.optional c "attempts" (by simp [sections]),
      hguard.optional c "guard" (by simp [sections]),
      hbackoff.optional c "backoff" (by simp [sections]),
      hsecrets.optional c "secrets" (by simp [sections]),
      htask.optional c "task" (by simp [sections]),
      hlogging.optional c "logging" (by simp [sections])]
  · rw [List.forall_mem_map, forall_tables]
    exact ⟨hdatabase.check rfl, hattempts.check rfl, hguard.check rfl, hbackoff.check rfl,
      hsecrets.check rfl, htask.check rfl, hlogging.check rfl⟩

/-! ## Texts -/

theorem trimmed_tableMember (table : String × Members) :
    trimmed (Toml.tableMember table) = Toml.tableMember table := by
  unfold trimmed Toml.tableMember
  split
  · rename_i heq
    cases heq
  · rfl

/-- What is written is read back. -/
theorem ofToml_of_toml? {c : Config} (hc : c.IsTyped) {text : String} (h : c.toml? = .ok text) :
    ofToml text = .ok c := by
  unfold toml? at h
  split at h
  · rename_i hwritten
    cases h
    have hnames : (c.tables.map Prod.fst).Nodup :=
      (names_sections c).sublist (names_presentSections c.sections)
    have htrimmed :
        (c.tables.map Toml.tableMember).map trimmed = c.tables.map Toml.tableMember := by
      rw [List.map_map]
      exact List.map_congr_left fun table _ => trimmed_tableMember table
    rw [ofToml, Toml.read_document? (isTable_tables c) hnames hwritten]
    simp only [htrimmed, ofJson_tables hc]
  · cases h

/-- The integers of a section. -/
def Attempts.integers (s : Attempts) : List Int := [s.site, s.maxActive, s.maxParamsBytes]

/-- The integers of a section. -/
def Guard.integers (s : Guard) : List Int := [s.cleanupSecs]

/-- The integers of a section. -/
def Backoff.integers (s : Backoff) : List Int := [s.initialSecs, s.maxSecs]

/-- The integers of a section. -/
def Task.integers (s : Task) : List Int := [s.roundTimeoutSecs, s.maxRounds]

/-- The integers of the sections that are present. -/
def integers (c : Config) : List Int :=
  c.attempts.elim [] Attempts.integers ++ c.guard.elim [] Guard.integers ++
    c.backoff.elim [] Backoff.integers ++ c.task.elim [] Task.integers

theorem valueForm?_int_isSome {n : Int} (h : -0x8000000000000000 ≤ n) :
    (Toml.valueForm? (.int n)).isSome ↔ n < 0x8000000000000000 := by
  simp [Toml.valueForm?, Json.int, Toml.scalarForm?, h]

theorem valueForm?_nat_isSome (n : Nat) :
    (Toml.valueForm? (.nat n)).isSome ↔ (n : Int) < 0x8000000000000000 :=
  valueForm?_int_isSome (by omega)

theorem valueForm?_texts_isSome (texts : List String) :
    (Toml.valueForm? (.arr (texts.map .str))).isSome := by
  have hforms : ((texts.map Json.str).mapM Toml.scalarForm?).isSome := by
    rw [Toml.mapM_isSome_iff, List.forall_mem_map]
    exact fun _ _ => rfl
  obtain ⟨forms, hforms⟩ := Option.isSome_iff_exists.1 hforms
  simp only [Toml.valueForm?, hforms, Option.bind_eq_bind, Option.bind_some]
  split <;> rfl

/-- The members of a section can all be written. -/
def IsWritable (members : Members) : Prop :=
  ∀ member ∈ Toml.present members, (Toml.valueForm? member.2).isSome

theorem Attempts.isWritable_iff {s : Attempts} (h : s.IsTyped) :
    IsWritable s.members ↔ ∀ n ∈ s.integers, n < 0x8000000000000000 := by
  have hpresent : Toml.present s.members = s.members := rfl
  have hsite : -0x8000000000000000 ≤ s.site := Int.le_trans (by decide) h.site.1
  rw [IsWritable, hpresent]
  simp [members, integers, valueForm?_int_isSome hsite, valueForm?_nat_isSome]

theorem Guard.isWritable_iff (s : Guard) :
    IsWritable s.members ↔ ∀ n ∈ s.integers, n < 0x8000000000000000 := by
  have hpresent : Toml.present s.members = s.members := rfl
  have hstrict : (Toml.valueForm? (.bool s.strict)).isSome := rfl
  have hname : (Toml.valueForm? (.str s.statusTable)).isSome := rfl
  rw [IsWritable, hpresent]
  simp [members, integers, hstrict, hname, valueForm?_nat_isSome]

theorem Backoff.isWritable_iff (s : Backoff) :
    IsWritable s.members ↔ ∀ n ∈ s.integers, n < 0x8000000000000000 := by
  have hpresent : Toml.present s.members = s.members := rfl
  rw [IsWritable, hpresent]
  simp [members, integers, valueForm?_nat_isSome]

theorem Task.isWritable_iff (s : Task) :
    IsWritable s.members ↔ ∀ n ∈ s.integers, n < 0x8000000000000000 := by
  have hpresent : Toml.present s.members = s.members := rfl
  rw [IsWritable, hpresent]
  simp [members, integers, valueForm?_nat_isSome]

theorem Database.isWritable (s : Database) : IsWritable s.members := by
  obtain ⟨_ | path⟩ := s
  · exact List.forall_mem_nil _
  · exact List.forall_mem_singleton.2 rfl

theorem Secrets.isWritable (s : Secrets) : IsWritable s.members :=
  List.forall_mem_singleton.2 (valueForm?_texts_isSome s.defaultAccess)

theorem Logging.isWritable (s : Logging) : IsWritable s.members := by
  obtain ⟨level, _ | path⟩ := s
  · exact List.forall_mem_singleton.2 rfl
  · exact List.forall_mem_cons.2 ⟨rfl, List.forall_mem_singleton.2 rfl⟩

theorem forall_mem_elim {α : Type} {integersOf : α → List Int} {s? : Option α} {p : Int → Prop} :
    (∀ n ∈ s?.elim [] integersOf, p n) ↔ ∀ s ∈ s?, ∀ n ∈ integersOf s, p n := by
  cases s? <;> simp

/-- A configuration is written unless one of its integers is too large. -/
theorem document?_tables_isSome_iff {c : Config} (hc : c.IsTyped) :
    (Toml.document? c.tables).isSome ↔ ∀ n ∈ c.integers, n < 0x8000000000000000 := by
  have hsections : (∀ table ∈ c.tables, IsWritable table.2) ↔
      (∀ s ∈ c.attempts, ∀ n ∈ s.integers, n < 0x8000000000000000) ∧
      (∀ s ∈ c.guard, ∀ n ∈ s.integers, n < 0x8000000000000000) ∧
      (∀ s ∈ c.backoff, ∀ n ∈ s.integers, n < 0x8000000000000000) ∧
      (∀ s ∈ c.task, ∀ n ∈ s.integers, n < 0x8000000000000000) := by
    rw [forall_tables]
    simp only [Database.isWritable, Secrets.isWritable, Logging.isWritable, Guard.isWritable_iff,
      Backoff.isWritable_iff, Task.isWritable_iff, implies_true, true_and, and_true]
    rw [forall₂_congr fun s hs => Attempts.isWritable_iff (hc.attempts s hs)]
  simp only [Toml.document?_isSome_iff, integers, List.forall_mem_append, forall_mem_elim,
    and_assoc]
  exact hsections

theorem toml?_eq_error_iff {c : Config} (hc : c.IsTyped) :
    c.toml? = .error .serialize ↔ ∃ n ∈ c.integers, 0x7FFFFFFFFFFFFFFF < n := by
  have hnone : c.toml? = .error .serialize ↔ ¬(Toml.document? c.tables).isSome := by
    unfold toml?
    cases Toml.document? c.tables <;> simp
  rw [hnone, document?_tables_isSome_iff hc]
  simp only [not_forall, exists_prop, Int.not_lt]
  exact exists_congr fun n => and_congr_right fun _ => by omega

/-- What was saved is loaded. -/
theorem load_of_save {c : Config} (hc : c.IsTyped) {tree saved : Files.Tree} {path : String}
    (h : c.save tree path = .ok saved) : load saved path = .ok c := by
  unfold save at h
  cases htext : c.toml? with
  | error e =>
    rw [htext] at h
    cases h
  | ok text =>
    cases hparent : makeParent tree path with
    | error e => simp [htext, hparent, bind, Except.bind] at h
    | ok above =>
      simp only [htext, hparent, bind, Except.bind] at h
      split at h
      · rename_i hwrite
        cases h
        rw [load, Files.Tree.read_write hwrite]
        exact ofToml_of_toml? hc htext
      · cases h

/-- **A configuration survives being written and read.** Writing fails only for an integer
beyond 64 bits with a sign, and what is written or saved is read back. -/
theorem survives_writing {c : Config} (hc : c.IsTyped) :
    (c.toml? = .error .serialize ↔ ∃ n ∈ c.integers, 0x7FFFFFFFFFFFFFFF < n) ∧
      ((∀ n ∈ c.integers, n ≤ 0x7FFFFFFFFFFFFFFF) →
        ∃ text, c.toml? = .ok text ∧ ofToml text = .ok c) ∧
      ∀ tree path saved, c.save tree path = .ok saved → load saved path = .ok c := by
  refine ⟨toml?_eq_error_iff hc, fun hsmall => ?_, fun tree path saved h => load_of_save hc h⟩
  have hwritten : (Toml.document? c.tables).isSome :=
    (document?_tables_isSome_iff hc).2 fun n hn => Int.lt_of_le_of_lt (hsmall n hn) (by decide)
  obtain ⟨text, htext⟩ := Option.isSome_iff_exists.1 hwritten
  have htoml : c.toml? = .ok text := by rw [toml?, htext]
  exact ⟨text, htoml, ofToml_of_toml? hc htoml⟩

/-- Texts that no form holds as they are, next to sections without values. -/
def knotty : Config where
  database := some { path := none }
  attempts := some { site := -1, maxActive := 0, maxParamsBytes := 0x7FFFFFFFFFFFFFFF }
  guard := some { statusTable := "a\"b'c\\d\ne\tf\r\x00\x7f\"\"\"\"'''" }
  secrets := some { defaultAccess := ["", "\"", "'", "\"'", "\n", "\"\"\"'''"] }
  logging := some { level := "", jsonDir := some "/var/log\\x" }

theorem knotty_isTyped : knotty.IsTyped where
  attempts := by
    rintro s ⟨⟩
    exact ⟨by decide, by decide, by decide⟩
  guard := by
    rintro s ⟨⟩
    exact ⟨by decide⟩
  backoff := by rintro s ⟨⟩
  task := by rintro s ⟨⟩

/-- One attempt more than can be written. -/
def vast : Config := { attempts := some { maxActive := 0x8000000000000000 } }

theorem vast_isTyped : vast.IsTyped where
  attempts := by
    rintro s ⟨⟩
    exact ⟨by decide, by decide, by decide⟩
  guard := by rintro s ⟨⟩
  backoff := by rintro s ⟨⟩
  task := by rintro s ⟨⟩

theorem survives_writing_knotty :
    knotty.IsTyped ∧ (∃ text, knotty.toml? = .ok text ∧ ofToml text = .ok knotty) ∧
      vast.IsTyped ∧ vast.toml? = .error .serialize :=
  ⟨knotty_isTyped, (survives_writing knotty_isTyped).2.1 (by decide), vast_isTyped,
    (survives_writing vast_isTyped).1.2 ⟨0x8000000000000000, by decide, by decide⟩⟩

end Config

end RetrySafe
