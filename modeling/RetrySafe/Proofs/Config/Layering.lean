import RetrySafe.Config.Directory
import RetrySafe.Config.Layers
import RetrySafe.Proofs.Files.Saved
import RetrySafe.Proofs.Results

/-!
# What the layers of a configuration make

Configurations on top of each other form a monoid, whose unit has no section: of each section the last
one counts that is there. So what some readings make depends on those alone that came to a configuration,
and on their order. A reading comes to one exactly if its path leads to a file with the text of a
configuration; any other file is passed over with a warning that says why.

## Main definitions

* `Section`, `Config.get?` — the seven sections, and what a configuration has in each.
* `Condition`, `Holds` — what there is at the path of a layer.

## Main results

* `ext_get?`, `get?_overriddenBy` — configurations on top of each other, section by section.
* `get?_merge`, `merge_append` — what readings make, and that they can be taken together in any way.
* `of_holds` — what is read from what there is.
* `layers_override` — what two layers make, with all sources and warnings.
-/

namespace RetrySafe.Config

/-! ## Sections on top of each other -/

/-- The sections, each with what stands in it. -/
inductive Section : Type → Type
  | database : Section Database
  | attempts : Section Attempts
  | guard : Section Guard
  | backoff : Section Backoff
  | secrets : Section Secrets
  | task : Section Task
  | logging : Section Logging

variable {α : Type} {config other : Config}

/-- What a configuration has in a section, if that is there. -/
def get? (config : Config) : Section α → Option α
  | .database => config.database
  | .attempts => config.attempts
  | .guard => config.guard
  | .backoff => config.backoff
  | .secrets => config.secrets
  | .task => config.task
  | .logging => config.logging

/-- Configurations are what they have in their sections. -/
theorem ext_get? (h : ∀ (α : Type) (s : Section α), config.get? s = other.get? s) :
    config = other := by
  obtain ⟨database, attempts, guard, backoff, secrets, task, logging⟩ := config
  obtain rfl : database = other.database := h _ .database
  obtain rfl : attempts = other.attempts := h _ .attempts
  obtain rfl : guard = other.guard := h _ .guard
  obtain rfl : backoff = other.backoff := h _ .backoff
  obtain rfl : secrets = other.secrets := h _ .secrets
  obtain rfl : task = other.task := h _ .task
  obtain rfl : logging = other.logging := h _ .logging
  rfl

/-- A section on top hides the one below it. -/
theorem get?_overriddenBy (config other : Config) (s : Section α) :
    (config.overriddenBy other).get? s = (other.get? s).or (config.get? s) := by
  cases s <;> exact (Option.or_eq_orElse ..).symm

theorem get?_empty (s : Section α) : empty.get? s = none := by cases s <;> rfl

theorem overriddenBy_assoc (a b c : Config) :
    (a.overriddenBy b).overriddenBy c = a.overriddenBy (b.overriddenBy c) := by
  apply ext_get?
  intro α s
  rw [get?_overriddenBy, get?_overriddenBy, get?_overriddenBy, get?_overriddenBy, Option.or_assoc]

theorem empty_overriddenBy (config : Config) : empty.overriddenBy config = config := by
  apply ext_get?
  intro α s
  rw [get?_overriddenBy, get?_empty, Option.or_none]

theorem overriddenBy_empty (config : Config) : config.overriddenBy empty = config := by
  apply ext_get?
  intro α s
  rw [get?_overriddenBy, get?_empty, Option.none_or]

instance : Std.Associative overriddenBy := ⟨overriddenBy_assoc⟩

/-! ## Readings on top of each other -/

theorem get?_foldl (configs : List Config) (config : Config) (s : Section α) :
    (configs.foldl overriddenBy config).get? s =
      (configs.reverse.findSome? (·.get? s)).or (config.get? s) := by
  -- What lies below the first configuration of the list changes with every step.
  induction configs generalizing config with
  | nil => rfl
  | cons next configs ih =>
    rw [List.foldl_cons, ih, get?_overriddenBy, List.reverse_cons, List.findSome?_append,
      List.findSome?_singleton, Option.or_assoc]

/-- Of each section the last one counts that was read. -/
theorem get?_merge (readings : List Reading) (s : Section α) :
    (merge readings).get? s =
      (readings.filterMap (·.config?)).reverse.findSome? (·.get? s) := by
  rw [merge, get?_foldl, get?_empty, Option.or_none]

/-- Readings can be taken together in any way, as long as they stay in order. -/
theorem merge_append (front back : List Reading) :
    merge (front ++ back) = (merge front).overriddenBy (merge back) :=
  calc merge (front ++ back)
    _ = (back.filterMap (·.config?)).foldl overriddenBy (merge front) := by
      rw [merge, List.filterMap_append, List.foldl_append, merge]
    _ = (back.filterMap (·.config?)).foldl overriddenBy ((merge front).overriddenBy empty) := by
      rw [overriddenBy_empty]
    _ = (merge front).overriddenBy (merge back) := List.foldl_assoc

/-! ## What is read of a layer -/

/-- What there is at the path of a layer. -/
inductive Condition
  /-- Nothing. -/
  | missing
  | directory
  /-- A file that may not be opened or that holds no text. -/
  | unreadable (cause : Files.Fault)
  /-- A file whose text is no configuration. -/
  | broken (cause : Error)
  /-- A file with the text of a configuration. -/
  | valid (config : Config)

/-- The configuration that stands there. -/
def Condition.config? : Condition → Option Config
  | valid config => some config
  | _ => none

/-- What is read there. -/
def Condition.outcome (path : String) : Condition → Option (Except Error Config)
  | missing => none
  | directory => none
  | unreadable cause => some (.error (.readFile path cause))
  | broken cause => some (.error cause)
  | valid config => some (.ok config)

/-- Why a file is passed over. -/
def Condition.reason? (path : String) : Condition → Option String
  | unreadable cause => some ("cannot read config file '" ++ path ++ "': " ++ cause.message)
  | broken cause => some cause.message
  | _ => none

/-- The warning about a file that is passed over. -/
def Condition.skipped? (layer : Layer) (path : String) (condition : Condition) : Option String :=
  (condition.reason? path).map ("Skipped " ++ layer.name ++ " config " ++ path ++ ": " ++ ·)

/-- What there is at a path of a tree. -/
inductive Holds (tree : Files.Tree) (path : String) : Condition → Prop
  | missing {fault : Files.Fault} (hfind : tree.find path = .error fault) :
      Holds tree path .missing
  | directory (hfind : tree.find path = .ok .directory) : Holds tree path .directory
  | sealedFile (hfind : tree.find path = .ok .sealedFile) :
      Holds tree path (.unreadable .forbidden)
  | notText {content : List UInt8} (hfind : tree.find path = .ok (.file content))
      (hcontent : ∀ text : String, text.toUTF8.toList ≠ content) :
      Holds tree path (.unreadable .notText)
  | broken {text : String} {cause : Error}
      (hfind : tree.find path = .ok (.file text.toUTF8.toList)) (htext : ofToml text = .error cause) :
      Holds tree path (.broken cause)
  | valid {text : String} {config : Config}
      (hfind : tree.find path = .ok (.file text.toUTF8.toList)) (htext : ofToml text = .ok config) :
      Holds tree path (.valid config)

variable {tree : Files.Tree} {path : String} {condition : Condition}

theorem read_of_text {text : String} (hfind : tree.find path = .ok (.file text.toUTF8.toList)) :
    tree.read path = .ok text := by
  rw [Files.Tree.read, hfind]
  simp only [bind, Except.bind, Files.fromUTF8?_toUTF8, pure, Except.pure]

theorem read_of_notText {content : List UInt8} (hfind : tree.find path = .ok (.file content))
    (hcontent : ∀ text : String, text.toUTF8.toList ≠ content) :
    tree.read path = .error .notText := by
  rw [Files.Tree.read, hfind]
  simp only [bind, Except.bind, Files.fromUTF8?_eq_none hcontent]
  rfl

/-- Something is to be found at every path, be it nothing. -/
theorem exists_holds (tree : Files.Tree) (path : String) : ∃ condition, Holds tree path condition := by
  rcases hfind : tree.find path with fault | ⟨content | _ | _⟩
  · exact ⟨_, .missing hfind⟩
  · -- The bytes of a file are those of a text, which is a configuration or not, or of none.
    by_cases htext : ∃ text : String, text.toUTF8.toList = content
    · obtain ⟨text, rfl⟩ := htext
      cases hconfig : ofToml text with
      | error cause => exact ⟨_, .broken hfind hconfig⟩
      | ok config => exact ⟨_, .valid hfind hconfig⟩
    · exact ⟨_, .notText hfind (not_exists.mp htext)⟩
  · exact ⟨_, .sealedFile hfind⟩
  · exact ⟨_, .directory hfind⟩

theorem of_isFile (h : tree.isFile path = true) (layer : Layer) :
    Reading.of tree layer path = ⟨layer, path, some (load tree path)⟩ := by
  rw [Reading.of, if_pos h]

theorem of_not_isFile (h : tree.isFile path = false) (layer : Layer) :
    Reading.of tree layer path = ⟨layer, path, none⟩ := by
  rw [Reading.of, if_neg (Bool.eq_false_iff.mp h)]

/-- What is read is what there is. -/
theorem of_holds (h : Holds tree path condition) (layer : Layer) :
    Reading.of tree layer path = ⟨layer, path, condition.outcome path⟩ := by
  cases h with
  | missing hfind => exact of_not_isFile (by rw [Files.Tree.isFile, hfind]) layer
  | directory hfind => exact of_not_isFile (by rw [Files.Tree.isFile, hfind]) layer
  | sealedFile hfind =>
    rw [of_isFile (by rw [Files.Tree.isFile, hfind]), load, Files.Tree.read, hfind]
    rfl
  | notText hfind hcontent =>
    rw [of_isFile (by rw [Files.Tree.isFile, hfind]), load, read_of_notText hfind hcontent]
    rfl
  | broken hfind htext =>
    rw [of_isFile (by rw [Files.Tree.isFile, hfind]), load, read_of_text hfind, Condition.outcome,
      ← htext]
  | valid hfind htext =>
    rw [of_isFile (by rw [Files.Tree.isFile, hfind]), load, read_of_text hfind, Condition.outcome,
      ← htext]

/-! ## What the layers make -/

/-- Whose reading it is, where it was looked for, and whether it came to a configuration. -/
def Reading.source (reading : Reading) : Layer × String × Bool :=
  (reading.layer, reading.path, reading.config?.isSome)

section Conditions

variable (layer : Layer) (path : String) (condition : Condition)

theorem config?_of_outcome :
    Reading.config? ⟨layer, path, condition.outcome path⟩ = condition.config? := by
  cases condition <;> rfl

theorem warning?_of_outcome :
    Reading.warning? ⟨layer, path, condition.outcome path⟩ = condition.skipped? layer path := by
  cases condition <;> rfl

end Conditions

/-- What some readings make together, valid or not. -/
def Loaded.ofReadings (readings : List Reading) : Loaded where
  config := merge readings
  sources := readings
  warnings := readings.filterMap (·.warning?) ++ (weakness? (merge readings)).toList

theorem loadLayers_eq {user project : String} {lower upper : Reading}
    (hlower : Reading.of tree .user user = lower) (hupper : Reading.of tree .project project = upper) :
    loadLayers tree (some user) project =
      (merge [lower, upper]).validate.map fun _ => Loaded.ofReadings [lower, upper] := by
  subst hlower hupper
  cases hvalid : (merge [Reading.of tree .user user, Reading.of tree .project project]).validate with
  | error flaw => exact congrArg (· >>= _) hvalid
  | ok checked => exact congrArg (· >>= _) hvalid

theorem filterMap_pair {β γ : Type} (f : β → Option γ) (first second : β) :
    [first, second].filterMap f = (f first).toList ++ (f second).toList := by
  rw [List.filterMap_cons, List.filterMap_cons, List.filterMap_nil]
  cases f first <;> cases f second <;> rfl

/-- Two readings, section by section. -/
theorem get?_merge_pair (lower upper : Reading) (s : Section α) :
    (merge [lower, upper]).get? s =
      (upper.config?.bind (·.get? s)).or (lower.config?.bind (·.get? s)) := by
  have hreading (config? : Option Config) :
      config?.toList.reverse.findSome? (·.get? s) = config?.bind (·.get? s) := by
    cases config? with
    | none => rfl
    | some config => exact List.findSome?_singleton
  rw [get?_merge, filterMap_pair, List.reverse_append, List.findSome?_append, hreading, hreading]

/-- What is said about two layers: whether either was loaded, the files that were passed over, and
whether the guard gives something up. -/
structure Loaded.Reports (loaded : Loaded) (user project : String) (lower upper : Condition) : Prop where
  sources : loaded.sources.map Reading.source =
    [(.user, user, lower.config?.isSome), (.project, project, upper.config?.isSome)]
  warnings : loaded.warnings =
    (lower.skipped? .user user).toList ++ (upper.skipped? .project project).toList ++
      if loaded.config.guardSettings.strict then [] else
        ["[guard] strict = false: protected statements run on every retry and are not " ++
          "guarded against duplicate execution."]

theorem reports_of_conditions (user project : String) (lower upper : Condition) :
    (Loaded.ofReadings [⟨.user, user, lower.outcome user⟩,
      ⟨.project, project, upper.outcome project⟩]).Reports user project lower upper := by
  constructor
  · simp only [Loaded.ofReadings, List.map_cons, List.map_nil, Reading.source, config?_of_outcome]
  · have hweakness (config : Config) : (weakness? config).toList =
        if config.guardSettings.strict then [] else
          ["[guard] strict = false: protected statements run on every retry and are not " ++
            "guarded against duplicate execution."] := by
      rw [weakness?]
      split <;> rfl
    rw [Loaded.ofReadings, hweakness, filterMap_pair, warning?_of_outcome, warning?_of_outcome]

/-- **Layers override section by section.** At the path of a layer there is nothing, a directory, a file
that cannot be read or holds no configuration, or a configuration. What the two layers make is invalid
for the flaw of the two together. Otherwise each section is that of the project's configuration if it
is there, and that of the user's if it is there, of the files that hold one. Both layers are listed as
sources, and there is a warning for each file that is passed over, in order, and one more if the guard
is not strict. Nothing else comes of a file that is passed over: configurations on top of each other form
a monoid, and what readings make depends on the configurations among them alone, taken together in any
way. -/
theorem layers_override (tree : Files.Tree) (user project : String) :
    (∀ path, ∃ condition, Holds tree path condition) ∧
      (∀ lower upper : Condition, Holds tree (Environment.userPath user) lower →
        Holds tree (projectPath project) upper →
          ∃ config : Config,
            (∀ (α : Type) (s : Section α), config.get? s =
              (upper.config?.bind (·.get? s)).or (lower.config?.bind (·.get? s))) ∧
            (∀ flaw, loadLayers tree (some (Environment.userPath user)) (projectPath project) =
              .error flaw ↔ config.validate = .error flaw) ∧
            (config.validate = .ok () → ∃ loaded,
              loadLayers tree (some (Environment.userPath user)) (projectPath project) = .ok loaded ∧
                loaded.config = config ∧
                loaded.Reports (Environment.userPath user) (projectPath project) lower upper)) ∧
      (∀ a b c : Config, (a.overriddenBy b).overriddenBy c = a.overriddenBy (b.overriddenBy c)) ∧
      (∀ config : Config, empty.overriddenBy config = config ∧ config.overriddenBy empty = config) ∧
      (∀ front back, merge (front ++ back) = (merge front).overriddenBy (merge back)) ∧
      ∀ readings readings' : List Reading,
        readings.filterMap (·.config?) = readings'.filterMap (·.config?) →
          merge readings = merge readings' := by
  refine ⟨exists_holds tree, ?_, overriddenBy_assoc, ?_, merge_append, ?_⟩
  · intro lower upper hlower hupper
    rw [loadLayers_eq (of_holds hlower .user) (of_holds hupper .project)]
    refine ⟨_, fun α s => ?_, fun flaw => map_eq_error_iff, fun hvalid => ?_⟩
    · rw [get?_merge_pair, config?_of_outcome, config?_of_outcome]
    · exact ⟨_, congrArg (Except.map _) hvalid, rfl, reports_of_conditions _ _ lower upper⟩
  · exact fun config => ⟨empty_overriddenBy config, overriddenBy_empty config⟩
  · intro readings readings' h
    rw [merge, merge, h]

/-- A guard that is not strict. -/
def lax : Config := { guard := some { strict := false } }

/-- The user's file may not be opened, and the project's has one section. -/
def laxTree : Files.Tree where
  entries := [(["home", "config.toml"], .sealedFile),
    (["work", "drover.toml"], .file "[guard]\nstrict = false\n".toUTF8.toList)]

/-- The user's file is passed over with a warning, and so is the guard that the project gives up. -/
theorem layers_override_lax :
    Holds laxTree (Environment.userPath "/home") (.unreadable .forbidden) ∧
      Holds laxTree (projectPath "/work") (.valid lax) ∧
      ∃ loaded, loadLayers laxTree (some "/home/config.toml") "/work/drover.toml" = .ok loaded ∧
        loaded.config = lax ∧
        loaded.warnings =
          ["Skipped User config /home/config.toml: cannot read config file '/home/config.toml': " ++
              "Permission denied (os error 13)",
            "[guard] strict = false: protected statements run on every retry and are not " ++
              "guarded against duplicate execution."] := by
  have htext : ofToml "[guard]\nstrict = false\n" = .ok lax := by
    -- Equality of what is read can be decided for configurations, not for errors.
    have hread : (ofToml "[guard]\nstrict = false\n").toOption = some lax := by decide +kernel
    cases hlax : ofToml "[guard]\nstrict = false\n" with
    | error cause =>
      rw [hlax] at hread
      cases hread
    | ok config =>
      rw [hlax] at hread
      exact congrArg Except.ok (Option.some.inj hread)
  have huser : Holds laxTree (Environment.userPath "/home") (.unreadable .forbidden) :=
    .sealedFile (by decide +kernel)
  have hproject : Holds laxTree (projectPath "/work") (.valid lax) :=
    .valid (by decide +kernel) htext
  obtain ⟨-, hlayers, -⟩ := layers_override laxTree "/home" "/work"
  obtain ⟨config, hsections, -, hloaded⟩ := hlayers _ _ huser hproject
  have hconfig : config = lax := by
    apply ext_get?
    intro α s
    rw [hsections]
    exact Option.or_none
  obtain ⟨loaded, hload, hloadedConfig, hreports⟩ := hloaded (by rw [hconfig]; rfl)
  have huserPath : Environment.userPath "/home" = "/home/config.toml" := by decide +kernel
  have hprojectPath : projectPath "/work" = "/work/drover.toml" := by decide +kernel
  rw [huserPath, hprojectPath] at hload
  refine ⟨huser, hproject, loaded, hload, hloadedConfig.trans hconfig, ?_⟩
  rw [hreports.warnings, hloadedConfig, hconfig]
  decide +kernel

end RetrySafe.Config
