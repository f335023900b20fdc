import RetrySafe.Proofs.Association
import RetrySafe.Proofs.Task.Job

/-!
# States in the store in memory

A state that is saved is loaded as it was, whatever was saved under its key before and whatever happens
to other keys in between. Only where it is nested too deep does loading it fail, and then for that.

## Main definitions

* `Deed` — what changes the store.
* `Shelf.following` — the store after some deeds.

## Main results

* `load_following` — deeds on other keys change nothing that is loaded.
* `load_last_saved` — what was saved last is loaded.
-/

namespace RetrySafe.Task

/-- What changes the store. -/
inductive Deed
  | save (key : String) (state : Members)
  | clear (key : String)

namespace Deed

/-- The key of a deed. -/
def key : Deed → String
  | save key _ => key
  | clear key => key

/-- A deed on the store in memory. -/
def perform : Deed → StateM Shelf (Except TaskError Unit)
  | save key state => Shelf.store.save key state
  | clear key => Shelf.store.clear key

end Deed

namespace Shelf

/-- The store after some deeds. -/
def following (shelf : Shelf) (deeds : List Deed) : Shelf :=
  deeds.foldl (fun shelf deed => (deed.perform.run shelf).run.2) shelf

variable {shelf : Shelf} {key : String}

/-- Every deed succeeds. -/
theorem perform_succeeds (deed : Deed) (shelf : Shelf) :
    (deed.perform.run shelf).run.1 = .ok () := by
  cases deed <;> rfl

theorem lookup_perform {deed : Deed} (h : deed.key ≠ key) (shelf : Shelf) :
    (deed.perform.run shelf).run.2.texts.lookup key = shelf.texts.lookup key := by
  cases deed with
  | save other state =>
    have hother : key ≠ other := fun e => h e.symm
    exact (Association.lookup_cons_ne hother _ _).trans (Association.lookup_filter_ne hother _)
  | clear other => exact Association.lookup_filter_ne (fun e => h e.symm) _

/-- Deeds on other keys change nothing that is loaded. -/
theorem load_following {deeds : List Deed} (h : ∀ deed ∈ deeds, deed.key ≠ key) (shelf : Shelf) :
    (shelf.following deeds).load key = shelf.load key := by
  induction deeds generalizing shelf with
  | nil => rfl
  | cons deed deeds ih =>
    obtain ⟨hdeed, hdeeds⟩ := List.forall_mem_cons.mp h
    refine (ih hdeeds (deed.perform.run shelf).run.2).trans ?_
    rw [load, lookup_perform hdeed, load]

theorem following_append (shelf : Shelf) (before after : List Deed) :
    shelf.following (before ++ after) = (shelf.following before).following after :=
  List.foldl_append

/-- A state that is nested too deep is kept, but it cannot be loaded. -/
theorem load_save_deep {state : Members} (hproper : (Json.obj state).IsProper)
    (hdeep : Json.depthLimit < (Json.obj state).depth) (shelf : Shelf) (key : String) :
    (shelf.save key state).load key = .error (.unreadable (.text .tooDeep)) := by
  simp [load, save, (Json.readTable_text hproper).2 hdeep]

/-- **States are kept as they are.** Take any store in memory, anything done on it before, and a state
that is saved then, all of whose numbers are whole. Saving succeeds. After any deeds on other keys the
state is loaded as it was saved, in the order of its members, if it is nested at most 127 deep, and else
loading it fails because of its depth. Of a state that was saved under the key before nothing is left. -/
theorem load_last_saved {state : Members} (hproper : (Json.obj state).IsProper)
    (hintegral : (Json.obj state).IsIntegral) (shelf : Shelf) (key : String) (before : List Deed)
    {after : List Deed} (hafter : ∀ deed ∈ after, deed.key ≠ key) :
    ((store.save key state : StateM Shelf _).run (shelf.following before)).run.1 = .ok () ∧
      ((store.load key : StateM Shelf _).run
          (shelf.following (before ++ .save key state :: after))).run.1 =
        (if (Json.obj state).depth ≤ 127 then .ok (some state)
        else .error (.unreadable (.text .tooDeep))) ∧
      ∀ earlier, shelf.following (before ++ [.save key earlier, .save key state]) =
        shelf.following (before ++ [.save key state]) := by
  refine ⟨perform_succeeds (.save key state) _, ?_, fun earlier => ?_⟩
  · have hload : ((store.load key : StateM Shelf _).run
        (shelf.following (before ++ .save key state :: after))).run.1 =
          ((shelf.following before).save key state).load key := by
      rw [following_append]
      exact load_following hafter ((shelf.following before).save key state)
    rw [hload]
    split
    next hshallow => exact load_save ⟨hproper, hshallow, hintegral⟩ _ key
    next hdeep => exact load_save_deep hproper (Nat.lt_of_not_le hdeep) _ key
  · rw [following_append, following_append]
    exact save_save (shelf.following before) key earlier state

end Shelf

namespace Tower

/-- So many arrays, one in the other. -/
def tower : Nat → Json
  | 0 => .null
  | height + 1 => .arr [tower height]

/-- A state with a tower, keys of any characters, and the largest integer. -/
def state (height : Nat) : Members :=
  [("\"\\\n\x01😀", .int (2 ^ 64 - 1)), ("", tower height)]

theorem depth_tower (height : Nat) : (tower height).depth = height := by
  induction height with
  | zero => rfl
  | succ height ih => simp [tower, Json.depth, Json.depthItems, ih]

theorem tower_isProper (height : Nat) : (tower height).IsProper ∧ (tower height).IsIntegral := by
  induction height with
  | zero => exact ⟨.null, .null⟩
  | succ height ih =>
    exact ⟨.arr (List.forall_mem_singleton.mpr ih.1), .arr (List.forall_mem_singleton.mpr ih.2)⟩

theorem depth_state (height : Nat) : (Json.obj (state height)).depth = height + 1 := by
  simp [state, Json.depth, Json.depthMembers, depth_tower, Json.int]

theorem state_isProper (height : Nat) :
    (Json.obj (state height)).IsProper ∧ (Json.obj (state height)).IsIntegral := by
  constructor
  · refine .obj (by simp [state]) ?_
    simp only [state, List.forall_mem_cons]
    exact ⟨.number ⟨by decide, by decide⟩, (tower_isProper height).1, List.forall_mem_nil _⟩
  · refine .obj ?_
    simp only [state, List.forall_mem_cons]
    exact ⟨.int _, (tower_isProper height).2, List.forall_mem_nil _⟩

/-- A tower of 126 arrays in a state is the highest that comes back. -/
theorem load_last_saved_tower :
    ((Shelf.store.load "t" : StateM Shelf _).run (({} : Shelf).following
        [.save "t" (state 3), .save "t" (state 126), .clear "u"])).run.1 =
        .ok (some (state 126)) ∧
      ((Shelf.store.load "t" : StateM Shelf _).run (({} : Shelf).following
        [.save "t" (state 3), .save "t" (state 127), .clear "u"])).run.1 =
        .error (.unreadable (.text .tooDeep)) := by
  have hafter : ∀ deed ∈ [Deed.clear "u"], deed.key ≠ "t" := by
    simp [Deed.key]
  have hload (height : Nat) := (Shelf.load_last_saved (state_isProper height).1
    (state_isProper height).2 {} "t" [.save "t" (state 3)] hafter).2.1
  exact ⟨(hload 126).trans (if_pos (by rw [depth_state])),
    (hload 127).trans (if_neg (by rw [depth_state]; decide))⟩

end Tower

end RetrySafe.Task
