import RetrySafe.Decimal.Shortest

/-!
# JSON values

A number is an integer or a 64-bit float, and the two are different values even where they are
equal as numbers. An object is a list of members in order; setting a member keeps its place, and a
new member comes last.

## Main definitions

* `Json` — a value.
* `Json.depth` — how deep arrays and objects are nested.
* `Members.get?`, `Members.set`, `Members.erase` — an object as a table.

## Main results

* `Members.get?_set`, `Members.get?_erase` — what a member is after a change.
* `Members.keys_set_of_mem`, `Members.keys_set_of_not_mem` — where the key stands after a change.
-/

namespace RetrySafe

/-- A JSON number. -/
inductive Number
  /-- An integer, from `-2 ^ 63` to `2 ^ 64 - 1` in texts that are read. -/
  | int (n : Int)
  /-- A 64-bit float. -/
  | float (x : Decimal.Double)
  deriving DecidableEq, Repr

/-- A JSON value. -/
inductive Json
  | null
  | bool (b : Bool)
  | number (n : Number)
  | str (text : String)
  | arr (items : List Json)
  | obj (members : List (String × Json))
  deriving Inhabited

/-- The members of an object in order. -/
abbrev Members := List (String × Json)

namespace Json

/-- A whole number. -/
def int (n : Int) : Json := .number (.int n)

/-- A natural number. -/
def nat (n : Nat) : Json := .int n

/-- A value or null. -/
def ofOption {α : Type} (toJson : α → Json) : Option α → Json
  | none => .null
  | some a => toJson a

/-- A text or null. -/
def optionStr : Option String → Json := ofOption .str

/-- The kind of a value, as it stands in a message. -/
def kind : Json → String
  | null => "null"
  | bool _ => "boolean"
  | number _ => "number"
  | str _ => "string"
  | arr _ => "array"
  | obj _ => "object"

mutual

/-- How deep arrays and objects are nested: a scalar has depth 0. -/
def depth : Json → Nat
  | arr items => depthItems items + 1
  | obj members => depthMembers members + 1
  | _ => 0

/-- The greatest depth of some items. -/
def depthItems : List Json → Nat
  | [] => 0
  | v :: vs => max (depth v) (depthItems vs)

/-- The greatest depth of the values of some members. -/
def depthMembers : List (String × Json) → Nat
  | [] => 0
  | (_, v) :: ms => max (depth v) (depthMembers ms)

end

end Json

namespace Members

/-- The keys in order. -/
def keys (members : Members) : List String := members.map Prod.fst

/-- The value of a key. -/
def get? (members : Members) (key : String) : Option Json := List.lookup key members

/-- Whether there is a member of that key. -/
def contains (members : Members) (key : String) : Bool := (members.get? key).isSome

/-- Give a key a value: in its place if there is such a member, else at the end. -/
def set (members : Members) (key : String) (value : Json) : Members :=
  match members with
  | [] => [(key, value)]
  | (k, v) :: rest => if k = key then (k, value) :: rest else (k, v) :: set rest key value

/-- Without the first member of that key; the others keep their order. -/
def erase (members : Members) (key : String) : Members :=
  match members with
  | [] => []
  | (k, v) :: rest => if k = key then rest else (k, v) :: erase rest key

theorem get?_nil (key : String) : get? [] key = none := rfl

theorem get?_cons (k key : String) (v : Json) (rest : Members) :
    get? ((k, v) :: rest) key = if k = key then some v else get? rest key := by
  by_cases h : k = key
  · simp [get?, h]
  · have : (key == k) = false := by simpa using fun e => h e.symm
    simp [get?, List.lookup_cons, h, this]

theorem get?_eq_none {members : Members} {key : String} (h : key ∉ members.map Prod.fst) :
    members.get? key = none := by
  induction members with
  | nil => rfl
  | cons m rest ih =>
    obtain ⟨k, v⟩ := m
    simp only [List.map_cons, List.mem_cons, not_or] at h
    rw [get?_cons, if_neg fun e => h.1 e.symm, ih h.2]

/-- After a change the key has its new value and every other key its old one. -/
theorem get?_set (members : Members) (key other : String) (value : Json) :
    (members.set key value).get? other =
      if key = other then some value else members.get? other := by
  induction members with
  | nil => simp [set, get?_cons, get?_nil]
  | cons m rest ih =>
    obtain ⟨k, v⟩ := m
    by_cases hk : k = key
    · by_cases ho : key = other <;> simp [set, get?_cons, hk, ho]
    · by_cases ho : key = other
      · subst ho; simp [set, get?_cons, hk, ih]
      · simp [set, get?_cons, hk, ih, ho]

/-- A key that is there keeps its place. -/
theorem keys_set_of_mem {members : Members} {key : String} (h : key ∈ members.keys)
    (value : Json) : (members.set key value).keys = members.keys := by
  induction members with
  | nil => simp [keys] at h
  | cons m rest ih =>
    obtain ⟨k, v⟩ := m
    by_cases hk : k = key
    · simp [set, hk, keys]
    · have hr : key ∈ keys rest := by
        simp only [keys, List.map_cons, List.mem_cons] at h
        exact h.resolve_left fun e => hk e.symm
      have ih := ih hr
      simp only [keys] at ih
      simp [set, hk, keys, ih]

/-- A new key comes last. -/
theorem keys_set_of_not_mem {members : Members} {key : String} (h : key ∉ members.keys)
    (value : Json) : (members.set key value).keys = members.keys ++ [key] := by
  induction members with
  | nil => rfl
  | cons m rest ih =>
    obtain ⟨k, v⟩ := m
    have hk : k ≠ key := fun e => h (by simp [keys, e])
    have hr : key ∉ keys rest := fun e => h (List.mem_cons_of_mem _ e)
    have ih := ih hr
    simp only [keys] at ih
    simp [set, hk, keys, ih]

/-- Erasing a key of an object with distinct keys removes it and leaves the others. -/
theorem get?_erase {members : Members} (h : members.keys.Nodup) (key other : String) :
    (members.erase key).get? other = if key = other then none else members.get? other := by
  induction members with
  | nil => simp [erase, get?_nil]
  | cons m rest ih =>
    obtain ⟨k, v⟩ := m
    simp only [keys, List.map_cons, List.nodup_cons] at h
    by_cases hk : k = key
    · subst hk
      by_cases ho : k = other
      · subst ho
        simp [erase, get?_eq_none h.1]
      · simp [erase, get?_cons, ho]
    · by_cases ho : key = other
      · subst ho; simp [erase, get?_cons, hk, ih h.2]
      · simp [erase, get?_cons, hk, ho, ih h.2]

end Members

end RetrySafe
