import RetrySafe.Proofs.Json.RoundTrip
import RetrySafe.Proofs.Results
import RetrySafe.Proofs.Secret.Grants

/-!
# Grant documents

A document is read as grants if it follows a grammar, and a walk through the grants is then a walk
through the document itself. What does not follow the grammar is refused for the first of its members
that offends against it, in the order in which the document is written.

## Main definitions

* `IsGrant`, `IsGrantDocument` — the grammar of documents.
* `granted` — the written key that a document grants.
* `Placed`, `Offends` — members of a document at their places, and why they are refused.
* `Reordered` — documents whose members are in another order.

## Main results

* `GrantTree.failure_grantsAt` — the members of an object are refused for the first that offends.
* `GrantTree.lookup_of_ofJson` — what is granted is what the document grants.
* `documents_mean` — documents are accepted by their grammar, and mean what they say.
-/

namespace RetrySafe.Secret

/-! ## The grammar -/

/-- A value that a member of a document may have: a truth value, a text that is a key, or again an object
whose members have segments for names. -/
inductive IsGrant : Json → Prop
  | bool (b : Bool) : IsGrant (.bool b)
  | str {text : String} {base : Key} (h : Key.parse text = .ok base) : IsGrant (.str text)
  | obj {members : Members} (hnames : ∀ m ∈ members, IsSegment m.1.toList)
      (hvalues : ∀ m ∈ members, IsGrant m.2) : IsGrant (.obj members)

/-- A document of grants: such an object, or nothing. -/
inductive IsGrantDocument : Json → Prop
  | null : IsGrantDocument .null
  | obj {members : Members} (h : IsGrant (.obj members)) : IsGrantDocument (.obj members)

/-- A member of a document: the names of the members around it, its own name and its value. -/
structure Placed where
  around : List String
  name : String
  value : Json

/-- The names that lead to a member. -/
def Placed.path (m : Placed) : List String := m.around ++ [m.name]

mutual

/-- The members inside a value, in the order in which they are written: each one before those that are
inside its own value. -/
def placed (around : List String) : Json → List Placed
  | .obj members => placedMembers around members
  | _ => []

/-- The members of an object, and those inside their values. -/
def placedMembers (around : List String) : Members → List Placed
  | [] => []
  | (name, value) :: members =>
    ⟨around, name, value⟩ :: (placed (around ++ [name]) value ++ placedMembers around members)

end

/-- Why a member is refused: for its name, whatever its value is, or else for its value. -/
inductive Offends : Placed → GrantFlaw → Prop
  | name {around : List String} {name : String} (value : Json) (h : ¬IsSegment name.toList) :
    Offends ⟨around, name, value⟩ .name
  | target {around : List String} {name base : String} {flaw : Flaw}
      (hname : IsSegment name.toList) (h : HasFlaw base flaw) :
    Offends ⟨around, name, .str base⟩ (.target base flaw)
  | null {around : List String} {name : String} (hname : IsSegment name.toList) :
    Offends ⟨around, name, .null⟩ (.valueKind "null")
  | number {around : List String} {name : String} (n : Number) (hname : IsSegment name.toList) :
    Offends ⟨around, name, .number n⟩ (.valueKind "number")
  | arr {around : List String} {name : String} (items : List Json) (hname : IsSegment name.toList) :
    Offends ⟨around, name, .arr items⟩ (.valueKind "array")

/-- What a document is refused for: its kind, or the first of its members that offends. -/
inductive Refused : Json → Error → Prop
  | root {v : Json} (hnull : v ≠ .null) (hobj : ∀ members, v ≠ .obj members) :
    Refused v (.invalidGrant [] (.rootKind v.kind))
  | member {members : Members} {before after : List Placed} {m : Placed} {flaw : GrantFlaw}
      (hplaced : placedMembers [] members = before ++ m :: after)
      (hbefore : ∀ earlier ∈ before, ∀ flaw, ¬Offends earlier flaw) (hoffends : Offends m flaw) :
    Refused (.obj members) (.invalidGrant m.path flaw)

/-- Why a value is refused for itself. -/
def valueFlaw? : Json → Option GrantFlaw
  | .bool _ | .obj _ => none
  | .str base =>
    match Key.parse base with
    | .ok _ => none
    | .error flaw => some (.target base flaw)
  | value => some (.valueKind value.kind)

namespace Placed

/-- Why a member is refused for itself. -/
def flaw? (m : Placed) : Option GrantFlaw :=
  if IsSegment m.name.toList then valueFlaw? m.value else some .name

/-- The error for a member that is refused for itself. -/
def refusal? (m : Placed) : Option Error := m.flaw?.map (.invalidGrant m.path)

theorem flaw?_eq_some_iff {m : Placed} {flaw : GrantFlaw} :
    m.flaw? = some flaw ↔ Offends m flaw := by
  constructor
  · intro h
    obtain ⟨around, name, value⟩ := m
    rw [flaw?] at h
    split at h
    next hname =>
      cases value with
      | null => exact Option.some.inj h ▸ .null hname
      | bool b => cases h
      | number n => exact Option.some.inj h ▸ .number n hname
      | str base =>
        dsimp only [valueFlaw?] at h
        split at h
        next => cases h
        next flaw hparse => exact Option.some.inj h ▸ .target hname (Key.parse_eq_error_iff.mp hparse)
      | arr items => exact Option.some.inj h ▸ .arr items hname
      | obj members => cases h
    next hname => exact Option.some.inj h ▸ .name value hname
  · intro h
    cases h with
    | name value h => exact if_neg h
    | target hname h =>
      rw [flaw?, if_pos hname, valueFlaw?, Key.parse_of_hasFlaw h]
    | null hname => exact if_pos hname
    | number n hname => exact if_pos hname
    | arr items hname => exact if_pos hname

theorem flaw?_eq_none_iff {m : Placed} :
    m.flaw? = none ↔ IsSegment m.name.toList ∧ valueFlaw? m.value = none := by
  rw [flaw?]
  split <;> simp_all

theorem refusal?_eq_some_iff {m : Placed} {error : Error} :
    m.refusal? = some error ↔ ∃ flaw, Offends m flaw ∧ .invalidGrant m.path flaw = error := by
  simp only [refusal?, Option.map_eq_some_iff, flaw?_eq_some_iff]

theorem refusal?_eq_none_iff {m : Placed} : m.refusal? = none ↔ ∀ flaw, ¬Offends m flaw := by
  rw [refusal?, Option.map_eq_none_iff, Option.eq_none_iff_forall_ne_some]
  simp only [ne_eq, flaw?_eq_some_iff]

end Placed

/-! ## Refusals -/

theorem findSome?_cons_eq_or {α β : Type} (f : α → Option β) (a : α) (as : List α) :
    (a :: as).findSome? f = (f a).or (as.findSome? f) := by
  rw [List.findSome?_cons]
  cases f a <;> rfl

namespace GrantTree

/-- A value at a path is refused for the first of its members that offends. -/
def IsRefusedFirst (v : Json) : Prop :=
  ∀ path, failure (grantAt path v) = ((valueFlaw? v).map (.invalidGrant path)).or
    ((placed path v).findSome? Placed.refusal?)

/-- The members of an object are refused for the first one that offends, if their values are. -/
theorem failure_grantsAt_of_forall {members : Members}
    (h : ∀ m ∈ members, IsRefusedFirst m.2) (path : List String) :
    failure (grantsAt path members) = (placedMembers path members).findSome? Placed.refusal? := by
  -- A member fails for its name, or else its value does, and only then the members after it.
  induction members with
  | nil => rfl
  | cons m members ih =>
    obtain ⟨name, value⟩ := m
    obtain ⟨hvalue, hmembers⟩ := List.forall_mem_cons.mp h
    rw [placedMembers, findSome?_cons_eq_or, List.findSome?_append, ← ih hmembers, grantsAt,
      Placed.refusal?, Placed.flaw?, Segment.of?]
    dsimp only
    by_cases hname : IsSegment name.toList
    · have hfirst : failure (grantAt (path ++ [name]) value) =
          ((valueFlaw? value).map (.invalidGrant (path ++ [name]))).or
            ((placed (path ++ [name]) value).findSome? Placed.refusal?) := hvalue _
      rw [dif_pos hname, if_pos hname, ← Option.or_assoc, Placed.path, ← hfirst]
      exact failure_cons _ _ _
    · rw [dif_neg hname, if_neg hname]
      rfl

theorem isRefusedFirst (v : Json) : IsRefusedFirst v := by
  induction v using Json.induction with
  | null => exact fun path => rfl
  | bool b => cases b <;> exact fun path => rfl
  | number n => exact fun path => rfl
  | str base =>
    intro path
    rw [grantAt, valueFlaw?]
    cases Key.parse base <;> rfl
  | arr items => exact fun path => rfl
  | obj members ih =>
    intro path
    rw [placed, ← failure_grantsAt_of_forall ih, grantAt]
    cases grantsAt path members <;> rfl

theorem failure_grantsAt (path : List String) (members : Members) :
    failure (grantsAt path members) = (placedMembers path members).findSome? Placed.refusal? :=
  failure_grantsAt_of_forall (fun m _ => isRefusedFirst m.2) path

end GrantTree

/-! ## Acceptance -/

theorem forall_mem_placedMembers_iff {P : Placed → Prop} (around : List String) (members : Members) :
    (∀ m ∈ placedMembers around members, P m) ↔
      ∀ m ∈ members, P ⟨around, m.1, m.2⟩ ∧ ∀ inner ∈ placed (around ++ [m.1]) m.2, P inner := by
  induction members with
  | nil => simp [placedMembers]
  | cons m members ih =>
    rw [placedMembers, List.forall_mem_cons, List.forall_mem_append, ih, List.forall_mem_cons,
      and_assoc]

/-- A value follows the grammar if neither it nor a member inside it is refused for itself. -/
theorem isGrant_iff (v : Json) (around : List String) :
    IsGrant v ↔ valueFlaw? v = none ∧ ∀ m ∈ placed around v, m.flaw? = none := by
  induction v using Json.induction generalizing around with
  | null => exact iff_of_false (fun h => nomatch h) fun h => nomatch h.1
  | bool b => exact iff_of_true (.bool b) ⟨rfl, List.forall_mem_nil _⟩
  | number n => exact iff_of_false (fun h => nomatch h) fun h => nomatch h.1
  | str base =>
    cases hparse : Key.parse base with
    | ok key => exact iff_of_true (.str hparse) ⟨by rw [valueFlaw?, hparse], List.forall_mem_nil _⟩
    | error flaw =>
      refine iff_of_false (fun h => ?_) fun h => ?_
      · cases h with
        | str hkey => cases hparse.symm.trans hkey
      · rw [valueFlaw?, hparse] at h
        cases h.1
  | arr items => exact iff_of_false (fun h => nomatch h) fun h => nomatch h.1
  | obj members ih =>
    have hvalues : (∀ m ∈ placedMembers around members, m.flaw? = none) ↔
        ∀ m ∈ members, IsSegment m.1.toList ∧ IsGrant m.2 := by
      rw [forall_mem_placedMembers_iff]
      refine forall₂_congr fun m hm => ?_
      rw [Placed.flaw?_eq_none_iff, ih m hm (around ++ [m.1]), and_assoc]
    rw [placed, hvalues]
    refine ⟨fun h => ?_, fun h => .obj (fun m hm => (h.2 m hm).1) fun m hm => (h.2 m hm).2⟩
    cases h with
    | obj hnames hmembers => exact ⟨rfl, fun m hm => ⟨hnames m hm, hmembers m hm⟩⟩

namespace GrantTree

variable {v : Json} {members : Members} {tree : GrantTree} {error : Error}

theorem ofJson_obj_eq_ok_iff :
    ofJson (.obj members) = .ok tree ↔ grantsAt [] members = .ok tree.root := by
  rw [ofJson]
  cases grantsAt [] members with
  | error error => exact ⟨fun h => (nomatch h), fun h => (nomatch h)⟩
  | ok root =>
    obtain ⟨root'⟩ := tree
    exact ⟨fun h => by cases h; rfl, fun h => by cases h; rfl⟩

theorem failure_ofJson_obj (members : Members) :
    failure (ofJson (.obj members)) = (placedMembers [] members).findSome? Placed.refusal? := by
  rw [← failure_grantsAt, ofJson]
  cases grantsAt [] members <;> rfl

/-- A document is read if it follows the grammar. -/
theorem exists_ofJson_iff : (∃ tree, ofJson v = .ok tree) ↔ IsGrantDocument v := by
  cases v with
  | null => exact iff_of_true ⟨empty, rfl⟩ .null
  | bool b => exact iff_of_false (fun ⟨_, h⟩ => nomatch h) fun h => nomatch h
  | number n => exact iff_of_false (fun ⟨_, h⟩ => nomatch h) fun h => nomatch h
  | str text => exact iff_of_false (fun ⟨_, h⟩ => nomatch h) fun h => nomatch h
  | arr items => exact iff_of_false (fun ⟨_, h⟩ => nomatch h) fun h => nomatch h
  | obj members =>
    have hgrammar : IsGrantDocument (.obj members) ↔ IsGrant (.obj members) :=
      ⟨fun h => by cases h; assumption, .obj⟩
    rw [hgrammar, isGrant_iff _ [], ← failure_eq_none_iff, failure_ofJson_obj,
      List.findSome?_eq_none_iff, placed, valueFlaw?]
    simp [Placed.refusal?]

theorem ofJson_obj_eq_error_iff :
    ofJson (.obj members) = .error error ↔ Refused (.obj members) error := by
  rw [← failure_eq_some_iff, failure_ofJson_obj, List.findSome?_eq_some_iff]
  simp only [Placed.refusal?_eq_some_iff, Placed.refusal?_eq_none_iff]
  constructor
  · rintro ⟨before, m, after, hplaced, ⟨flaw, hflaw, rfl⟩, hbefore⟩
    exact .member hplaced hbefore hflaw
  · intro h
    cases h with
    | root hnull hobj => exact absurd rfl (hobj members)
    | member hplaced hbefore hflaw => exact ⟨_, _, _, hplaced, ⟨_, hflaw, rfl⟩, hbefore⟩

/-- A document is refused for its kind, or for the first of its members that offends. -/
theorem ofJson_eq_error_iff : ofJson v = .error error ↔ Refused v error := by
  have hroot {v : Json} (hnull : v ≠ .null) (hobj : ∀ members, v ≠ .obj members) :
      Except.error (.invalidGrant [] (.rootKind v.kind)) = (.error error : Except Error GrantTree) ↔
        Refused v error := by
    refine ⟨fun h => Except.error.inj h ▸ .root hnull hobj, fun h => ?_⟩
    cases h with
    | root => rfl
    | member => exact absurd rfl (hobj _)
  cases v with
  | null =>
    refine ⟨fun h => (nomatch h), fun h => ?_⟩
    cases h with
    | root hnull => exact absurd rfl hnull
  | obj members => exact ofJson_obj_eq_error_iff
  | bool b => exact hroot nofun nofun
  | number n => exact hroot nofun nofun
  | str text => exact hroot nofun nofun
  | arr items => exact hroot nofun nofun

end GrantTree

/-! ## Walks through documents -/

/-- The written form of a segment. -/
def Segment.text (segment : Segment) : String := String.ofList segment.chars

theorem Segment.text_injective : Function.Injective Segment.text :=
  fun _ _ h => chars_injective (String.ofList_injective h)

theorem Segment.text_of_of? {name : String} {segment : Segment}
    (h : Segment.of? name.toList = some segment) : segment.text = name := by
  rw [text, of?_eq_some_iff.mp h, String.ofList_toList]

/-- The written key that a document grants for a requested one, some names of which are still to be
walked: a text in the document is a base, to which the names that are left are added. -/
def granted (requested : String) : Json → List String → Option String
  | .bool true, _ => some requested
  | .str base, names => some (String.intercalate "." (base :: names))
  | .obj members, name :: names =>
    (Members.get? members name).bind fun value => granted requested value names
  | _, _ => none

theorem Key.text_extend (key : Key) (more : List Segment) :
    (key.extend more).text = String.intercalate "." (key.text :: more.map Segment.text) := by
  have hadded (text : String) : String.intercalate "." (text :: more.map Segment.text) =
      text ++ String.ofList (more.flatMap fun segment => '.' :: segment.chars) := by
    induction more generalizing text with
    | nil => simp
    | cons segment more ih =>
      rw [List.map_cons, String.intercalate_cons_cons, ih, List.flatMap_cons, List.cons_append,
        String.ofList_cons, String.ofList_append, Segment.text]
      simp [String.append_assoc]
  rw [hadded, text, chars_extend, String.ofList_append, text]

namespace GrantTree

variable {members : Members} {scope : List (Segment × Grant)} {path : List String}

/-- The grants of an object have a grant for each of its members, and no others. -/
theorem lookup_grantsAt (h : grantsAt path members = .ok scope) (segment : Segment) :
    members.get? segment.text = none ∧ scope.lookup segment = none ∨
      ∃ value grant, members.get? segment.text = some value ∧
        grantAt (path ++ [segment.text]) value = .ok grant ∧ scope.lookup segment = some grant := by
  induction members generalizing scope with
  | nil =>
    cases h
    exact .inl ⟨rfl, rfl⟩
  | cons m members ih =>
    obtain ⟨name, value⟩ := m
    rw [grantsAt] at h
    cases hname : Segment.of? name.toList with
    | none =>
      rw [hname] at h
      cases h
    | some first =>
      rw [hname] at h
      dsimp only at h
      obtain ⟨grant, hgrant, h⟩ := bind_ok h
      obtain ⟨rest, hrest, h⟩ := bind_ok h
      obtain rfl := Except.ok.inj h
      have hfirst : first.text = name := Segment.text_of_of? hname
      by_cases heq : first = segment
      · subst heq
        refine .inr ⟨value, grant, ?_, hfirst ▸ hgrant, List.lookup_cons_self⟩
        rw [Members.get?_cons, if_pos hfirst.symm]
      · have hne : name ≠ segment.text := fun h => heq (Segment.text_injective (hfirst.trans h))
        rw [Members.get?_cons, if_neg hne, Association.lookup_cons_ne (Ne.symm heq)]
        exact ih hrest

/-- A walk through the grants of a value is a walk through the value. -/
theorem follow_of_grantAt {value : Json} {grant : Grant} (h : grantAt path value = .ok grant)
    (requested : Key) (rest : List Segment) :
    (grant.follow requested rest).map Key.text =
      granted requested.text value (rest.map Segment.text) := by
  -- By induction on the value: both walks go down one object for each segment.
  induction value using Json.induction generalizing path grant rest with
  | null => cases h
  | bool b => cases b <;> cases h <;> cases rest <;> rfl
  | number n => cases h
  | str base =>
    rw [grantAt] at h
    cases hparse : Key.parse base with
    | error flaw =>
      rw [hparse] at h
      cases h
    | ok key =>
      rw [hparse] at h
      obtain rfl := Except.ok.inj h
      rw [← Key.text_of_parse hparse]
      cases rest <;> exact congrArg some (key.text_extend _)
  | arr items => cases h
  | obj members ih =>
    obtain ⟨scope, hscope, h⟩ := bind_ok h
    obtain rfl := Except.ok.inj h
    cases rest with
    | nil => rfl
    | cons segment rest =>
      rw [Grant.follow, walk_cons, List.map_cons, granted]
      obtain ⟨hnone, hmissing⟩ | ⟨value, grant, hvalue, hgrant, hchild⟩ :=
        lookup_grantsAt hscope segment
      · rw [hnone, hmissing]
        rfl
      · rw [hvalue, hchild]
        exact ih _ (Association.mem_of_lookup hvalue) hgrant rest

/-- What is granted is what the document grants. -/
theorem lookup_of_ofJson {v : Json} {tree : GrantTree} (h : ofJson v = .ok tree) (key : Key) :
    (tree.lookup key).map Key.text = granted key.text v (key.segments.map Segment.text) := by
  cases v with
  | null =>
    cases h
    rfl
  | obj members =>
    have hroot : grantAt [] (.obj members) = .ok (.node tree.root) := by
      rw [grantAt, ofJson_obj_eq_ok_iff.mp h]
      rfl
    exact follow_of_grantAt hroot key key.segments
  | bool b => cases h
  | number n => cases h
  | str text => cases h
  | arr items => cases h

end GrantTree

/-! ## The order of members -/

/-- The same document but for the order of members, in any of its objects. No object has a name twice. -/
inductive Reordered : Json → Json → Prop
  | refl (v : Json) : Reordered v v
  | obj {members moved members' : Members} (hnames : members.keys.Nodup)
      (hmoved : members.Perm moved) (hkeys : moved.keys = members'.keys)
      (hvalues : List.Forall₂ Reordered (moved.map Prod.snd) (members'.map Prod.snd)) :
      Reordered (.obj members) (.obj members')

namespace Reordered

variable {v v' : Json} {members members' : Members}

/-- Reordered objects have the same names, with reordered values. -/
theorem get? (h : Reordered (.obj members) (.obj members')) (name : String) :
    members.get? name = none ∧ members'.get? name = none ∨
      ∃ value value', members.get? name = some value ∧ members'.get? name = some value' ∧
        Reordered value value' := by
  cases h with
  | refl =>
    cases hvalue : members.get? name with
    | none => exact .inl ⟨rfl, rfl⟩
    | some value => exact .inr ⟨value, value, rfl, rfl, .refl value⟩
  | obj hnames hmoved hkeys hvalues =>
    rw [Members.get?, Association.lookup_eq_of_perm hnames hmoved]
    exact Association.lookup_of_forall₂ (Association.forall₂_of_map_eq hkeys hvalues) name

/-- A walk takes its members by name, so their order makes no difference. -/
theorem granted_eq (h : Reordered v v') (requested : String) (names : List String) :
    granted requested v names = granted requested v' names := by
  -- By induction on the names: the first of them finds reordered values in both objects.
  induction names generalizing v v' with
  | nil => cases h <;> rfl
  | cons name names ih =>
    cases hshape : h with
    | refl => rfl
    | @obj members _ members' hnames hmoved hkeys hvalues =>
      rw [granted, granted]
      obtain ⟨hnone, hnone'⟩ | ⟨value, value', hvalue, hvalue', hsame⟩ := h.get? name
      · rw [hnone, hnone']
      · rw [hvalue, hvalue']
        exact ih hsame

theorem isGrant (h : Reordered v v') (hgrant : IsGrant v) : IsGrant v' := by
  induction v using Json.induction generalizing v' with
  | obj members ih =>
    cases h with
    | refl => exact hgrant
    | @obj _ moved members' hnames hmoved hkeys hvalues =>
      cases hgrant with
      | obj hsegments hgrants =>
        have hmember (m' : String × Json) (hm' : m' ∈ members') :
            IsSegment m'.1.toList ∧ IsGrant m'.2 := by
          have hpairs := Association.forall₂_of_map_eq hkeys hvalues
          obtain ⟨m, hm, hname, hvalue⟩ := Association.exists_of_mem hpairs.flip hm'
          have hmem := hmoved.mem_iff.mpr hm
          exact ⟨hname ▸ hsegments m hmem, ih m hmem hvalue (hgrants m hmem)⟩
        exact .obj (fun m' hm' => (hmember m' hm').1) fun m' hm' => (hmember m' hm').2
  | null => cases h; exact hgrant
  | bool b => cases h; exact hgrant
  | number n => cases h; exact hgrant
  | str text => cases h; exact hgrant
  | arr items => cases h; exact hgrant

theorem isGrantDocument (h : Reordered v v') (hdocument : IsGrantDocument v) :
    IsGrantDocument v' := by
  cases hdocument with
  | null =>
    cases h
    exact .null
  | obj hgrant =>
    have hgrant' := h.isGrant hgrant
    cases h with
    | refl => exact .obj hgrant
    | obj => exact .obj hgrant'

end Reordered

/-- **Documents of grants mean what they say.** A document is read exactly if it follows the grammar. What
is granted for a key then is what the document grants along the names in the key, and it is the same for
the document with its members in another order, in whichever of its objects. A document that is not read
is refused for the first member that offends, with the dotted path to it, or for its kind, with no path. -/
theorem documents_mean (v : Json) :
    ((∃ tree, GrantTree.ofJson v = .ok tree) ↔ IsGrantDocument v) ∧
      (∀ tree, GrantTree.ofJson v = .ok tree → ∀ key : Key, (tree.lookup key).map Key.text =
        granted key.text v (key.segments.map Segment.text)) ∧
      (∀ tree v', GrantTree.ofJson v = .ok tree → Reordered v v' →
        ∃ tree', GrantTree.ofJson v' = .ok tree' ∧ ∀ key, tree'.lookup key = tree.lookup key) ∧
      (∀ error, GrantTree.ofJson v = .error error ↔ Refused v error) ∧
      ∀ error, Refused v error → ∃ path flaw, error = .invalidGrant path flaw ∧
        error.message = "Invalid secret grant at '" ++ String.intercalate "." path ++ "': " ++
          flaw.reason := by
  refine ⟨GrantTree.exists_ofJson_iff, fun tree h => GrantTree.lookup_of_ofJson h, ?_,
    fun error => GrantTree.ofJson_eq_error_iff, ?_⟩
  · intro tree v' h hsame
    have hdocument := hsame.isGrantDocument (GrantTree.exists_ofJson_iff.mp ⟨tree, h⟩)
    obtain ⟨tree', h'⟩ := GrantTree.exists_ofJson_iff.mpr hdocument
    refine ⟨tree', h', fun key => Option.map_injective (fun _ _ => Key.text_injective) ?_⟩
    rw [GrantTree.lookup_of_ofJson h', GrantTree.lookup_of_ofJson h, hsame.granted_eq]
  · intro error h
    cases h with
    | root => exact ⟨_, _, rfl, rfl⟩
    | member => exact ⟨_, _, rfl, rfl⟩

namespace Postgres

/-- A document with each kind of grant. -/
def document : Json :=
  .obj [("pg", .obj [("db1", .bool true), ("db2", .str "shared"), ("db3", .bool false)])]

/-- The same document in another order. -/
def document' : Json :=
  .obj [("pg", .obj [("db2", .str "shared"), ("db3", .bool false), ("db1", .bool true)])]

/-- A document with a name that is no segment, before a value that is no grant. -/
def badDocument : Json :=
  .obj [("pg", .obj [("db1", .bool true), ("db.2", .null)]), ("db3", .null)]

theorem reordered_document : Reordered document document' := by
  have hpg : Reordered (.obj [("db1", .bool true), ("db2", .str "shared"), ("db3", .bool false)])
      (.obj [("db2", .str "shared"), ("db3", .bool false), ("db1", .bool true)]) :=
    .obj (by decide) ((List.Perm.swap ..).trans ((List.Perm.swap ..).cons _)) rfl
      (.cons (.refl _) (.cons (.refl _) (.cons (.refl _) .nil)))
  exact .obj (by decide) (.refl _) rfl (.cons hpg .nil)

/-- A text takes the place of the names that lead to it, in whichever order the members are; and a bad
name is reported rather than its value, and rather than what comes after it. -/
theorem documents_mean_postgres :
    (∃ tree tree', GrantTree.ofJson document = .ok tree ∧ GrantTree.ofJson document' = .ok tree' ∧
      (tree.lookup ⟨pg, [db2, user]⟩).map Key.text = some "shared.user" ∧
      (tree.lookup ⟨pg, [db3, user]⟩).map Key.text = none ∧
      ∀ key, tree'.lookup key = tree.lookup key) ∧
      Refused badDocument (.invalidGrant ["pg", "db.2"] .name) ∧ ¬IsGrantDocument badDocument := by
  obtain ⟨-, hlookup, hreordered, -⟩ := documents_mean document
  obtain ⟨hgrammar, -, -, hrefused, -⟩ := documents_mean badDocument
  have hread : GrantTree.ofJson document = .ok ⟨[(pg, .node [(⟨"db1".toList, by decide⟩, .allow),
      (db2, .remount shared), (db3, .deny)])]⟩ := rfl
  obtain ⟨tree', hread', hsame⟩ := hreordered _ _ hread reordered_document
  refine ⟨⟨_, tree', hread, hread', ?_, ?_, hsame⟩, (hrefused _).mp rfl, fun hdocument => ?_⟩
  · exact hlookup _ hread ⟨pg, [db2, user]⟩
  · exact hlookup _ hread ⟨pg, [db3, user]⟩
  · obtain ⟨tree, htree⟩ := hgrammar.mpr hdocument
    cases htree

end Postgres

end RetrySafe.Secret
