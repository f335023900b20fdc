import RetrySafe.Proofs.Association
import RetrySafe.Proofs.Secret.Access

/-!
# How grants extend downwards

A walk along a key stops at the first grant that it meets. What lies below the key meets the same one, so
a key that is granted is granted with everything below it, under the target that it has, and a key that
is refused is refused with everything below it. A grant under its own name is a remount to itself, and a
refusal is as good as no entry.

## Main definitions

* `GrantTree.put`, `GrantTree.edit` — a tree with another grant at the end of a path, or with none.

## Main results

* `GrantTree.lookup_join` — what is granted below a key that is granted.
* `GrantTree.walk_edit` — changes of a tree that no walk notices.
* `grants_extend` — what a tree grants, below keys and under its two shorthands.
-/

namespace RetrySafe.Secret

/-! ## Texts of extended keys -/

/-- A key with more segments is written with a dot and a segment for each of them. -/
theorem Key.chars_extend (key : Key) (more : List Segment) :
    (key.extend more).chars = key.chars ++ more.flatMap fun segment => '.' :: segment.chars := by
  obtain ⟨first, rest⟩ := key
  have hjoin (segment : Segment) (segments : List Segment) :
      Text.join '.' ((segment :: segments).map Segment.chars) =
        segment.chars ++ segments.flatMap fun segment => '.' :: segment.chars := by
    induction segments generalizing segment with
    | nil => simp [Text.join]
    | cons next segments ih =>
      rw [List.map_cons, Text.join_cons_of_ne_nil (by simp), ih, List.flatMap_cons, List.cons_append]
  simp only [chars, segments, extend, hjoin, List.flatMap_append, List.append_assoc]

namespace GrantTree

variable {tree : GrantTree} {key target requested : Key} {path rest segments : List Segment}
  {scope : List (Segment × Grant)} {segment : Segment}

/-! ## Below a key -/

/-- Below a key that is granted everything is, below its target. -/
theorem lookup_join (h : tree.lookup key = some target) (relative : Key) :
    tree.lookup (key.join relative) = some (target.join relative) := by
  have hjoin {path rest : List Segment} (hkey : key.segments = path ++ rest) :
      (key.join relative).segments = path ++ (rest ++ relative.segments) := by
    rw [Key.segments_join, hkey, List.append_assoc]
  obtain ⟨path, rest, hkey, hgrant⟩ | ⟨path, rest, base, hkey, hgrant⟩ | hnone :=
    lookup_cases tree key
  · obtain rfl := Option.some.inj ((lookup_of_allow hkey hgrant).symm.trans h)
    exact lookup_of_allow (hjoin hkey) hgrant
  · obtain rfl := Option.some.inj ((lookup_of_remount hkey hgrant).symm.trans h)
    rw [lookup_of_remount (hjoin hkey) hgrant, Key.join, Key.extend, Key.extend, Key.extend,
      List.append_assoc]
  · rw [lookup_of_ungranted hnone] at h
    cases h

/-- Below a key whose walk meets a refusal nothing is granted. -/
theorem lookup_join_of_deny (hkey : key.segments = path ++ rest)
    (hgrant : LeadsTo (.node tree.root) path .deny) (relative : Key) :
    tree.lookup (key.join relative) = none := by
  have hjoin : (key.join relative).segments = path ++ (rest ++ relative.segments) := by
    rw [Key.segments_join, hkey, List.append_assoc]
  exact lookup_of_leadsTo hjoin hgrant

/-- A key is granted by a grant under its own name or by a remount. -/
theorem exists_leadsTo_of_lookup (h : tree.lookup key = some target) :
    ∃ path rest, key.segments = path ++ rest ∧
      (LeadsTo (.node tree.root) path .allow ∧ target = key ∨
        ∃ base, LeadsTo (.node tree.root) path (.remount base) ∧ target = base.extend rest) := by
  obtain ⟨path, rest, hkey, hgrant⟩ | ⟨path, rest, base, hkey, hgrant⟩ | hnone :=
    lookup_cases tree key
  · exact ⟨path, rest, hkey, .inl ⟨hgrant, Option.some.inj (h.symm.trans (lookup_of_allow hkey hgrant))⟩⟩
  · exact ⟨path, rest, hkey, .inr ⟨base, hgrant,
      Option.some.inj (h.symm.trans (lookup_of_remount hkey hgrant))⟩⟩
  · rw [lookup_of_ungranted hnone] at h
    cases h

/-! ## Changes of a tree -/

/-- The grants with another one for a segment, or with none. -/
def put (scope : List (Segment × Grant)) (segment : Segment) : Option Grant → List (Segment × Grant)
  | none => scope.filter (·.1 ≠ segment)
  | some grant => (segment, grant) :: scope.filter (·.1 ≠ segment)

/-- The grants with another one at the end of a path that leads there, or with none. -/
def edit (grant : Option Grant) (scope : List (Segment × Grant)) (segment : Segment) :
    List Segment → List (Segment × Grant)
  | [] => put scope segment grant
  | next :: path =>
    match scope.lookup segment with
    | some (.node children) => put scope segment (some (.node (edit grant children next path)))
    | _ => scope

/-- The tree with a grant in place of the one that a path leads to. -/
def replace (tree : GrantTree) (path : Key) (grant : Grant) : GrantTree :=
  ⟨edit (some grant) tree.root path.first path.rest⟩

/-- The tree without the grant that a path leads to. -/
def remove (tree : GrantTree) (path : Key) : GrantTree :=
  ⟨edit none tree.root path.first path.rest⟩

theorem lookup_put_self (scope : List (Segment × Grant)) (segment : Segment)
    (grant : Option Grant) : (put scope segment grant).lookup segment = grant := by
  cases grant with
  | none => exact Association.lookup_filter_self segment scope
  | some grant => exact List.lookup_cons_self

theorem lookup_put_ne {other : Segment} (h : other ≠ segment) (scope : List (Segment × Grant))
    (grant : Option Grant) : (put scope segment grant).lookup other = scope.lookup other := by
  cases grant with
  | none => exact Association.lookup_filter_ne h scope
  | some grant =>
    exact (Association.lookup_cons_ne h _ _).trans (Association.lookup_filter_ne h scope)

/-- A walk follows the grant of its first segment. -/
theorem walk_cons (requested : Key) (scope : List (Segment × Grant)) (segment : Segment)
    (segments : List Segment) :
    walk requested scope (segment :: segments) =
      (scope.lookup segment).bind (·.follow requested segments) := by
  rw [walk]
  cases scope.lookup segment with
  | none => rfl
  | some grant => cases grant <;> rfl

/-- No walk notices a change of the grant at the end of a path, if the walks that get there lead to the
same key before and after. -/
theorem walk_edit {old : Grant} {new : Option Grant} {path : List Segment}
    (hpath : LeadsTo (.node scope) (segment :: path) old)
    (hsame : ∀ rest, segments = segment :: path ++ rest →
      new.bind (·.follow requested rest) = old.follow requested rest) :
    walk requested (edit new scope segment path) segments = walk requested scope segments := by
  -- By induction on the path: only walks along its first segment come into what is changed.
  induction path generalizing scope segment segments with
  | nil =>
    cases hpath with
    | down hchild hstop =>
      cases hstop
      cases segments with
      | nil => rw [walk, walk]
      | cons first segments =>
        rw [walk_cons, walk_cons, edit]
        by_cases hfirst : first = segment
        · subst hfirst
          rw [lookup_put_self, hchild]
          exact hsame segments rfl
        · rw [lookup_put_ne hfirst]
  | cons next path ih =>
    cases hpath with
    | @down _ _ _ child _ hchild hrest =>
      cases hrest with
      | @down children _ _ _ _ hnext hrest =>
        cases segments with
        | nil => rw [walk, walk]
        | cons first segments =>
          rw [walk_cons, walk_cons, edit, hchild]
          dsimp only
          by_cases hfirst : first = segment
          · subst hfirst
            rw [lookup_put_self, hchild]
            exact ih (.down hnext hrest) fun rest hrest => hsame rest (by rw [hrest]; rfl)
          · rw [lookup_put_ne hfirst]

/-- A grant that is put at the end of a path is there. -/
theorem leadsTo_edit_some {old new : Grant} {path : List Segment}
    (hpath : LeadsTo (.node scope) (segment :: path) old) :
    LeadsTo (.node (edit (some new) scope segment path)) (segment :: path) new := by
  induction path generalizing scope segment with
  | nil => exact .down (lookup_put_self scope segment (some new)) (.stop new)
  | cons next path ih =>
    cases hpath with
    | @down _ _ _ child _ hchild hrest =>
      cases hrest with
      | @down children _ _ _ _ hnext hrest =>
        rw [edit, hchild]
        exact .down (lookup_put_self scope segment _) (ih (.down hnext hrest))

/-- Where a grant is taken away from the end of a path, the path leads nowhere. -/
theorem not_leadsTo_edit_none {old grant : Grant} {path : List Segment}
    (hpath : LeadsTo (.node scope) (segment :: path) old) :
    ¬LeadsTo (.node (edit none scope segment path)) (segment :: path) grant := by
  induction path generalizing scope segment with
  | nil =>
    rintro (_ | ⟨hchild, -⟩)
    rw [edit, lookup_put_self] at hchild
    cases hchild
  | cons next path ih =>
    cases hpath with
    | @down _ _ _ child _ hchild hrest =>
      cases hrest with
      | @down children _ _ _ _ hnext hrest =>
        rw [edit, hchild]
        rintro (_ | ⟨hedited, hbelow⟩)
        rw [lookup_put_self] at hedited
        cases hedited
        exact ih (.down hnext hrest) hbelow

theorem lookup_replace_allow {path : Key} (h : LeadsTo (.node tree.root) path.segments .allow)
    (key : Key) : (tree.replace path (.remount path)).lookup key = tree.lookup key := by
  refine walk_edit h fun rest hkey => ?_
  have hextend : path.extend rest = key := by
    obtain ⟨first, more⟩ := key
    obtain ⟨rfl, rfl⟩ := List.cons.inj hkey
    rfl
  exact congrArg some hextend

theorem lookup_remove_deny {path : Key} (h : LeadsTo (.node tree.root) path.segments .deny)
    (key : Key) : (tree.remove path).lookup key = tree.lookup key :=
  walk_edit h fun _ _ => rfl

end GrantTree

/-- **Grants extend downwards, and to allow is to remount to oneself.** Take any tree of grants. Below a
key that is granted every key is granted, below the target; below a key whose walk meets a refusal none
is. A target is a key, which is read back from its text: it is the requested one, or has the segments of
a remount followed by those of the requested key that are left when the walk meets it, each written behind
a dot. Whatever a path leads to under its own name may as well be remounted to that path, and what is
refused may as well be left out: every key is granted as before. -/
theorem grants_extend (tree : GrantTree) :
    (∀ key target relative : Key, tree.lookup key = some target →
        tree.lookup (key.join relative) = some (target.join relative)) ∧
      (∀ (key relative : Key) (path rest : List Segment), key.segments = path ++ rest →
        LeadsTo (.node tree.root) path .deny →
          tree.lookup key = none ∧ tree.lookup (key.join relative) = none) ∧
      (∀ key target : Key, tree.lookup key = some target → Key.parse target.text = .ok target ∧
        ∃ path rest, key.segments = path ++ rest ∧
          (LeadsTo (.node tree.root) path .allow ∧ target = key ∨
            ∃ base, LeadsTo (.node tree.root) path (.remount base) ∧
              target.segments = base.segments ++ rest ∧
              target.chars = base.chars ++ rest.flatMap fun segment => '.' :: segment.chars)) ∧
      (∀ path : Key, LeadsTo (.node tree.root) path.segments .allow →
        LeadsTo (.node (tree.replace path (.remount path)).root) path.segments (.remount path) ∧
          ∀ key, (tree.replace path (.remount path)).lookup key = tree.lookup key) ∧
      ∀ path : Key, LeadsTo (.node tree.root) path.segments .deny →
        (∀ grant, ¬LeadsTo (.node (tree.remove path).root) path.segments grant) ∧
          ∀ key, (tree.remove path).lookup key = tree.lookup key := by
  refine ⟨fun key target relative h => GrantTree.lookup_join h relative, ?_, ?_, ?_, ?_⟩
  · intro key relative path rest hkey hgrant
    exact ⟨GrantTree.lookup_of_leadsTo hkey hgrant,
      GrantTree.lookup_join_of_deny hkey hgrant relative⟩
  · intro key target h
    obtain ⟨path, rest, hkey, hallow | ⟨base, hgrant, rfl⟩⟩ := GrantTree.exists_leadsTo_of_lookup h
    · exact ⟨target.parse_text, path, rest, hkey, .inl hallow⟩
    · exact ⟨Key.parse_text _, path, rest, hkey, .inr ⟨base, hgrant, base.segments_extend rest,
        base.chars_extend rest⟩⟩
  · intro path h
    exact ⟨GrantTree.leadsTo_edit_some h, GrantTree.lookup_replace_allow h⟩
  · intro path h
    exact ⟨fun _ => GrantTree.not_leadsTo_edit_none h, GrantTree.lookup_remove_deny h⟩

namespace Postgres

def db1 : Segment := ⟨['d', 'b', '1'], by decide⟩

/-- One database under its own name, one in another place, and one not at all. -/
def grants : GrantTree :=
  ⟨[(pg, .node [(db1, .allow), (db2, .remount shared), (db3, .deny)])]⟩

/-- What lies below a granted key is granted, and what lies below a denied one is not; a target can be read
back; and the first and the third entry can be written in another way. -/
theorem grants_extend_postgres :
    grants.lookup ⟨pg, [db2, user, user]⟩ = some ⟨shared.first, [user, user]⟩ ∧
      grants.lookup ⟨pg, [db3, user, user]⟩ = none ∧
      Key.parse "shared.user" = .ok ⟨shared.first, [user]⟩ ∧
      (∀ key, (grants.replace ⟨pg, [db1]⟩ (.remount ⟨pg, [db1]⟩)).lookup key = grants.lookup key) ∧
      ∀ key, (grants.remove ⟨pg, [db3]⟩).lookup key = grants.lookup key := by
  obtain ⟨hjoin, hdeny, htarget, hallow, hremove⟩ := grants_extend grants
  have hpath {child : Segment} {grant : Grant}
      (h : [(db1, Grant.allow), (db2, .remount shared), (db3, .deny)].lookup child = some grant) :
      LeadsTo (.node grants.root) [pg, child] grant := .down rfl (.down h (.stop grant))
  have hdb3 : LeadsTo (.node grants.root) [pg, db3] .deny := hpath rfl
  exact ⟨hjoin ⟨pg, [db2, user]⟩ _ ⟨user, []⟩ rfl, (hdeny ⟨pg, [db3, user]⟩ ⟨user, []⟩ _ _ rfl hdb3).2,
    (htarget ⟨pg, [db2, user]⟩ _ rfl).1, (hallow ⟨pg, [db1]⟩ (hpath rfl)).2,
    (hremove ⟨pg, [db3]⟩ hdb3).2⟩

end Postgres

end RetrySafe.Secret
