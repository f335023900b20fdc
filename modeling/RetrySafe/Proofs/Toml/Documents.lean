import RetrySafe.Proofs.Toml.Values
import RetrySafe.Toml.Document

/-!
# Reading TOML documents back

A document of tables is read back line by line: the header of a table, the members that are not
null, and nothing for the empty lines. Tables of different names with members of different keys
then come out as they were, in order.

## Main definitions

* `IsBareKey` — a name that needs no quotes.
* `IsTable` — a table that can be written.
* `present` — the members that are written.
* `IsRead` — the lines of a text.

## Main results

* `line_header`, `line_member` — the lines of a table.
* `isRead_document` — the lines of a document.
* `draft_table` — what the lines of a table define.
* `read_document?` — a document that is written is read back.
-/

namespace RetrySafe.Toml

variable {cs rest : List Char} {name : String} {ls : List Line}

/-- A name that needs no quotes. -/
def IsBareKey (name : String) : Prop := name ≠ "" ∧ name.toList.all isBare = true

instance (name : String) : Decidable (IsBareKey name) := inferInstanceAs (Decidable (_ ∧ _))

/-- A table of a bare name whose members have different bare keys. -/
structure IsTable (table : String × Members) : Prop where
  name : IsBareKey table.1
  keys : ∀ key ∈ table.2.keys, IsBareKey key
  distinct : table.2.keys.Nodup

/-- Whether a member is written. -/
def isPresent (member : String × Json) : Bool :=
  match member.2 with
  | .null => false
  | _ => true

/-- The members that are written. -/
def present (members : Members) : Members := members.filter isPresent

/-! ## Keys -/

theorem IsBareKey.forall_isBare (h : IsBareKey name) : ∀ c ∈ name.toList, isBare c = true :=
  List.all_eq_true.1 h.2

theorem IsBareKey.exists_cons (h : IsBareKey name) :
    ∃ c cs, name.toList = c :: cs ∧ isBare c = true := by
  cases hname : name.toList with
  | nil => exact absurd (String.toList_eq_nil_iff.1 hname) h.1
  | cons c cs => exact ⟨c, cs, rfl, h.forall_isBare c (hname ▸ List.mem_cons_self)⟩

theorem isSpace_of_isBare {c : Char} (h : isBare c = true) : isSpace c = false := by
  simp [isSpace, ne_of_pred h (d := ' ') rfl, ne_of_pred h (d := '\t') rfl]

/-- A bare key as far as it goes. -/
theorem key_bareKey (h : IsBareKey name) (hrest : ∀ c ∈ rest.head?, isBare c = false) :
    key (name.toList ++ rest) = some (name.toList, rest) := by
  have htake : (name.toList ++ rest).takeWhile isBare = name.toList := by
    rw [List.takeWhile_append_of_pos h.forall_isBare]
    cases rest with
    | nil => simp
    | cons c rest => simp [hrest c rfl]
  have hdrop : (name.toList ++ rest).dropWhile isBare = rest := by
    rw [List.dropWhile_append_of_pos h.forall_isBare]
    cases rest with
    | nil => rfl
    | cons c rest => simp [hrest c rfl]
  obtain ⟨c, cs, hname, hc⟩ := h.exists_cons
  have hbare : bareKey (name.toList ++ rest) = some (name.toList, rest) := by
    unfold bareKey
    rw [htake, hdrop, hname]
  rw [hname, List.cons_append] at hbare ⊢
  rw [key, hbare]
  · exact fun _ heq => ne_of_pred hc rfl (List.cons.inj heq).1
  · exact fun _ heq => ne_of_pred hc rfl (List.cons.inj heq).1

theorem path_bareKey (h : IsBareKey name) (hrest : ∀ c ∈ rest.head?, isBare c = false)
    (hdot : ∀ c ∈ (skipSpaces rest).head?, c ≠ '.') :
    path (name.toList ++ rest) = some (⟨[], name⟩, skipSpaces rest) := by
  have hspaces : skipSpaces (name.toList ++ rest) = name.toList ++ rest := by
    obtain ⟨c, cs, hname, hc⟩ := h.exists_cons
    rw [hname]
    simp [skipSpaces, isSpace_of_isBare hc]
  rw [path, partLimit, pathUpTo, hspaces, key_bareKey h hrest]
  simp only [Option.bind_eq_bind, Option.bind_some, String.ofList_toList]
  split
  · rename_i heq
    rw [heq] at hdot
    exact absurd rfl (hdot '.' rfl)
  · rfl

/-! ## Lines -/

theorem line_header (h : IsBareKey name) (rest : List Char) :
    line ('[' :: (name.toList ++ ']' :: rest)) = some (.table ⟨[], name⟩, rest) := by
  have hpath : path (name.toList ++ ']' :: rest) = some (⟨[], name⟩, ']' :: rest) :=
    path_bareKey h (by rintro c ⟨⟩; rfl) (by rintro c ⟨⟩; decide)
  obtain ⟨c, cs, hname, hc⟩ := h.exists_cons
  rw [hname, List.cons_append] at hpath ⊢
  rw [line]
  · simp [header, hpath, word]
  · exact fun _ heq => ne_of_pred hc rfl (List.cons.inj heq).1

theorem exists_valueForm_cons {v : Json} {form : List Char} (h : valueForm? v = some form) :
    ∃ c cs, form = c :: cs ∧ isSpace c = false := by
  cases v with
  | arr vs =>
    simp only [valueForm?, Option.bind_eq_bind, Option.bind_eq_some_iff] at h
    obtain ⟨forms, -, h⟩ := h
    split at h
    all_goals
      cases h
      exact ⟨_, _, rfl, rfl⟩
  | _ =>
    simp only [valueForm?] at h
    obtain ⟨c, cs, hform, hc⟩ := exists_scalarForm_cons h
    exact ⟨c, cs, hform, isSpace_of_startsScalar hc⟩

theorem line_member {key : String} {v : Json} {form : List Char} (hkey : IsBareKey key)
    (hform : valueForm? v = some form) (rest : List Char) :
    line (key.toList ++ ' ' :: '=' :: ' ' :: (form ++ '\n' :: rest)) =
      some (.assign ⟨[], key⟩ v, '\n' :: rest) := by
  have hpath : path (key.toList ++ ' ' :: '=' :: ' ' :: (form ++ '\n' :: rest)) =
      some (⟨[], key⟩, '=' :: ' ' :: (form ++ '\n' :: rest)) :=
    path_bareKey hkey (by rintro c ⟨⟩; rfl) (by rintro c ⟨⟩; decide)
  have hvalue : value depthLimit (form ++ '\n' :: rest) = some (v, '\n' :: rest) :=
    value_valueForm hform 78 (endsValue_cons (.inl rfl) rest)
  have hspaces : skipSpaces (' ' :: (form ++ '\n' :: rest)) = form ++ '\n' :: rest := by
    obtain ⟨c, cs, hc, hspace⟩ := exists_valueForm_cons hform
    simp [hc, skipSpaces, hspace, show isSpace ' ' = true from rfl]
  obtain ⟨c, cs, hname, hc⟩ := hkey.exists_cons
  rw [hname, List.cons_append] at hpath ⊢
  rw [line]
  · simp [assignment, hpath, expect, hspaces, hvalue]
  · exact fun _ heq => ne_of_pred hc rfl (List.cons.inj heq).1
  · exact fun _ heq => ne_of_pred hc rfl (List.cons.inj heq).1

/-- How a line starts that is not empty. -/
def startsLine (c : Char) : Bool := c = '[' || isBare c

theorem startsLine_of_pred {c : Char} (h : isBare c = true) : startsLine c = true := by
  simp [startsLine, h]

/-- The lines of a text, with as much fuel as it has characters. -/
def IsRead (cs : List Char) (ls : List Line) : Prop :=
  ∀ fuel, cs.length < fuel → lines fuel cs = some ls

namespace IsRead

theorem nil : IsRead [] [] := by
  intro fuel hfuel
  obtain ⟨fuel, rfl⟩ := Nat.exists_eq_add_of_lt hfuel
  rfl

theorem blank (h : IsRead rest ls) : IsRead ('\n' :: rest) ls := by
  intro fuel hfuel
  obtain ⟨fuel, rfl⟩ := Nat.exists_eq_add_of_lt hfuel
  exact h _ (by rw [List.length_cons]; omega)

theorem line {c : Char} {l : Line} (hc : startsLine c = true)
    (hline : Toml.line (c :: cs) = some (l, '\n' :: rest)) (hlength : rest.length ≤ cs.length)
    (h : IsRead rest ls) : IsRead (c :: cs) (l :: ls) := by
  intro fuel hfuel
  obtain ⟨fuel, rfl⟩ := Nat.exists_eq_add_of_lt hfuel
  have hne (d : Char) (hd : startsLine d = false) : c ≠ d := ne_of_pred hc hd
  have hspaces : skipSpaces (c :: cs) = c :: cs := by
    simp [skipSpaces, isSpace, hne ' ' rfl, hne '\t' rfl]
  have hcomment : skipComment (c :: cs) = c :: cs := by
    rw [skipComment]
    exact fun _ heq => hne '#' rfl (List.cons.inj heq).1
  have hend : lineEnd? (c :: cs) = none := by
    rw [lineEnd?, hspaces, hcomment]
    exact newline?_cons (hne '\n' rfl) (hne '\r' rfl) cs
  have hrest : lineEnd? ('\n' :: rest) = some rest := rfl
  have hlines : lines ((c :: cs).length + fuel) rest = some ls :=
    h _ (by rw [List.length_cons]; omega)
  rw [lines, hspaces]
  simp only [hend, hline, Option.bind_eq_bind, Option.bind_some, hrest, hlines, Option.pure_def]

end IsRead

/-- The line of a member. -/
def memberLine (member : String × Json) : Line := .assign ⟨[], member.1⟩ member.2

/-- The lines of a table. -/
def tableLines (table : String × Members) : List Line :=
  .table ⟨[], table.1⟩ :: (present table.2).map memberLine

theorem memberLine?_of_absent {member : String × Json} (h : isPresent member = false) :
    memberLine? member = some [] := by
  obtain ⟨key, v⟩ := member
  cases v with
  | null => rfl
  | _ => cases h

theorem memberLine?_of_present {member : String × Json} (h : isPresent member = true) :
    memberLine? member = (valueForm? member.2).map fun form =>
      member.1.toList ++ ' ' :: '=' :: ' ' :: (form ++ ['\n']) := by
  obtain ⟨key, v⟩ := member
  have hline : memberLine? (key, v) =
      (valueForm? v).bind fun form => some (key.toList ++ " = ".toList ++ form ++ ['\n']) := by
    cases v with
    | null => cases h
    | _ => rfl
  have hequals : " = ".toList = [' ', '=', ' '] := rfl
  rw [hline]
  cases valueForm? v <;> simp [hequals]

/-- The lines of the members of a table, and those after it. -/
theorem isRead_members {members : Members} {texts : List (List Char)}
    (hkeys : ∀ key ∈ members.keys, IsBareKey key) (h : Written memberLine? members texts)
    (hrest : IsRead rest ls) :
    IsRead (texts.flatten ++ rest) ((present members).map memberLine ++ ls) := by
  induction h with
  | nil => exact hrest
  | @cons member text members texts hmember _ ih =>
    have hread := ih fun key hkey => hkeys key (List.mem_cons_of_mem _ hkey)
    -- A member that is null has an empty text and no line.
    by_cases hpresent : isPresent member = true
    · rw [memberLine?_of_present hpresent, Option.map_eq_some_iff] at hmember
      obtain ⟨form, hform, rfl⟩ := hmember
      have hkey : IsBareKey member.1 := hkeys member.1 List.mem_cons_self
      have hline := line_member hkey hform (texts.flatten ++ rest)
      obtain ⟨c, cs, hname, hc⟩ := hkey.exists_cons
      rw [present, List.filter_cons_of_pos hpresent]
      simp only [hname, List.flatten_cons, List.cons_append, List.append_assoc, List.nil_append,
        List.map_cons] at hline ⊢
      refine hread.line (startsLine_of_pred hc) hline ?_
      simp only [List.length_append, List.length_cons]
      omega
    · rw [Bool.not_eq_true] at hpresent
      rw [memberLine?_of_absent hpresent] at hmember
      cases hmember
      rw [present, List.filter_cons_of_neg (by simp [hpresent])]
      exact hread

/-- The lines of a table, and those after it. -/
theorem isRead_table {table : String × Members} {text : List Char} (h : IsTable table)
    (htext : table? table.1 table.2 = some text) (hrest : IsRead rest ls) :
    IsRead (text ++ rest) (tableLines table ++ ls) := by
  simp only [table?, Option.bind_eq_bind, Option.bind_eq_some_iff, mapM_eq_some_iff,
    Option.pure_def, Option.some_inj] at htext
  obtain ⟨texts, htexts, rfl⟩ := htext
  have hread := isRead_members h.keys htexts hrest
  have hline := line_header h.name ('\n' :: (texts.flatten ++ rest))
  simp only [List.cons_append, List.append_assoc, List.nil_append, tableLines]
  refine hread.line rfl hline ?_
  simp only [List.length_append, List.length_cons]
  omega

/-- The lines of a document. -/
theorem isRead_document {tables : List (String × Members)} {texts : List (List Char)}
    (h : ∀ table ∈ tables, IsTable table)
    (htexts : Written (fun table => table? table.1 table.2) tables texts) :
    IsRead (['\n'].intercalate texts) (tables.flatMap tableLines) := by
  induction htexts with
  | nil => exact .nil
  | @cons table text tables texts htext hothers ih =>
    have htable := h table List.mem_cons_self
    have hrest := ih fun table ht => h table (List.mem_cons_of_mem _ ht)
    rw [List.flatMap_cons]
    cases hothers with
    | nil =>
      have hread := isRead_table htable htext .nil
      rw [List.append_nil] at hread
      rw [List.intercalate_singleton]
      exact hread
    | cons hnext hothers =>
      rw [List.intercalate_cons_cons, List.append_assoc]
      exact isRead_table htable htext hrest.blank

/-! ## What the lines define -/

/-- The entries of some members. -/
def entriesOf (members : Members) : Entries := members.map fun m => (m.1, .value m.2)

theorem keys_entriesOf (members : Members) : (entriesOf members).map Prod.fst = members.keys := by
  simp [entriesOf, Members.keys]

theorem membersOf_entriesOf (members : Members) : membersOf (entriesOf members) = members := by
  induction members with
  | nil => rfl
  | cons m members ih =>
    rw [entriesOf, List.map_cons, membersOf, Node.toJson]
    exact congrArg _ ih

theorem lookup_eq_none {entries : Entries} {key : String} (h : key ∉ entries.map Prod.fst) :
    List.lookup key entries = none := by
  rw [List.lookup_eq_none_iff]
  intro entry hentry
  exact bne_iff_ne.2 fun heq => h (heq ▸ List.mem_map_of_mem hentry)

theorem lookup_concat {entries : Entries} {key : String} (h : key ∉ entries.map Prod.fst)
    (node : Node) : List.lookup key (entries ++ [(key, node)]) = some node := by
  rw [List.lookup_append, lookup_eq_none h]
  simp

theorem put_concat {entries : Entries} {key : String} (h : key ∉ entries.map Prod.fst)
    (node node' : Node) :
    Entries.put (entries ++ [(key, node)]) key node' = entries ++ [(key, node')] := by
  have hothers : entries.map (fun entry => if entry.1 = key then (key, node') else entry) =
      entries := by
    refine (List.map_congr_left fun entry hentry => ?_).trans (List.map_id entries)
    have hne : entry.1 ≠ key := fun heq => h (heq ▸ List.mem_map_of_mem hentry)
    exact if_neg hne
  simp [Entries.put, hothers]

/-- A draft whose last header is that of a table with some members so far. -/
def within (entries : Entries) (name : String) (members : Members) : Draft :=
  ⟨entries ++ [(name, .table .header (entriesOf members))], [name]⟩

theorem add_table {entries : Entries} (h : name ∉ entries.map Prod.fst) (here : List String) :
    Draft.add ⟨entries, here⟩ (.table ⟨[], name⟩) = some (within entries name []) := by
  simp [Draft.add, Draft.atRoot, openTable, change, lookup_eq_none h, within, entriesOf, Path.keys]

theorem add_member {entries : Entries} (h : name ∉ entries.map Prod.fst) {members : Members}
    {member : String × Json} (hkey : member.1 ∉ members.keys) :
    (within entries name members).add (memberLine member) =
      some (within entries name (members ++ [member])) := by
  have hfree : List.lookup member.1 (entriesOf members) = none :=
    lookup_eq_none (by rwa [keys_entriesOf])
  have hconcat : entriesOf (members ++ [member]) =
      entriesOf members ++ [(member.1, .value member.2)] := List.map_append
  simp [within, Draft.add, Draft.atRoot, memberLine, change, lookup_concat h, assign, hfree,
    put_concat h, hconcat]

/-- The lines of members of different keys. -/
theorem draft_members {entries : Entries} (h : name ∉ entries.map Prod.fst)
    {soFar members : Members} (hkeys : (soFar ++ members).keys.Nodup) :
    (members.map memberLine).foldlM Draft.add (within entries name soFar) =
      some (within entries name (soFar ++ members)) := by
  -- The induction is on the members to come; the draft has those before.
  induction members generalizing soFar with
  | nil => simp
  | cons member members ih =>
    have hassoc : soFar ++ member :: members = (soFar ++ [member]) ++ members := by simp
    have hkey : member.1 ∉ soFar.keys := by
      rw [Members.keys, List.map_append, List.nodup_append] at hkeys
      exact fun hmem => hkeys.2.2 _ hmem _ List.mem_cons_self rfl
    rw [List.map_cons, List.foldlM_cons, add_member h hkey, hassoc]
    exact ih (hassoc ▸ hkeys)

/-- The entry of a table. -/
def tableEntry (table : String × Members) : String × Node :=
  (table.1, .table .header (entriesOf (present table.2)))

/-- The lines of a table. -/
theorem draft_table {table : String × Members} (htable : IsTable table) {entries : Entries}
    (h : table.1 ∉ entries.map Prod.fst) (here : List String) :
    (tableLines table).foldlM Draft.add ⟨entries, here⟩ =
      some ⟨entries ++ [tableEntry table], [table.1]⟩ := by
  have hkeys : (present table.2).keys.Nodup := htable.distinct.sublist (List.filter_sublist.map _)
  rw [tableLines, List.foldlM_cons, add_table h]
  exact draft_members h hkeys

/-- The lines of tables of different names. -/
theorem draft_tables {tables : List (String × Members)} (htables : ∀ table ∈ tables, IsTable table)
    (entries : Entries) (hnames : (entries.map Prod.fst ++ tables.map Prod.fst).Nodup)
    (here : List String) :
    ∃ here', (tables.flatMap tableLines).foldlM Draft.add ⟨entries, here⟩ =
      some ⟨entries ++ tables.map tableEntry, here'⟩ := by
  induction tables generalizing entries here with
  | nil => exact ⟨here, by simp⟩
  | cons table tables ih =>
    have hname : table.1 ∉ entries.map Prod.fst := fun hmem =>
      (List.nodup_append.1 hnames).2.2 _ hmem _ List.mem_cons_self rfl
    have htable := draft_table (htables table List.mem_cons_self) hname here
    obtain ⟨here', hothers⟩ :=
      ih (fun table ht => htables table (List.mem_cons_of_mem _ ht)) (entries ++ [tableEntry table])
        (by simpa [tableEntry] using hnames) [table.1]
    refine ⟨here', ?_⟩
    rw [List.flatMap_cons, List.foldlM_append, htable]
    simpa using hothers

/-- What is read of a table. -/
def tableMember (table : String × Members) : String × Json := (table.1, .obj (present table.2))

theorem membersOf_tableEntries (tables : List (String × Members)) :
    membersOf (tables.map tableEntry) = tables.map tableMember := by
  induction tables with
  | nil => rfl
  | cons table tables ih =>
    rw [List.map_cons, tableEntry, membersOf, Node.toJson, membersOf_entriesOf, ih]
    rfl

/-- A document starts with a header, or is empty. -/
theorem dropMark_document {tables : List (String × Members)} {texts : List (List Char)}
    (h : Written (fun table => table? table.1 table.2) tables texts) :
    dropMark (['\n'].intercalate texts) = ['\n'].intercalate texts := by
  cases h with
  | nil => rfl
  | @cons table text tables texts htext _ =>
    simp only [table?, Option.bind_eq_bind, Option.bind_eq_some_iff, Option.pure_def,
      Option.some_inj] at htext
    obtain ⟨_, -, rfl⟩ := htext
    cases texts with
    | nil =>
      rw [List.intercalate_singleton]
      rfl
    | cons next texts =>
      rw [List.intercalate_cons_cons]
      rfl

/-- A document of tables of different names is read back, without the members that are null. -/
theorem read_document? {tables : List (String × Members)}
    (htables : ∀ table ∈ tables, IsTable table) (hnames : (tables.map Prod.fst).Nodup)
    {text : String} (h : document? tables = some text) :
    read text = some (tables.map tableMember) := by
  simp only [document?, Option.bind_eq_bind, Option.bind_eq_some_iff, mapM_eq_some_iff,
    Option.pure_def, Option.some_inj] at h
  obtain ⟨texts, htexts, rfl⟩ := h
  have hlines := isRead_document htables htexts _ (Nat.lt_succ_self _)
  obtain ⟨here, hdraft⟩ := draft_tables htables [] hnames []
  have hdefined : ofLines (tables.flatMap tableLines) = some (tables.map tableMember) := by
    rw [ofLines, hdraft, List.nil_append]
    exact congrArg some (membersOf_tableEntries tables)
  simp only [read, String.toList_ofList, dropMark_document htexts, Option.bind_eq_bind]
  rw [hlines, Option.bind_some, hdefined]

/-! ## What can be written -/

theorem mapM_isSome_iff {α β : Type} {form? : α → Option β} {as : List α} :
    (as.mapM form?).isSome ↔ ∀ a ∈ as, (form? a).isSome := by
  induction as with
  | nil => simp
  | cons a as ih =>
    rw [List.forall_mem_cons, ← ih, List.mapM_cons]
    cases form? a <;> cases as.mapM form? <;> simp

/-- Tables can be written if the values of all their members can be. -/
theorem document?_isSome_iff {tables : List (String × Members)} :
    (document? tables).isSome ↔
      ∀ table ∈ tables, ∀ member ∈ present table.2, (valueForm? member.2).isSome := by
  have hmember : ∀ member, (memberLine? member).isSome ↔
      (isPresent member = true → (valueForm? member.2).isSome) := by
    intro member
    by_cases hpresent : isPresent member = true
    · simp [memberLine?_of_present hpresent, hpresent]
    · simp [memberLine?_of_absent (by simpa using hpresent), hpresent]
  have htable : ∀ table : String × Members, (table? table.1 table.2).isSome ↔
      ∀ member ∈ present table.2, (valueForm? member.2).isSome := by
    intro table
    have hmapped : (table? table.1 table.2).isSome = (table.2.mapM memberLine?).isSome := by
      cases h : table.2.mapM memberLine? <;> simp [table?, h]
    rw [hmapped, mapM_isSome_iff]
    simp only [hmember, present, List.mem_filter, and_imp]
  have hmapped : (document? tables).isSome =
      (tables.mapM fun table => table? table.1 table.2).isSome := by
    cases h : tables.mapM fun table => table? table.1 table.2 <;> simp [document?, h]
  rw [hmapped, mapM_isSome_iff]
  exact forall₂_congr fun table _ => htable table

end RetrySafe.Toml
