import RetrySafe.Files.Tree
import RetrySafe.Proofs.Association

/-!
# Reading files back

A file that was written is read back under the path that it was written to: a file is never put
where a directory is, so every part of the path leads where it led before.

## Main results

* `Tree.locate_put` — a path leads to the same place once a file is there.
* `Tree.read_write` — what was written is read.
-/

namespace RetrySafe.Files

/-! ## Bytes of texts -/

theorem toList_loop (bytes : ByteArray) (i : Nat) (soFar : List UInt8) :
    ByteArray.toList.loop bytes i soFar = soFar.reverse ++ bytes.data.toList.drop i := by
  induction i, soFar using ByteArray.toList.loop.induct bytes with
  | case1 i soFar hlt ih =>
    have hi : i < bytes.data.toList.length := by simpa using hlt
    have hget : bytes.get! i = bytes.data.toList[i] := getElem!_pos bytes.data i hlt
    rw [ByteArray.toList.loop, if_pos hlt, ih, List.drop_eq_getElem_cons hi, hget]
    simp
  | case2 i soFar hge =>
    have hlength : bytes.data.toList.length ≤ i := by simpa using hge
    rw [ByteArray.toList.loop, if_neg hge, List.drop_eq_nil_of_le hlength, List.append_nil]

theorem toList_eq (bytes : ByteArray) : bytes.toList = bytes.data.toList := by
  rw [ByteArray.toList, toList_loop, List.reverse_nil, List.nil_append, List.drop_zero]

/-- A text is read from its bytes. -/
theorem fromUTF8?_toUTF8 (text : String) :
    String.fromUTF8? ⟨text.toUTF8.toList.toArray⟩ = some text := by
  have hbytes : (⟨text.toUTF8.toList.toArray⟩ : ByteArray) = text.toByteArray := by
    refine ByteArray.ext ?_
    rw [String.toUTF8, toList_eq]
  rw [hbytes, String.fromUTF8?, dif_pos text.isValidUTF8]
  rfl

/-- No text is read from bytes that no text has. -/
theorem fromUTF8?_eq_none {content : List UInt8}
    (h : ∀ text : String, text.toUTF8.toList ≠ content) :
    String.fromUTF8? ⟨content.toArray⟩ = none := by
  rw [String.fromUTF8?, dif_neg]
  intro hvalid
  apply h (String.fromUTF8 _ hvalid)
  rw [String.toUTF8, toList_eq]
  rfl

namespace Tree

variable {tree tree' : Tree} {target names names' : List String} {content : List UInt8}

/-! ## Paths after a change -/

theorem at?_put_self (tree : Tree) (names : List String) (entry : Entry) :
    (tree.put names entry).at? names = some entry := by
  simp [at?, put]

/-- What is there stays there, but for the names that lead to the new entry. -/
theorem at?_put_of_some {entry found : Entry} (h : tree.at? names = some found)
    (hne : names ≠ target) : (tree.put target entry).at? names = some found := by
  unfold at? at h ⊢
  rw [put, Association.lookup_cons_ne hne]
  split at h
  · exact h
  · simp only [Option.ite_none_right_eq_some] at h ⊢
    exact ⟨h.1.imp_right (Or.imp_right fun hany => by simp [hany]), h.2⟩

theorem entry?_put {name : String} {found : Entry} (h : tree.entry? names name = .ok (some found))
    {entry : Entry} (hne : names ++ [name] ≠ target) :
    entry? (tree.put target entry) names name = .ok (some found) := by
  unfold entry? at h ⊢
  split at h
  · cases h
  · rename_i hshort
    rw [if_neg hshort, at?_put_of_some (Except.ok.inj h) hne]

theorem at?_of_entry {name : String} {found : Option Entry}
    (h : tree.entry? names name = .ok found) : tree.at? (names ++ [name]) = found := by
  unfold entry? at h
  split at h
  · cases h
  · exact Except.ok.inj h

/-- A file that is put where no directory is leaves the ways through directories as they are. -/
theorem enter_put {part : String} (h : tree.enter names part = .ok names')
    (htarget : tree.at? target ≠ some .directory) :
    (tree.put target (.file content)).enter names part = .ok names' := by
  unfold enter at h ⊢
  by_cases hdot : part = "."
  · rwa [if_pos hdot] at h ⊢
  · rw [if_neg hdot] at h ⊢
    by_cases hdots : part = ".."
    · rwa [if_pos hdots] at h ⊢
    · rw [if_neg hdots] at h ⊢
      match hentry : tree.entry? names part with
      | .error fault => simp [hentry, bind, Except.bind] at h
      | .ok none => simp [hentry, bind, Except.bind, throw, throwThe, MonadExceptOf.throw] at h
      | .ok (some (.file _)) | .ok (some .sealedFile) =>
        simp [hentry, bind, Except.bind, throw, throwThe, MonadExceptOf.throw] at h
      | .ok (some .directory) =>
        have hne : names ++ [part] ≠ target := fun heq => htarget (heq ▸ at?_of_entry hentry)
        rw [hentry] at h
        rw [entry?_put hentry hne]
        exact h

theorem foldlM_enter_put {parts : List String} (h : parts.foldlM tree.enter names = .ok names')
    (htarget : tree.at? target ≠ some .directory) :
    parts.foldlM (tree.put target (.file content)).enter names = .ok names' := by
  induction parts generalizing names with
  | nil => exact h
  | cons part parts ih =>
    rw [List.foldlM_cons] at h ⊢
    match hentered : tree.enter names part with
    | .error fault =>
      rw [hentered] at h
      cases h
    | .ok entered =>
      rw [hentered] at h
      rw [enter_put hentered htarget]
      exact ih h

/-- A path leads to the same place once a file is put where no directory is. -/
theorem locate_put {path : String} {place : Place} (h : tree.locate path = .ok place)
    (htarget : tree.at? target ≠ some .directory) :
    (tree.put target (.file content)).locate path = .ok place := by
  have hhome : (tree.put target (.file content)).home = tree.home := rfl
  unfold locate at h ⊢
  rw [hhome]
  dsimp only at h ⊢
  generalize (if Path.isAbsolute path = true then [] else tree.home) = start at h ⊢
  split at h
  · cases h
  · split at h
    · cases h
    · split at h
      · cases h
      · rename_i hnul hempty hshort
        rw [if_neg hnul, if_neg hempty, if_neg hshort]
        cases hparts : (Path.parts path).reverse with
        | nil =>
          rw [hparts] at h
          exact h
        | cons last above =>
          rw [hparts] at h
          match hnames : above.reverse.foldlM tree.enter start with
          | .error fault =>
            simp only [hnames] at h
            cases h
          | .ok names =>
            simp only [hnames] at h
            simp only [foldlM_enter_put hnames htarget]
            exact h

/-- A file that is found at a place without a slash. -/
theorem find_of_locate {path : String} {above : List String} {name : String}
    (hplace : tree.locate path = .ok (.name above name false))
    (hentry : tree.entry? above name = .ok (some (.file content))) :
    tree.find path = .ok (.file content) := by
  rw [find, hplace]
  simp [bind, Except.bind, hentry, pure, Except.pure]

/-- A file that was written is read back. -/
theorem read_write {path text : String} (h : tree.write path text = .ok tree') :
    tree'.read path = .ok text := by
  unfold write at h
  match hplace : tree.locate path with
  | .error fault =>
    rw [hplace] at h
    cases h
  | .ok (.directory _) =>
    rw [hplace] at h
    cases h
  | .ok (.name _ _ true) =>
    rw [hplace] at h
    cases h
  | .ok (.name above name false) =>
    match hentry : tree.entry? above name with
    | .error fault => simp [hplace, hentry, bind, Except.bind] at h
    | .ok found =>
      simp only [hplace, hentry, bind, Except.bind] at h
      split at h
      · cases h
      · cases h
      rename_i hdirectory _
      cases h
      -- No directory was there, so the path leads through the same directories to the file.
      have htarget : tree.at? (above ++ [name]) ≠ some .directory := by
        rwa [at?_of_entry hentry]
      have hshort : ¬maxName < name.utf8ByteSize := by
        intro hlong
        unfold entry? at hentry
        rw [if_pos hlong] at hentry
        cases hentry
      have hwritten :
          entry? (tree.put (above ++ [name]) (.file text.toUTF8.toList)) above name =
            .ok (some (.file text.toUTF8.toList)) := by
        unfold entry?
        rw [if_neg hshort, at?_put_self]
      rw [read, find_of_locate (locate_put hplace htarget) hwritten]
      simp only [bind, Except.bind, fromUTF8?_toUTF8, pure, Except.pure]

end Tree

end RetrySafe.Files
