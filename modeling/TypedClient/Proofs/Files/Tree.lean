/-
# What changes of a tree of files keep

A path is followed through directories only, and no change takes a directory away. So a path
that leads somewhere still leads there after a change, and a text stays in its place unless
another text is written there.
-/

import TypedClient.Files.Tree

namespace TypedClient.FileTree

variable {tree before after made written : FileTree} {location other : Location}
  {entry : FileEntry} {path content text : String}

/-! ## Places -/

theorem held?_put_self (entry : FileEntry) (below : location ≠ []) (tree : FileTree) :
    (tree.put location entry).held? location = some entry := by
  simp [held?, put, below]

theorem held?_put_other (isOther : other ≠ location) (entry : FileEntry) (tree : FileTree) :
    (tree.put location entry).held? other = tree.held? other := by
  have differs : (other == location) = false := beq_false_of_ne isOther
  unfold held? put
  split
  · rfl
  rw [List.lookup_cons, differs]
  induction tree.entries with
  | nil => rfl
  | cons first rest ih =>
      obtain ⟨place, held⟩ := first
      by_cases isPlace : place = location
      · subst isPlace
        simpa [List.lookup_cons, differs] using ih
      · rw [List.filter_cons_of_pos (by simpa using isPlace), List.lookup_cons, List.lookup_cons]
        dsimp only at ih ⊢
        rw [ih]

/-- A change takes no directory away. -/
structure KeepsDirectories (before after : FileTree) : Prop where
  workingDirectory : after.workingDirectory = before.workingDirectory
  directory : ∀ location, before.held? location = some .directory →
    after.held? location = some .directory

/-- A change takes nothing away. -/
structure Grows (before after : FileTree) : Prop where
  workingDirectory : after.workingDirectory = before.workingDirectory
  kept : ∀ location entry, before.held? location = some entry → after.held? location = some entry

theorem Grows.refl (tree : FileTree) : Grows tree tree := ⟨rfl, fun _ _ held => held⟩

theorem Grows.trans (first : Grows before made) (second : Grows made after) :
    Grows before after where
  workingDirectory := second.workingDirectory.trans first.workingDirectory
  kept location entry held := second.kept location entry (first.kept location entry held)

theorem Grows.keepsDirectories (grows : Grows before after) : KeepsDirectories before after :=
  ⟨grows.workingDirectory, fun location => grows.kept location .directory⟩

theorem KeepsDirectories.put (entry : FileEntry)
    (noDirectory : tree.held? location ≠ some .directory) :
    KeepsDirectories tree (tree.put location entry) where
  workingDirectory := rfl
  directory other isDirectory := by
    have isOther : other ≠ location := fun same => noDirectory (same ▸ isDirectory)
    rw [held?_put_other isOther, isDirectory]

theorem Grows.put (entry : FileEntry) (free : tree.held? location = none) :
    Grows tree (tree.put location entry) where
  workingDirectory := rfl
  kept other held isHeld := by
    have isOther : other ≠ location := by
      rintro rfl
      cases free.symm.trans isHeld
    rw [held?_put_other isOther, isHeld]

/-! ## Paths -/

theorem KeepsDirectories.follow (keeps : KeepsDirectories before after) {start : Location}
    {parts : List String} (leads : before.follow start parts = .ok location) :
    after.follow start parts = .ok location := by
  induction parts generalizing start with
  | nil => exact leads
  | cons part parts ih =>
      unfold FileTree.follow at leads ⊢
      cases held : before.held? start with
      | none =>
          rw [held] at leads
          cases leads
      | some entry =>
          rw [held] at leads
          cases entry with
          | text | bytes => cases leads
          | directory =>
              rw [keeps.directory start held]
              dsimp only at leads ⊢
              split
              · rename_i stays
                exact ih (by rwa [if_pos stays] at leads)
              · rename_i moves
                rw [if_neg moves] at leads
                split
                · rename_i isUp
                  exact ih (by rwa [if_pos isUp] at leads)
                · rename_i isDown
                  exact ih (by rwa [if_neg isDown] at leads)

/-- A path that leads somewhere still leads there. -/
theorem KeepsDirectories.locate (keeps : KeepsDirectories before after)
    (leads : before.locate path = .ok location) : after.locate path = .ok location := by
  unfold FileTree.locate at leads ⊢
  split at leads
  · cases leads
  · rename_i named
    rw [if_neg named, keeps.workingDirectory]
    exact keeps.follow leads

theorem find?_eq_some_iff :
    tree.find? path = some entry ↔
      ∃ location, tree.locate path = .ok location ∧ tree.held? location = some entry := by
  unfold find?
  cases tree.locate path with
  | ok location => simp
  | error error => simp

/-- What a path names stays there. -/
theorem Grows.find? (grows : Grows before after) (found : before.find? path = some entry) :
    after.find? path = some entry := by
  obtain ⟨location, leads, held⟩ := find?_eq_some_iff.mp found
  exact find?_eq_some_iff.mpr
    ⟨location, grows.keepsDirectories.locate leads, grows.kept location entry held⟩

theorem read_eq_ok_iff : tree.read path = .ok text ↔ tree.find? path = some (.text text) := by
  rw [find?_eq_some_iff]
  unfold read
  cases tree.locate path with
  | error error => simp [bind, Except.bind]
  | ok location =>
      simp only [bind, Except.bind, Except.ok.injEq, exists_eq_left']
      cases tree.held? location with
      | none => simp
      | some entry => cases entry <;> simp

/-! ## Changes -/

theorem makeDirectory_eq_ok (done : tree.makeDirectory path = .ok made) :
    ∃ location, tree.locate path = .ok location ∧ tree.held? location = none ∧
      made = tree.put location .directory := by
  unfold makeDirectory at done
  cases leads : tree.locate path with
  | error error =>
      rw [leads] at done
      cases done
  | ok location =>
      rw [leads] at done
      simp only [bind, Except.bind] at done
      split at done
      · cases done
      · rename_i free
        cases done
        exact ⟨location, rfl, by simpa using free, rfl⟩

theorem write_eq_ok (done : tree.write path content = .ok written) :
    ∃ location, tree.locate path = .ok location ∧ tree.held? location ≠ some .directory ∧
      written = tree.put location (.text content) := by
  unfold write at done
  cases leads : tree.locate path with
  | error error =>
      rw [leads] at done
      cases done
  | ok location =>
      rw [leads] at done
      simp only [bind, Except.bind] at done
      split at done
      · cases done
      · rename_i noDirectory
        cases done
        exact ⟨location, rfl, noDirectory, rfl⟩

/-- A directory that was made is found. -/
theorem grows_ensureDirectory (done : tree.ensureDirectory path = .ok made) :
    Grows tree made ∧ made.find? path = some .directory := by
  unfold ensureDirectory at done
  cases makes : tree.makeDirectory path with
  | ok result =>
      rw [makes] at done
      cases done
      obtain ⟨location, leads, free, rfl⟩ := makeDirectory_eq_ok makes
      have grows : Grows tree (tree.put location .directory) := .put _ free
      have below : location ≠ [] := by
        rintro rfl
        cases free
      exact ⟨grows, find?_eq_some_iff.mpr ⟨location, grows.keepsDirectories.locate leads,
        held?_put_self _ below tree⟩⟩
  | error error =>
      rw [makes] at done
      dsimp only at done
      split at done
      · rename_i isThere
        cases done
        exact ⟨.refl tree, isThere⟩
      · cases done

theorem grows_makeDirectoriesFrom {fuel : Nat}
    (done : tree.makeDirectoriesFrom fuel path = .ok made) :
    Grows tree made ∧ (path = "" ∨ made.find? path = some .directory) := by
  induction fuel generalizing path made with
  | zero => cases done
  | succ fuel ih =>
      unfold makeDirectoriesFrom at done
      split at done
      · rename_i isEmpty
        cases done
        exact ⟨.refl tree, .inl isEmpty⟩
      · split at done
        · split at done
          · rename_i above isAbove
            cases makes : tree.makeDirectoriesFrom fuel above with
            | error error =>
                rw [makes] at done
                cases done
            | ok below =>
                rw [makes] at done
                obtain ⟨grows, isThere⟩ := grows_ensureDirectory done
                exact ⟨(ih makes).1.trans grows, .inr isThere⟩
          · cases done
        · obtain ⟨grows, isThere⟩ := grows_ensureDirectory done
          exact ⟨grows, .inr isThere⟩

theorem grows_makeDirectories (done : tree.makeDirectories path = .ok made) : Grows tree made :=
  (grows_makeDirectoriesFrom done).1

/-- Directories that are there are not made again. -/
theorem makeDirectories_again (done : tree.makeDirectories path = .ok made) :
    made.makeDirectories path = .ok made := by
  unfold makeDirectories makeDirectoriesFrom
  rcases (grows_makeDirectoriesFrom done).2 with isEmpty | isThere
  · rw [if_pos isEmpty]
  · obtain ⟨location, leads, held⟩ := find?_eq_some_iff.mp isThere
    have ensures : made.ensureDirectory path = .ok made := by
      have fails : made.makeDirectory path = .error .alreadyExists := by
        unfold makeDirectory
        simp [leads, held, bind, Except.bind]
      simp [ensureDirectory, fails, isThere]
    split
    · rfl
    · rw [ensures]

/-- A text that is written is found where it was written. -/
theorem find?_write_self (done : tree.write path content = .ok written) :
    written.find? path = some (.text content) := by
  obtain ⟨location, leads, noDirectory, rfl⟩ := write_eq_ok done
  have below : location ≠ [] := by
    rintro rfl
    exact noDirectory rfl
  exact find?_eq_some_iff.mpr
    ⟨location, (KeepsDirectories.put _ noDirectory).locate leads, held?_put_self _ below tree⟩

/-- A text stays unless another one is written in its place. -/
theorem find?_write {other : String} (done : tree.write other content = .ok written)
    (found : tree.find? path = some (.text text)) :
    written.find? path = some (.text text) ∨ written.find? path = some (.text content) := by
  obtain ⟨location, -, noDirectory, rfl⟩ := write_eq_ok done
  obtain ⟨place, leads, held⟩ := find?_eq_some_iff.mp found
  have leadsOn := (KeepsDirectories.put (.text content) noDirectory).locate leads
  by_cases isPlace : place = location
  · subst isPlace
    have below : place ≠ [] := by
      rintro rfl
      exact noDirectory rfl
    exact .inr (find?_eq_some_iff.mpr ⟨place, leadsOn, held?_put_self _ below tree⟩)
  · refine .inl (find?_eq_some_iff.mpr ⟨place, leadsOn, ?_⟩)
    rw [held?_put_other isPlace, held]

/-! ## The directories of a file -/

/-- The tree in which the directories of a file are made, if they can be. -/
def reached (path : String) (tree : FileTree) : FileTree :=
  match (Path.parent? path).map fun directory => tree.makeDirectories directory with
  | some (.ok made) => made
  | _ => tree

theorem reached_of_ok {directory : String} (isDirectory : Path.parent? path = some directory)
    (done : tree.makeDirectories directory = .ok made) : tree.reached path = made := by
  simp [reached, isDirectory, done]

theorem reached_of_error {directory : String} {error : FileError}
    (isDirectory : Path.parent? path = some directory)
    (failed : tree.makeDirectories directory = .error error) : tree.reached path = tree := by
  simp [reached, isDirectory, failed]

theorem reached_of_none (atRoot : Path.parent? path = none) : tree.reached path = tree := by
  simp [reached, atRoot]

theorem grows_reached (path : String) (tree : FileTree) : Grows tree (tree.reached path) := by
  cases isDirectory : Path.parent? path with
  | none =>
      rw [reached_of_none isDirectory]
      exact .refl tree
  | some directory =>
      cases done : tree.makeDirectories directory with
      | ok made =>
          rw [reached_of_ok isDirectory done]
          exact grows_makeDirectories done
      | error error =>
          rw [reached_of_error isDirectory done]
          exact .refl tree

theorem reached_reached (path : String) (tree : FileTree) :
    (tree.reached path).reached path = tree.reached path := by
  cases isDirectory : Path.parent? path with
  | none => rw [reached_of_none isDirectory, reached_of_none isDirectory]
  | some directory =>
      cases done : tree.makeDirectories directory with
      | ok made =>
          rw [reached_of_ok isDirectory done]
          exact reached_of_ok isDirectory (makeDirectories_again done)
      | error error =>
          rw [reached_of_error isDirectory done]
          exact reached_of_error isDirectory done

end TypedClient.FileTree
