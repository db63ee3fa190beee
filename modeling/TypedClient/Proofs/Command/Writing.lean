/-
# What writing leaves in the settings file

A run that writes first saves its settings and then writes the files it has planned. Saving
either replaces the text of the settings file or leaves it. A planned file is left out if it had
its text when it was planned, and else its directories are made and its text is written; it
touches the settings file only if it is written in its place.
-/

import TypedClient.Proofs.Command.Preparation
import TypedClient.Proofs.Files.Tree

namespace TypedClient.Command

open FileTree

variable {tree after made written : FileTree} {path text : String}

/-- A change that is attempted takes place, or leaves the tree. -/
theorem run_attempt {ε : Type} (tree : FileTree) (change : FileTree → Except FileError FileTree) :
    (liftM (FileTree.attempt change) :
      ExceptT ε (StateM FileTree) (Except FileError Unit)).run.run tree =
      match change tree with
      | .ok changed => (.ok (.ok ()), changed)
      | .error cause => (.ok (.error cause), tree) := by
  have unfolded : (liftM (FileTree.attempt change) :
      ExceptT ε (StateM FileTree) (Except FileError Unit)).run.run tree =
      (.ok ((FileTree.attempt change).run tree).1, ((FileTree.attempt change).run tree).2) := rfl
  have attempted : (FileTree.attempt change).run tree =
      (match change tree with
      | .ok changed => do
        set changed
        pure (.ok ())
      | .error cause => pure (.error cause) : StateM FileTree (Except FileError Unit)).run tree :=
    rfl
  rw [unfolded, attempted]
  cases change tree <;> rfl

/-! ## Saving -/

/-- The text of the settings file that saving edits, once the directories of the file are made. -/
def settingsText? (path : String) (tree : FileTree) : Option String :=
  ((tree.reached path).read path).toOption

theorem settingsText?_of_find? (found : tree.find? path = some (.text text)) :
    settingsText? path tree = some text := by
  have read := read_eq_ok_iff.mpr ((grows_reached path tree).find? found)
  rw [settingsText?, read]
  rfl

theorem settingsText?_reached (path : String) (tree : FileTree) :
    settingsText? path (tree.reached path) = settingsText? path tree := by
  rw [settingsText?, reached_reached]
  rfl

/-- Saving a file in a directory that exists. -/
def overwrite (store : SettingsStore) : ExceptT StoreError (StateM FileTree) Unit := do
  let file := match ← FileAccess.read (m := StateM FileTree) store.path with
    | .ok text => some text
    | .error _ => none
  if let .error cause ← FileAccess.write (m := StateM FileTree) store.path
      (store.settings.save file) then
    throw (.write store.path cause)

theorem run_overwrite (store : SettingsStore) (tree : FileTree) :
    (overwrite store).run.run tree =
      match tree.write store.path (store.settings.save (tree.read store.path).toOption) with
      | .ok written => (.ok (), written)
      | .error cause => (.error (.write store.path cause), tree) := by
  have writes := run_attempt (ε := StoreError) tree
    (FileTree.write store.path (store.settings.save (tree.read store.path).toOption))
  unfold overwrite
  refine (yields_read tree store.path).run_bind.trans ?_
  have sameFile : (match tree.read store.path with
      | .ok text => some text
      | .error _ => none) = (tree.read store.path).toOption := by
    cases tree.read store.path <;> rfl
  rw [sameFile]
  cases done : tree.write store.path (store.settings.save (tree.read store.path).toOption) with
  | ok written =>
      rw [done] at writes
      exact run_bind_of_ok writes
  | error cause =>
      rw [done] at writes
      exact run_bind_of_ok writes

/-- Saving makes the directories of the file and overwrites it, or fails and changes nothing. -/
theorem run_save (store : SettingsStore) (tree : FileTree) :
    (store.save : ExceptT StoreError (StateM FileTree) Unit).run.run tree =
        (overwrite store).run.run (tree.reached store.path) ∨
      ∃ error, (store.save : ExceptT StoreError (StateM FileTree) Unit).run.run tree =
        (.error error, tree) := by
  unfold SettingsStore.save
  cases isDirectory : Path.parent? store.path with
  | none =>
      rw [reached_of_none isDirectory]
      exact .inl rfl
  | some directory =>
      have makes := run_attempt (ε := StoreError) tree (makeDirectories directory)
      cases done : tree.makeDirectories directory with
      | ok made =>
          rw [done] at makes
          rw [reached_of_ok isDirectory done]
          exact .inl (run_bind_of_ok makes)
      | error cause =>
          rw [done] at makes
          exact .inr ⟨_, run_bind_of_ok makes⟩

/-- Saving replaces the text of the settings file, or fails and leaves it. -/
theorem save_cases (store : SettingsStore) (tree : FileTree) :
    ∃ after, ((store.save : ExceptT StoreError (StateM FileTree) Unit).run.run tree =
          (.ok (), after) ∧
        after.find? store.path =
          some (.text (store.settings.save (settingsText? store.path tree)))) ∨
      ((∃ error, (store.save : ExceptT StoreError (StateM FileTree) Unit).run.run tree =
          (.error error, after)) ∧
        settingsText? store.path after = settingsText? store.path tree) := by
  rcases run_save store tree with goesOn | ⟨error, fails⟩
  · rw [goesOn, run_overwrite]
    cases done : (tree.reached store.path).write store.path
        (store.settings.save ((tree.reached store.path).read store.path).toOption) with
    | ok written => exact ⟨written, .inl ⟨rfl, find?_write_self done⟩⟩
    | error cause => exact ⟨_, .inr ⟨⟨_, rfl⟩, settingsText?_reached store.path tree⟩⟩
  · exact ⟨tree, .inr ⟨⟨error, fails⟩, rfl⟩⟩

/-! ## One planned file -/

/-- Writing a file whose directory exists. -/
def writeContent (change : FileChange) (summary : WriteSummary) :
    ExceptT String (StateM FileTree) WriteSummary := do
  if let .error cause ← FileAccess.write (m := StateM FileTree) change.path change.content then
    throw s!"Failed to write {change.path}: {cause.message}"
  if change.isNew then return { summary with created := summary.created + 1 }
  else return { summary with updated := summary.updated + 1 }

end TypedClient.Command

namespace TypedClient.FileChange

open Command FileTree

variable {tree written : FileTree} {change : FileChange} {summary counted : WriteSummary}

/-- The file had the planned text when it was planned. -/
def IsCurrent (change : FileChange) : Prop :=
  change.existing = some change.content

instance (change : FileChange) : Decidable change.IsCurrent :=
  inferInstanceAs (Decidable (_ = _))

theorem isCurrent_iff : (!change.isNew && !change.isModified) = true ↔ change.IsCurrent := by
  unfold isNew isModified IsCurrent
  cases change.existing <;> simp

/-- A change that is applied. -/
def applied (change : FileChange) (summary : WriteSummary) (tree : FileTree) :
    Except String WriteSummary × FileTree :=
  (change.apply summary : ExceptT String (StateM FileTree) WriteSummary).run.run tree

theorem applied_of_isCurrent (isCurrent : change.IsCurrent) (summary : WriteSummary)
    (tree : FileTree) :
    change.applied summary tree =
      (.ok { summary with unchanged := summary.unchanged + 1 }, tree) := by
  unfold applied apply
  rw [if_pos (isCurrent_iff.mpr isCurrent)]
  rfl

/-- The counts after a change that is written. -/
def count (change : FileChange) (summary : WriteSummary) : WriteSummary :=
  if change.isNew then { summary with created := summary.created + 1 }
  else { summary with updated := summary.updated + 1 }

theorem unchanged_count (change : FileChange) (summary : WriteSummary) :
    (change.count summary).unchanged = summary.unchanged := by
  unfold count
  split <;> rfl

theorem run_writeContent (change : FileChange) (summary : WriteSummary) (tree : FileTree) :
    (writeContent change summary).run.run tree =
      match tree.write change.path change.content with
      | .ok written => (.ok (change.count summary), written)
      | .error cause => (.error s!"Failed to write {change.path}: {cause.message}", tree) := by
  have writes := run_attempt (ε := String) tree (FileTree.write change.path change.content)
  unfold writeContent
  cases done : tree.write change.path change.content with
  | error cause =>
      rw [done] at writes
      exact run_bind_of_ok writes
  | ok written =>
      rw [done] at writes
      refine (run_bind_of_ok writes).trans ?_
      unfold count
      dsimp only
      cases change.isNew <;> rfl

/-- A change that is not current fails or makes its directories and writes its text. -/
theorem applied_of_not_isCurrent (stale : ¬ change.IsCurrent) (summary : WriteSummary)
    (tree : FileTree) :
    (∃ message, change.applied summary tree = (.error message, tree)) ∨
      ∃ made, Grows tree made ∧
        change.applied summary tree = (writeContent change summary).run.run made := by
  unfold applied apply
  rw [if_neg fun isCurrent => stale (isCurrent_iff.mp isCurrent)]
  cases isDirectory : Path.parent? change.path with
  | none => exact .inr ⟨tree, .refl tree, rfl⟩
  | some directory =>
      have makes := run_attempt (ε := String) tree (makeDirectories directory)
      cases done : tree.makeDirectories directory with
      | error cause =>
          rw [done] at makes
          exact .inl ⟨_, run_bind_of_ok makes⟩
      | ok made =>
          rw [done] at makes
          exact .inr ⟨made, grows_makeDirectories done, run_bind_of_ok makes⟩

/-- What a change that succeeds does: nothing if it is current, and otherwise it makes directories
and writes its text. -/
theorem applied_eq_ok (done : change.applied summary tree = (.ok counted, written)) :
    (change.IsCurrent ∧ written = tree ∧ counted.unchanged = summary.unchanged + 1) ∨
      ¬ change.IsCurrent ∧ counted.unchanged = summary.unchanged ∧
        ∃ made, Grows tree made ∧ made.write change.path change.content = .ok written := by
  by_cases isCurrent : change.IsCurrent
  · rw [applied_of_isCurrent isCurrent] at done
    cases done
    exact .inl ⟨isCurrent, rfl, rfl⟩
  · rcases applied_of_not_isCurrent isCurrent summary tree with
      ⟨message, fails⟩ | ⟨made, grows, writes⟩
    · cases fails.symm.trans done
    · rw [writes, run_writeContent] at done
      cases result : made.write change.path change.content with
      | error cause =>
          rw [result] at done
          cases done
      | ok after =>
          rw [result] at done
          cases done
          exact .inr ⟨isCurrent, unchanged_count change summary, made, grows, result⟩

end TypedClient.FileChange

namespace TypedClient.Command

open FileTree

variable {tree : FileTree} {path text : String}

/-! ## Planned files -/

/-- A text is kept in its place, or it is replaced by one of the given texts. -/
def KeepsOrReplaces (path text : String) (contents : List String) (after : FileTree) : Prop :=
  ∃ held, after.find? path = some (.text held) ∧ (held = text ∨ held ∈ contents)

theorem KeepsOrReplaces.of_run {α : Type} {contents : List String} {run other : α × FileTree}
    (same : run = other) (keeps : KeepsOrReplaces path text contents other.2) :
    KeepsOrReplaces path text contents run.2 :=
  same ▸ keeps

theorem keepsOrReplaces_writeContent (change : FileChange) (summary : WriteSummary)
    (found : tree.find? path = some (.text text)) :
    KeepsOrReplaces path text [change.content]
      ((writeContent change summary).run.run tree).2 := by
  rw [FileChange.run_writeContent]
  cases done : tree.write change.path change.content with
  | error cause => exact ⟨text, found, .inl rfl⟩
  | ok written =>
      rcases find?_write done found with stays | replaced
      · exact ⟨text, stays, .inl rfl⟩
      · exact ⟨change.content, replaced, .inr List.mem_cons_self⟩

/-- A planned file leaves a text in its place or replaces it. -/
theorem keepsOrReplaces_applied (change : FileChange) (summary : WriteSummary)
    (found : tree.find? path = some (.text text)) :
    KeepsOrReplaces path text [change.content] (change.applied summary tree).2 := by
  by_cases isCurrent : change.IsCurrent
  · rw [FileChange.applied_of_isCurrent isCurrent]
    exact ⟨text, found, .inl rfl⟩
  · rcases FileChange.applied_of_not_isCurrent isCurrent summary tree with
      ⟨message, fails⟩ | ⟨made, grows, writes⟩
    · rw [fails]
      exact ⟨text, found, .inl rfl⟩
    · rw [writes]
      exact keepsOrReplaces_writeContent change summary (grows.find? found)

/-- However far planned files are written, a text stays in its place or one of theirs does. -/
theorem keepsOrReplaces_applyAll (changes : List FileChange) (summary : WriteSummary)
    (found : tree.find? path = some (.text text)) :
    KeepsOrReplaces path text (changes.map (·.content)) ((FileChange.applyAll changes summary :
      ExceptT String (StateM FileTree) WriteSummary).run.run tree).2 := by
  induction changes generalizing tree text summary with
  | nil => exact ⟨text, found, .inl rfl⟩
  | cons change changes ih =>
      obtain ⟨held, isHeld, isText⟩ := keepsOrReplaces_applied change summary found
      unfold FileChange.applyAll
      cases applied : change.applied summary tree with
      | mk result after =>
          rw [applied] at isHeld
          have first : held = text ∨ held ∈ (change :: changes).map (·.content) :=
            isText.imp_right fun isContent => by simp [List.mem_singleton.mp isContent]
          cases result with
          | error message => exact .of_run (run_bind_of_error applied) ⟨held, isHeld, first⟩
          | ok summary =>
              refine .of_run (run_bind_of_ok applied) ?_
              obtain ⟨last, isLast, isText⟩ := ih summary isHeld
              refine ⟨last, isLast, ?_⟩
              rcases isText with rfl | isContent
              · exact first
              · exact .inr (List.mem_cons_of_mem _ isContent)

end TypedClient.Command
