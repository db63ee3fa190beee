/-
# What written files hold

Files are planned against what is on disk and then written one after the other. A change is left
out if its file had the planned text when it was planned, whatever has been written since. So a
file holds its text in the end if no other file that is written in its place has another text,
and planning the files again finds nothing to do exactly if all of them hold their texts.
-/

import TypedClient.Proofs.Command.Refusal
import TypedClient.Proofs.Command.Writing
import TypedClient.Proofs.Files.Place

namespace TypedClient.FileChange

open Command FileTree

variable {tree after written : FileTree} {change : FileChange} {changes : List FileChange}
  {summary counted : WriteSummary} {path text root : String}

/-! ## Many changes -/

/-- Changes that are applied. -/
def allApplied (changes : List FileChange) (summary : WriteSummary) (tree : FileTree) :
    Except String WriteSummary × FileTree :=
  (applyAll changes summary : ExceptT String (StateM FileTree) WriteSummary).run.run tree

/-- Changes succeed one after the other. -/
theorem allApplied_cons_eq_ok
    (done : allApplied (change :: changes) summary tree = (.ok counted, written)) :
    ∃ first after, change.applied summary tree = (.ok first, after) ∧
      allApplied changes first after = (.ok counted, written) := by
  cases applies : change.applied summary tree with
  | mk result after =>
      cases result with
      | error message => cases (run_bind_of_error applies).symm.trans done
      | ok first => exact ⟨first, after, rfl, (run_bind_of_ok applies).symm.trans done⟩

theorem allApplied_append_eq_ok {before rest : List FileChange}
    (done : allApplied (before ++ rest) summary tree = (.ok counted, written)) :
    ∃ first after, allApplied before summary tree = (.ok first, after) ∧
      allApplied rest first after = (.ok counted, written) := by
  induction before generalizing summary tree with
  | nil => exact ⟨summary, tree, rfl, done⟩
  | cons change before ih =>
      obtain ⟨second, made, applies, restDone⟩ := allApplied_cons_eq_ok done
      obtain ⟨first, after, beforeDone, afterDone⟩ := ih restDone
      exact ⟨first, after, (run_bind_of_ok applies).trans beforeDone, afterDone⟩

/-- Changes that are all current are left out. -/
theorem allApplied_of_isCurrent (areCurrent : ∀ change ∈ changes, change.IsCurrent)
    (summary : WriteSummary) (tree : FileTree) :
    allApplied changes summary tree =
      (.ok { summary with unchanged := summary.unchanged + changes.length }, tree) := by
  induction changes generalizing summary with
  | nil => rfl
  | cons change changes ih =>
      obtain ⟨isCurrent, others⟩ := List.forall_mem_cons.mp areCurrent
      refine (run_bind_of_ok (applied_of_isCurrent isCurrent summary tree)).trans ?_
      refine (ih others _).trans ?_
      rw [List.length_cons, Nat.add_right_comm, Nat.add_assoc]

/-- The current changes are counted. -/
theorem unchanged_of_allApplied
    (done : allApplied changes summary tree = (.ok counted, written)) :
    counted.unchanged = summary.unchanged + changes.countP (decide <| IsCurrent ·) := by
  induction changes generalizing summary tree with
  | nil =>
      cases done
      rfl
  | cons change changes ih =>
      obtain ⟨first, after, applies, restDone⟩ := allApplied_cons_eq_ok done
      rw [ih restDone]
      rcases applied_eq_ok applies with ⟨isCurrent, -, count⟩ | ⟨stale, count, -⟩
      · rw [count, List.countP_cons_of_pos (by simpa using isCurrent)]
        omega
      · rw [count, List.countP_cons_of_neg (by simpa using stale)]

/-- A file holds a text in the end if it held it before or a change puts it there, and no change
puts another text in its place. -/
theorem find?_of_allApplied (done : allApplied changes summary tree = (.ok counted, written))
    (alone : ∀ change ∈ changes, ¬ change.IsCurrent →
      place tree.workingDirectory change.path = place tree.workingDirectory path →
        change.content = text)
    (starts : tree.find? path = some (.text text) ∨
      ∃ change ∈ changes, ¬ change.IsCurrent ∧ change.path = path) :
    written.find? path = some (.text text) := by
  induction changes generalizing summary tree with
  | nil =>
      cases done
      simpa using starts
  | cons change changes ih =>
      obtain ⟨isAlone, othersAlone⟩ := List.forall_mem_cons.mp alone
      obtain ⟨first, after, applies, restDone⟩ := allApplied_cons_eq_ok done
      rcases applied_eq_ok applies with ⟨isCurrent, rfl, -⟩ | ⟨stale, -, made, grows, writes⟩
      · refine ih restDone othersAlone (starts.imp_right ?_)
        rintro ⟨other, isOther, staleOther, isPath⟩
        rcases List.mem_cons.mp isOther with rfl | isLater
        · exact absurd isCurrent staleOther
        · exact ⟨other, isLater, staleOther, isPath⟩
      · have same : after.workingDirectory = tree.workingDirectory :=
          (workingDirectory_write writes).trans grows.workingDirectory
        refine ih restDone (by rwa [same]) ?_
        rcases starts with found | ⟨other, isOther, staleOther, isPath⟩
        · refine .inl ?_
          by_cases isPlace : place tree.workingDirectory change.path =
              place tree.workingDirectory path
          · obtain rfl := isAlone stale isPlace
            exact (find?_write writes (grows.find? found)).elim id id
          · refine find?_write_of_place_ne writes ?_ (grows.find? found)
            rw [grows.workingDirectory]
            exact Ne.symm isPlace
        · rcases List.mem_cons.mp isOther with rfl | isLater
          · obtain rfl := isAlone staleOther (by rw [isPath])
            exact .inl (isPath ▸ find?_write_self writes)
          · exact .inr ⟨other, isLater, staleOther, isPath⟩

/-! ## The files of a directory -/

variable {file other : String × String} {files : List (String × String)}

/-- Plans files in a directory and writes them. -/
def writeAll (root : String) (files : List (String × String)) :
    ExceptT String (StateM FileTree) WriteSummary := do
  applyAll (← planAll (m := StateM FileTree) root files) {}

/-- A directory holds a file, under its name and with its text. -/
def HoldsFile (tree : FileTree) (root : String) (file : String × String) : Prop :=
  tree.find? (Path.join root file.1) = some (.text file.2)

instance (tree : FileTree) (root : String) (file : String × String) :
    Decidable (HoldsFile tree root file) :=
  inferInstanceAs (Decidable (_ = _))

/-- A file as it is planned. -/
def planned (tree : FileTree) (root : String) (file : String × String) : FileChange :=
  ⟨Path.join root file.1, file.2, (tree.read (Path.join root file.1)).toOption⟩

theorem run_writeAll (root : String) (files : List (String × String)) (tree : FileTree) :
    (writeAll root files).run.run tree = allApplied (files.map (planned tree root)) {} tree :=
  (yields_planAll tree root files).run_bind

/-- A file needs not be written exactly if it is there. -/
theorem isCurrent_planned_iff : (planned tree root file).IsCurrent ↔ HoldsFile tree root file := by
  unfold IsCurrent planned HoldsFile
  rw [← read_eq_ok_iff]
  cases tree.read (Path.join root file.1) <;> simp [Except.toOption]

/-- Files that are written hold their texts, if no two of them have one name and different
texts. -/
theorem holdsFile_of_allApplied (areNames : ∀ file ∈ files, IsFileName file.1)
    (done : allApplied (files.map (planned tree root)) summary tree = (.ok counted, written))
    (isFile : file ∈ files) (alone : ∀ other ∈ files, other.1 = file.1 → other.2 = file.2) :
    HoldsFile written root file := by
  refine find?_of_allApplied done ?_ ?_
  · intro change isChange _ isPlace
    obtain ⟨other, isOther, rfl⟩ := List.mem_map.mp isChange
    apply alone other isOther
    have places : place tree.workingDirectory (Path.join root other.1) =
        place tree.workingDirectory (Path.join root file.1) := isPlace
    rw [place_join (areNames other isOther), place_join (areNames file isFile)] at places
    simpa using places
  · by_cases holds : HoldsFile tree root file
    · exact .inl holds
    · refine .inr ⟨planned tree root file, List.mem_map_of_mem isFile, ?_, rfl⟩
      rwa [isCurrent_planned_iff]

/-- Writing files again finds nothing to do exactly if all of them hold their texts. -/
theorem writeAll_eq_unchanged_iff :
    (writeAll root files).run.run tree = (.ok { unchanged := files.length }, tree) ↔
      ∀ file ∈ files, HoldsFile tree root file := by
  rw [run_writeAll]
  constructor
  · intro done file isFile
    have counts := unchanged_of_allApplied done
    have all : files.length = (files.map (planned tree root)).countP (decide <| IsCurrent ·) := by
      simpa using counts
    rw [← List.length_map (planned tree root), eq_comm, List.countP_eq_length] at all
    have isCurrent := all (planned tree root file) (List.mem_map_of_mem isFile)
    exact isCurrent_planned_iff.mp (by simpa using isCurrent)
  · intro holds
    have areCurrent : ∀ change ∈ files.map (planned tree root), change.IsCurrent := by
      intro change isChange
      obtain ⟨file, isFile, rfl⟩ := List.mem_map.mp isChange
      exact isCurrent_planned_iff.mpr (holds file isFile)
    rw [allApplied_of_isCurrent areCurrent, List.length_map, Nat.zero_add]

/-- A file has one text. -/
theorem HoldsFile.text_eq (holds : HoldsFile tree root file)
    (holdsOther : HoldsFile tree root other) (sameName : other.1 = file.1) :
    other.2 = file.2 := by
  unfold HoldsFile at holds holdsOther
  rw [sameName, holds] at holdsOther
  exact (FileEntry.text.inj (Option.some.inj holdsOther)).symm

end TypedClient.FileChange
