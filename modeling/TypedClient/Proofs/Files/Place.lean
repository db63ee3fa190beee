/-
# Where paths lead

A path leads to the place that its text tells, if it leads anywhere: what is in the tree decides
only whether there is a way. So a change moves no path to another place, and the files of a
directory are in different places if their names are different.
-/

import TypedClient.Proofs.Files.Tree
import TypedClient.Proofs.Text.Lines

namespace TypedClient.FileTree

variable {tree written : FileTree} {location start : Location}
  {path other name content : String}

/-- The place that a part of a path leads on to. -/
def goOn (location : Location) (part : String) : Location :=
  if part = "" || part = "." then location
  else if part = ".." then location.dropLast
  else location ++ [part]

/-- The place that a path leads to from a directory. -/
def place (start : Location) (path : String) : Location :=
  (Path.parts path).foldl goOn (if Path.isAbsolute path then [] else start)

theorem follow_eq_ok {parts : List String} (leads : tree.follow start parts = .ok location) :
    location = parts.foldl goOn start := by
  induction parts generalizing start with
  | nil =>
      cases leads
      rfl
  | cons part rest ih =>
      rw [List.foldl_cons]
      unfold FileTree.follow at leads
      split at leads
      · cases leads
      · unfold goOn
        split at leads
        · rename_i stays
          rw [if_pos stays]
          exact ih leads
        · rename_i moves
          rw [if_neg moves]
          split at leads
          · rename_i isUp
            rw [if_pos isUp]
            exact ih leads
          · rename_i isDown
            rw [if_neg isDown]
            exact ih leads
      · cases leads

/-- Where a path leads, it leads to its place. -/
theorem locate_eq_ok (leads : tree.locate path = .ok location) :
    location = place tree.workingDirectory path := by
  unfold locate at leads
  split at leads
  · cases leads
  · exact follow_eq_ok leads

theorem workingDirectory_write (done : tree.write path content = .ok written) :
    written.workingDirectory = tree.workingDirectory := by
  obtain ⟨location, -, -, rfl⟩ := write_eq_ok done
  rfl

/-- What is in another place stays when a text is written. -/
theorem find?_write_of_place_ne {entry : FileEntry} (done : tree.write other content = .ok written)
    (isOther : place tree.workingDirectory path ≠ place tree.workingDirectory other)
    (found : tree.find? path = some entry) : written.find? path = some entry := by
  obtain ⟨location, leads, noDirectory, rfl⟩ := write_eq_ok done
  obtain ⟨there, leadsThere, held⟩ := find?_eq_some_iff.mp found
  have apart : there ≠ location := by
    rw [locate_eq_ok leadsThere, locate_eq_ok leads]
    exact isOther
  apply find?_eq_some_iff.mpr
  refine ⟨there, (KeepsDirectories.put (.text content) noDirectory).locate leadsThere, ?_⟩
  rw [held?_put_other apart, held]

/-! ## Files of a directory -/

/-- A name that leads from a directory to one of its own places. -/
structure IsFileName (name : String) : Prop where
  noSlash : ∀ c ∈ name.toList, decide (c = '/') = false
  nonempty : name ≠ ""
  noDot : name ≠ "."
  noDots : name ≠ ".."

theorem IsFileName.goOn (isName : IsFileName name) (location : Location) :
    goOn location name = location ++ [name] := by
  simp [FileTree.goOn, isName.nonempty, isName.noDot, isName.noDots]

theorem IsFileName.parts (isName : IsFileName name) : Path.parts name = [name] := by
  rw [Path.parts, Text.splitOn_of_forall_not isName.noSlash]
  simp

theorem IsFileName.isAbsolute (isName : IsFileName name) : Path.isAbsolute name = false := by
  by_contra absolute
  have first : name.toList.head? = some '/' := by simpa [Path.isAbsolute] using absolute
  exact absurd (isName.noSlash '/' (List.mem_of_head? first)) nofun

theorem parts_append_slash (before after : String) :
    Path.parts (before ++ "/" ++ after) = Path.parts before ++ Path.parts after := by
  have cut : (before ++ "/" ++ after).toList = before.toList ++ '/' :: after.toList := by simp
  unfold Path.parts
  rw [cut, Text.splitOn_append (by rfl), List.map_append]

/-- What is put behind a path does not change where it starts. -/
theorem isAbsolute_append (nonempty : path ≠ "") (after : String) :
    Path.isAbsolute (path ++ after) = Path.isAbsolute path := by
  unfold Path.isAbsolute
  rw [String.toList_append, List.head?_append_of_ne_nil _ (by simpa using nonempty)]

theorem exists_append_of_endsWith (closed : Text.endsWith path "/" = true) :
    ∃ before, path = before ++ "/" := by
  obtain ⟨rest, isRest⟩ := List.isPrefixOf_iff_prefix.mp closed
  use String.ofList rest.reverse
  apply String.toList_injective
  rw [String.toList_append, String.toList_ofList, ← List.reverse_reverse path.toList, ← isRest,
    List.reverse_append, List.reverse_reverse]

/-- A file of a directory is in the place of its name. -/
theorem place_join (isName : IsFileName name) (start : Location) (root : String) :
    place start (Path.join root name) = place start root ++ [name] := by
  have step (base : String) (origin : Location) :
      (Path.parts (base ++ "/" ++ name)).foldl goOn origin =
        (Path.parts base).foldl goOn origin ++ [name] := by
    rw [parts_append_slash, List.foldl_append, isName.parts, List.foldl_cons, List.foldl_nil,
      isName.goOn]
  unfold Path.join
  rw [if_neg (by simp [isName.isAbsolute])]
  by_cases isEmpty : root = ""
  · subst isEmpty
    have stays : place start "" = start := rfl
    rw [stays, if_pos (by rfl), String.empty_append, place, isName.isAbsolute, isName.parts]
    exact isName.goOn start
  · by_cases closed : Text.endsWith root "/" = true
    · rw [if_pos (by simp [closed]), place, isAbsolute_append isEmpty]
      obtain ⟨base, rfl⟩ := exists_append_of_endsWith closed
      have same : Path.parts (base ++ "/") = Path.parts base ++ [""] := by
        rw [← String.append_empty (s := base ++ "/"), parts_append_slash]
        rfl
      rw [step, place, same, List.foldl_append]
      rfl
    · rw [if_neg (by simp [isEmpty, closed]), place, String.append_assoc,
        isAbsolute_append isEmpty, ← String.append_assoc, step]
      rfl

end TypedClient.FileTree
