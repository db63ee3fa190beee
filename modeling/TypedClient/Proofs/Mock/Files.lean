/-
# The files of mock data

Every answer has a file named after its operation, and the routes have a file of their own among
them. Nothing keeps an operation from the name `routes`. If there is one, its answer and the route
table are written to one file in turn: each time the one that is not there.
-/

import Mathlib.Data.List.Nodup
import TypedClient.Proofs.Command.Applying
import TypedClient.Proofs.Naming.Identifier

namespace TypedClient

open FileChange FileTree

/-! ## Names of files -/

theorem noSlash_of_isName {name : String} (isName : Naming.IsName name) :
    ∀ c ∈ name.toList, decide (c = '/') = false := by
  intro c isChar
  by_contra isSlash
  obtain rfl : c = '/' := by simpa using isSlash
  have part := isName.part '/' isChar
  revert part
  decide +kernel

theorem isFileName_json {name : String} (isName : Naming.IsName name) :
    IsFileName (name ++ ".json") := by
  have long : 5 ≤ (name ++ ".json").length := by
    rw [String.length_append]
    exact Nat.le_add_left 5 name.length
  have ending : ".json".toList.all (fun c => !decide (c = '/')) = true := by decide +kernel
  have apart (other : String) (short : other.length < 5) : name ++ ".json" ≠ other :=
    fun same => absurd (same ▸ long) (by omega)
  refine ⟨?_, apart "" (by decide), apart "." (by decide), apart ".." (by decide)⟩
  intro c isChar
  rw [String.toList_append, List.mem_append] at isChar
  rcases isChar with inName | inEnding
  · exact noSlash_of_isName isName c inName
  · simpa using List.all_eq_true.mp ending c inEnding

theorem MockEntry.isFileName_file {entry : MockEntry}
    (legal : Naming.isValidIdentifier entry.name = true) : IsFileName entry.file :=
  isFileName_json (Naming.isName_of_isValidIdentifier legal)

theorem MockArtifact.isFileName_routesFile : IsFileName routesFile := by
  show IsFileName ("routes" ++ ".json")
  apply isFileName_json
  apply Naming.isName_of_isValidIdentifier
  decide +kernel

/-- Entries with one file have one name. -/
theorem MockEntry.file_eq_iff {entry : MockEntry} {name : String} :
    entry.file = name ++ ".json" ↔ entry.name = name := by
  unfold file
  rw [← String.toList_inj, String.toList_append, String.toList_append, List.append_cancel_right_eq,
    String.toList_inj]

/-! ## Texts of files -/

/-- The text of the file that holds the answer. -/
def MockEntry.text (wrap : Bool) (entry : MockEntry) : String :=
  MockArtifact.fileText (if wrap then MockArtifact.envelope entry.body else entry.body)

namespace MockArtifact

variable {mocks : MockArtifact} {root : String} {wrap : Bool} {tree written : FileTree}
  {summary : WriteSummary}

/-- The file of an answer. -/
def answerFile (wrap : Bool) (entry : MockEntry) : String × String :=
  (entry.file, entry.text wrap)

/-- The file of the route table. -/
def tableFile (mocks : MockArtifact) : String × String :=
  (routesFile, fileText mocks.routes)

theorem files_eq (mocks : MockArtifact) (wrap : Bool) :
    mocks.files wrap = mocks.entries.map (answerFile wrap) ++ [mocks.tableFile] := rfl

/-- The files are those of the answers and the one of the route table. -/
theorem forall_mem_files {holds : String × String → Prop} :
    (∀ file ∈ mocks.files wrap, holds file) ↔
      (∀ entry ∈ mocks.entries, holds (answerFile wrap entry)) ∧ holds mocks.tableFile := by
  rw [files_eq, List.forall_mem_append, List.forall_mem_map, List.forall_mem_singleton]

/-- Plans the files of mock data in a directory and writes them. -/
def write (mocks : MockArtifact) (root : String) (wrap : Bool) :
    ExceptT String (StateM FileTree) WriteSummary :=
  FileChange.writeAll root (mocks.files wrap)

/-- A directory holds every answer and the route table. -/
structure IsStored (mocks : MockArtifact) (root : String) (wrap : Bool) (tree : FileTree) :
    Prop where
  answers : ∀ entry ∈ mocks.entries, HoldsFile tree root (answerFile wrap entry)
  table : HoldsFile tree root mocks.tableFile

/-- The name of the route table's file is left to it, or an answer in its place has its text. -/
def SparesRoutes (mocks : MockArtifact) (wrap : Bool) : Prop :=
  ∀ entry ∈ mocks.entries, entry.name = "routes" → entry.text wrap = fileText mocks.routes

/-- Each entry has a name that can be declared, and no other entry has it. -/
structure IsNamed (mocks : MockArtifact) : Prop where
  legal : ∀ entry ∈ mocks.entries, Naming.isValidIdentifier entry.name = true
  distinct : (mocks.entries.map (·.name)).Nodup

theorem isStored_iff :
    mocks.IsStored root wrap tree ↔ ∀ file ∈ mocks.files wrap, HoldsFile tree root file := by
  rw [forall_mem_files]
  exact ⟨fun stored => ⟨stored.answers, stored.table⟩, fun ⟨answers, table⟩ => ⟨answers, table⟩⟩

/-! ## Writing -/

theorem run_write (mocks : MockArtifact) (root : String) (wrap : Bool) (tree : FileTree) :
    (mocks.write root wrap).run.run tree =
      allApplied ((mocks.files wrap).map (planned tree root)) {} tree :=
  run_writeAll root (mocks.files wrap) tree

theorem IsNamed.isFileName_answer (named : mocks.IsNamed) :
    ∀ file ∈ mocks.entries.map (answerFile wrap), IsFileName file.1 := by
  rw [List.forall_mem_map]
  exact fun entry isEntry => MockEntry.isFileName_file (named.legal entry isEntry)

theorem IsNamed.isFileName (named : mocks.IsNamed) :
    ∀ file ∈ mocks.files wrap, IsFileName file.1 := by
  rw [files_eq, List.forall_mem_append, List.forall_mem_singleton]
  exact ⟨named.isFileName_answer, isFileName_routesFile⟩

/-- Answers with one file are one answer. -/
theorem IsNamed.text_eq (named : mocks.IsNamed) {entry other : MockEntry}
    (isEntry : entry ∈ mocks.entries) (isOther : other ∈ mocks.entries)
    (sameFile : other.file = entry.file) : other.text wrap = entry.text wrap := by
  have sameName : other.name = entry.name := MockEntry.file_eq_iff.mp sameFile
  rw [List.inj_on_of_nodup_map named.distinct isOther isEntry sameName]

/-- An answer is kept, unless it is in the route table's place and has another text. -/
theorem IsNamed.holds_answer (named : mocks.IsNamed)
    (done : (mocks.write root wrap).run.run tree = (.ok summary, written)) {entry : MockEntry}
    (isEntry : entry ∈ mocks.entries)
    (spares : entry.name = "routes" → entry.text wrap = fileText mocks.routes) :
    HoldsFile written root (answerFile wrap entry) := by
  rw [run_write] at done
  have isFile : answerFile wrap entry ∈ mocks.files wrap := by
    rw [files_eq]
    exact List.mem_append_left _ (List.mem_map_of_mem isEntry)
  apply holdsFile_of_allApplied named.isFileName done isFile
  rw [forall_mem_files]
  constructor
  · exact fun other isOther sameFile => named.text_eq isEntry isOther sameFile
  · intro sameFile
    exact (spares (MockEntry.file_eq_iff.mp sameFile.symm)).symm

/-- The route table is kept if it is spared. -/
theorem IsNamed.holds_table (named : mocks.IsNamed)
    (done : (mocks.write root wrap).run.run tree = (.ok summary, written))
    (spares : mocks.SparesRoutes wrap) : HoldsFile written root mocks.tableFile := by
  rw [run_write] at done
  have isFile : mocks.tableFile ∈ mocks.files wrap := by
    rw [files_eq]
    exact List.mem_append_right _ List.mem_cons_self
  apply holdsFile_of_allApplied named.isFileName done isFile
  rw [forall_mem_files]
  constructor
  · intro entry isEntry sameFile
    exact spares entry isEntry (MockEntry.file_eq_iff.mp sameFile)
  · exact fun _ => rfl

/-- All files are kept exactly if the route table is spared: a file has one text. -/
theorem IsNamed.isStored_iff_sparesRoutes (named : mocks.IsNamed)
    (done : (mocks.write root wrap).run.run tree = (.ok summary, written)) :
    mocks.IsStored root wrap written ↔ mocks.SparesRoutes wrap := by
  constructor
  · intro stored entry isEntry isRoutes
    have sameFile : entry.file = routesFile := MockEntry.file_eq_iff.mpr isRoutes
    exact stored.table.text_eq (stored.answers entry isEntry) sameFile
  · intro spares
    exact ⟨fun entry isEntry => named.holds_answer done isEntry (spares entry isEntry),
      named.holds_table done spares⟩

/-- A route table that is not spared is written if it is not there, and overwritten if it is. -/
theorem IsNamed.holds_table_iff (named : mocks.IsNamed)
    (done : (mocks.write root wrap).run.run tree = (.ok summary, written))
    (contested : ¬ mocks.SparesRoutes wrap) :
    HoldsFile written root mocks.tableFile ↔ ¬ HoldsFile tree root mocks.tableFile := by
  obtain ⟨entry, isEntry, isRoutes, differs⟩ : ∃ entry ∈ mocks.entries, entry.name = "routes" ∧
      entry.text wrap ≠ fileText mocks.routes := by
    simpa [SparesRoutes] using contested
  have sameFile : entry.file = routesFile := MockEntry.file_eq_iff.mpr isRoutes
  rw [run_write, files_eq, List.map_append] at done
  obtain ⟨counted, middle, answersDone, tableDone⟩ := allApplied_append_eq_ok done
  by_cases holds : HoldsFile tree root mocks.tableFile
  · -- The table is current, so the answer in its place is written last.
    have overwritten : HoldsFile middle root (answerFile wrap entry) := by
      apply holdsFile_of_allApplied named.isFileName_answer answersDone
        (List.mem_map_of_mem isEntry)
      rw [List.forall_mem_map]
      exact fun other isOther same => named.text_eq isEntry isOther same
    have isCurrent : ∀ change ∈ [planned tree root mocks.tableFile], change.IsCurrent :=
      List.forall_mem_singleton.mpr (isCurrent_planned_iff.mpr holds)
    have stays : written = middle := by
      have skipped := allApplied_of_isCurrent isCurrent counted middle
      exact (Prod.ext_iff.mp (tableDone.symm.trans skipped)).2
    rw [stays]
    refine iff_of_false (fun table => differs ?_) (not_not_intro holds)
    exact table.text_eq overwritten sameFile
  · refine iff_of_true (find?_of_allApplied tableDone ?_ (.inr ?_)) holds
    · exact List.forall_mem_singleton.mpr fun _ _ => rfl
    · refine ⟨planned tree root mocks.tableFile, List.mem_singleton_self _, ?_, rfl⟩
      rwa [isCurrent_planned_iff]

/-- Writing mock data keeps every answer, save one to an operation named `routes`. All files are
kept, and writing them again finds nothing to do, exactly if no such answer takes the route
table's place. If one does, the table is there after writing exactly if it was not there before. -/
theorem write_settles (named : mocks.IsNamed)
    (done : (mocks.write root wrap).run.run tree = (.ok summary, written)) :
    (∀ entry ∈ mocks.entries, entry.name ≠ "routes" →
        HoldsFile written root (answerFile wrap entry)) ∧
      (mocks.IsStored root wrap written ↔ mocks.SparesRoutes wrap) ∧
      ((mocks.write root wrap).run.run written =
          (.ok { unchanged := mocks.entries.length + 1 }, written) ↔ mocks.SparesRoutes wrap) ∧
      (¬ mocks.SparesRoutes wrap →
        (HoldsFile written root mocks.tableFile ↔ ¬ HoldsFile tree root mocks.tableFile)) := by
  have stored := named.isStored_iff_sparesRoutes done
  refine ⟨?_, stored, ?_, named.holds_table_iff done⟩
  · intro entry isEntry isOther
    exact named.holds_answer done isEntry fun isRoutes => absurd isRoutes isOther
  · have number : (mocks.files wrap).length = mocks.entries.length + 1 := by simp [files_eq]
    rw [← stored, isStored_iff, ← writeAll_eq_unchanged_iff, number]
    rfl

/-! Two operations in a directory that does not exist yet, and one named like the route table. -/

/-- The answer to an operation without parameters. -/
def textEntry (name path : String) : MockEntry :=
  ⟨name, "GET", path, path, .string "text"⟩

def twoAnswers : MockArtifact := ⟨[textEntry "listPets" "/pets", textEntry "listRoutes" "/routes"]⟩

/-- What writing mock data to a directory leaves on an empty disk. -/
def writtenAnew (mocks : MockArtifact) : FileTree :=
  ((mocks.write "mock" false).run.run {}).2

theorem run_write_anew (done : ((mocks.write "mock" false).run.run {}).1 = .ok summary) :
    (mocks.write "mock" false).run.run {} = (.ok summary, writtenAnew mocks) :=
  Prod.ext done rfl

theorem write_settles_twoAnswers :
    twoAnswers.IsStored "mock" false (writtenAnew twoAnswers) ∧
      (twoAnswers.write "mock" false).run.run (writtenAnew twoAnswers) =
        (.ok { unchanged := 3 }, writtenAnew twoAnswers) := by
  have named : twoAnswers.IsNamed := ⟨by decide +kernel, by decide +kernel⟩
  have created : ((twoAnswers.write "mock" false).run.run {}).1 = .ok { created := 3 } := by
    decide +kernel
  have spares : twoAnswers.SparesRoutes false := by
    unfold SparesRoutes
    decide +kernel
  obtain ⟨-, stored, unchanged, -⟩ := write_settles named (run_write_anew created)
  exact ⟨stored.mpr spares, unchanged.mpr spares⟩

/-- An answer that takes the route table's place. -/
def routesAnswer : MockArtifact := ⟨[textEntry "routes" "/routes"]⟩

theorem not_isStored_routesAnswer :
    routesAnswer.IsNamed ∧
      (routesAnswer.write "mock" false).run.run {} =
        (.ok { created := 2 }, writtenAnew routesAnswer) ∧
      ¬ routesAnswer.IsStored "mock" false (writtenAnew routesAnswer) ∧
      (routesAnswer.write "mock" false).run.run (writtenAnew routesAnswer) ≠
        (.ok { unchanged := 2 }, writtenAnew routesAnswer) := by
  have created : ((routesAnswer.write "mock" false).run.run {}).1 = .ok { created := 2 } := by
    decide +kernel
  have overwritten : ¬ HoldsFile (writtenAnew routesAnswer) "mock"
      (answerFile false (textEntry "routes" "/routes")) := by
    decide +kernel
  have updated : ((routesAnswer.write "mock" false).run.run (writtenAnew routesAnswer)).1 ≠
      .ok { unchanged := 2 } := by
    decide +kernel
  refine ⟨⟨by decide +kernel, by decide +kernel⟩, run_write_anew created, ?_, ?_⟩
  · exact fun stored => overwritten (stored.answers _ List.mem_cons_self)
  · exact fun same => updated (congrArg Prod.fst same)

end MockArtifact

end TypedClient
