/-
# Names of mock entries

Every selected operation has a mock entry under the name of its function. Names are checked where
the functions are rendered, so entries have names of their own if the request module is produced
too; without it nothing keeps two operations from sharing one.
-/

import TypedClient.Layout.Format
import TypedClient.Proofs.Compile.Collisions

namespace TypedClient.Compile

open Naming (HasRepeat)

/-- The entries are named like the functions. -/
theorem map_name_mocks (config : CompileConfig) (declared : List DeclaredSchema)
    (operations : List Operation) :
    (mocks config declared operations).entries.map (·.name) =
      operations.map (·.functionName config.naming) := by
  rw [mocks, List.map_map]
  rfl

/-- The function names of operations are distinct if no two operations share one. -/
theorem nodup_functionNames_iff {config : CompileConfig} {operations : List Operation} :
    (operations.map (·.functionName config.naming)).Nodup ↔
      ¬ HasRepeat (Operation.functionName? config.naming) operations := by
  rw [← Naming.nodup_filterMap_iff, ← congrFun List.filterMap_eq_map operations]
  rfl

/-- With mock data asked for, a compilation that succeeds has an entry for every selected operation,
in order and under the name of its function. If functions are generated too, the entries are named
like the units of the request module, and their names are distinct. Otherwise their names are
distinct exactly if no two operations share one. -/
theorem mock_entries_named {document : Document} {config : CompileConfig} {formatter : Formatter}
    {registry : StrategyRegistry} {output : CompileOutput}
    (done : document.compile config formatter registry = .ok output)
    (mocked : config.mock = true) :
    ∃ mocks, output.mocks? = some mocks ∧
      mocks.entries.map (·.name) =
        (document.selected config.tags).map (·.functionName config.naming) ∧
      (config.typeOnly = false → ∃ requests, output.requests? = some requests ∧
        mocks.entries.map (·.name) = requests.unitNames ∧
        (mocks.entries.map (·.name)).Nodup) ∧
      (config.typeOnly = true → output.requests? = none ∧
        ((mocks.entries.map (·.name)).Nodup ↔
          ¬ HasRepeat (Operation.functionName? config.naming)
            (document.selected config.tags))) := by
  obtain ⟨declared, succeeds⟩ := exists_succeeds done
  have names := map_name_mocks config declared (document.selected config.tags)
  refine ⟨mocks config declared (document.selected config.tags), ?_, names, ?_, ?_⟩
  · rw [succeeds.mocks, if_pos mocked]
  · intro both
    obtain ⟨requests, isProduced⟩ := succeeds.exists_requests both
    obtain ⟨units, distinct⟩ := succeeds.unitNames_requests isProduced
    rw [names, ← units]
    exact ⟨requests, isProduced, rfl, distinct⟩
  · intro typeOnly
    refine ⟨succeeds.typeOnly.mpr typeOnly, ?_⟩
    rw [names]
    exact nodup_functionNames_iff

/-! ## With and without functions -/

theorem mock_entries_named_things :
    ∃ output mocks requests, (pairDocument [] "fetchThing" "list-things").compile { mock := true }
        verbatim .builtin = .ok output ∧
      output.mocks? = some mocks ∧ output.requests? = some requests ∧
      mocks.entries.map (·.name) = ["fetchThing", "listThings"] ∧
      requests.unitNames = ["fetchThing", "listThings"] := by
  let document := pairDocument [] "fetchThing" "list-things"
  have isOk : (document.compile { mock := true } verbatim .builtin).isOk = true := by
    decide +kernel
  obtain ⟨output, done⟩ := exists_eq_ok_of_isOk isOk
  obtain ⟨mocks, isProduced, names, both, -⟩ := mock_entries_named done rfl
  obtain ⟨requests, areProduced, units, -⟩ := both rfl
  have functions : (document.selected []).map (·.functionName .camel) =
      ["fetchThing", "listThings"] := by decide +kernel
  have entries : mocks.entries.map (·.name) = ["fetchThing", "listThings"] :=
    names.trans functions
  exact ⟨output, mocks, requests, done, isProduced, areProduced, entries, units ▸ entries⟩

/-- Without functions, operations whose names meet are no error, and both have an entry under the
one name. -/
theorem mock_entries_meet :
    ∃ output mocks, (pairDocument [] "fetchThing" "fetch-thing").compile
        { typeOnly := true, mock := true } Formatter.layout .builtin = .ok output ∧
      output.mocks? = some mocks ∧
      mocks.entries.map (·.name) = ["fetchThing", "fetchThing"] ∧
      ¬ (mocks.entries.map (·.name)).Nodup := by
  let config : CompileConfig := { typeOnly := true, mock := true }
  let document := pairDocument [] "fetchThing" "fetch-thing"
  have isOk : (formatModule Formatter.layout config (typesModule config [])).isOk = true := by
    decide +kernel
  obtain ⟨types, formatted⟩ := exists_eq_ok_of_isOk isOk
  have normalized : DeclaredSchema.normalize document.definitions = .ok [] := rfl
  have functions : (document.selected []).map (·.functionName .camel) =
      ["fetchThing", "fetchThing"] := by decide +kernel
  have entries := (map_name_mocks config [] (document.selected [])).trans functions
  refine ⟨_, _, compile_of_typeOnly normalized formatted rfl, rfl, entries, ?_⟩
  rw [entries]
  decide

end TypedClient.Compile
