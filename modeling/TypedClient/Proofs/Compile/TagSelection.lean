/-
# Selecting operations by tags

A selection of tags leaves operations out and changes nothing else. The declarations are the same,
and every operation that is still there has the function and the mock data that it has without a
selection: neither depends on which other operations are generated.
-/

import TypedClient.Proofs.Compile.MockNames
import TypedClient.Proofs.Module.Spans

namespace TypedClient

namespace Operation

/-- An operation is selected if it carries one of the tags, or if there are none to choose from. -/
def IsSelected (tags : List String) (operation : Operation) : Prop :=
  tags = [] ∨ ∃ tag ∈ operation.tags, tag ∈ tags

instance (tags : List String) (operation : Operation) : Decidable (operation.IsSelected tags) :=
  inferInstanceAs (Decidable (_ ∨ _))

theorem hasAnyTag_iff {tags : List String} {operation : Operation} :
    operation.hasAnyTag tags = true ↔ operation.IsSelected tags := by
  simp [hasAnyTag, IsSelected]

end Operation

namespace Document

/-- Of items that belong to the operations one by one, those of the selected operations. -/
def ofSelected {α : Type} (document : Document) (tags : List String) (items : List α) : List α :=
  ((document.operations.zip items).filter fun entry => entry.1.IsSelected tags).map (·.2)

theorem selected_nil (document : Document) : document.selected [] = document.operations :=
  List.filter_eq_self.mpr fun _ _ => rfl

/-- What is made of the operations one by one is made of the selected ones alike. -/
theorem ofSelected_map {α : Type} (document : Document) (tags : List String)
    (make : Operation → α) :
    document.ofSelected tags (document.operations.map make) =
      (document.selected tags).map make := by
  rw [ofSelected, selected]
  induction document.operations with
  | nil => rfl
  | cons operation rest ih =>
      rw [List.map_cons, List.zip_cons_cons]
      by_cases isSelected : operation.IsSelected tags
      · simp [isSelected, Operation.hasAnyTag_iff.mpr isSelected, ih]
      · simp [isSelected, mt Operation.hasAnyTag_iff.mp isSelected, ih]

end Document

namespace Compile

variable {config : CompileConfig} {registry : StrategyRegistry} {declared : List DeclaredSchema}

/-! ## Compilations that are not formatted -/

/-- The output for some operations if nothing is formatted. -/
def plainOutput (config : CompileConfig) (chosen : RequestStrategy)
    (declared : List DeclaredSchema) (operations : List Operation) : CompileOutput :=
  { types := typesModule config declared
    requests? :=
      if config.typeOnly then none
      else some (requestsModule config chosen declared
        (requestFunctions config chosen declared operations))
    mocks? := if config.mock then some (mocks config declared operations) else none }

/-- What a compilation that is not formatted needs to succeed: declared definitions and, for the
request module, a strategy and functions of distinct names. -/
structure IsPlain (config : CompileConfig) (registry : StrategyRegistry) (document : Document)
    (chosen : RequestStrategy) (declared : List DeclaredSchema) (operations : List Operation) :
    Prop where
  normalized : DeclaredSchema.normalize document.definitions = .ok declared
  registered : config.typeOnly = false → strategy config registry = .ok chosen
  distinct : config.typeOnly = false →
    (operations.filterMap (Operation.functionName? config.naming)).Nodup

theorem IsPlain.sublist {document : Document} {chosen : RequestStrategy}
    {operations fewer : List Operation}
    (plain : IsPlain config registry document chosen declared operations)
    (areFewer : fewer.Sublist operations) :
    IsPlain config registry document chosen declared fewer :=
  { plain with distinct := fun both => (plain.distinct both).sublist (areFewer.filterMap _) }

theorem exists_isPlain {document : Document} {output : CompileOutput}
    (done : document.compile config Formatter.identity registry = .ok output) :
    ∃ chosen declared,
      IsPlain config registry document chosen declared (document.selected config.tags) ∧
      output = plainOutput config chosen declared (document.selected config.tags) := by
  obtain ⟨types, requests?, mocks?⟩ := output
  obtain ⟨declared, normalized, formatted, requests, typeOnly, isMocks⟩ := exists_succeeds done
  cases formatted
  cases isMocks
  cases requests? with
  | none =>
      have only := typeOnly.mp rfl
      refine ⟨.axios, declared, ⟨normalized, ?_, ?_⟩, ?_⟩
      · exact fun both => absurd (only.symm.trans both) nofun
      · exact fun both => absurd (only.symm.trans both) nofun
      · rw [plainOutput, if_pos only]
        rfl
  | some requests' =>
      have both : ¬ config.typeOnly = true := fun only => nomatch typeOnly.mpr only
      obtain ⟨chosen, registered, distinct, formatted⟩ :=
        exists_requestsSucceed (requests requests' rfl)
      cases formatted
      have outcome := outcome_requestFunctions config chosen declared
        (document.selected config.tags)
      refine ⟨chosen, declared, ⟨normalized, fun _ => registered, fun _ => ?_⟩, ?_⟩
      · exact (outcome.eq_ok_iff.mp distinct).1
      · rw [plainOutput, if_neg both]
        rfl

theorem IsPlain.compile_eq {document : Document} {chosen : RequestStrategy}
    (plain : IsPlain config registry document chosen declared (document.selected config.tags)) :
    document.compile config Formatter.identity registry =
      .ok (plainOutput config chosen declared (document.selected config.tags)) := by
  refine Succeeds.compile_eq ⟨plain.normalized, rfl, ?_, ?_, rfl⟩
  · intro requests isProduced
    rw [plainOutput] at isProduced
    split at isProduced
    · cases isProduced
    · rename_i both
      cases isProduced
      have outcome := outcome_requestFunctions config chosen declared
        (document.selected config.tags)
      have both := Bool.eq_false_iff.mpr both
      exact RequestsSucceed.compileRequests_eq
        ⟨plain.registered both, outcome.eq_ok_iff.mpr ⟨plain.distinct both, rfl⟩, rfl⟩
  · rw [plainOutput]
    cases config.typeOnly <;> simp

/-! ## Operations one by one -/

/-- The unit of an operation in the request module. -/
def requestUnit (config : CompileConfig) (chosen : RequestStrategy)
    (declared : List DeclaredSchema) (operation : Operation) : String × String :=
  let function := operation.requestFunction (requestResolver declared) config chosen
  (function.name, Module.unitBlock function.text)

theorem unitTexts_requestsModule (chosen : RequestStrategy) (operations : List Operation) :
    (requestsModule config chosen declared
        (requestFunctions config chosen declared operations)).unitTexts =
      operations.map (requestUnit config chosen declared) := by
  rw [requestsModule, Module.unitTexts_requests, requestFunctions, List.map_map]
  rfl

theorem map_fst_requestUnit (chosen : RequestStrategy) (operations : List Operation) :
    (operations.map (requestUnit config chosen declared)).map (·.1) =
      operations.map (·.functionName config.naming) := by
  rw [List.map_map]
  rfl

/-- The mock entry of an operation. -/
def mockEntry (config : CompileConfig) (declared : List DeclaredSchema) (operation : Operation) :
    MockEntry :=
  .ofOperation (declared.map fun d => { name := d.identifier, schema := d.source.schema })
    (operation.functionName config.naming) operation

theorem entries_mocks (operations : List Operation) :
    (mocks config declared operations).entries = operations.map (mockEntry config declared) :=
  rfl

/-- Selecting tags only restricts. Where a compilation without a selection succeeds, it succeeds
with any selection: the declarations are the same, and of the request units and the mock entries,
which belong to the operations one by one, exactly those of the selected operations are left, with
their names and texts and in their order. -/
theorem compile_restricts {document : Document} {output : CompileOutput}
    (unselected : config.tags = [])
    (done : document.compile config Formatter.identity registry = .ok output)
    (tags : List String) :
    ∃ restricted,
      document.compile { config with tags } Formatter.identity registry = .ok restricted ∧
      restricted.types = output.types ∧
      (restricted.requests?.map (·.unitTexts) =
          output.requests?.map fun requests => document.ofSelected tags requests.unitTexts) ∧
      (restricted.mocks?.map (·.entries) =
          output.mocks?.map fun mocks => document.ofSelected tags mocks.entries) ∧
      (∀ requests, output.requests? = some requests →
        requests.unitTexts.length = document.operations.length) ∧
      ∀ mocks, output.mocks? = some mocks → mocks.entries.length = document.operations.length := by
  obtain ⟨chosen, declared, plain, rfl⟩ := exists_isPlain done
  rw [unselected, document.selected_nil] at plain ⊢
  have areFewer : (document.selected tags).Sublist document.operations := List.filter_sublist
  have restricted := plain.sublist areFewer
  have again : IsPlain { config with tags } registry document chosen declared
      (document.selected tags) :=
    ⟨restricted.normalized, restricted.registered, restricted.distinct⟩
  refine ⟨_, again.compile_eq, rfl, ?_, ?_, ?_, ?_⟩
  · simp only [plainOutput]
    split
    · rfl
    · rw [Option.map_some, Option.map_some, unitTexts_requestsModule, unitTexts_requestsModule,
        document.ofSelected_map]
      rfl
  · simp only [plainOutput]
    split
    · rw [Option.map_some, Option.map_some, entries_mocks, entries_mocks, document.ofSelected_map]
      rfl
    · rfl
  · intro requests isProduced
    simp only [plainOutput] at isProduced
    split at isProduced
    · cases isProduced
    · cases isProduced
      rw [unitTexts_requestsModule, List.length_map]
  · intro mocks isProduced
    simp only [plainOutput] at isProduced
    split at isProduced
    · cases isProduced
      rw [entries_mocks, List.length_map]
    · cases isProduced

/-! ## One of three operations -/

/-- Operations for pets, for the store and for neither. -/
def storeDocument : Document :=
  { definitions := [⟨"Pet", .mk (.primitive "string") none none⟩]
    operations :=
      [{ path := "/pets", method := .get, operationId? := some "listPets", tags := ["pet"] },
        { path := "/store", method := .get, operationId? := some "getInventory",
          tags := ["store", "stock"]
          response? := some (.mk (.reference "#/definitions/Pet") none none) },
        { path := "/ping", method := .get, operationId? := some "ping" }] }

theorem compile_restricts_store :
    ∃ output restricted requests mocks,
      storeDocument.compile { mock := true } Formatter.identity .builtin = .ok output ∧
      storeDocument.compile { mock := true, tags := ["store", "user"] } Formatter.identity
        .builtin = .ok restricted ∧
      restricted.types = output.types ∧
      restricted.requests? = some requests ∧ requests.unitTexts.map (·.1) = ["getInventory"] ∧
      restricted.mocks? = some mocks ∧ mocks.entries.map (·.name) = ["getInventory"] := by
  have isOk : (storeDocument.compile { mock := true } Formatter.identity .builtin).isOk = true := by
    decide +kernel
  obtain ⟨output, done⟩ := exists_eq_ok_of_isOk isOk
  obtain ⟨restricted, doneToo, types, units, entries, -⟩ :=
    compile_restricts rfl done ["store", "user"]
  obtain ⟨chosen, declared, -, rfl⟩ := exists_isPlain done
  obtain ⟨requests, areProduced, units⟩ := Option.map_eq_some_iff.mp units
  obtain ⟨mocks, isProduced, entries⟩ := Option.map_eq_some_iff.mp entries
  let selected := storeDocument.selected ["store", "user"]
  have unitsOfSelected : requests.unitTexts =
      selected.map (requestUnit { mock := true } chosen declared) := by
    rw [← storeDocument.ofSelected_map, ← unitTexts_requestsModule]
    exact units
  have entriesOfSelected : mocks.entries = selected.map (mockEntry { mock := true } declared) := by
    rw [← storeDocument.ofSelected_map, ← entries_mocks]
    exact entries
  have names : selected.map (·.functionName .camel) = ["getInventory"] := by decide +kernel
  refine ⟨_, restricted, requests, mocks, done, doneToo, types, areProduced, ?_, isProduced, ?_⟩
  · rw [unitsOfSelected, map_fst_requestUnit]
    exact names
  · rw [entriesOfSelected, ← entries_mocks, map_name_mocks]
    exact names

end Compile

end TypedClient
