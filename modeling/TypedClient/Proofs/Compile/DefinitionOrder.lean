/-
# The order of definitions

The clients of the declarations cannot tell in which order a document lists its definitions. All
they see of these are the set of declared names, the aliases that are made from that set, and what
is declared under each name. So reordering definitions reorders the units of the declarations
module and changes nothing else.
-/

import TypedClient.Proofs.Compile.Collisions
import TypedClient.Proofs.Compile.ClosedWorld
import TypedClient.Proofs.Mock.Walk
import TypedClient.Proofs.Module.Spans

namespace TypedClient

/-! ## Samples -/

namespace Sample

variable {definitions reordered : List NamedSchema} {name : String} {target : Schema}

/-- Among definitions of distinct names it does not matter which one counts. -/
theorem definition?_eq_some_iff (distinct : (definitions.map (·.name)).Nodup) :
    definition? definitions name = some target ↔ ⟨name, target⟩ ∈ definitions := by
  constructor
  · intro found
    obtain ⟨definition, member, rfl, rfl⟩ := exists_of_definition? found
    exact member
  · intro member
    have isThere : (definitions.reverse.find? (·.name == name)).isSome := by
      rw [List.find?_isSome]
      exact ⟨⟨name, target⟩, List.mem_reverse.mpr member, beq_self_eq_true name⟩
    obtain ⟨other, found⟩ := Option.isSome_iff_exists.mp isThere
    have isOther : definition? definitions name = some other.schema := by
      rw [definition?, found, Option.map_some]
    obtain ⟨_, otherMember, otherName, otherSchema⟩ := exists_of_definition? isOther
    have same := List.inj_on_of_nodup_map distinct otherMember member otherName
    rw [isOther, ← otherSchema, same]

theorem definition?_perm (distinct : (definitions.map (·.name)).Nodup)
    (perm : definitions.Perm reordered) (name : String) :
    definition? definitions name = definition? reordered name := by
  have distinctToo : (reordered.map (·.name)).Nodup := (perm.map _).nodup_iff.mp distinct
  refine Option.ext fun target => ?_
  rw [definition?_eq_some_iff distinct, definition?_eq_some_iff distinctToo, perm.mem_iff]

/-- Following references uses nothing but what is declared under each name. -/
theorem follow_congr (same : ∀ name, definition? definitions name = definition? reordered name)
    (levels : Nat) : follow definitions levels = follow reordered levels := by
  induction levels with
  | zero => rfl
  | succ levels ih =>
      funext expanding pointer
      rw [follow, follow]
      simp only [same, ih]

/-- Samples do not depend on the order of the definitions. -/
theorem sample_perm (distinct : (definitions.map (·.name)).Nodup)
    (perm : definitions.Perm reordered) (schema : Schema) :
    schema.sample definitions = schema.sample reordered := by
  rw [Schema.sample, Schema.sample, follow_congr (definition?_perm distinct perm)]

end Sample

theorem MockEntry.ofOperation_perm {definitions reordered : List NamedSchema}
    (distinct : (definitions.map (·.name)).Nodup) (perm : definitions.Perm reordered)
    (name : String) (operation : Operation) :
    ofOperation definitions name operation = ofOperation reordered name operation := by
  have samples : parameterSamples definitions operation = parameterSamples reordered operation := by
    simp only [parameterSamples, Sample.sample_perm distinct perm]
  have body : (fun response : Schema => response.sample definitions) =
      fun response => response.sample reordered := funext (Sample.sample_perm distinct perm)
  simp only [ofOperation, arguments, samples, body]

/-! ## Compilations -/

namespace Compile

variable {declared reordered : List DeclaredSchema}

/-- The set of declared names does not depend on the order. -/
theorem declaredNames_perm (perm : declared.Perm reordered) :
    declaredNames declared = declaredNames reordered := by
  refine NameSet.eq_of_mem_iff fun name => ?_
  rw [mem_declaredNames, mem_declaredNames, (perm.map (·.identifier)).mem_iff]

/-- The request module depends on the set of declared names only. -/
theorem compileRequests_perm (perm : declared.Perm reordered) (config : CompileConfig)
    (formatter : Formatter) (registry : StrategyRegistry) (operations : List Operation) :
    compileRequests config formatter registry declared operations =
      compileRequests config formatter registry reordered operations := by
  simp only [compileRequests, requestFunctions, requestsModule, requestResolver,
    declaredNames_perm perm]

/-- Mock data depends on what is declared under each name only. -/
theorem mocks_perm (distinct : (declared.map (·.identifier)).Nodup)
    (perm : declared.Perm reordered) (config : CompileConfig) (operations : List Operation) :
    mocks config declared operations = mocks config reordered operations := by
  let sampled : DeclaredSchema → NamedSchema := fun d => ⟨d.identifier, d.source.schema⟩
  have distinctNames : ((declared.map sampled).map (·.name)).Nodup := by
    rw [List.map_map]
    exact distinct
  have entries := MockEntry.ofOperation_perm distinctNames (perm.map sampled)
  simp only [mocks, ← entries, sampled]

/-- The units of the declarations module come in the order of the definitions. -/
theorem unitTexts_typesModule_perm (perm : declared.Perm reordered) (config : CompileConfig) :
    (typesModule config declared).unitTexts.Perm (typesModule config reordered).unitTexts := by
  rw [typesModule, typesModule, Module.unitTexts_declarations, Module.unitTexts_declarations,
    definitions, definitions, definitionResolver, definitionResolver, declaredNames_perm perm]
  exact (perm.map _).map _

/-- Definitions share a name in every order or in none. -/
theorem hasRepeat_perm {definitions reordered : List NamedSchema}
    (perm : definitions.Perm reordered) :
    Naming.HasRepeat DeclaredSchema.name? definitions ↔
      Naming.HasRepeat DeclaredSchema.name? reordered := by
  rw [← not_iff_not, ← Naming.nodup_filterMap_iff, ← Naming.nodup_filterMap_iff]
  exact (perm.filterMap _).nodup_iff

theorem exists_namingCollision_iff {document : Document} {config : CompileConfig}
    {formatter : Formatter} {registry : StrategyRegistry} :
    (∃ identifier first second, document.compile config formatter registry =
        .error (.namingCollision identifier first second)) ↔
      Naming.HasRepeat DeclaredSchema.name? document.definitions := by
  simp only [compile_eq_namingCollision_iff_firstRepeat]
  exact (DeclaredSchema.outcome_normalize document.definitions).exists_repeat_iff _

/-- Definitions are declared in the order in which they are listed. -/
theorem normalize_perm {definitions other : List NamedSchema}
    (normalized : DeclaredSchema.normalize definitions = .ok declared)
    (normalizedToo : DeclaredSchema.normalize other = .ok reordered)
    (perm : definitions.Perm other) :
    (declared.map (·.identifier)).Nodup ∧ declared.Perm reordered := by
  obtain ⟨distinct, rfl⟩ := (DeclaredSchema.outcome_normalize definitions).eq_ok_iff.mp normalized
  obtain ⟨-, rfl⟩ := (DeclaredSchema.outcome_normalize other).eq_ok_iff.mp normalizedToo
  refine ⟨?_, perm.filterMap _⟩
  rw [DeclaredSchema.map_identifier_filterMap]
  exact distinct

/-- The order of definitions matters to none of their clients. Whether names collide does not
depend on it; and if a document compiles in two orders, its request module and its mock data are the
same, and its declarations module has the same units with the same texts, in another order. -/
theorem compile_reordered (document : Document) {definitions : List NamedSchema}
    (perm : document.definitions.Perm definitions) (config : CompileConfig)
    (formatter : Formatter) (registry : StrategyRegistry) :
    ((∃ identifier first second, document.compile config formatter registry =
          .error (.namingCollision identifier first second)) ↔
        ∃ identifier first second,
          { document with definitions }.compile config formatter registry =
            .error (.namingCollision identifier first second)) ∧
      ∀ output other, document.compile config formatter registry = .ok output →
        { document with definitions }.compile config formatter registry = .ok other →
        output.requests? = other.requests? ∧ output.mocks? = other.mocks? ∧
          ∃ declared reordered, DeclaredSchema.normalize document.definitions = .ok declared ∧
            DeclaredSchema.normalize definitions = .ok reordered ∧
            formatModule formatter config (typesModule config declared) = .ok output.types ∧
            formatModule formatter config (typesModule config reordered) = .ok other.types ∧
            (typesModule config declared).unitTexts.Perm
              (typesModule config reordered).unitTexts := by
  refine ⟨?_, fun output other done doneToo => ?_⟩
  · rw [exists_namingCollision_iff, exists_namingCollision_iff]
    exact hasRepeat_perm perm
  · obtain ⟨declared, succeeds⟩ := exists_succeeds done
    obtain ⟨reordered, succeedsToo⟩ := exists_succeeds doneToo
    obtain ⟨distinct, declaredPerm⟩ :=
      normalize_perm succeeds.normalized succeedsToo.normalized perm
    refine ⟨?_, ?_, declared, reordered, succeeds.normalized, succeedsToo.normalized,
      succeeds.types, succeedsToo.types, unitTexts_typesModule_perm declaredPerm config⟩
    · cases produced : output.requests? with
      | none => exact (succeedsToo.typeOnly.mpr (succeeds.typeOnly.mp produced)).symm
      | some requests =>
          have both : config.typeOnly = false :=
            Bool.eq_false_iff.mpr fun only =>
              nomatch produced.symm.trans (succeeds.typeOnly.mpr only)
          obtain ⟨otherRequests, producedToo⟩ := succeedsToo.exists_requests both
          have compiled := succeeds.requests requests produced
          rw [compileRequests_perm declaredPerm] at compiled
          cases compiled.symm.trans (succeedsToo.requests otherRequests producedToo)
          exact producedToo.symm
    · rw [succeeds.mocks, succeedsToo.mocks, mocks_perm distinct declaredPerm]
      rfl

/-! ## Pets and faults in both orders -/

theorem compile_reordered_faults :
    ∃ output other, faultyDocument.compile { mock := true } Formatter.identity .builtin =
        .ok output ∧
      { faultyDocument with definitions := faultyDocument.definitions.reverse }.compile
        { mock := true } Formatter.identity .builtin = .ok other ∧
      output.requests? = other.requests? ∧ output.mocks? = other.mocks? ∧
      output.types.unitNames = ["Pet", "Error"] ∧ other.types.unitNames = ["Error", "Pet"] := by
  let reversed := { faultyDocument with definitions := faultyDocument.definitions.reverse }
  have isOk : (faultyDocument.compile { mock := true } Formatter.identity .builtin).isOk = true ∧
      (reversed.compile { mock := true } Formatter.identity .builtin).isOk = true := by
    decide +kernel
  obtain ⟨output, done⟩ := exists_eq_ok_of_isOk isOk.1
  obtain ⟨other, doneToo⟩ := exists_eq_ok_of_isOk isOk.2
  have perm := (List.reverse_perm faultyDocument.definitions).symm
  obtain ⟨requests, mocks, -⟩ := (compile_reordered faultyDocument perm { mock := true }
    Formatter.identity .builtin).2 output other done doneToo
  obtain ⟨_, succeeds⟩ := exists_succeeds done
  obtain ⟨_, succeedsToo⟩ := exists_succeeds doneToo
  refine ⟨output, other, done, doneToo, requests, mocks, ?_, ?_⟩
  · rw [succeeds.unitNames_types_eq_filterMap]
    decide +kernel
  · rw [succeedsToo.unitNames_types_eq_filterMap]
    decide +kernel

end Compile

end TypedClient
