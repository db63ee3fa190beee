/-
# The built-in formatter accepts what is emitted

The emitters indent their lines themselves, and the formatter finds the same levels by
counting what is open. For typed modules of the built-in strategies the two agree: the
formatter changes nothing but the white space at the ends of lines, so no compilation
fails at formatting.
-/

import TypedClient.Proofs.Compile.Blocks
import TypedClient.Proofs.Compile.Collisions

namespace TypedClient

open Layout

/-- Settings of typed modules that a built-in strategy writes without adjustments. -/
structure CompileConfig.IsStandard (config : CompileConfig) : Prop where
  typeScript : config.language = .typeScript
  strategy : config.template.strategy ∈ StrategyRegistry.builtin.names
  noHeader : config.template.header? = none
  unchanged : config.template.substitutions = []
  path : config.interfaceImportPath = "./interface"
  style : config.style = {}

namespace Compile

/-- Names that repeat are reported before anything is formatted. -/
theorem emitted?_of_normalize {sources : List NamedSchema} {error : CompileError}
    (failed : DeclaredSchema.normalize sources = .error error) : error.emitted? = none := by
  obtain ⟨_, _, _, -, rfl⟩ := (DeclaredSchema.outcome_normalize sources).eq_error_iff.mp failed
  rfl

theorem emitted?_of_checkDistinct {functions : List RequestFunction} {error : CompileError}
    (failed : checkDistinct [] functions = .error error) : error.emitted? = none := by
  have outcome := outcome_checkDistinct [] functions List.nodup_nil
  obtain ⟨_, _, _, -, rfl⟩ := outcome.eq_error_iff.mp failed
  rfl

variable {config : CompileConfig}

/-- A built-in strategy is found under its name. -/
theorem exists_strategy (standard : config.IsStandard) :
    ∃ chosen, strategy config .builtin = .ok chosen ∧
      chosen ∈ StrategyRegistry.builtin.strategies := by
  obtain ⟨named, isStrategy, isName⟩ := List.mem_map.mp standard.strategy
  have found : (StrategyRegistry.builtin.get? config.template.strategy).isSome := by
    rw [StrategyRegistry.get?, List.find?_isSome]
    exact ⟨named, isStrategy, by simpa using isName⟩
  obtain ⟨chosen, isChosen⟩ := Option.isSome_iff_exists.mp found
  refine ⟨chosen, ?_, List.mem_of_find?_eq_some isChosen⟩
  rw [strategy, isChosen]

/-- Formatting a block is no error. -/
theorem formatModule_block (standard : config.IsStandard) {module : Module}
    (block : Block module.text.toList) :
    formatModule Formatter.layout config module =
      .ok { module with text := Text.trimLineEnds module.text } := by
  rw [formatModule, standard.style, block.layout config.language]

section Emittable

variable {document : Document} (standard : config.IsStandard)
  (emittable : ∀ operation ∈ document.selected config.tags, operation.IsEmittable config.naming)

include standard

theorem block_types {sources : List NamedSchema} {declared : List DeclaredSchema}
    (normalized : DeclaredSchema.normalize sources = .ok declared) :
    Block (typesModule config declared).text.toList :=
  block_typesModule standard.typeScript (DeclaredSchema.isValidIdentifier_of_normalize normalized)

include emittable

theorem block_requests {chosen : RequestStrategy}
    (builtin : chosen ∈ StrategyRegistry.builtin.strategies) (declared : List DeclaredSchema) :
    Block (requestsModule config chosen declared
      (requestFunctions config chosen declared (document.selected config.tags))).text.toList :=
  block_requestsModule builtin standard.typeScript standard.noHeader standard.unchanged
    standard.path emittable

/-- The request module fails for its names only. -/
theorem emitted?_of_compileRequests {declared : List DeclaredSchema} {error : CompileError}
    (failed : compileRequests config Formatter.layout .builtin declared
      (document.selected config.tags) = .error error) : error.emitted? = none := by
  obtain ⟨chosen, found, builtin⟩ := exists_strategy standard
  rcases stage_of_compileRequests failed with unknown | ⟨_, isChosen, taken | formatting⟩
  · rw [found] at unknown
    cases unknown
  · exact emitted?_of_checkDistinct taken
  · cases found.symm.trans isChosen
    rw [formatModule_block standard (block_requests standard emittable builtin declared)]
      at formatting
    cases formatting

/-- A compilation fails for its names only. -/
theorem emitted?_of_compile {error : CompileError}
    (failed : document.compile config Formatter.layout .builtin = .error error) :
    error.emitted? = none := by
  rcases stage_of_compile failed with collision | ⟨declared, normalized, formatting | requests⟩
  · exact emitted?_of_normalize collision
  · rw [formatModule_block standard (block_types standard normalized)] at formatting
    cases formatting
  · exact emitted?_of_compileRequests standard emittable requests

end Emittable

/-- The built-in formatter accepts the modules of any document whose functions can be
declared and whose paths stand on one line. All it changes is the white space at the
ends of lines, and no compilation fails because of it. -/
theorem layout_accepts_modules {document : Document} (standard : config.IsStandard)
    (emittable : ∀ operation ∈ document.selected config.tags,
      operation.IsEmittable config.naming) :
    (∀ declared, DeclaredSchema.normalize document.definitions = .ok declared →
      ∃ chosen, strategy config .builtin = .ok chosen ∧
        ∀ module ∈ [typesModule config declared,
            requestsModule config chosen declared
              (requestFunctions config chosen declared (document.selected config.tags))],
          Formatter.layout module.text config.language config.style =
            .ok (Text.trimLineEnds module.text)) ∧
      ∀ name unit diagnostic emitted,
        document.compile config Formatter.layout .builtin ≠
          .error (.formatterFailure name unit diagnostic emitted) := by
  obtain ⟨chosen, found, builtin⟩ := exists_strategy standard
  refine ⟨fun declared normalized => ⟨chosen, found, ?_⟩,
    fun name unit diagnostic emitted failed => ?_⟩
  · have types := block_types standard normalized
    have requests := block_requests standard emittable builtin declared
    rw [standard.style]
    exact List.forall_mem_cons.mpr
      ⟨types.layout _, List.forall_mem_singleton.mpr (requests.layout _)⟩
  · exact absurd (emitted?_of_compile standard emittable failed) (by simp [CompileError.emitted?])

/-! ## A document that tempts the scanner -/

/-- A description that could close its comment, keys and literals with brackets and
quotes, and a path with the signs of template literals. -/
def bracketDocument : Document :=
  let text : Schema := .mk (.primitive "string") none none
  let choice : Schema := .mk (.literals [.string "\x7b", .string "a\"b"]) none none
  let pet : Schema :=
    .mk (.object [.mk "x-(y" choice false, .mk "type" text true] none)
      (some "ends */ here\n )") none
  { definitions := [⟨"pet store", pet⟩]
    operations :=
      [{ path := "/pets/{pet-id}/$\x7b\x60"
         method := .post
         operationId? := some "find pets"
         summary? := some "all */ pets"
         parameters :=
          [⟨"pet-id", .path, true, none, text⟩, ⟨"tag[", .query, false, none, choice⟩,
            ⟨"X-Trace", .header, false, none, text⟩, ⟨"photo", .form, true, none, text⟩]
         response? := some (.mk (.reference "#/definitions/pet store") none none) }] }

theorem layout_accepts_brackets :
    ∃ declared, DeclaredSchema.normalize bracketDocument.definitions = .ok declared ∧
      declared.map (·.identifier) = ["pet_store"] ∧
      Formatter.layout (typesModule {} declared).text .typeScript {} =
        .ok (Text.trimLineEnds (typesModule {} declared).text) ∧
      ∀ name unit diagnostic emitted,
        bracketDocument.compile {} Formatter.layout .builtin ≠
          .error (.formatterFailure name unit diagnostic emitted) := by
  have standard : CompileConfig.IsStandard {} := ⟨rfl, by decide, rfl, rfl, rfl, rfl⟩
  have emittable : ∀ operation ∈ bracketDocument.selected [],
      operation.IsEmittable NamingPolicy.camel :=
    List.forall_mem_singleton.mpr ⟨by decide, by decide⟩
  have normalized : ∃ declared,
      DeclaredSchema.normalize bracketDocument.definitions = .ok declared ∧
        declared.map (·.identifier) = ["pet_store"] := ⟨_, rfl, by decide⟩
  obtain ⟨declared, isDeclared, names⟩ := normalized
  have accepted := layout_accepts_modules standard emittable
  obtain ⟨chosen, -, each⟩ := accepted.1 declared isDeclared
  exact ⟨declared, isDeclared, names, each _ List.mem_cons_self, accepted.2⟩

end Compile

end TypedClient
