/-
# Stages of a compilation

A compilation names its definitions, formats the declarations module, and then, unless only
declarations are asked for, finds its strategy, checks the names of the functions and formats the
request module. It fails with the error of the first stage that fails, and it succeeds if all of
them do.
-/

import TypedClient.Compile.Basic
import TypedClient.Proofs.Module.Spans

namespace TypedClient.Compile

/-! ## Sequences -/

/-- An error of a sequence is an error of one of its parts. -/
theorem eq_error_of_bind {ε α β : Type} {first : Except ε α} {rest : α → Except ε β} {error : ε}
    (failed : first >>= rest = .error error) :
    first = .error error ∨ ∃ value, first = .ok value ∧ rest value = .error error := by
  cases first with
  | error cause =>
      cases failed
      exact Or.inl rfl
  | ok value => exact Or.inr ⟨value, rfl, failed⟩

/-- A sequence succeeds if its parts do. -/
theorem eq_ok_of_bind {ε α β : Type} {first : Except ε α} {rest : α → Except ε β} {result : β}
    (done : first >>= rest = .ok result) :
    ∃ value, first = .ok value ∧ rest value = .ok result := by
  cases first with
  | error cause => cases done
  | ok value => exact ⟨value, rfl, done⟩

theorem exists_eq_ok_of_isOk {ε α : Type} {outcome : Except ε α} (isOk : outcome.isOk = true) :
    ∃ value, outcome = .ok value := by
  cases outcome with
  | error error => cases isOk
  | ok value => exact ⟨value, rfl⟩

/-! ## Formatting -/

/-- A formatter that changes nothing. -/
def verbatim : Formatter :=
  fun text _ _ => .ok text

section Formatting

variable {formatter : Formatter} {config : CompileConfig} {module formatted : Module}

/-- A module that the formatter refuses fails as such. -/
theorem emitted?_of_formatModule {error : CompileError}
    (failed : formatModule formatter config module = .error error) :
    error.emitted? = some module.text := by
  unfold formatModule at failed
  split at failed
  · cases failed
  · cases failed
    rfl

/-- Formatting keeps the units. -/
theorem unitNames_of_formatModule (done : formatModule formatter config module = .ok formatted) :
    formatted.unitNames = module.unitNames := by
  unfold formatModule at done
  split at done
  · cases done
    rfl
  · cases done

end Formatting

/-! ## The request module -/

section Requests

variable {config : CompileConfig} {formatter : Formatter} {registry : StrategyRegistry}
  {declared : List DeclaredSchema} {operations : List Operation}

theorem eq_unknownTemplate_of_strategy {error : CompileError}
    (failed : strategy config registry = .error error) :
    error = .unknownTemplate config.template.strategy registry.names := by
  unfold strategy at failed
  split at failed
  · cases failed
  · cases failed
    rfl

/-- The names of the functions are those of the operations. -/
theorem map_name_requestFunctions (strategy : RequestStrategy) :
    (requestFunctions config strategy declared operations).map (·.name) =
      operations.map (·.functionName config.naming) := by
  rw [requestFunctions, List.map_map]
  rfl

/-- The stage that a failed request module ended in. -/
theorem stage_of_compileRequests {error : CompileError}
    (failed : compileRequests config formatter registry declared operations = .error error) :
    strategy config registry = .error error ∨
      ∃ chosen, strategy config registry = .ok chosen ∧
        (checkDistinct [] (requestFunctions config chosen declared operations) = .error error ∨
          formatModule formatter config (requestsModule config chosen declared
            (requestFunctions config chosen declared operations)) = .error error) := by
  rcases eq_error_of_bind failed with unknown | ⟨chosen, registered, failed⟩
  · exact Or.inl unknown
  rcases eq_error_of_bind failed with taken | ⟨_, -, formatting⟩
  · exact Or.inr ⟨chosen, registered, Or.inl taken⟩
  · exact Or.inr ⟨chosen, registered, Or.inr formatting⟩

/-- How the request module comes about. -/
structure RequestsSucceed (config : CompileConfig) (formatter : Formatter)
    (registry : StrategyRegistry) (declared : List DeclaredSchema) (operations : List Operation)
    (chosen : RequestStrategy) (requests : Module) : Prop where
  registered : strategy config registry = .ok chosen
  distinct : checkDistinct [] (requestFunctions config chosen declared operations) = .ok ()
  formatted : formatModule formatter config (requestsModule config chosen declared
    (requestFunctions config chosen declared operations)) = .ok requests

theorem exists_requestsSucceed {requests : Module}
    (done : compileRequests config formatter registry declared operations = .ok requests) :
    ∃ chosen, RequestsSucceed config formatter registry declared operations chosen requests := by
  obtain ⟨chosen, registered, done⟩ := eq_ok_of_bind done
  obtain ⟨_, distinct, formatted⟩ := eq_ok_of_bind done
  exact ⟨chosen, registered, distinct, formatted⟩

/-- A request module that comes about stage by stage is the one that is generated. -/
theorem RequestsSucceed.compileRequests_eq {chosen : RequestStrategy} {requests : Module}
    (succeed : RequestsSucceed config formatter registry declared operations chosen requests) :
    compileRequests config formatter registry declared operations = .ok requests := by
  rw [compileRequests, succeed.registered]
  change (checkDistinct [] (requestFunctions config chosen declared operations) >>= _) = _
  rw [succeed.distinct]
  exact succeed.formatted

theorem RequestsSucceed.unitNames {chosen : RequestStrategy} {requests : Module}
    (succeed : RequestsSucceed config formatter registry declared operations chosen requests) :
    requests.unitNames = operations.map (·.functionName config.naming) := by
  rw [unitNames_of_formatModule succeed.formatted, requestsModule, Module.unitNames_requests,
    map_name_requestFunctions]

end Requests

/-! ## The whole -/

variable {document : Document} {config : CompileConfig} {formatter : Formatter}
  {registry : StrategyRegistry}

/-- How an output comes about. -/
structure Succeeds (document : Document) (config : CompileConfig) (formatter : Formatter)
    (registry : StrategyRegistry) (declared : List DeclaredSchema) (output : CompileOutput) :
    Prop where
  normalized : DeclaredSchema.normalize document.definitions = .ok declared
  types : formatModule formatter config (typesModule config declared) = .ok output.types
  requests : ∀ requests, output.requests? = some requests →
    compileRequests config formatter registry declared (document.selected config.tags) =
      .ok requests
  typeOnly : output.requests? = none ↔ config.typeOnly = true
  mocks : output.mocks? =
    if config.mock then some (mocks config declared (document.selected config.tags)) else none

theorem exists_succeeds {output : CompileOutput}
    (done : document.compile config formatter registry = .ok output) :
    ∃ declared, Succeeds document config formatter registry declared output := by
  obtain ⟨declared, normalized, done⟩ := eq_ok_of_bind done
  obtain ⟨types, formatted, done⟩ := eq_ok_of_bind done
  refine ⟨declared, ?_⟩
  by_cases typeOnly : config.typeOnly
  · rw [if_pos typeOnly] at done
    cases done
    exact ⟨normalized, formatted, by simp, by simp [typeOnly], rfl⟩
  · rw [if_neg typeOnly] at done
    obtain ⟨requests?, compiled, done⟩ := eq_ok_of_bind done
    cases done
    cases stage : compileRequests config formatter registry declared
        (document.selected config.tags) with
    | error cause =>
        rw [stage] at compiled
        cases compiled
    | ok requests =>
        rw [stage] at compiled
        cases compiled
        exact ⟨normalized, formatted, by rintro _ ⟨⟩; exact stage, by simp [typeOnly], rfl⟩

/-- The stage that a failed compilation ended in. -/
theorem stage_of_compile {error : CompileError}
    (failed : document.compile config formatter registry = .error error) :
    DeclaredSchema.normalize document.definitions = .error error ∨
      ∃ declared, DeclaredSchema.normalize document.definitions = .ok declared ∧
        (formatModule formatter config (typesModule config declared) = .error error ∨
          compileRequests config formatter registry declared (document.selected config.tags) =
            .error error) := by
  rcases eq_error_of_bind failed with collision | ⟨declared, normalized, failed⟩
  · exact Or.inl collision
  refine Or.inr ⟨declared, normalized, ?_⟩
  rcases eq_error_of_bind failed with formatting | ⟨types, -, failed⟩
  · exact Or.inl formatting
  by_cases typeOnly : config.typeOnly
  · rw [if_pos typeOnly] at failed
    cases failed
  · rw [if_neg typeOnly] at failed
    rcases eq_error_of_bind failed with inRequests | ⟨requests?, -, finished⟩
    · rcases eq_error_of_bind inRequests with refused | ⟨requests, -, finished⟩
      · exact Or.inr refused
      · cases finished
    · cases finished

/-- A collision of names ends the compilation. -/
theorem compile_of_collision {error : CompileError}
    (collision : DeclaredSchema.normalize document.definitions = .error error) :
    document.compile config formatter registry = .error error := by
  rw [Document.compile, collision]
  rfl

/-- Once the declarations are formatted, the request module decides. -/
theorem compile_of_requests {declared : List DeclaredSchema} {types : Module}
    {error : CompileError}
    (normalized : DeclaredSchema.normalize document.definitions = .ok declared)
    (formatted : formatModule formatter config (typesModule config declared) = .ok types)
    (both : config.typeOnly = false)
    (failed : compileRequests config formatter registry declared
      (document.selected config.tags) = .error error) :
    document.compile config formatter registry = .error error := by
  rw [Document.compile, normalized]
  change (formatModule formatter config (typesModule config declared) >>= _) = _
  rw [formatted]
  change (if config.typeOnly = true then _ else _) = _
  rw [both, if_neg Bool.false_ne_true, failed]
  rfl

namespace Succeeds

variable {declared : List DeclaredSchema} {output : CompileOutput}
  (succeeds : Succeeds document config formatter registry declared output)

include succeeds

/-- An output that comes about stage by stage is the output of the compilation. -/
theorem compile_eq : document.compile config formatter registry = .ok output := by
  obtain ⟨types, requests?, mocks?⟩ := output
  obtain ⟨normalized, formatted, requests, typeOnly, isMocks⟩ := succeeds
  cases isMocks
  rw [Document.compile, normalized]
  change (formatModule formatter config (typesModule config declared) >>= _) = _
  rw [formatted]
  cases requests? with
  | none =>
      change (if config.typeOnly = true then _ else _) = _
      rw [if_pos (typeOnly.mp rfl)]
      rfl
  | some requests' =>
      change (if config.typeOnly = true then _ else _) = _
      rw [if_neg (fun only => nomatch typeOnly.mpr only), requests requests' rfl]
      rfl

/-- Functions are generated unless only declarations are. -/
theorem exists_requests (both : config.typeOnly = false) :
    ∃ requests, output.requests? = some requests := by
  refine Option.ne_none_iff_exists'.mp fun absent => ?_
  exact Bool.false_ne_true (both.symm.trans (succeeds.typeOnly.mp absent))

/-- The units of the declarations module are the declared names. -/
theorem unitNames_types : output.types.unitNames = declared.map (·.identifier) := by
  rw [unitNames_of_formatModule succeeds.types, typesModule, Module.unitNames_declarations,
    definitions, List.map_map]
  rfl

end Succeeds

/-- Without requests, a compilation ends once the declarations are formatted. -/
theorem compile_of_typeOnly {declared : List DeclaredSchema} {types : Module}
    (normalized : DeclaredSchema.normalize document.definitions = .ok declared)
    (formatted : formatModule formatter config (typesModule config declared) = .ok types)
    (typeOnly : config.typeOnly = true) :
    document.compile config formatter registry =
      .ok
        { types
          requests? := none
          mocks? :=
            if config.mock then some (mocks config declared (document.selected config.tags))
            else none } := by
  refine Succeeds.compile_eq ⟨normalized, formatted, ?_, by simp [typeOnly], rfl⟩
  rintro _ ⟨⟩

end TypedClient.Compile
